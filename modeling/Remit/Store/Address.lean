import Remit.Text.Quoted
import Remit.Text.Utf8

/-!
# Store addresses

The store is named by an address such as `sqlite::memory:` or
`sqlite:///var/lib/ledger.db?mode=rwc`: a scheme, the database (a file path, or
`:memory:` for a database held in memory), and after a `?` options in the encoding of
web forms (`key=value` pairs joined by `&`, `+` for a space, `%` and two hexadecimal
digits for a byte). The scheme is `sqlite://` or `sqlite:`, each possibly repeated; an
address without one is a file path as it stands, and an empty path asks for a
temporary database of the connection's own.

The path may hold percent escapes too, and the bytes they spell must be UTF-8: a path
that is not is an error, placed at its first faulty byte. Option names and values are
decoded leniently instead, each faulty run of bytes becoming U+FFFD.

The options: `mode` (`ro` for reading only, `rw`, `rwc` or `memory`), `cache`
(`private` or `shared`), `immutable` (`true` or `1` for a database file that is never
written, `false` or `0`) and `vfs` (the name of the file system layer to open the
database with). Any other option, or another value
of the first three, is an error. Options are read in order and the first error is the
one reported.

The main statements: `ofUrl_memory` (the default address is a database in memory) and
`applyOption_unknown` (an option of another name is refused by name).
-/

set_option autoImplicit false

namespace Remit

/-- Why an address names no store. -/
inductive AddressError where
  /-- An option that the store does not know. -/
  | unknownOption (key : String)
  /-- A value that the option does not take. -/
  | unknownValue (key value : String)
  /-- The path's escapes spell bytes that are not UTF-8. -/
  | badPath (fault : Text.Utf8.Fault)
  deriving DecidableEq, Repr

/-- The sentence that describes the error. -/
def AddressError.message : AddressError → String
  | .unknownOption k => "unknown query parameter `" ++ k ++ "` while parsing connection URL"
  | .unknownValue k v => "unknown value " ++ Text.quote v ++ " for `" ++ k ++ "`"
  | .badPath f => f.message

/-- Where the store lives and how it is opened. -/
structure StoreAddress where
  /-- The database file's path; empty for a temporary database. -/
  path : String := ""
  /-- Whether the database is held in memory. -/
  inMemory : Bool := false
  /-- Whether the database is opened for reading only. -/
  readOnly : Bool := false
  /-- Whether the database file is taken as never written, so that it is read only
  once open. -/
  immutable : Bool := false
  /-- The file system layer asked for, if any. -/
  vfs : Option String := none
  deriving DecidableEq, Repr

namespace StoreAddress

/-- The value of an ASCII hexadecimal digit given as a byte. -/
def hexValue (b : Nat) : Option Nat :=
  if 0x30 ≤ b ∧ b ≤ 0x39 then some (b - 0x30)
  else if 0x41 ≤ b ∧ b ≤ 0x46 then some (b - 0x41 + 10)
  else if 0x61 ≤ b ∧ b ≤ 0x66 then some (b - 0x61 + 10)
  else none

/-- Replaces each `%` followed by two hexadecimal digits by the byte they spell; any other
`%` stays as it is. -/
def percentDecode : List Nat → List Nat
  | b :: h :: l :: more =>
    if b = 0x25 then
      match hexValue h, hexValue l with
      | some x, some y => (16 * x + y) :: percentDecode more
      | _, _ => b :: percentDecode (h :: l :: more)
    else b :: percentDecode (h :: l :: more)
  | b :: rest => b :: percentDecode rest
  | [] => []

/-- The bytes that `s` spells once its percent escapes are decoded. -/
def unescape (s : String) : List Nat :=
  percentDecode (s.toUTF8.toList.map (·.toNat))

/-- The path that `s` spells, or where its bytes stop being UTF-8. -/
def decodePath (s : String) : Except AddressError String :=
  match Text.Utf8.decode (unescape s) with
  | .ok p => .ok p
  | .error f => .error (.badPath f)

/-- A form component: `+` is a space, then percent escapes are decoded, and bytes that
are not UTF-8 become U+FFFD. -/
def decodeComponent (s : String) : String :=
  Text.Utf8.decodeLossy (unescape (String.ofList (s.toList.map fun c => if c = '+' then ' ' else c)))

/-- The `key=value` pairs of a form, in order: empty pieces are skipped, and a piece
without `=` has the empty value. -/
def formPairs (params : String) : List (String × String) :=
  ((params.splitOn "&").filter (· ≠ "")).map fun piece =>
    let cs := piece.toList
    (decodeComponent (String.ofList (cs.takeWhile (· ≠ '='))),
      decodeComponent (String.ofList ((cs.dropWhile (· ≠ '=')).drop 1)))

/-- Drops `p` from the front of `s` as often as it stands there; `fuel` bounds the
count, and the length of `s` is always enough. -/
def dropRepeated (p : List Char) : Nat → List Char → List Char
  | 0, s => s
  | n + 1, s =>
    if !p.isEmpty && p.isPrefixOf s then dropRepeated p n (s.drop p.length) else s

/-- Reads one option into the address. -/
def applyOption (a : StoreAddress) (kv : String × String) : Except AddressError StoreAddress :=
  match kv.1 with
  | "mode" =>
    match kv.2 with
    | "ro" => .ok { a with readOnly := true }
    | "rw" => .ok a
    | "rwc" => .ok a
    | "memory" => .ok { a with inMemory := true }
    | v => .error (.unknownValue "mode" v)
  | "cache" =>
    if kv.2 = "private" ∨ kv.2 = "shared" then .ok a else .error (.unknownValue "cache" kv.2)
  | "immutable" =>
    if kv.2 = "true" ∨ kv.2 = "1" then .ok { a with immutable := true }
    else if kv.2 = "false" ∨ kv.2 = "0" then .ok { a with immutable := false }
    else .error (.unknownValue "immutable" kv.2)
  | "vfs" => .ok { a with vfs := some kv.2 }
  | k => .error (.unknownOption k)

/-- Reads the options in order, stopping at the first error. -/
def applyOptions (a : StoreAddress) : List (String × String) → Except AddressError StoreAddress
  | [] => .ok a
  | kv :: rest => applyOption a kv >>= fun a' => applyOptions a' rest

/-- Reads an address (`src/src/store/sqlite.rs:73`). -/
def ofUrl (url : String) : Except AddressError StoreAddress :=
  let cs := url.toList
  let bare := dropRepeated "sqlite:".toList cs.length (dropRepeated "sqlite://".toList cs.length cs)
  let database := String.ofList (bare.takeWhile (· ≠ '?'))
  let params := bare.dropWhile (· ≠ '?')
  let start : Except AddressError StoreAddress :=
    if database = ":memory:" then .ok { inMemory := true }
    else (decodePath database).map fun p => { path := p }
  start >>= fun a =>
    match params with
    | [] => .ok a
    | _ :: rest => applyOptions a (formPairs (String.ofList rest))

/-- The default address is a database in memory. -/
theorem ofUrl_memory : ofUrl "sqlite::memory:" = .ok { inMemory := true } := by
  rfl

/-- An option of another name than the four is refused by its name. -/
theorem applyOption_unknown (a : StoreAddress) (k v : String)
    (h : k ∉ ["mode", "cache", "immutable", "vfs"]) :
    applyOption a (k, v) = .error (.unknownOption k) := by
  simp only [List.mem_cons, List.not_mem_nil, or_false, not_or] at h
  obtain ⟨h1, h2, h3, h4⟩ := h
  unfold applyOption
  split <;> simp_all

end StoreAddress

end Remit
