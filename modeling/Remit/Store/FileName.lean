import Remit.Store.Address

/-!
# Database file names

The database engine is handed a file name and open flags. A name that starts with
`file:` is a URI, read the engine's way:

* After `file:`, a `//` opens an authority, which must be empty or `localhost`.
* The path runs up to a `?`, and options `name=value` follow, separated by `&`; a `#` ends
  the name. An option with an empty name is passed over, up to and past the next `&`.
* Escapes `%` and two hexadecimal digits are decoded everywhere, and a decoded byte is
  always plain text, never a separator. An escaped NUL cuts the rest of its piece short: the
  rest of the path, of the option's name, or of its value.

Three options are the engine's own. `vfs` names the file system layer (the last one
counts). `cache` must be `shared` or `private`. `mode` sets the access: `ro`, `rw`,
`rwc` or `memory`. An access mode may not ask for more than the flags allow, compared as
the flags' numbers: read only is 1, read and write 2, creation 4, and memory, which is
never refused, 128. Every other option is left to the file system layer, such as
`immutable`, read as a yes or no the engine's way.

Any other name is a plain path, used as it stands.

The main statements: `read_plain` (a name that is no URI is its own path), `read_nil`,
and `unescape_plain` (a character that is no separator is copied as it stands).
-/

set_option autoImplicit false

namespace Remit

/-- Why the engine refuses a file name. -/
inductive NameError where
  /-- The URI names a host other than this one. -/
  | invalidAuthority (authority : String)
  /-- An option of a mode names no mode of its kind (`access` or `cache`). -/
  | noSuchMode (kind value : String)
  /-- An access mode asks for more than the open flags allow. -/
  | modeNotAllowed (kind value : String)
  deriving DecidableEq, Repr

namespace NameError

/-- The engine's result code for the error. -/
def code : NameError → Nat
  | .modeNotAllowed _ _ => 3
  | _ => 1

/-- The engine's sentence for the error. -/
def text : NameError → String
  | .invalidAuthority a => "invalid uri authority: " ++ a
  | .noSuchMode k v => "no such " ++ k ++ " mode: " ++ v
  | .modeNotAllowed k v => k ++ " mode not allowed: " ++ v

end NameError

/-- The flags a database is opened with, as far as access goes. -/
structure OpenFlags where
  readOnly : Bool
  readWrite : Bool
  create : Bool
  memory : Bool
  deriving DecidableEq, Repr

namespace OpenFlags

/-- The flags as the engine numbers them. -/
def bits (f : OpenFlags) : Nat :=
  (if f.readOnly then 1 else 0) + (if f.readWrite then 2 else 0) + (if f.create then 4 else 0) +
    (if f.memory then 128 else 0)

/-- The flags of an access mode named in a URI. -/
def ofMode (mode : String) : Option OpenFlags :=
  match mode with
  | "ro" => some ⟨true, false, false, false⟩
  | "rw" => some ⟨false, true, false, false⟩
  | "rwc" => some ⟨false, true, true, false⟩
  | "memory" => some ⟨false, false, false, true⟩
  | _ => none

end OpenFlags

namespace FileName

/-- The bytes of a text in UTF-8. -/
def bytesOf (s : String) : List Nat := s.toUTF8.toList.map (·.toNat)

/-- The text of some bytes, each faulty run shown as U+FFFD. -/
def textOf (bs : List Nat) : String := Text.Utf8.decodeLossy bs

/-- The byte `%`. -/
def percent : Nat := 0x25

/-- The byte `&`. -/
def ampersand : Nat := 0x26

/-- The byte `=`. -/
def equals : Nat := 0x3D

/-- The byte `?`. -/
def question : Nat := 0x3F

/-- The byte `#`. -/
def hash : Nat := 0x23

/-- The upper-case hexadecimal digit of a number below sixteen. -/
def hexDigit (n : Nat) : Nat := if n < 10 then 0x30 + n else 0x41 + (n - 10)

/-- A byte written as `%` and two upper-case hexadecimal digits. -/
def escapeByte (b : Nat) : List Nat := [percent, hexDigit (b / 16), hexDigit (b % 16)]

/-- Whether a byte is an ASCII letter or digit. -/
def isAlphanumeric (b : Nat) : Bool :=
  (0x30 ≤ b && b ≤ 0x39) || (0x41 ≤ b && b ≤ 0x5A) || (0x61 ≤ b && b ≤ 0x7A)

/-- Escapes every byte that is not an ASCII letter or digit. -/
def escapeAll (bs : List Nat) : List Nat :=
  bs.flatMap fun b => if isAlphanumeric b then [b] else escapeByte b

/-- Escapes a value of a form: letters, digits and `*-._` stay, a space becomes `+`, and
every other byte is escaped. -/
def escapeForm (bs : List Nat) : List Nat :=
  bs.flatMap fun b =>
    if isAlphanumeric b || b = 0x2A || b = 0x2D || b = 0x2E || b = 0x5F then [b]
    else if b = 0x20 then [0x2B]
    else escapeByte b

/-- Where the reading of a URI stands. -/
inductive UriPart where
  /-- In the path. -/
  | path
  /-- In an option's name. -/
  | key
  /-- In an option's value. -/
  | value
  deriving DecidableEq, Repr

/-- Whether the byte ends the piece of this part that an escaped NUL cuts short. -/
def UriPart.stops : UriPart → Nat → Bool
  | .path, c => c == question
  | .key, c => c == ampersand || c == equals
  | .value, c => c == ampersand

/-- Passes over the rest of a piece after an escaped NUL: up to the end, a `#`, or the
byte that ends the piece. -/
def skipPiece (part : UriPart) : List Nat → List Nat
  | [] => []
  | c :: rest => if c == hash || part.stops c then c :: rest else skipPiece part rest

/-- Passes over an option with an empty name: up to and past the next `&`, or up to a
`#`. -/
def skipOption : List Nat → List Nat
  | [] => []
  | c :: rest => if c == hash then c :: rest else if c == ampersand then rest else skipOption rest

/-- Passing over one piece of an address never lengthens what is left. -/
theorem skipPiece_length_le (part : UriPart) (l : List Nat) :
    (skipPiece part l).length ≤ l.length := by
  induction l with
  | nil => simp [skipPiece]
  | cons c rest ih =>
    simp only [skipPiece]
    split
    · exact Nat.le_refl _
    · simp only [List.length_cons]; omega

/-- Passing over one option of an address never lengthens what is left. -/
theorem skipOption_length_le (l : List Nat) : (skipOption l).length ≤ l.length := by
  induction l with
  | nil => simp [skipOption]
  | cons c rest ih =>
    simp only [skipOption]
    split
    · exact Nat.le_refl _
    · split
      · simp only [List.length_cons]; omega
      · simp only [List.length_cons]; omega

/-- The byte that an escape at the front spells, and what follows it. -/
def escaped (c : Nat) (rest : List Nat) : Option (Nat × List Nat) :=
  if c = percent then
    match rest with
    | h :: l :: more =>
      match StoreAddress.hexValue h, StoreAddress.hexValue l with
      | some x, some y => some (16 * x + y, more)
      | _, _ => none
    | _ => none
  else none

/-- Reading a percent escape consumes at least one byte. -/
theorem escaped_length {c b : Nat} {rest more : List Nat} (h : escaped c rest = some (b, more)) :
    more.length < rest.length := by
  unfold escaped at h
  split at h
  · split at h
    · split at h
      · simp only [Option.some.injEq, Prod.mk.injEq] at h
        obtain ⟨-, rfl⟩ := h
        simp only [List.length_cons]
        omega
      · exact absurd h (by simp)
    · exact absurd h (by simp)
  · exact absurd h (by simp)

set_option linter.unusedVariables false in
/-- Copies a URI after its authority the engine's way, decoding escapes: the path, then
each option's name and value, each ended by a zero byte. `out` holds what is written,
last byte first. -/
def unescape (part : UriPart) (out : List Nat) : List Nat → UriPart × List Nat
  | [] => (part, out)
  | c :: rest =>
    if c = hash then (part, out)
    else
      match hesc : escaped c rest with
      | some (0, more) => unescape part out (skipPiece part more)
      | some (b, more) => unescape part (b :: out) more
      | none =>
        if part = .key && (c == ampersand || c == equals) then
          if out.head? == some 0 then
            unescape part out (if c == ampersand then rest else skipOption rest)
          else if c == ampersand then unescape .key (0 :: 0 :: out) rest
          else unescape .value (0 :: out) rest
        else if (part = .path && c == question) || (part = .value && c == ampersand) then
          unescape .key (0 :: out) rest
        else unescape part (c :: out) rest
termination_by bs => bs.length
decreasing_by
  all_goals simp only [List.length_cons]
  · have := escaped_length hesc
    have := skipPiece_length_le part more
    omega
  · have := escaped_length hesc
    omega
  · split
    · omega
    · have := skipOption_length_le rest
      omega
  all_goals omega

/-- Cuts bytes at every zero. -/
def splitZero : List Nat → List (List Nat)
  | [] => [[]]
  | b :: rest =>
    match splitZero rest with
    | piece :: more => if b = 0 then [] :: piece :: more else (b :: piece) :: more
    | [] => [[b]]

/-- Pairs the pieces after the path into options, up to the first empty name. -/
def pairOptions : List (List Nat) → List (List Nat × List Nat)
  | k :: v :: more => if k.isEmpty then [] else (k, v) :: pairOptions more
  | _ => []

end FileName

/-- A file name as the engine reads it: the path and the options after it, in order. -/
structure FileName where
  path : List Nat
  options : List (List Nat × List Nat)
  deriving DecidableEq, Repr

namespace FileName

/-- The bytes `file:`. -/
def uriScheme : List Nat := [0x66, 0x69, 0x6C, 0x65, 0x3A]

/-- Reads a file name: a URI when it starts with `file:`, else a plain path. -/
def read (name : List Nat) : Except NameError FileName :=
  if uriScheme.isPrefixOf name then
    let after := name.drop 5
    let body : Except NameError (List Nat) :=
      match after with
      | 0x2F :: 0x2F :: rest =>
        let authority := rest.takeWhile (· ≠ 0x2F)
        if authority.isEmpty || authority == bytesOf "localhost" then
          .ok (rest.drop authority.length)
        else .error (.invalidAuthority (textOf authority))
      | _ => .ok after
    body.map fun b =>
      let written := unescape .path [] b
      let buffer := (if written.1 = .key then 0 :: written.2 else written.2).reverse ++
        [0, 0, 0, 0]
      match splitZero buffer with
      | path :: pieces => ⟨path, pairOptions pieces⟩
      | [] => ⟨[], []⟩
  else .ok ⟨name, []⟩

/-- The value of the first option of this name. -/
def option? (n : FileName) (key : String) : Option (List Nat) :=
  (n.options.find? (·.1 == bytesOf key)).map (·.2)

/-- The decimal number at the front of a text, leading zeros passed over; zero when it
has more than ten digits or passes the largest 32-bit signed number. -/
def decimalNumber (v : List Nat) : Nat :=
  let ds := ((v.dropWhile (· == 0x30)).takeWhile fun b => 0x30 ≤ b && b ≤ 0x39).take 11
  let n := ds.foldl (fun acc b => acc * 10 + (b - 0x30)) 0
  if 10 < ds.length || 2147483647 < n then 0 else n

/-- The hexadecimal number after `0x`, leading zeros passed over; zero when it has more
than eight digits or passes the largest 32-bit signed number. -/
def hexNumber (v : List Nat) : Nat :=
  let ds := (v.drop 2).dropWhile (· == 0x30)
  let hs := (ds.take 8).takeWhile fun b => (StoreAddress.hexValue b).isSome
  let u := hs.foldl (fun acc b => acc * 16 + (StoreAddress.hexValue b).getD 0) 0
  let next := (ds.drop hs.length).head?.bind StoreAddress.hexValue
  if u < 2147483648 && next.isNone then u else 0

/-- The 32-bit number at the front of a text that starts with a digit, as the engine
reads it: hexadecimal after `0x` and a hexadecimal digit, else decimal. -/
def leadingNumber (v : List Nat) : Nat :=
  let isHex : Bool :=
    match v with
    | 0x30 :: x :: h :: _ => (x == 0x78 || x == 0x58) && (StoreAddress.hexValue h).isSome
    | _ => false
  if isHex then hexNumber v else decimalNumber v

/-- A yes or no the engine's way: a number (its low byte) when the text starts with a
digit, else `on`, `yes` or `true` for yes and anything else for no, in either case. -/
def truth (v : List Nat) : Bool :=
  match v with
  | d :: _ =>
    if 0x30 ≤ d && d ≤ 0x39 then leadingNumber v % 256 != 0
    else
      let lower := v.map fun b => if 0x41 ≤ b && b ≤ 0x5A then b + 32 else b
      lower == bytesOf "on" || lower == bytesOf "yes" || lower == bytesOf "true"
  | [] => false

/-- Whether the name marks its file immutable. -/
def immutable (n : FileName) : Bool := (n.option? "immutable").elim false truth

/-- Applies the engine's own options in order to the flags and the file system layer. -/
def applyOptions (flags : OpenFlags) (vfs : Option (List Nat)) :
    List (List Nat × List Nat) → Except NameError (OpenFlags × Option (List Nat))
  | [] => .ok (flags, vfs)
  | (k, v) :: more =>
    if k == bytesOf "vfs" then applyOptions flags (some v) more
    else if k == bytesOf "cache" then
      if v == bytesOf "shared" || v == bytesOf "private" then applyOptions flags vfs more
      else .error (.noSuchMode "cache" (textOf v))
    else if k == bytesOf "mode" then
      match OpenFlags.ofMode (textOf v) with
      | none => .error (.noSuchMode "access" (textOf v))
      | some m =>
        if flags.bits < ({ m with memory := false } : OpenFlags).bits then
          .error (.modeNotAllowed "access" (textOf v))
        else applyOptions m vfs more
    else applyOptions flags vfs more

/-- A name that is no URI is its own path. -/
theorem read_plain (name : List Nat) (h : uriScheme.isPrefixOf name = false) :
    read name = .ok ⟨name, []⟩ := by
  simp [read, h]

/-- The empty name is the empty path. -/
theorem read_nil : read [] = .ok ⟨[], []⟩ := read_plain [] rfl

/-- A character that is no separator, no escape and no end is copied as it stands. -/
theorem unescape_plain (part : UriPart) (out : List Nat) (c : Nat) (rest : List Nat)
    (hh : c ≠ hash) (hp : c ≠ percent) (ha : c ≠ ampersand) (he : c ≠ equals)
    (hq : c ≠ question) :
    unescape part out (c :: rest) = unescape part (c :: out) rest := by
  have hx : escaped c rest = none := by simp [escaped, hp]
  rw [unescape]
  simp only [hh, if_false]
  split
  · next h => rw [hx] at h; exact absurd h (by simp)
  · next h => rw [hx] at h; exact absurd h (by simp)
  · simp [ha, he, hq]

end FileName

end Remit
