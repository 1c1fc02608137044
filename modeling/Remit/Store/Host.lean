/-!
# The store's host

The database engine opens a file by its full path, which it works out itself before
asking the host for the file. It starts from the working directory when the path is
relative, and takes the path's elements in order, on a stack:

* empty elements and `.` are dropped, and `..` takes the last element off (none at the
  root), without asking the host, so `/proc/version/..` is `/proc` even though
  `/proc/version` is a file;
* every other element is put on, and the host is asked what stands at the path so far,
  without following a final link. Nothing there is fine, since the file may be created
  later. A link is replaced by its target: an absolute target starts over from the root,
  a relative one goes on from the link's directory. Any other answer, such as a file
  standing where a directory is needed, means the file cannot be opened.

The full path must stay below 511 bytes while it is built and come to at most 504 bytes, so
that the name of the database's journal fits in 512; at most a hundred links are followed,
and a full path that comes to the root alone cannot be opened either.

The host is a parameter (`DatabaseHost`): what stands at a path when looked at, and what
opening a full path finds.

The main statements: `fullPath_root` (the root alone cannot be opened) and
`resolve_nil` (with no elements left, the stack stays as it is).
-/

set_option autoImplicit false

namespace Remit

/-- What opening a full path finds on the host. -/
inductive DatabaseFile where
  /-- A file that opens for reading and writing, as a database or as an empty file. -/
  | present
  /-- A file that opens for reading only and reads as an empty database, such as a
  file the kernel shows. -/
  | sealed
  /-- A file that opens but holds no database. -/
  | foreign
  /-- A directory: it opens for reading only, and reading it fails. -/
  | directory
  /-- No file, in a directory where one can be made. -/
  | absent
  /-- Nothing that can be opened: its directory is missing or cannot take new files. -/
  | unreachable
  deriving DecidableEq, Repr

/-- What the host shows at a path looked at as it stands, a final link not followed. -/
inductive PathEntry where
  /-- Nothing is there. -/
  | missing
  /-- A link, with its target. -/
  | link (target : String)
  /-- A file or a directory. -/
  | present
  /-- The path cannot be looked at, as when a file stands where a directory is needed. -/
  | refused
  deriving DecidableEq, Repr

/-- The host as the database engine sees it. -/
structure DatabaseHost where
  /-- The directory that relative paths start from. -/
  workingDirectory : String
  /-- What stands at a path. -/
  entry : String → PathEntry
  /-- What opening a full path finds. -/
  fileAt : String → DatabaseFile

namespace DatabaseHost

/-- The pieces between slashes of the characters, empty ones dropped; `piece` holds the
characters of the piece begun, last first. -/
def elementsOf : List Char → List Char → List String
  | [], piece => if piece.isEmpty then [] else [String.ofList piece.reverse]
  | c :: cs, piece =>
    if c = '/' then
      if piece.isEmpty then elementsOf cs [] else String.ofList piece.reverse :: elementsOf cs []
    else elementsOf cs (c :: piece)

/-- The elements of a path: the pieces between slashes, empty ones dropped. -/
def elements (p : String) : List String := elementsOf p.toList []

/-- The path that a stack of elements spells from the root, last element first. -/
def spell (stack : List String) : String :=
  String.join (stack.reverse.map ("/" ++ ·))

/-- The bytes the stack spells. -/
def used (stack : List String) : Nat :=
  stack.foldl (fun n e => n + e.utf8ByteSize + 1) 0

/-- The longest full path the engine builds, with its end: a full path and the next
element with a separator must stay below this many bytes. -/
def pathLimit : Nat := 513

/-- The longest full path the engine opens a database by: the name of its journal, eight
bytes longer, must fit in 512 bytes. -/
def longestPath : Nat := 504

/-- The most links the engine follows in one path. -/
def linkLimit : Nat := 100

/-- Puts the elements on the stack the engine's way; `links` counts the links followed
so far, and `fuel` bounds how deep links nest. `none` when the file cannot be opened. -/
def resolve (entry : String → PathEntry) :
    Nat → List String → List String × Nat → Option (List String × Nat)
  | _, [], st => some st
  | 0, _ :: _, _ => none
  | fuel + 1, e :: es, (stack, links) =>
    if e = "." then resolve entry (fuel + 1) es (stack, links)
    else if e = ".." then resolve entry (fuel + 1) es (stack.drop 1, links)
    else if pathLimit ≤ used stack + e.utf8ByteSize + 2 then none
    else
      let stack' := e :: stack
      match entry (spell stack') with
      | .missing | .present => resolve entry (fuel + 1) es (stack', links)
      | .refused => none
      | .link target =>
        if linkLimit < links then none
        else
          let base := if target.startsWith "/" then [] else stack
          match resolve entry fuel (elements target) (base, links + 1) with
          | none => none
          | some st => resolve entry fuel es st
termination_by fuel es => (fuel, es.length)

/-- The paths the engine looks at for `path`, started in `workingDirectory`, when it meets
no link: the stack spelled after each element put on it. -/
def lookups (workingDirectory path : String) : List String :=
  let start := if path.startsWith "/" then [] else elements workingDirectory
  let step : List String × List String → String → List String × List String :=
    fun (stack, seen) e =>
      if e = "." then (stack, seen)
      else if e = ".." then (stack.drop 1, seen)
      else (e :: stack, spell (e :: stack) :: seen)
  ((start ++ elements path).foldl step ([], [])).2.reverse

/-- The full path of `path` as the engine works it out, or `none` when the file cannot
be opened. -/
def fullPath (h : DatabaseHost) (path : String) : Option String :=
  let fuel := linkLimit + 2
  let start : Option (List String × Nat) :=
    if path.startsWith "/" then some ([], 0)
    else resolve h.entry fuel (elements h.workingDirectory) ([], 0)
  match start.bind (resolve h.entry fuel (elements path)) with
  | some (e :: rest, _) =>
    let full := spell (e :: rest)
    if longestPath < full.utf8ByteSize then none else some full
  | _ => none

/-- With no elements left, the stack stays as it is. -/
theorem resolve_nil (entry : String → PathEntry) (fuel : Nat) (st : List String × Nat) :
    resolve entry fuel [] st = some st := by
  cases fuel <;> simp [resolve]

/-- The root alone cannot be opened. -/
theorem fullPath_root (h : DatabaseHost) : h.fullPath "/" = none := by
  have he : elements "/" = [] := rfl
  simp [fullPath, he, resolve_nil]

end DatabaseHost

end Remit
