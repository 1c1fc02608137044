import Remit.Store.FileName
import Remit.Store.Host
import Remit.Settings
import Remit.Fault

/-!
# Connecting to the store

Before any command runs, the program connects to its store, in these steps, and the
first that fails is the error:

1. The address is read (`StoreAddress.ofUrl`); an address that names no store is an
   error of configuration.
2. The connection pool is built. A pool that may hold no connection cannot be built at
   all, and the program stops there without an error of its own.
3. The first connection is made, within the operation timeout; a timeout of zero has
   run out before the connection starts.
4. The database file is named. Named plainly, by its path, the name may not hold a NUL
   character. With `immutable` or a file system layer, path and options are passed on
   together as a URI (`file:`, the path with every byte but letters and digits escaped,
   then the options as a form).
5. The engine reads the name (`FileName.read`): a URI may name another host, or a mode
   that does not exist or asks too much, and its options set the access flags and the
   file system layer.
6. The database is opened: a file system layer that the engine does not know is an
   error, and so is a file that cannot be opened, its full path first
   (`DatabaseHost.fullPath`). A writable database is created when missing if the flags
   allow creating; one opened for reading only must exist already. A file that refuses
   writing is opened for reading only, and a directory opens for reading only.
7. The busy timeout is handed to the database; one beyond the largest 32-bit signed
   number brings the connection's worker down.
8. The tables are made, which fails on a directory, which cannot be read, on a file that
   holds no database and on a database that is read only: one opened so, one marked
   immutable, or a file that refuses writing.

What lies at a file path is the host's affair and is a parameter (`DatabaseHost`). A
database in memory (by the flags or by the path `:memory:`), the temporary database of an
empty path and the files of the `memdb` layer, which are held in memory as well, always
open; the database of `:memory:` in an address needs no name of its own, since it is in
memory by its flags.

The main statements: `connect_memory` (the default settings connect),
`connect_empty_pool` (a readable address with no connections allowed stops the program)
and `connect_timed_out` (with connections allowed, a zero timeout runs out).
-/

set_option autoImplicit false

namespace Remit

/-- Why the store cannot be reached. -/
inductive StoreError where
  /-- The address names no store. -/
  | badAddress (e : AddressError)
  /-- The first connection was not made in time. -/
  | timedOut
  /-- The file name holds a NUL character. -/
  | nulInName
  /-- The engine refuses the file name. -/
  | badName (e : NameError)
  /-- The file system layer asked for is unknown. -/
  | noSuchVfs (name : String)
  /-- The database file cannot be opened. -/
  | cannotOpen
  /-- The connection's worker stopped, refusing the busy timeout. -/
  | workerCrashed
  /-- Reading the opened file fails, as for a directory. -/
  | readFailed
  /-- The file holds no database. -/
  | notDatabase
  /-- The database is read only, and the tables cannot be made. -/
  | readOnly
  deriving DecidableEq, Repr

namespace StoreError

/-- The cause, as the store words it. -/
def detail : StoreError → String
  | .badAddress e => "error with configuration: " ++ e.message
  | .timedOut => "pool timed out while waiting for an open connection"
  | .nulInName =>
    "error communicating with database: filename passed to SQLite must not contain nul bytes"
  | .badName e => "(code: " ++ toString e.code ++ ") " ++ e.text
  | .noSuchVfs n => "(code: 1) no such vfs: " ++ n
  | .cannotOpen => "(code: 14) unable to open database file"
  | .workerCrashed => "attempted to communicate with a crashed background worker"
  | .readFailed => "(code: 266) disk I/O error"
  | .notDatabase => "(code: 26) file is not a database"
  | .readOnly => "(code: 8) attempt to write a readonly database"

/-- The printed message: the store is unavailable, for the cause. -/
def message (e : StoreError) : String :=
  FaultKind.unavailable.describe e.detail

end StoreError

/-- How connecting ends. -/
inductive Connection where
  /-- The store is ready. -/
  | ready
  /-- The pool may hold no connection and cannot be built. -/
  | emptyPool
  /-- The store cannot be reached. -/
  | failed (e : StoreError)
  deriving DecidableEq, Repr

/-- The file system layers that the store knows. -/
def knownVfs : List String := ["unix", "unix-dotfile", "unix-excl", "unix-none", "memdb"]

/-- The longest name of a file of the `memdb` layer: the name of its journal, eight bytes
longer, must fit in 1024 bytes. -/
def longestMemoryName : Nat := 1016

/-- The longest busy timeout the database takes, in milliseconds: the largest 32-bit
signed number. -/
def busyTimeoutLimit : Nat := 2147483647

/-- What an open database file is. -/
inductive Handle where
  /-- A database, which takes writes or not. -/
  | database (writable : Bool)
  /-- A file that holds no database. -/
  | foreign
  /-- A directory, which fails on the first read. -/
  | directory
  deriving DecidableEq, Repr

namespace StoreAddress

/-- Whether the file name is passed on with its options, as a URI: so it is when the
database is immutable or a file system layer is named. -/
def withOptions (a : StoreAddress) : Bool := a.immutable || a.vfs.isSome

/-- The file name the store hands to the engine. -/
def engineName (a : StoreAddress) : List Nat :=
  let name := FileName.bytesOf a.path
  if a.withOptions then
    let options : List (List Nat) :=
      (if a.immutable then [FileName.bytesOf "immutable=true"] else []) ++
        (match a.vfs with
          | some v => [FileName.bytesOf "vfs=" ++ FileName.escapeForm (FileName.bytesOf v)]
          | none => [])
    FileName.bytesOf "file:" ++ FileName.escapeAll name ++ [FileName.question] ++
      List.intercalate [FileName.ampersand] options
  else name

/-- The path of the database file that the engine reads from the name; empty when the
engine refuses the name. -/
def filePath (a : StoreAddress) : String :=
  match FileName.read a.engineName with
  | .ok n => FileName.textOf n.path
  | .error _ => ""

/-- The flags the store opens with: reading only, or reading, writing and creating; in
memory when the address asks. -/
def openFlags (a : StoreAddress) : OpenFlags :=
  ⟨a.readOnly, !a.readOnly, !a.readOnly, a.inMemory⟩

end StoreAddress

/-- Opens the database at `path` with these flags; `immutable` tells whether the name
marks the file immutable, `inMemoryLayer` whether the file system layer holds its files in
memory, and `host` what lies at a path. A file on the host is opened by its full path. -/
def openPath (flags : OpenFlags) (path : String) (immutable inMemoryLayer : Bool)
    (host : DatabaseHost) : Except StoreError Handle :=
  if flags.memory || path = ":memory:" || path.isEmpty then .ok (.database !flags.readOnly)
  else if inMemoryLayer then
    if longestMemoryName < path.utf8ByteSize then .error .cannotOpen
    else .ok (.database (!flags.readOnly && !immutable))
  else
    match host.fullPath path with
    | none => .error .cannotOpen
    | some full =>
      match host.fileAt full with
      | .present => .ok (.database (!flags.readOnly && !immutable))
      | .sealed => .ok (.database false)
      | .foreign => .ok .foreign
      | .directory => if flags.readOnly then .ok .directory else .error .cannotOpen
      | .absent =>
        if flags.create && !flags.readOnly then .ok (.database !immutable) else .error .cannotOpen
      | .unreachable => .error .cannotOpen

namespace StoreAddress

/-- Names and opens the database, hands it the busy timeout and makes its tables;
`none` when all of it succeeds (`src/src/store/sqlite.rs:58-64, 72-91`). -/
def openDatabase (a : StoreAddress) (busyTimeoutMs : Nat) (host : DatabaseHost) :
    Option StoreError :=
  let name := a.engineName
  if name.contains 0 then some .nulInName
  else
    match FileName.read name with
    | .error e => some (.badName e)
    | .ok n =>
      match FileName.applyOptions a.openFlags none n.options with
      | .error e => some (.badName e)
      | .ok (flags, vfs) =>
        let layer := (vfs.map FileName.textOf).getD "unix"
        if !knownVfs.contains layer then some (.noSuchVfs layer)
        else
          match openPath flags (FileName.textOf n.path) n.immutable (layer == "memdb") host with
          | .error e => some e
          | .ok h =>
            if busyTimeoutLimit < busyTimeoutMs then some .workerCrashed
            else
              match h with
              | .directory => some .readFailed
              | .foreign => some .notDatabase
              | .database false => some .readOnly
              | .database true => none

end StoreAddress

/-- Connects to the store that the settings name (`src/src/store/sqlite.rs:72-91`). -/
def connect (s : Settings) (host : DatabaseHost) : Connection :=
  match StoreAddress.ofUrl s.databaseUrl with
  | .error e => .failed (.badAddress e)
  | .ok a =>
    if s.maxConnections = 0 then .emptyPool
    else if s.operationTimeoutMs = 0 then .failed .timedOut
    else
      match a.openDatabase s.busyTimeoutMs host with
      | some e => .failed e
      | none => .ready

/-- A database in memory opens, whatever the host holds, while the busy timeout is one
the database takes. -/
theorem openDatabase_memory (busyTimeoutMs : Nat) (host : DatabaseHost)
    (h : busyTimeoutMs ≤ busyTimeoutLimit) :
    ({ inMemory := true } : StoreAddress).openDatabase busyTimeoutMs host = none := by
  have hname : ({ inMemory := true } : StoreAddress).engineName = [] := by
    simp [StoreAddress.engineName, StoreAddress.withOptions, FileName.bytesOf]
  simp [StoreAddress.openDatabase, hname, FileName.read_nil, FileName.applyOptions, knownVfs,
    openPath, StoreAddress.openFlags, Nat.not_lt.mpr h]

/-- The default settings connect, whatever the host holds. -/
theorem connect_memory (host : DatabaseHost) :
    connect Settings.defaults host = .ready := by
  have h : StoreAddress.ofUrl Settings.defaults.databaseUrl = .ok { inMemory := true } :=
    StoreAddress.ofUrl_memory
  have hopen := openDatabase_memory 5000 host (by decide)
  unfold connect
  rw [h]
  simp [hopen, Settings.defaults]

/-- A readable address with no connections allowed stops the program. -/
theorem connect_empty_pool (s : Settings) (host : DatabaseHost) (a : StoreAddress)
    (ha : StoreAddress.ofUrl s.databaseUrl = .ok a) (h0 : s.maxConnections = 0) :
    connect s host = .emptyPool := by
  simp [connect, ha, h0]

/-- With a readable address and connections allowed, a zero operation timeout runs out
before the database is touched. -/
theorem connect_timed_out (s : Settings) (host : DatabaseHost) (a : StoreAddress)
    (ha : StoreAddress.ofUrl s.databaseUrl = .ok a) (hc : s.maxConnections ≠ 0)
    (h0 : s.operationTimeoutMs = 0) :
    connect s host = .failed .timedOut := by
  simp [connect, ha, hc, h0]

end Remit
