import Remit.Program

/-!
# The command line

Reads the command file named by the first argument and the settings from the
environment, looks at the database path the settings name, runs the program, and prints
its report, or its error on standard error with a failing exit code.
-/

open Remit

/-- What opening the path finds on the file system. -/
def openInput (path : String) : IO InputFile := do
  try
    let t ← IO.FS.readFile path
    pure (.text t)
  catch e =>
    match e with
    | .noFileOrDirectory .. => pure .missing
    | .permissionDenied .. => pure (.refused "Permission denied (os error 13)")
    | .inappropriateType _ 20 _ => pure (.refused "Not a directory (os error 20)")
    | .invalidArgument _ 36 _ => pure (.refused "File name too long (os error 36)")
    | _ => pure .unreadable

/-- What the engine finds when it looks at a path; the file system follows links itself,
so a link shows as what it leads to. -/
def lookAt (path : String) : IO PathEntry := do
  try
    let _ ← IO.FS.readBinFile path
    pure .present
  catch e =>
    match e with
    | .noFileOrDirectory .. => pure .missing
    | .inappropriateType _ 21 _ => pure .present
    | _ => pure .refused

/-- The directory part of a full path: what stands before its last `/`, or the root. -/
def directoryOf (path : String) : String :=
  match (path.toList.reverse.dropWhile (· ≠ '/')).drop 1 with
  | [] => "/"
  | rest => String.ofList rest.reverse

/-- What opening a full path finds, without making anything: a file that reads is present,
a directory is a directory, a missing file in a directory that exists is absent, and
anything else cannot be opened. -/
def openFull (path : String) : IO DatabaseFile := do
  try
    let _ ← IO.FS.readBinFile path
    pure .present
  catch e =>
    match e with
    | .inappropriateType _ 21 _ => pure .directory
    | .noFileOrDirectory .. =>
      try
        let _ ← IO.FS.readBinFile (directoryOf path)
        pure .unreachable
      catch e' =>
        match e' with
        | .inappropriateType _ 21 _ => pure .absent
        | _ => pure .unreachable
    | _ => pure .unreachable

/-- The database host for one path: what the engine finds at the paths it looks at, and
what opening the full path finds; every other path shows nothing. -/
def databaseHost (path : String) : IO DatabaseHost := do
  let cwd := (← IO.currentDir).toString
  let mut seen : List (String × PathEntry) := []
  for p in DatabaseHost.lookups cwd path do
    seen := (p, ← lookAt p) :: seen
  let entry := fun p => ((seen.find? (·.1 = p)).map (·.2)).getD .missing
  let host : DatabaseHost := ⟨cwd, entry, fun _ => .unreachable⟩
  match host.fullPath path with
  | some full =>
    let found ← openFull full
    pure { host with fileAt := fun p => if p = full then found else .unreachable }
  | none => pure host

/-- The database path that the settings name, if they read and name a file. -/
def databasePath (lookup : String → Option String) : String :=
  match Settings.ofEnv lookup with
  | .ok s =>
    match StoreAddress.ofUrl s.databaseUrl with
    | .ok a => a.filePath
    | .error _ => ""
  | .error _ => ""

/-- The values of the variables the settings read. -/
def settingsEnv : IO (List (String × String)) := do
  let names := [Settings.urlVariable, Settings.connectionsVariable, Settings.busyVariable,
    Settings.operationVariable]
  let mut found : List (String × String) := []
  for n in names do
    if let some v ← IO.getEnv n then
      found := (n, v) :: found
  pure found

def main (args : List String) : IO UInt32 := do
  let env ← settingsEnv
  let lookup := fun n => (env.find? (·.1 = n)).map (·.2)
  let file ← match args with
    | path :: _ => openInput path
    | [] => pure .missing
  let db ← databaseHost (databasePath lookup)
  let outcome := Program.run args lookup ⟨fun _ => file, db⟩
  IO.print outcome.stdout
  match outcome with
  | .printed _ => pure 0
  | .failed msg =>
    IO.eprintln ("Error: " ++ msg)
    pure 1
  | .stopped =>
    IO.eprintln "the store's connection pool cannot be built without connections"
    pure 101
