import Remit.Batch
import Remit.Settings
import Remit.Store.Connection

/-!
# The program

The program takes the path of a command file as its first argument, reads its settings
from the environment, connects to its store, runs the file's rows on a fresh ledger and
prints the closing balance report. It stops with an error, printing nothing, when no
path is given, when a setting does not read, when the store cannot be reached, or when
the file cannot be opened, in that order; a store whose pool may hold no connection
stops it with no error line at all. A path that opens but cannot be read, such as a
directory, gives no rows and so an empty report.

An error is reported on the terminal as a report whose first line is the message's first
line (`Outcome.errorLine`); a message can hold a line break when it quotes an address's
option name as it was written, and an escape character that the terminal reads as the
start of a colour sequence.

The host is a parameter: `Host` says what opening a path finds, for the command file
and for the database, so the whole program is a function of its arguments, its
environment and its host.

The main statements: `run_no_argument` and `run_text` (a readable file prints the
report of running it).
-/

set_option autoImplicit false

namespace Remit

/-- What opening a path finds. -/
inductive InputFile where
  /-- A readable file with this text. -/
  | text (contents : String)
  /-- Nothing at the path. -/
  | missing
  /-- The path cannot be opened, for the reason given. -/
  | refused (reason : String)
  /-- The path opens but reading it fails, as for a directory. -/
  | unreadable
  deriving DecidableEq, Repr

/-- What the program finds on its host: the command file at a path, and the host as the
database engine sees it. -/
structure Host where
  input : String → InputFile
  database : DatabaseHost

/-- How a run ends. -/
inductive Outcome where
  /-- It printed the report and succeeded. -/
  | printed (stdout : String)
  /-- It printed nothing and failed with this error. -/
  | failed (message : String)
  /-- It printed nothing and stopped without an error line. -/
  | stopped
  deriving DecidableEq, Repr

namespace Outcome

/-- Whether the run succeeded. -/
def success : Outcome → Bool
  | .printed _ => true
  | _ => false

/-- What the run printed. -/
def stdout : Outcome → String
  | .printed s => s
  | _ => ""

/-- The run's error, if it failed with one. -/
def error : Outcome → Option String
  | .failed m => some m
  | _ => none

/-- Whether the character is an ASCII letter, the last character of a colour sequence. -/
def endsSequence (c : Char) : Bool := ('a' ≤ c && c ≤ 'z') || ('A' ≤ c && c ≤ 'Z')

/-- The characters without colour sequences: an escape character, every character after
it up to the first letter, and that letter. `inSequence` tells whether a sequence has
begun and not ended. -/
def withoutColours (inSequence : Bool) : List Char → List Char
  | [] => []
  | c :: rest =>
    if inSequence then withoutColours (!endsSequence c) rest
    else if c = '\x1b' then withoutColours true rest
    else c :: withoutColours false rest

/-- The first line of the error report, as read from the terminal: the message up to its
first line break, without colour sequences and without blanks at either end. -/
def errorLine : Outcome → Option String
  | .failed m =>
    some (Text.trimBlank (String.ofList (withoutColours false (m.toList.takeWhile (· ≠ '\n')))))
  | _ => none

end Outcome

namespace InputFile

/-- Why the path could not be opened, if it could not (`src/src/csv.rs:30-41`). -/
def openError : InputFile → Option String
  | .missing => some "No such file or directory (os error 2)"
  | .refused r => some r
  | _ => none

/-- The text of the command file; a file that cannot be read has no rows. -/
def contents : InputFile → String
  | .text t => t
  | _ => ""

end InputFile

namespace Program

/-- Runs the program (`src/src/main.rs:19-51`). -/
def run (args : List String) (env : String → Option String) (host : Host) : Outcome :=
  match args with
  | [] => .failed "Input file not passed"
  | path :: _ =>
    match Settings.ofEnv env with
    | .error e => .failed e.message
    | .ok s =>
      match connect s host.database with
      | .emptyPool => .stopped
      | .failed e => .failed e.message
      | .ready =>
        let file := host.input path
        match file.openError with
        | some reason => .failed ("Could not read input file: " ++ reason)
        | none => .printed (runFile file.contents).2.report

/-- Without an argument the program fails at once, asking for the input file, whatever the
environment and the files. -/
theorem run_no_argument (env : String → Option String) (host : Host) :
    run [] env host = .failed "Input file not passed" := rfl

/-- With settings that read, a store that connects and a readable file, the program
prints the report of running the file. -/
theorem run_text (path : String) (rest : List String) (env : String → Option String)
    (host : Host) (t : String) (s : Settings) (hs : Settings.ofEnv env = .ok s)
    (hc : connect s host.database = .ready) (hf : host.input path = .text t) :
    run (path :: rest) env host = .printed (runFile t).2.report := by
  simp [run, hs, hc, hf, InputFile.openError, InputFile.contents]

end Program

end Remit
