/-!
# Reading comma separated records

Text is cut into records of fields. Fields are separated by commas and records end at a
carriage return, a line feed, or the two together; line ends between records are
skipped, so a blank line is no record. A field that starts with a double quote runs to
the matching quote, may hold commas and line ends, and writes a quote inside as two
quotes; text after the closing quote belongs to the field as it is. Quotes inside an
unquoted field are kept.

Each record knows where it starts: its number (counting from 0), the line (counting
from 1) and the byte offset where reading for it began. Reading for a record begins
right after the line end of the one before, so blank lines before a record count as
part of it, and after a carriage return and line feed the record begins at the line
feed, still on the previous line.

A byte order mark that opens the text is passed over before reading; its bytes still
count in the offsets.

The main statements: `records_of_lineEnds` (a text of line ends alone, after a byte order
mark or not, holds no record) and `step_line` (only a line feed starts a new line).
-/

set_option autoImplicit false

namespace Remit

namespace Csv

/-- Where a record starts: its number, its line and its byte offset. -/
structure Position where
  record : Nat
  line : Nat
  byte : Nat
  deriving DecidableEq, Repr

/-- A record: where it starts and its fields as written, quotes removed. -/
structure Record where
  pos : Position
  fields : List String
  deriving DecidableEq, Repr

/-- Where the reader stands. -/
inductive Mode where
  /-- Between records: line ends are skipped. -/
  | recordStart
  /-- At the start of a field. -/
  | fieldStart
  /-- Inside a field without quotes. -/
  | plain
  /-- Inside quotes. -/
  | quoted
  /-- Right after a quote inside quotes: a second quote is a quote character. -/
  | quoteSeen
  /-- Right after a carriage return that ended a record: a line feed is part of it. -/
  | afterReturn
  deriving DecidableEq, Repr

/-- The reader's state. Fields and characters are kept newest first. -/
structure Scanner where
  mode : Mode := .recordStart
  line : Nat := 1
  byte : Nat := 0
  start : Position := ⟨0, 1, 0⟩
  fields : List String := []
  field : List Char := []
  emitted : List Record := []
  deriving Repr

namespace Scanner

/-- The state after the current field ends. -/
def endField (s : Scanner) : Scanner :=
  { s with fields := String.ofList s.field.reverse :: s.fields, field := [] }

/-- The state after the current record ends; the next record starts where the reader
now stands. -/
def endRecord (s : Scanner) (mode : Mode) : Scanner :=
  let s := s.endField
  let r : Record := ⟨s.start, s.fields.reverse⟩
  let next : Position := ⟨s.start.record + 1, s.line, s.byte⟩
  ⟨mode, s.line, s.byte, next, [], [], r :: s.emitted⟩

/-- A line end that closes a record: a carriage return waits for a line feed. -/
def lineEnd (s : Scanner) (c : Char) : Scanner :=
  s.endRecord (if c = '\r' then .afterReturn else .recordStart)

/-- Whether the character ends a line. -/
def isLineEnd (c : Char) : Bool := c = '\r' || c = '\n'

/-- Reads `c` at the start of a field. -/
def atFieldStart (s : Scanner) (c : Char) : Scanner :=
  if c = '"' then { s with mode := .quoted }
  else if c = ',' then { s.endField with mode := .fieldStart }
  else if isLineEnd c then s.lineEnd c
  else { s with mode := .plain, field := c :: s.field }

/-- Reads `c` between records. -/
def atRecordStart (s : Scanner) (c : Char) : Scanner :=
  if isLineEnd c then s else s.atFieldStart c

/-- Reads one character, the position already moved past it. -/
def consume (s : Scanner) (c : Char) : Scanner :=
  match s.mode with
  | .recordStart => s.atRecordStart c
  | .fieldStart => s.atFieldStart c
  | .plain =>
    if c = ',' then { s.endField with mode := .fieldStart }
    else if isLineEnd c then s.lineEnd c
    else { s with field := c :: s.field }
  | .quoted =>
    if c = '"' then { s with mode := .quoteSeen } else { s with field := c :: s.field }
  | .quoteSeen =>
    if c = '"' then { s with mode := .quoted, field := c :: s.field }
    else if c = ',' then { s.endField with mode := .fieldStart }
    else if isLineEnd c then s.lineEnd c
    else { s with mode := .plain, field := c :: s.field }
  | .afterReturn =>
    if c = '\n' then { s with mode := .recordStart } else s.atRecordStart c

/-- Moves past `c`: one byte per UTF-8 byte, one line per line feed. -/
def advance (s : Scanner) (c : Char) : Scanner :=
  { s with byte := s.byte + c.utf8Size, line := if c = '\n' then s.line + 1 else s.line }

/-- Reads one character. -/
def step (s : Scanner) (c : Char) : Scanner :=
  (s.advance c).consume c

/-- At the end of the text, a record being read ends there. -/
def finish (s : Scanner) : List Record :=
  match s.mode with
  | .recordStart | .afterReturn => s.emitted.reverse
  | _ => (s.endRecord .recordStart).emitted.reverse

/-- Only a line feed starts a new line. -/
theorem step_line (s : Scanner) (c : Char) :
    (s.step c).line = if c = '\n' then s.line + 1 else s.line := by
  have hc : ∀ t : Scanner, (t.consume c).line = t.line := by
    intro t
    unfold consume atRecordStart atFieldStart lineEnd endRecord endField
    cases t.mode <;> simp only <;> (repeat' split) <;> rfl
  simp [step, hc, advance]

end Scanner

/-- The scanner at the start of a text whose first `skip` bytes are passed over. -/
def Scanner.startingAt (skip : Nat) : Scanner :=
  { byte := skip, start := ⟨0, 1, skip⟩ }

/-- The records of a text, in order. A byte order mark at the very start is passed over:
it is no part of the first record, though its three bytes count in the offsets
(`src/src/csv.rs:30-41`). -/
def records (text : String) : List Record :=
  match text.toList with
  | '\uFEFF' :: rest => (rest.foldl Scanner.step (Scanner.startingAt 3)).finish
  | cs => (cs.foldl Scanner.step {}).finish

namespace Scanner

/-- The reader stands between records: at a record's start, or right after a carriage return
that ended one. -/
def Between (s : Scanner) : Prop := s.mode = .recordStart ∨ s.mode = .afterReturn

/-- A line end read between records keeps the reader between records and ends no record. -/
theorem step_lineEnd {s : Scanner} (hs : s.Between) {c : Char} (hc : isLineEnd c = true) :
    (s.step c).Between ∧ (s.step c).emitted = s.emitted := by
  rcases hs with hs | hs
  · -- at a record's start every line end is skipped
    simp [step, advance, consume, hs, atRecordStart, hc, Between]
  · -- after a carriage return, a line feed completes it and a second return is skipped
    by_cases hn : c = '\n'
    · simp [step, advance, consume, hs, hn, Between]
    · simp [step, advance, consume, hs, hn, atRecordStart, hc, Between]

/-- Line ends read between records, however many, end no record. -/
theorem foldl_lineEnds {cs : List Char} (hcs : ∀ c ∈ cs, isLineEnd c = true) {s : Scanner}
    (hs : s.Between) : (cs.foldl step s).Between ∧ (cs.foldl step s).emitted = s.emitted := by
  induction cs generalizing s with
  | nil => exact ⟨hs, rfl⟩
  | cons c cs ih =>
    obtain ⟨hb, he⟩ := step_lineEnd hs (hcs c (by simp))
    obtain ⟨hb', he'⟩ := ih (fun x hx => hcs x (by simp [hx])) hb
    exact ⟨hb', he'.trans he⟩

/-- A reader that stops between records gives the records it emitted. -/
theorem finish_of_between {s : Scanner} (hs : s.Between) : s.finish = s.emitted.reverse := by
  rcases hs with hs | hs <;> simp [finish, hs]

end Scanner

/-- A text of line ends alone, with or without a byte order mark before them, holds no record:
line ends between records are skipped. -/
theorem records_of_lineEnds (cs : List Char) (h : ∀ c ∈ cs, Scanner.isLineEnd c = true) :
    records (String.ofList cs) = [] ∧ records (String.ofList ('\uFEFF' :: cs)) = [] := by
  have hempty : ∀ s : Scanner, s.Between → s.emitted = [] →
      (cs.foldl Scanner.step s).finish = [] := by
    intro s hs he
    obtain ⟨hb, he'⟩ := Scanner.foldl_lineEnds h hs
    rw [Scanner.finish_of_between hb, he', he]
    rfl
  constructor
  · unfold records
    rw [String.toList_ofList]
    split
    · -- a text of line ends does not open with a byte order mark
      have hmark := h '\uFEFF' (by simp)
      simp [Scanner.isLineEnd] at hmark
    · exact hempty {} (.inl rfl) rfl
  · unfold records
    rw [String.toList_ofList]
    exact hempty _ (.inl rfl) rfl

example : records "" = [] := rfl

example : records "\uFEFF" = [] := rfl

example : records "\r\n\n" = [] := rfl

end Csv

end Remit
