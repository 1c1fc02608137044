/-!
# Decoding UTF-8

Bytes are read as UTF-8 one character at a time: `lead` looks at the front of the bytes
and says which character they begin with and how many bytes it takes, or that no
character begins there. A first byte names the width of its character (one to four
bytes); the second byte of a three- or four-byte character has a narrower range, which
rules out overlong forms, surrogates and code points past U+10FFFF; every later byte is a
continuation byte.

When no character begins at the front, `lead` says how many bytes are given up: the
first byte and the continuation bytes after it that still fit, one to three of them. Bytes
that end in the middle of a character are a cut text.

Two decoders are built on it. `decode` is strict: it stops at the first fault and says
where it is and how long, which is what the error message shows. `decodeLossy` never
fails: each run of bytes given up, and a cut end, becomes one replacement character
U+FFFD.

The main statements: `lead_ascii` (an ASCII byte is its own character) and
`decode_nil` and `decodeLossy_nil`.
-/

set_option autoImplicit false

namespace Remit.Text.Utf8

/-- What the bytes at the front of a text begin with. -/
inductive Lead where
  /-- A character, encoded in `width` bytes. -/
  | char (c : Char) (width : Nat)
  /-- No character: `width` bytes are given up. -/
  | invalid (width : Nat)
  /-- The bytes end inside a character. -/
  | cut
  deriving DecidableEq, Repr

/-- Whether the byte continues a character. -/
def isContinuation (b : Nat) : Bool := 0x80 ≤ b && b < 0xC0

/-- The number of bytes of a character whose first byte is `b`; zero when no character
starts with `b`. -/
def width (b : Nat) : Nat :=
  if b < 0x80 then 1
  else if 0xC2 ≤ b && b ≤ 0xDF then 2
  else if 0xE0 ≤ b && b ≤ 0xEF then 3
  else if 0xF0 ≤ b && b ≤ 0xF4 then 4
  else 0

/-- Whether `c` may stand second in a character of three or four bytes that starts with
`b`. -/
def secondFits (b c : Nat) : Bool :=
  if b = 0xE0 then 0xA0 ≤ c && c ≤ 0xBF
  else if b = 0xED then 0x80 ≤ c && c ≤ 0x9F
  else if b = 0xF0 then 0x90 ≤ c && c ≤ 0xBF
  else if b = 0xF4 then 0x80 ≤ c && c ≤ 0x8F
  else isContinuation c

/-- The character that the bytes begin with, or why none does. -/
def lead : List Nat → Lead
  | [] => .cut
  | b :: rest =>
    match width b, rest with
    | 1, _ => .char (Char.ofNat b) 1
    | 2, c :: _ =>
      if isContinuation c then .char (Char.ofNat ((b - 0xC0) * 64 + (c - 0x80))) 2
      else .invalid 1
    | 3, c :: more =>
      if !secondFits b c then .invalid 1
      else
        match more with
        | d :: _ =>
          if isContinuation d then
            .char (Char.ofNat ((b - 0xE0) * 4096 + (c - 0x80) * 64 + (d - 0x80))) 3
          else .invalid 2
        | [] => .cut
    | 4, c :: more =>
      if !secondFits b c then .invalid 1
      else
        match more with
        | d :: e :: _ =>
          if !isContinuation d then .invalid 2
          else if !isContinuation e then .invalid 3
          else
            .char (Char.ofNat ((b - 0xF0) * 262144 + (c - 0x80) * 4096 + (d - 0x80) * 64 +
              (e - 0x80))) 4
        | [d] => if isContinuation d then .cut else .invalid 2
        | [] => .cut
    | 0, _ => .invalid 1
    | _, _ => .cut

/-- Where strict decoding fails: the bytes before `validUpTo` are sound, and
`errorLength` bytes from there are given up, or none when the text is cut. -/
structure Fault where
  validUpTo : Nat
  errorLength : Option Nat
  deriving DecidableEq, Repr

/-- The sentence that describes the fault. -/
def Fault.message : Fault → String
  | ⟨v, some n⟩ => "invalid utf-8 sequence of " ++ toString n ++ " bytes from index " ++ toString v
  | ⟨v, none⟩ => "incomplete utf-8 byte sequence from index " ++ toString v

/-- Decodes the bytes, which start at `offset` in the text, up to the first fault. -/
def decodeFrom (offset : Nat) : List Nat → Except Fault (List Char)
  | [] => .ok []
  | b :: rest =>
    match lead (b :: rest) with
    | .char c n => (decodeFrom (offset + n) (rest.drop (n - 1))).map (c :: ·)
    | .invalid n => .error ⟨offset, some n⟩
    | .cut => .error ⟨offset, none⟩
termination_by bs => bs.length

/-- Decodes the bytes, replacing each run given up by U+FFFD. -/
def decodeLossyFrom : List Nat → List Char
  | [] => []
  | b :: rest =>
    match lead (b :: rest) with
    | .char c n => c :: decodeLossyFrom (rest.drop (n - 1))
    | .invalid n => '\uFFFD' :: decodeLossyFrom (rest.drop (n - 1))
    | .cut => ['\uFFFD']
termination_by bs => bs.length

/-- The text that the bytes encode, or the first fault. -/
def decode (bytes : List Nat) : Except Fault String :=
  (decodeFrom 0 bytes).map String.ofList

/-- The text that the bytes encode, with U+FFFD for every fault. -/
def decodeLossy (bytes : List Nat) : String :=
  String.ofList (decodeLossyFrom bytes)

/-- An ASCII byte is its own character. -/
theorem lead_ascii (b : Nat) (rest : List Nat) (h : b < 0x80) :
    lead (b :: rest) = .char (Char.ofNat b) 1 := by
  simp [lead, width, h]

/-- No bytes decode to the empty text. -/
theorem decode_nil : decode [] = .ok "" := by
  simp [decode, decodeFrom, Except.map]

/-- No bytes decode, replacing what is not UTF-8, to the empty text. -/
theorem decodeLossy_nil : decodeLossy [] = "" := by
  simp [decodeLossy, decodeLossyFrom]

end Remit.Text.Utf8
