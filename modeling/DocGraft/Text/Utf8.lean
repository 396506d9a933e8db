import DocGraft.Text.Basic

/-!
# UTF-8

Decoding takes the bytes one character at a time. A fault is reported with the longest run of bytes
that could still have become a character, its place, and what was wrong after it. Decoding with
replacement puts one U+FFFD in the place of each such run.
-/

namespace DocGraft.Utf8

inductive Cause
  /-- No character starts with this byte. -/
  | start
  /-- The next byte does not continue the character. -/
  | continuation
  /-- The bytes end inside a character. -/
  | ending
  deriving DecidableEq, Repr

def Cause.describe : Cause → String
  | .start => "invalid start byte"
  | .continuation => "invalid continuation byte"
  | .ending => "unexpected end of data"

/-- The bytes from `position` on, `length` of them, start a character and do not finish it. -/
structure Fault where
  first : UInt8
  position : Nat
  length : Nat
  cause : Cause
  deriving DecidableEq, Repr

def Fault.message (f : Fault) : String :=
  let place :=
    if f.length = 1 then
      let code := String.ofList (['0', 'x'] ++
        [Nat.digitChar (f.first.toNat / 16), Nat.digitChar (f.first.toNat % 16)])
      "byte " ++ code ++ " in position " ++ toString f.position
    else
      "bytes in position " ++ toString f.position ++ "-" ++ toString (f.position + f.length - 1)
  "'utf-8' codec can't decode " ++ place ++ ": " ++ f.cause.describe

/-- How many bytes follow a first byte, which bits it gives, and in which interval the next byte
has to lie: the interval keeps out long forms, surrogates and numbers above the last code point. -/
structure Lead where
  more : Nat
  bits : Nat
  low : Nat
  high : Nat

def lead? (b : UInt8) : Option Lead :=
  let n := b.toNat
  if n < 0x80 then some ⟨0, n, 0x80, 0xBF⟩
  else if n < 0xC2 then none
  else if n < 0xE0 then some ⟨1, n - 0xC0, 0x80, 0xBF⟩
  else if n = 0xE0 then some ⟨2, 0, 0xA0, 0xBF⟩
  else if n = 0xED then some ⟨2, 0xD, 0x80, 0x9F⟩
  else if n < 0xF0 then some ⟨2, n - 0xE0, 0x80, 0xBF⟩
  else if n = 0xF0 then some ⟨3, 0, 0x90, 0xBF⟩
  else if n < 0xF4 then some ⟨3, n - 0xF0, 0x80, 0xBF⟩
  else if n = 0xF4 then some ⟨3, 4, 0x80, 0x8F⟩
  else none

/-- What comes of reading the bytes after a first byte: the character, or why the next byte did not
fit; in both cases how many bytes were taken, the first one included, and what follows them. -/
inductive Tail
  | done (code taken : Nat) (rest : List UInt8)
  | stuck (taken : Nat) (cause : Cause) (rest : List UInt8)

def tail : (more code low high taken : Nat) → List UInt8 → Tail
  | 0, code, _, _, taken, rest => .done code taken rest
  | _ + 1, _, _, _, taken, [] => .stuck taken .ending []
  | more + 1, code, low, high, taken, b :: rest =>
    if low ≤ b.toNat && b.toNat ≤ high then
      tail more (code * 64 + (b.toNat - 0x80)) 0x80 0xBF (taken + 1) rest
    else .stuck taken .continuation (b :: rest)

/-- One character, or the run of bytes that is none; `rest` is what follows in both cases. -/
inductive Step
  | char (c : Char) (length : Nat) (rest : List UInt8)
  | bad (length : Nat) (cause : Cause) (rest : List UInt8)

def Step.rest : Step → List UInt8
  | .char _ _ rest => rest
  | .bad _ _ rest => rest

def step (b : UInt8) (bytes : List UInt8) : Step :=
  match lead? b with
  | none => .bad 1 .start bytes
  | some l =>
    match tail l.more l.bits l.low l.high 1 bytes with
    | .done code taken rest => .char (Char.ofNat code) taken rest
    | .stuck taken cause rest => .bad taken cause rest

def Tail.rest : Tail → List UInt8
  | .done _ _ rest => rest
  | .stuck _ _ rest => rest

theorem tail_rest_length_le (more code low high taken : Nat) (bytes : List UInt8) :
    (tail more code low high taken bytes).rest.length ≤ bytes.length := by
  induction more generalizing code low high taken bytes with
  | zero => simp [tail, Tail.rest]
  | succ more ih =>
    cases bytes with
    | nil => simp [tail, Tail.rest]
    | cons b rest =>
      simp only [tail]
      split
      · exact Nat.le_succ_of_le (ih _ _ _ _ _)
      · simp [Tail.rest]

theorem step_rest_length_le (b : UInt8) (bytes : List UInt8) :
    (step b bytes).rest.length ≤ bytes.length := by
  unfold step
  split
  · simp [Step.rest]
  · next l _ =>
    have h := tail_rest_length_le l.more l.bits l.low l.high 1 bytes
    split
    · next heq => rw [heq] at h; simpa [Step.rest, Tail.rest] using h
    · next heq => rw [heq] at h; simpa [Step.rest, Tail.rest] using h

/-- Decodes bytes that begin at `position` of their file. -/
def decodeFrom (position : Nat) : List UInt8 → Except Fault Text
  | [] => .ok []
  | b :: bytes =>
    match h : step b bytes with
    | .char c length rest =>
      have : rest.length ≤ bytes.length := by
        have := step_rest_length_le b bytes; rw [h] at this; exact this
      match decodeFrom (position + length) rest with
      | .ok t => .ok (c :: t)
      | .error f => .error f
    | .bad length cause _ => .error ⟨b, position, length, cause⟩
  termination_by bytes => bytes.length
  decreasing_by simp_wf; omega

def decode (bytes : List UInt8) : Except Fault Text := decodeFrom 0 bytes

def replacement : Char := Char.ofNat 0xFFFD

/-- Decodes with one replacement character for each run of bytes that is no character. -/
def decodeLossy : List UInt8 → Text
  | [] => []
  | b :: bytes =>
    have := step_rest_length_le b bytes
    (match step b bytes with
      | .char c _ _ => c
      | .bad _ _ _ => replacement) :: decodeLossy (step b bytes).rest
  termination_by bytes => bytes.length
  decreasing_by simp_wf; omega

def encodeChar (c : Char) : List UInt8 :=
  let n := c.toNat
  if n < 0x80 then [n.toUInt8]
  else if n < 0x800 then [(0xC0 + n / 64).toUInt8, (0x80 + n % 64).toUInt8]
  else if n < 0x10000 then
    [(0xE0 + n / 4096).toUInt8, (0x80 + n / 64 % 64).toUInt8, (0x80 + n % 64).toUInt8]
  else
    [(0xF0 + n / 262144).toUInt8, (0x80 + n / 4096 % 64).toUInt8, (0x80 + n / 64 % 64).toUInt8,
      (0x80 + n % 64).toUInt8]

def encode (t : Text) : List UInt8 := t.flatMap encodeChar

end DocGraft.Utf8
