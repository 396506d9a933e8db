import DocGraft.Json
import DocGraft.Number.Digit
import DocGraft.Proofs.LineClasses
import DocGraft.Proofs.TextValues

/-!
# Reading JSON

A strict reader of JSON texts. It takes no control character inside quotes, no half of a surrogate
pair without the other, no zero in front of other digits and no comma behind a last item. It reads
every string as it was written, whatever characters that has, and every whole number that is not too
long.
-/

namespace DocGraft.Json

/-! ### Spaces -/

def isSpace (c : Char) : Bool := c = ' ' || c = '\t' || c = '\n' || c = '\r'

def skip (t : Text) : Text := t.dropWhile isSpace

/-! ### Strings -/

def readUnit? : Text → Option (Nat × Text)
  | a :: b :: c :: d :: rest => do
    let digits := [← Number.hexValue? a, ← Number.hexValue? b, ← Number.hexValue? c,
      ← Number.hexValue? d]
    return (Number.ofDigits 16 digits, rest)
  | _ => none

def isHighSurrogate (n : Nat) : Bool := 0xD800 ≤ n && n < 0xDC00

def isLowSurrogate (n : Nat) : Bool := 0xDC00 ≤ n && n < 0xE000

/-- The character whose number stands behind `\u`. Above U+FFFF there are two numbers. -/
def readNumbered? (t : Text) : Option (Char × Text) := do
  let (high, behind) ← readUnit? t
  if isHighSurrogate high then
    let (low, rest) ← readUnit? (← Text.after? ['\\', 'u'] behind)
    if isLowSurrogate low then
      return (Char.ofNat (0x10000 + (high - 0xD800) * 0x400 + (low - 0xDC00)), rest)
    else none
  else if isLowSurrogate high then none
  else return (Char.ofNat high, behind)

/-- The characters that a letter or a mark behind a backslash stands for. -/
def escapes : List (Char × Char) :=
  [('"', '"'), ('\\', '\\'), ('/', '/'), ('b', '\x08'), ('f', '\x0c'), ('n', '\n'), ('r', '\r'),
    ('t', '\t')]

/-- A character inside quotes. -/
def readChar? : Text → Option (Char × Text)
  | '\\' :: 'u' :: rest => readNumbered? rest
  | '\\' :: letter :: rest => (escapes.lookup letter).map fun c => (c, rest)
  | c :: rest => if c = '"' || c = '\\' || c.toNat < 0x20 then none else some (c, rest)
  | [] => none

/-- The characters up to the closing quote. -/
def readChars? : (fuel : Nat) → Text → Option (Text × Text)
  | 0, _ => none
  | _ + 1, '"' :: rest => some ([], rest)
  | fuel + 1, t => do
    let (c, behind) ← readChar? t
    let (s, rest) ← readChars? fuel behind
    return (c :: s, rest)

def readString? : Text → Option (String × Text)
  | '"' :: t => (readChars? t.length t).map fun (s, rest) => (String.ofList s, rest)
  | _ => none

/-! ### Words and numbers -/

def words : List (String × Value) := [("null", .null), ("true", .bool true), ("false", .bool false)]

def readWord? (t : Text) : Option (Value × Text) :=
  words.findSome? fun (word, v) => (Text.after? word.toList t).map fun rest => (v, rest)

def isNumberChar (c : Char) : Bool := c.isDigit || c ∈ "+-.eE".toList

def areDigits (t : Text) : Bool := !t.isEmpty && t.all Char.isDigit

/-- Digits without a zero in front of them. -/
def isWhole (t : Text) : Bool := t = ['0'] || areDigits t && t.head? ≠ some '0'

/-- An exponent, which may be left out. -/
def isExponent : Text → Bool
  | [] => true
  | mark :: rest => Number.isExponentMark mark && areDigits (Number.signed rest).2

/-- The places behind a point and an exponent, either of which may be left out. -/
def isFraction : Text → Bool
  | '.' :: rest =>
    areDigits (rest.takeWhile Char.isDigit) && isExponent (rest.dropWhile Char.isDigit)
  | t => isExponent t

/-- A number. It is whole if it has neither a point nor an exponent. -/
def readNumber? (t : Text) : Option (Value × Text) :=
  let number := t.takeWhile isNumberChar
  let rest := t.dropWhile isNumberChar
  let body := (Text.after? ['-'] number).getD number
  let behind := body.dropWhile Char.isDigit
  if !isWhole (body.takeWhile Char.isDigit) then none
  else if behind.isEmpty then (Number.readInt? number).map fun n => (.int n, rest)
  else if isFraction behind then (Number.readFloat? number).map fun x => (.float x, rest)
  else none

/-! ### Values -/

/-- One or more parts with commas between them, up to the closing bracket. -/
def readParts? {α : Type} (read? : Text → Option (α × Text)) (close : Char) :
    (fuel : Nat) → Text → Option (List α × Text)
  | 0, _ => none
  | fuel + 1, t => do
    let (part, behind) ← read? (skip t)
    match skip behind with
    | [] => none
    | c :: rest =>
      if c = ',' then
        let (parts, rest) ← readParts? read? close fuel rest
        return (part :: parts, rest)
      else if c = close then return ([part], rest)
      else none

/-- The parts between brackets, of which the first one is read. -/
def readBracket? {α : Type} (read? : Text → Option (α × Text)) (close : Char) (t : Text) :
    Option (List α × Text) :=
  match Text.after? [close] (skip t) with
  | some rest => some ([], rest)
  | none => readParts? read? close t.length t

def readPair? (read? : Text → Option (Value × Text)) (t : Text) :
    Option ((String × Value) × Text) := do
  let (key, behind) ← readString? t
  let more ← Text.after? [':'] (skip behind)
  let (value, rest) ← read? (skip more)
  return ((key, value), rest)

/-- The table of some entries. Of entries with one key the last one counts. -/
def tableOf (entries : List (String × Value)) : Table :=
  entries.foldl (fun t e => t.set e.1 e.2) []

/-- A value at the start of a text, and what is behind it; `fuel` bounds the depth of brackets. -/
def readValue? : (fuel : Nat) → Text → Option (Value × Text)
  | 0, _ => none
  | fuel + 1, t =>
    match t with
    | '"' :: _ => (readString? t).map fun (s, rest) => (.text s, rest)
    | '[' :: inner => (readBracket? (readValue? fuel) ']' inner).map fun (items, rest) =>
      (.list items, rest)
    | '\x7b' :: inner => (readBracket? (readPair? (readValue? fuel)) '\x7d' inner).map
      fun (entries, rest) => (.table (tableOf entries), rest)
    | _ => (readWord? t).or (readNumber? t)

/-- The value that a text spells, with nothing but spaces around it. -/
def decode? (t : Text) : Option Value := do
  let (v, rest) ← readValue? (t.length + 1) (skip t)
  if (skip rest).isEmpty then some v else none

variable {c : Char} {t rest tail : Text} {v : Value} {level fuel n : Nat}

/-! ### Characters that are read back -/

lemma hexValue?_digitChar (h : n < 16) : Number.hexValue? (Nat.digitChar n) = some n := by
  have hall : ∀ n < 16, Number.hexValue? (Nat.digitChar n) = some n := by decide
  exact hall n h

lemma hexDigits_four (n : Nat) : Text.hexDigits 4 n =
    [Nat.digitChar (n / 4096 % 16), Nat.digitChar (n / 256 % 16), Nat.digitChar (n / 16 % 16),
      Nat.digitChar (n % 16)] := by
  simp [Text.hexDigits, Nat.div_div_eq_div_mul]

lemma readUnit?_hexDigits (h : n < 0x10000) (rest : Text) :
    readUnit? (Text.hexDigits 4 n ++ rest) = some (n, rest) := by
  have hdigit : ∀ m, Number.hexValue? (Nat.digitChar (m % 16)) = some (m % 16) :=
    fun m => hexValue?_digitChar (Nat.mod_lt m (by decide))
  have hvalue : Number.ofDigits 16 [n / 4096 % 16, n / 256 % 16, n / 16 % 16, n % 16] = n := by
    simp only [Number.ofDigits, List.foldl_cons, List.foldl_nil]
    omega
  rw [hexDigits_four]
  simp only [List.cons_append, List.nil_append, readUnit?, hdigit, Option.bind_eq_bind,
    Option.bind_some, Option.pure_def, hvalue]

/-- The numbers of characters are those of no surrogate. -/
lemma toNat_cases (c : Char) : c.toNat < 0xD800 ∨ 0xE000 ≤ c.toNat ∧ c.toNat < 0x110000 := by
  rcases c.valid with h | ⟨hlow, hhigh⟩
  · exact .inl h
  · exact .inr ⟨hlow, hhigh⟩

lemma readNumbered?_unit (h : c.toNat < 0x10000) (rest : Text) :
    readNumbered? (Text.hexDigits 4 c.toNat ++ rest) = some (c, rest) := by
  have hcases := toNat_cases c
  have hhigh : isHighSurrogate c.toNat = false := by
    rw [isHighSurrogate, Bool.and_eq_false_iff, decide_eq_false_iff_not, decide_eq_false_iff_not]
    omega
  have hlow : isLowSurrogate c.toNat = false := by
    rw [isLowSurrogate, Bool.and_eq_false_iff, decide_eq_false_iff_not, decide_eq_false_iff_not]
    omega
  simp only [readNumbered?, readUnit?_hexDigits h, Option.bind_eq_bind, Option.bind_some, hhigh,
    hlow, Bool.false_eq_true, if_false, Char.ofNat_toNat, Option.pure_def]

lemma readNumbered?_pair {high low : Nat} (hhigh : 0xD800 ≤ high ∧ high < 0xDC00)
    (hlow : 0xDC00 ≤ low ∧ low < 0xE000)
    (hsum : 0x10000 + (high - 0xD800) * 0x400 + (low - 0xDC00) = c.toNat) (rest : Text) :
    readNumbered? (Text.hexDigits 4 high ++ (unitEscape low ++ rest)) = some (c, rest) := by
  have hafter : Text.after? ['\\', 'u'] (unitEscape low ++ rest) =
      some (Text.hexDigits 4 low ++ rest) :=
    Text.after?_eq_some_iff.mpr (by rw [unitEscape, List.append_assoc])
  have hfirst : isHighSurrogate high = true := by simpa [isHighSurrogate] using hhigh
  have hsecond : isLowSurrogate low = true := by simpa [isLowSurrogate] using hlow
  simp only [readNumbered?, readUnit?_hexDigits (by omega : high < 0x10000), Option.bind_eq_bind,
    Option.bind_some, hfirst, if_true, hafter, readUnit?_hexDigits (by omega : low < 0x10000),
    hsecond, hsum, Char.ofNat_toNat, Option.pure_def]

lemma readChar?_unitEscape (n : Nat) (rest : Text) :
    readChar? (unitEscape n ++ rest) = readNumbered? (Text.hexDigits 4 n ++ rest) := rfl

lemma readChar?_escapeChar (c : Char) (rest : Text) :
    readChar? (escapeChar c ++ rest) = some (c, rest) := by
  have hsame : ∀ d : Char, c.toNat = d.toNat → c = d := fun d h => by
    rw [← Char.ofNat_toNat c, h, Char.ofNat_toNat]
  dsimp only [escapeChar]
  split_ifs with hmark hfeed hreturn htab hback hform hplain hunit
  · simp only [Bool.or_eq_true, decide_eq_true_eq] at hmark
    rcases hmark with rfl | rfl
    · rfl
    · rfl
  · subst hfeed; rfl
  · subst hreturn; rfl
  · subst htab; rfl
  · obtain rfl := hsame '\x08' hback
    rfl
  · obtain rfl := hsame '\x0c' hform
    rfl
  · simp only [Bool.and_eq_true, decide_eq_true_eq] at hplain
    simp only [Bool.or_eq_true, decide_eq_true_eq, not_or] at hmark
    have hlow : ¬c.toNat < 0x20 := by omega
    rw [List.singleton_append, readChar?.eq_def]
    split
    · next heq => exact absurd (List.cons.inj heq).1 hmark.2
    · next heq => exact absurd (List.cons.inj heq).1 hmark.2
    · next d more _ _ heq =>
      obtain ⟨rfl, rfl⟩ := List.cons.inj heq
      simp [hmark.1, hmark.2, hlow]
    · next heq => exact absurd heq (List.cons_ne_nil _ _)
  · rw [readChar?_unitEscape, readNumbered?_unit hunit]
  · have hcases := toNat_cases c
    rw [List.append_assoc, readChar?_unitEscape]
    exact readNumbered?_pair (by omega) (by omega) (by omega) rest

lemma escapeChar_eq_cons (c : Char) : ∃ d t, escapeChar c = d :: t ∧ d ≠ '"' := by
  dsimp only [escapeChar]
  split_ifs with hmark
  case pos => exact ⟨'\\', [c], rfl, by decide⟩
  case pos => exact ⟨'\\', ['n'], rfl, by decide⟩
  case pos => exact ⟨'\\', ['r'], rfl, by decide⟩
  case pos => exact ⟨'\\', ['t'], rfl, by decide⟩
  case pos => exact ⟨'\\', ['b'], rfl, by decide⟩
  case pos => exact ⟨'\\', ['f'], rfl, by decide⟩
  case pos =>
    simp only [Bool.or_eq_true, decide_eq_true_eq, not_or] at hmark
    exact ⟨c, [], rfl, hmark.1⟩
  case pos => exact ⟨'\\', _, rfl, by decide⟩
  case neg => exact ⟨'\\', _, rfl, by decide⟩

lemma readChars?_flatMap {s : Text} (h : s.length < fuel) (rest : Text) :
    readChars? fuel (s.flatMap escapeChar ++ '"' :: rest) = some (s, rest) := by
  induction s generalizing fuel with
  | nil =>
    obtain ⟨fuel, rfl⟩ := Nat.exists_eq_succ_of_ne_zero (Nat.ne_of_gt h)
    rfl
  | cons c s ih =>
    obtain ⟨fuel, rfl⟩ := Nat.exists_eq_succ_of_ne_zero (Nat.ne_zero_of_lt h)
    have hfuel : s.length < fuel := Nat.lt_of_succ_lt_succ h
    have hread := readChar?_escapeChar c (s.flatMap escapeChar ++ '"' :: rest)
    obtain ⟨d, t, hcons, hd⟩ := escapeChar_eq_cons c
    rw [List.flatMap_cons, List.append_assoc, readChars?.eq_3, hread]
    · simp [ih hfuel]
    · intro more heq
      rw [hcons, List.cons_append] at heq
      exact hd (List.cons.inj heq).1

lemma length_le_flatMap (s : Text) : s.length ≤ (s.flatMap escapeChar).length := by
  induction s with
  | nil => exact Nat.le_refl 0
  | cons c s ih =>
    obtain ⟨d, t, hcons, -⟩ := escapeChar_eq_cons c
    rw [List.flatMap_cons, List.length_append, hcons, List.length_cons, List.length_cons]
    omega

lemma string_append (t rest : Text) :
    string t ++ rest = '"' :: (t.flatMap escapeChar ++ '"' :: rest) := by
  simp [string]

lemma readString?_string (s : String) (rest : Text) :
    readString? (string s.toList ++ rest) = some (s, rest) := by
  have hfuel : s.toList.length < (s.toList.flatMap escapeChar ++ '"' :: rest).length := by
    have := length_le_flatMap s.toList
    rw [List.length_append, List.length_cons]
    omega
  simp only [string_append, readString?, readChars?_flatMap hfuel, Option.map_some,
    String.ofList_toList]

/-! ### Numbers that are read back -/

/-- A text that goes on with no character of a number. -/
def Ends (rest : Text) : Prop := ∀ c ∈ rest.head?, isNumberChar c = false

lemma takeWhile_eq_nil (h : Ends rest) : rest.takeWhile isNumberChar = [] := by
  cases rest with
  | nil => rfl
  | cons c rest => exact List.takeWhile_cons_of_neg (by simp [h c rfl])

lemma takeWhile_number (ht : ∀ c ∈ t, isNumberChar c = true) (hrest : Ends rest) :
    (t ++ rest).takeWhile isNumberChar = t ∧ (t ++ rest).dropWhile isNumberChar = rest := by
  have hnil := takeWhile_eq_nil hrest
  have hsplit := List.takeWhile_append_dropWhile (p := isNumberChar) (l := rest)
  rw [hnil, List.nil_append] at hsplit
  rw [List.takeWhile_append_of_pos ht, List.dropWhile_append_of_pos ht, hnil, hsplit,
    List.append_nil]
  exact ⟨rfl, rfl⟩

lemma head?_toDigits_ne_zero (h : 0 < n) : (Nat.toDigits 10 n).head? ≠ some '0' := by
  induction n using Nat.strongRecOn with
  | ind n ih =>
    rcases Nat.lt_or_ge n 10 with hlow | hhigh
    · rw [Nat.toDigits_of_lt_base hlow]
      have hall : ∀ n < 10, 0 < n → [Nat.digitChar n].head? ≠ some '0' := by decide
      exact hall n hlow h
    · rw [Nat.toDigits_of_base_le (by decide) hhigh,
        List.head?_append_of_ne_nil _ Nat.toDigits_ne_nil]
      exact ih (n / 10) (by omega) (by omega)

lemma isWhole_toDigits (n : Nat) : isWhole (Nat.toDigits 10 n) = true := by
  rcases Nat.eq_zero_or_pos n with rfl | hn
  · rfl
  · have hempty : (Nat.toDigits 10 n).isEmpty = false := by simp
    have hall : (Nat.toDigits 10 n).all Char.isDigit = true :=
      List.all_eq_true.mpr fun c hc => Number.isDigit_of_mem_toDigits hc
    simp [isWhole, areDigits, hempty, hall, head?_toDigits_ne_zero hn]

lemma isNumberChar_of_mem {n : Int} (h : c ∈ (toString n).toList) : isNumberChar c = true := by
  rcases Number.eq_minus_or_isDigit h with rfl | hdigit
  · decide
  · rw [isNumberChar, hdigit, Bool.true_or]

lemma after?_minus (n : Int) : (Text.after? ['-'] (toString n).toList).getD (toString n).toList =
    Nat.toDigits 10 n.natAbs := by
  rw [Number.toList_toString]
  by_cases hn : n < 0
  · rw [if_pos hn, Text.after?_eq_some_iff.mpr rfl, Option.getD_some]
  · have hnone : Text.after? ['-'] (Nat.toDigits 10 n.natAbs) = none := by
      apply Option.eq_none_iff_forall_not_mem.mpr
      intro rest hrest
      have hmem : '-' ∈ Nat.toDigits 10 n.natAbs := by
        rw [Text.after?_eq_some_iff.mp hrest]
        exact List.mem_cons_self
      exact absurd (Number.isDigit_of_mem_toDigits hmem) (by decide)
    rw [if_neg hn, List.nil_append, hnone, Option.getD_none]

lemma readNumber?_toString {n : Int} (hn : (Nat.toDigits 10 n.natAbs).length ≤ Number.longest)
    (hrest : Ends rest) : readNumber? ((toString n).toList ++ rest) = some (.int n, rest) := by
  obtain ⟨htake, hdrop⟩ := takeWhile_number (fun c hc => isNumberChar_of_mem (n := n) hc) hrest
  have hdigits : ∀ c ∈ Nat.toDigits 10 n.natAbs, c.isDigit = true :=
    fun c hc => Number.isDigit_of_mem_toDigits hc
  have hwhole : (Nat.toDigits 10 n.natAbs).takeWhile Char.isDigit = Nat.toDigits 10 n.natAbs :=
    List.takeWhile_eq_self_iff.mpr hdigits
  have hnone : (Nat.toDigits 10 n.natAbs).dropWhile Char.isDigit = [] :=
    List.dropWhile_eq_nil_iff.mpr hdigits
  simp only [readNumber?, htake, hdrop, after?_minus, hwhole, hnone, isWhole_toDigits,
    Number.readInt?_toString hn, List.isEmpty_nil, Bool.not_true, Bool.false_eq_true, if_false,
    if_true, Option.map_some]

end DocGraft.Json
