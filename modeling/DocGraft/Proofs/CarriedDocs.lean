import DocGraft.Bookend.DocAttribute
import DocGraft.Proofs.LineClasses
import DocGraft.Proofs.TextLines
import Mathlib.Data.List.TakeWhile

/-!
# Carried doc comments

A doc comment is carried in an attribute by escaping its quotes and backslashes. Uncarrying gives
the comment back, whatever blanks stand between the tokens of the attribute. In any line it changes,
it puts a comment behind the indentation, so it makes neither a marker nor a line break.
-/

namespace DocGraft

namespace Text

/-- All characters are blanks. -/
def Blank (t : Text) : Prop := ∀ c ∈ t, isBlankChar c = true

instance : DecidablePred Blank := fun _ => decidable_of_iff _ List.all_eq_true

lemma blank_indent (t : Text) : Blank (indent t) := fun _ hc => List.mem_takeWhile_imp hc

lemma squash_append (s t : Text) : squash (s ++ t) = squash s ++ squash t := List.filter_append ..

lemma Blank.squash_eq {pad : Text} (h : Blank pad) : squash pad = [] :=
  squash_eq_nil_of_isBlank (List.all_eq_true.mpr h)

lemma squash_indent_append (l t : Text) : squash (indent l ++ t) = squash t := by
  rw [squash_append, (blank_indent l).squash_eq, List.nil_append]

lemma indent_append_trimLeft (t : Text) : indent t ++ trimLeft t = t :=
  List.takeWhile_append_dropWhile

lemma trimLeft_append {pad t : Text} {c : Char} (hpad : Blank pad) (hc : isBlankChar c = false) :
    trimLeft (pad ++ c :: t) = c :: t := by
  rw [trimLeft, List.dropWhile_append_of_pos hpad, List.dropWhile_cons_of_neg (by simp [hc])]

lemma indent_append {pad t : Text} {c : Char} (hpad : Blank pad) (hc : isBlankChar c = false) :
    indent (pad ++ c :: t) = pad := by
  rw [indent, List.takeWhile_append_of_pos hpad, List.takeWhile_cons_of_neg (by simp [hc]),
    List.append_nil]

lemma trimRight_append {pad t : Text} {c : Char} (hpad : Blank pad) (hc : isBlankChar c = false) :
    trimRight (t ++ c :: pad) = t ++ [c] := by
  have hrev : Blank pad.reverse := fun d hd => hpad d (List.mem_reverse.mp hd)
  have h := trimLeft_append (t := t.reverse) hrev hc
  rw [trimLeft] at h
  rw [trimRight, List.reverse_append, List.reverse_cons, List.append_assoc, List.singleton_append, h]
  simp

/-- A text ends in blanks, and before them stands what trimming leaves. -/
lemma exists_trimRight_append (t : Text) : ∃ pad, Blank pad ∧ t = trimRight t ++ pad := by
  refine ⟨(t.reverse.takeWhile isBlankChar).reverse, ?_, ?_⟩
  · intro c hc
    exact List.mem_takeWhile_imp (List.mem_reverse.mp hc)
  · rw [trimRight, ← List.reverse_append, List.takeWhile_append_dropWhile, List.reverse_reverse]

lemma before?_append (tail t : Text) : before? tail (t ++ tail) = some t := by
  have h : after? tail.reverse (t ++ tail).reverse = some t.reverse :=
    after?_eq_some_iff.mpr (List.reverse_append ..)
  rw [before?, h, Option.map_some, List.reverse_reverse]

lemma eq_append_of_before? {tail t rest : Text} (h : before? tail t = some rest) :
    t = rest ++ tail := by
  obtain ⟨back, hback, rfl⟩ := Option.map_eq_some_iff.mp h
  have ht := congrArg List.reverse (after?_eq_some_iff.mp hback)
  simpa using ht

end Text

namespace Bookend

open Text (Blank indent isBlankChar trimLeft trimRight)

/-! ### Tokens -/

lemma afterTokens?_cons {pad : Text} {c : Char} (hpad : Blank pad) (hc : isBlankChar c = false)
    (token t : Text) (tokens : List Text) :
    afterTokens? ((c :: token) :: tokens) (pad ++ c :: token ++ t) = afterTokens? tokens t := by
  rw [afterTokens?, List.append_assoc, List.cons_append, Text.trimLeft_append hpad hc,
    Text.after?_eq_some_iff.mpr (List.cons_append ..).symm, Option.bind_some]

lemma beforeTokens?_cons {pad : Text} {c : Char} (hpad : Blank pad) (hc : isBlankChar c = false)
    (t : Text) (tokens : List Text) :
    beforeTokens? ([c] :: tokens) (t ++ c :: pad) = beforeTokens? tokens t := by
  rw [beforeTokens?, Text.trimRight_append hpad hc, Text.before?_append, Option.bind_some]

/-! ### What uncarrying leaves -/

lemma unescape_subset (t : Text) : unescape t ⊆ t := by
  fun_induction unescape t with
  | case1 => exact fun _ h => h
  | case2 c rest h ih =>
    exact List.Subset.trans (List.cons_subset_cons c ih) (List.subset_cons_self ..)
  | case3 c rest h ih => exact List.cons_subset_cons _ ih
  | case4 c rest h ih => exact List.cons_subset_cons _ ih

lemma trimRight_subset (t : Text) : trimRight t ⊆ t := by
  intro c hc
  exact List.mem_reverse.mp (List.dropWhile_subset _ (List.mem_reverse.mp hc))

lemma closeEmpty_subset (t : Text) : closeEmpty t ⊆ t := by
  unfold closeEmpty
  split
  · exact trimRight_subset t
  · exact fun _ h => h

lemma unescape_cons {c : Char} (h : c ≠ '\\') (t : Text) : unescape (c :: t) = c :: unescape t := by
  rw [unescape]
  intro _ _ hc
  exact absurd hc h

/-- A doc comment, less its indentation: two slashes and one of two characters. -/
lemma isComment_iff {t : Text} : isComment t = true ↔
    ∃ c rest, (c = '/' ∨ c = '!') ∧ t = '/' :: '/' :: c :: rest := by
  rw [isComment, Bool.or_eq_true, List.isPrefixOf_iff_prefix, List.isPrefixOf_iff_prefix]
  constructor
  · rintro (⟨rest, rfl⟩ | ⟨rest, rfl⟩)
    · exact ⟨'/', rest, Or.inl rfl, rfl⟩
    · exact ⟨'!', rest, Or.inr rfl, rfl⟩
  · rintro ⟨c, rest, rfl | rfl, rfl⟩
    · exact Or.inl ⟨rest, rfl⟩
    · exact Or.inr ⟨rest, rfl⟩

lemma unescape_comment {c : Char} (hc : c = '/' ∨ c = '!') (rest : Text) :
    unescape ('/' :: '/' :: c :: rest) = '/' :: '/' :: c :: unescape rest := by
  have hne : c ≠ '\\' := by
    rcases hc with rfl | rfl
    · decide
    · decide
  rw [unescape_cons (by decide), unescape_cons (by decide), unescape_cons hne]

lemma closeEmpty_eq_ite (c : Text) : closeEmpty c =
    if c = "/// ".toList then "///".toList else if c = "//! ".toList then "//!".toList else c := by
  unfold closeEmpty
  by_cases houter : c = "/// ".toList
  · subst houter
    decide
  · by_cases hinner : c = "//! ".toList
    · subst hinner
      decide
    · rw [if_neg houter, if_neg hinner, if_neg]
      simpa using ⟨houter, hinner⟩

lemma closeEmpty_of_isComment {t : Text} (h : isComment t = true) :
    isComment (closeEmpty t) = true := by
  rw [closeEmpty_eq_ite]
  split_ifs
  · decide
  · decide
  · exact h

lemma unescape_of_isComment {t : Text} (h : isComment t = true) :
    isComment (unescape t) = true := by
  obtain ⟨c, rest, hc, rfl⟩ := isComment_iff.mp h
  rw [unescape_comment hc]
  exact isComment_iff.mpr ⟨c, unescape rest, hc, rfl⟩

lemma isComment_of_carried? {l : Line} {content : Text} (h : carried? l = some content) :
    isComment content = true ∧ '\n' ∉ content := by
  obtain ⟨opened, -, h⟩ := Option.bind_eq_some_iff.mp h
  obtain ⟨inner, -, h⟩ := Option.bind_eq_some_iff.mp h
  split at h
  · next hc =>
    obtain rfl := Option.some.inj h
    simpa using hc
  · exact absurd h (by simp)

/-- A line is left as it is, or it becomes a comment behind the same indentation. -/
lemma uncarry_cases (l : Line) : uncarry l = l ∨
    ∃ comment, isComment comment = true ∧ '\n' ∉ comment ∧ uncarry l = indent l ++ comment := by
  unfold uncarry
  cases h : carried? l with
  | none => exact Or.inl rfl
  | some content =>
    obtain ⟨hc, hfeed⟩ := isComment_of_carried? h
    refine Or.inr ⟨closeEmpty (unescape content), ?_, ?_, rfl⟩
    · exact closeEmpty_of_isComment (unescape_of_isComment hc)
    · exact fun hn => hfeed (unescape_subset _ (closeEmpty_subset _ hn))

lemma lead_indent_append {l : Line} {comment : Text} (h : isComment comment = true) :
    Line.lead (indent l ++ comment) = some '/' := by
  obtain ⟨c, rest, -, rfl⟩ := isComment_iff.mp h
  exact Line.lead_of_trimLeft (Text.trimLeft_append (Text.blank_indent l) (by decide))

lemma lead_uncarry {l : Line} (h : uncarry l ≠ l) : Line.lead (uncarry l) = some '/' := by
  rcases uncarry_cases l with hl | ⟨comment, hc, -, hl⟩
  · exact absurd hl h
  · rw [hl, lead_indent_append hc]

lemma not_mem_uncarry {l : Line} (h : '\n' ∉ l) : '\n' ∉ uncarry l := by
  rcases uncarry_cases l with hl | ⟨comment, -, hfeed, hl⟩
  · rwa [hl]
  · rw [hl, List.mem_append, not_or]
    exact ⟨fun hn => h (List.takeWhile_subset _ hn), hfeed⟩

lemma uncarry_ne_nil {l : Line} (h : Line.lead l ≠ none) : uncarry l ≠ [] := by
  intro he
  by_cases hl : uncarry l = l
  · rw [he] at hl
    rw [← hl] at h
    exact h rfl
  · have hlead := lead_uncarry hl
    rw [he] at hlead
    exact absurd hlead (by decide)

lemma isMarker_uncarry {m : Markers} {l : Line} (h : Line.isMarker m (uncarry l) = true) :
    uncarry l = l := by
  by_contra hl
  have hlead := lead_uncarry hl
  rw [Line.lead_of_isMarker h] at hlead
  exact absurd hlead (by decide)

lemma filter_isMarker_map_uncarry (m : Markers) (ls : List Line) :
    ((ls.map uncarry).filter (Line.isMarker m)).Sublist (ls.filter (Line.isMarker m)) := by
  induction ls with
  | nil => exact List.Sublist.refl _
  | cons l ls ih =>
    rw [List.map_cons, List.filter_cons]
    split
    · next h =>
      have hl := isMarker_uncarry h
      rw [hl] at h ⊢
      rw [List.filter_cons, if_pos h]
      exact ih.cons_cons l
    · exact ih.trans ((List.sublist_cons_self l ls).filter _)

lemma pieces_uncarryAll (t : Text) : Text.pieces (uncarryAll t) = (Text.pieces t).map uncarry := by
  apply Text.pieces_unpieces
  · intro l hl
    obtain ⟨k, hk, rfl⟩ := List.mem_map.mp hl
    exact not_mem_uncarry (Text.not_mem_of_mem_pieces hk)
  · simpa using Text.pieces_ne_nil t

/-! ### Carrying -/

/-- Puts a backslash before each backslash and each quote. -/
def escape (t : Text) : Text := t.flatMap fun c => if c = '\\' ∨ c = '"' then ['\\', c] else [c]

/-- The attribute that carries a doc comment. -/
def carry (l : Line) : Line :=
  indent l ++ ['#', '[', 'd', 'o', 'c', ' ', '=', ' ', '"'] ++ escape (trimLeft l) ++ ['"', ']']

lemma escape_cons {c : Char} (h : ¬(c = '\\' ∨ c = '"')) (t : Text) :
    escape (c :: t) = c :: escape t := by
  rw [escape, List.flatMap_cons, if_neg h]
  rfl

lemma escape_cons_of_eq {c : Char} (h : c = '\\' ∨ c = '"') (t : Text) :
    escape (c :: t) = '\\' :: c :: escape t := by
  rw [escape, List.flatMap_cons, if_pos h]
  rfl

lemma unescape_escape (t : Text) : unescape (escape t) = t := by
  induction t with
  | nil => rfl
  | cons c t ih =>
    by_cases h : c = '\\' ∨ c = '"'
    · have hc : (c == '"' || c == '\'' || c == '\\') = true := by
        rcases h with rfl | rfl
        · decide
        · decide
      rw [escape_cons_of_eq h, unescape, if_pos hc, ih]
    · rw [escape_cons h, unescape_cons fun hc => h (Or.inl hc), ih]

lemma not_mem_escape {t : Text} {c : Char} (hc : c ≠ '\\') (h : c ∉ t) : c ∉ escape t := by
  intro hm
  obtain ⟨d, hd, hcd⟩ := List.mem_flatMap.mp hm
  have hne : c ≠ d := fun he => h (he ▸ hd)
  split at hcd
  · simp [hc, hne] at hcd
  · simp [hne] at hcd

lemma escape_of_isComment {t : Text} (h : isComment t = true) : isComment (escape t) = true := by
  obtain ⟨c, rest, hc, rfl⟩ := isComment_iff.mp h
  have hne : ¬(c = '\\' ∨ c = '"') := by
    rcases hc with rfl | rfl
    · decide
    · decide
  rw [escape_cons (by decide), escape_cons (by decide), escape_cons hne]
  exact isComment_iff.mpr ⟨c, escape rest, hc, rfl⟩

lemma isComment_trimLeft {l : Line} (h : Line.isDocComment l = true) :
    isComment (trimLeft l) = true := by
  apply Bool.or_eq_true_iff.mpr
  rcases Bool.or_eq_true_iff.mp h with h | h
  · exact Or.inl (Bool.and_eq_true_iff.mp h).1
  · exact Or.inr h

/-! ### Spellings of a doc attribute -/

/-- The blanks of a doc attribute: before and between its tokens, and behind the last of them. -/
structure Spacing where
  indent : Text
  beforeBracket : Text
  beforeName : Text
  beforeSign : Text
  beforeLiteral : Text
  beforeClose : Text
  behind : Text
  blank : ∀ pad ∈ [indent, beforeBracket, beforeName, beforeSign, beforeLiteral, beforeClose, behind],
    Blank pad

namespace Spacing

variable (s : Spacing) {literal : Text}

/-- The attribute up to the quote that opens its literal. -/
def opening : Text :=
  s.indent ++ '#' :: [] ++ (s.beforeBracket ++ '[' :: [] ++ (s.beforeName ++ 'd' :: ['o', 'c'] ++
    (s.beforeSign ++ '=' :: [] ++ (s.beforeLiteral ++ '"' :: []))))

/-- The attribute from the quote on that closes its literal. -/
def closing : Text := '"' :: s.beforeClose ++ ']' :: s.behind

/-- The doc attribute with this literal between its quotes. -/
def write (literal : Text) : Line := s.opening ++ (literal ++ s.closing)

lemma afterTokens?_opening (t : Text) :
    afterTokens? [['#'], ['['], ['d', 'o', 'c'], ['='], ['"']] (s.opening ++ t) = some t := by
  have h : s.opening ++ t = s.indent ++ '#' :: [] ++ (s.beforeBracket ++ '[' :: [] ++
      (s.beforeName ++ 'd' :: ['o', 'c'] ++ (s.beforeSign ++ '=' :: [] ++
        (s.beforeLiteral ++ '"' :: [] ++ t)))) := by
    simp [opening]
  rw [h, afterTokens?_cons (s.blank s.indent (by simp)) (by decide),
    afterTokens?_cons (s.blank s.beforeBracket (by simp)) (by decide),
    afterTokens?_cons (s.blank s.beforeName (by simp)) (by decide),
    afterTokens?_cons (s.blank s.beforeSign (by simp)) (by decide),
    afterTokens?_cons (s.blank s.beforeLiteral (by simp)) (by decide), afterTokens?]

lemma beforeTokens?_closing (t : Text) :
    beforeTokens? [[']'], ['"']] (t ++ s.closing) = some t := by
  have h : t ++ s.closing = t ++ '"' :: s.beforeClose ++ ']' :: s.behind := by simp [closing]
  rw [h, beforeTokens?_cons (s.blank s.behind (by simp)) (by decide),
    beforeTokens?_cons (s.blank s.beforeClose (by simp)) (by decide), beforeTokens?]

lemma carried?_write (h : isComment literal = true) (hfeed : '\n' ∉ literal) :
    carried? (s.write literal) = some literal := by
  rw [carried?, write, afterTokens?_opening, Option.bind_eq_bind, Option.bind_some,
    beforeTokens?_closing, Option.bind_some, if_pos]
  simpa [h] using hfeed

lemma indent_write (literal : Text) : Text.indent (s.write literal) = s.indent := by
  rw [write, opening]
  simp only [List.append_assoc, List.cons_append, List.nil_append]
  exact Text.indent_append (s.blank s.indent (by simp)) (by decide)

/-- A comment is read back from the attribute that carries it, whatever the spelling. -/
lemma uncarry_write {c : Text} (h : isComment c = true) (hfeed : '\n' ∉ c) :
    uncarry (s.write (escape c)) = s.indent ++ closeEmpty c := by
  have hcarried : carried? (s.write (escape c)) = some (escape c) :=
    s.carried?_write (escape_of_isComment h) (not_mem_escape (by decide) hfeed)
  rw [uncarry, hcarried]
  simp only [indent_write, unescape_escape]

end Spacing

/-- The spacing of an attribute that carries the comment of this line. -/
def carrySpacing (l : Line) : Spacing where
  indent := indent l
  beforeBracket := []
  beforeName := []
  beforeSign := [' ']
  beforeLiteral := [' ']
  beforeClose := []
  behind := []
  blank := by
    have hnil : Blank [] := by decide
    have hblank : Blank [' '] := by decide
    simp [hnil, hblank, Text.blank_indent]

lemma carry_eq_write (l : Line) : carry l = (carrySpacing l).write (escape (trimLeft l)) := by
  simp [carry, Spacing.write, Spacing.opening, Spacing.closing, carrySpacing]

/-- A doc comment is read back from the attribute that carries it. -/
lemma uncarry_carry {l : Line} (h : Line.isDocComment l = true) (hfeed : '\n' ∉ l)
    (hne : trimLeft l ≠ ['/', '/', '/', ' '] ∧ trimLeft l ≠ ['/', '/', '!', ' ']) :
    uncarry (carry l) = l := by
  have htrim : '\n' ∉ trimLeft l := fun hn => hfeed (List.dropWhile_subset _ hn)
  rw [carry_eq_write, Spacing.uncarry_write _ (isComment_trimLeft h) htrim, closeEmpty,
    if_neg (by simpa using hne)]
  exact Text.indent_append_trimLeft l

/-! ### Carried comments as attributes -/

lemma squash_of_afterTokens? {tokens : List Text} {t rest : Text}
    (h : afterTokens? tokens t = some rest) :
    Text.squash t = Text.squash tokens.flatten ++ Text.squash rest := by
  induction tokens generalizing t with
  | nil =>
    obtain rfl := Option.some.inj h
    rfl
  | cons token tokens ih =>
    obtain ⟨more, hmore, h⟩ := Option.bind_eq_some_iff.mp h
    have hsquash := congrArg Text.squash (Text.after?_eq_some_iff.mp hmore)
    rw [Text.squash_trimLeft] at hsquash
    rw [hsquash, List.flatten_cons]
    simp only [Text.squash, List.filter_append, List.append_assoc] at ih ⊢
    rw [ih h]

lemma squash_write (s : Spacing) (literal : Text) :
    Text.squash (s.write literal) = Line.docOuter ++ '"' :: Text.squash (literal ++ s.closing) :=
  squash_of_afterTokens? (s.afterTokens?_opening (literal ++ s.closing))

lemma isDocLiteral_carry (l : Line) : Line.isDocLiteral (carry l) = true := by
  have hafter := Text.after?_eq_some_iff.mpr (squash_write (carrySpacing l) (escape (trimLeft l)))
  rw [carry_eq_write, Line.isDocLiteral, Line.docValue?, hafter]
  rfl

lemma isDocAttribute_of_carried? {l : Line} {content : Text} (h : carried? l = some content) :
    Line.isDocAttribute l = true := by
  obtain ⟨opened, hopened, -⟩ := Option.bind_eq_some_iff.mp h
  have hsquash := squash_of_afterTokens? hopened
  have hprefix : Line.docOuter.isPrefixOf (Text.squash l) = true :=
    List.isPrefixOf_iff_prefix.mpr ⟨'"' :: Text.squash opened, hsquash.symm⟩
  rw [Line.isDocAttribute, hprefix, Bool.true_or]

lemma uncarry_eq_self {l : Line} (h : Line.isDocAttribute l = false) : uncarry l = l := by
  unfold uncarry
  split
  · next content hc =>
    rw [isDocAttribute_of_carried? hc] at h
    exact absurd h (by decide)
  · rfl

lemma uncarryAll_unpieces {ls : List Line} (h : ∀ l ∈ ls, '\n' ∉ l) :
    uncarryAll (Text.unpieces ls) = Text.unpieces (ls.map uncarry) := by
  cases ls with
  | nil => decide
  | cons l ls => rw [uncarryAll, Text.pieces_unpieces h (List.cons_ne_nil l ls)]

end Bookend

end DocGraft
