import DocGraft.Bookend.Reformat
import DocGraft.Proofs.TrimmedTexts
import Mathlib.Data.List.Forall2

/-!
# Reformatted macro lines

Reformatting goes line by line. A line stays as it is or, if it calls the macro, becomes another
inner attribute behind the same indentation. Whatever the formatter does, that attribute is on one
line and has something in it.
-/

namespace DocGraft

/-! ### Line boundaries -/

namespace Text

/-- The text has no line boundary in it. -/
def Unbroken (t : Text) : Prop := ∀ c ∈ t, isLineBreak c = false

instance : DecidablePred Unbroken := fun t => List.decidableBAll _ t

lemma Unbroken.not_mem {t : Text} (h : Unbroken t) : '\n' ∉ t :=
  fun hn => absurd (h _ hn) (by decide)

lemma unbroken_of_mem_consHead {c : Char} {ps : List Text} {p : Text}
    (hc : isLineBreak c = false) (hps : ∀ q ∈ ps, Unbroken q) (h : p ∈ consHead c ps) :
    Unbroken p := by
  cases ps with
  | nil =>
    obtain rfl := List.mem_singleton.mp h
    exact List.forall_mem_singleton.mpr hc
  | cons q ps =>
    rcases List.mem_cons.mp h with rfl | h
    · exact List.forall_mem_cons.mpr ⟨hc, hps q List.mem_cons_self⟩
    · exact hps p (List.mem_cons_of_mem q h)

lemma unbroken_of_mem_bareLines {t p : Text} (h : p ∈ bareLines t) : Unbroken p := by
  fun_induction bareLines t generalizing p with
  | case1 => simp at h
  | case2 rest ih =>
    rcases List.mem_cons.mp h with rfl | h
    · simp [Unbroken]
    · exact ih h
  | case3 c rest _ _ ih =>
    rcases List.mem_cons.mp h with rfl | h
    · simp [Unbroken]
    · exact ih h
  | case4 c rest _ hbreak ih =>
    exact unbroken_of_mem_consHead (Bool.eq_false_iff.mpr hbreak) (fun q hq => ih hq) h

lemma mem_of_mem_intercalate {c : Char} {sep : Text} {ps : List Text}
    (h : c ∈ sep.intercalate ps) : c ∈ sep ∨ ∃ p ∈ ps, c ∈ p := by
  induction ps with
  | nil => simp [List.intercalate] at h
  | cons p ps ih =>
    cases ps with
    | nil => exact Or.inr ⟨p, List.mem_cons_self, by simpa [List.intercalate] using h⟩
    | cons q ps =>
      rw [List.intercalate_cons_cons, List.mem_append, List.mem_append] at h
      rcases h with (h | h) | h
      · exact Or.inr ⟨p, List.mem_cons_self, h⟩
      · exact Or.inl h
      · rcases ih h with h | ⟨r, hr, h⟩
        · exact Or.inl h
        · exact Or.inr ⟨r, List.mem_cons_of_mem p hr, h⟩

lemma trim_subset (t : Text) : trim t ⊆ t := by
  intro c hc
  exact List.dropWhile_subset _ (Bookend.trimRight_subset _ hc)

end Text

/-! ### Single lines -/

namespace Bookend

open Text (indent)

variable {m : Markers} {format : Text → Except Formatter.Failure Text}

/-- Something that stands in an attribute on one line, without blanks around it. -/
structure IsContent (t : Text) : Prop where
  ne_nil : t ≠ []
  trimmed : Text.Trimmed t
  unbroken : Text.Unbroken t

instance : DecidablePred IsContent := fun t =>
  decidable_of_iff (t ≠ [] ∧ Text.Trimmed t ∧ Text.Unbroken t)
    ⟨fun h => ⟨h.1, h.2.1, h.2.2⟩, fun h => ⟨h.ne_nil, h.trimmed, h.unbroken⟩⟩

/-- What a text has on its lines, without the blanks around it; nothing for a blank line. -/
def parts (t : Text) : List Text := ((Text.bareLines t).map Text.trim).filter (!·.isEmpty)

lemma parts_cases {t p : Text} (h : p ∈ parts t) :
    p ≠ [] ∧ Text.Trimmed p ∧ Text.Unbroken p := by
  obtain ⟨hp, hne⟩ := List.mem_filter.mp h
  obtain ⟨line, hline, rfl⟩ := List.mem_map.mp hp
  refine ⟨by simpa using hne, Text.trimmed_trim line, fun c hc => ?_⟩
  exact Text.unbroken_of_mem_bareLines hline c (Text.trim_subset line hc)

lemma isContent_intercalate_parts {t : Text} (h : parts t ≠ []) :
    IsContent ([' '].intercalate (parts t)) := by
  obtain ⟨p, hp⟩ := List.exists_mem_of_ne_nil _ h
  refine ⟨?_, ?_, fun c hc => ?_⟩
  · exact Text.ne_nil_of_intercalate hp (parts_cases hp).1
  · exact Text.trimmed_intercalate fun q hq => ⟨(parts_cases hq).1, (parts_cases hq).2.1⟩
  · rcases Text.mem_of_mem_intercalate hc with hsep | ⟨q, hq, hc⟩
    · obtain rfl := List.mem_singleton.mp hsep
      decide
    · exact (parts_cases hq).2.2 c hc

/-- The text, without the blanks around it, is `body` between bookends. -/
def IsWrapped (t body : Text) : Prop := Text.trim t = opening ++ body ++ closing

lemma unwrap?_eq_some_iff {t inner : Text} : unwrap? t = some inner ↔
    ∃ body, IsWrapped t body ∧ parts body ≠ [] ∧ [' '].intercalate (parts body) = inner := by
  constructor
  · intro h
    obtain ⟨opened, hopened, h⟩ := Option.bind_eq_some_iff.mp h
    obtain ⟨body, hbody, h⟩ := Option.bind_eq_some_iff.mp h
    change (if (parts body).isEmpty then none else some ([' '].intercalate (parts body))) = _ at h
    split at h
    · exact absurd h (by simp)
    · next hparts =>
      refine ⟨body, ?_, fun hnil => hparts (List.isEmpty_iff.mpr hnil), Option.some.inj h⟩
      rw [IsWrapped, Text.after?_eq_some_iff.mp hopened, Text.eq_append_of_before? hbody,
        List.append_assoc]
  · rintro ⟨body, hwrapped, hparts, rfl⟩
    have hopened : Text.after? opening (Text.trim t) = some (body ++ closing) :=
      Text.after?_eq_some_iff.mpr (hwrapped.trans (List.append_assoc ..))
    rw [unwrap?, hopened, Option.bind_eq_bind, Option.bind_some, Text.before?_append]
    exact if_neg fun hnil => hparts (List.isEmpty_iff.mp hnil)

lemma squash_innerAttribute (l : Line) (content : Text) :
    Text.squash (innerAttribute (indent l) content) =
      ['#', '!', '['] ++ Text.squash content ++ [']'] := by
  rw [innerAttribute, List.append_assoc, List.append_assoc, Text.squash_indent_append,
    Text.squash_append, Text.squash_append, List.append_assoc]
  rfl

lemma isInnerAttribute_innerAttribute (l : Line) (content : Text) :
    Line.isInnerAttribute (innerAttribute (indent l) content) = true := by
  rw [Line.isInnerAttribute, squash_innerAttribute, List.append_assoc]
  exact List.isPrefixOf_iff_prefix.mpr ⟨_, rfl⟩

/-- What becomes of a line: nothing, or it calls the macro, and what the formatter makes of its
content between bookends takes the place of that content. -/
lemma reformatLine_cases {l k : Line} (h : reformatLine m format l = .ok k) :
    k = l ∨ Line.isModuleDocMacro m l = true ∧ ∃ content formatted inner,
      content? l = some content ∧ format (wrap content) = .ok formatted ∧
        unwrap? formatted = some inner ∧ k = innerAttribute (indent l) inner := by
  unfold reformatLine at h
  by_cases hcalls : Line.isModuleDocMacro m l = true
  · rw [if_pos hcalls] at h
    unfold reformat at h
    split at h
    · exact Or.inl (Except.ok.inj h).symm
    · next content hcontent =>
      split at h
      · next failure _ =>
        simp only [Outcome.line] at h
        split at h
        · exact Or.inl (Except.ok.inj h).symm
        · exact absurd h (by simp)
      · next formatted hformat =>
        split at h
        · exact Or.inl (Except.ok.inj h).symm
        · next inner hunwrap =>
          exact Or.inr ⟨hcalls, content, formatted, inner, hcontent, hformat, hunwrap,
            (Except.ok.inj h).symm⟩
  · rw [if_neg hcalls] at h
    exact Or.inl (Except.ok.inj h).symm

/-- The line stays, or it calls the macro and becomes an attribute with content on one line. -/
def Reworked (m : Markers) (l k : Line) : Prop :=
  k = l ∨ Line.isModuleDocMacro m l = true ∧
    ∃ content, IsContent content ∧ k = innerAttribute (indent l) content

lemma reworked_of_reformatLine {l k : Line} (h : reformatLine m format l = .ok k) :
    Reworked m l k := by
  refine (reformatLine_cases h).imp_right ?_
  rintro ⟨hcalls, -, formatted, inner, -, -, hunwrap, rfl⟩
  obtain ⟨body, -, hparts, rfl⟩ := unwrap?_eq_some_iff.mp hunwrap
  exact ⟨hcalls, _, isContent_intercalate_parts hparts, rfl⟩

lemma Reworked.not_mem {l k : Line} (h : Reworked m l k) (hl : '\n' ∉ l) : '\n' ∉ k := by
  rcases h with rfl | ⟨-, content, hcontent, rfl⟩
  · exact hl
  · have hindent : '\n' ∉ indent l := fun hmem => hl (List.takeWhile_subset _ hmem)
    simp [innerAttribute, hindent, hcontent.unbroken.not_mem]

lemma Reworked.isEmpty_eq {l k : Line} (h : Reworked m l k) : k.isEmpty = l.isEmpty := by
  rcases h with rfl | ⟨hcalls, content, -, rfl⟩
  · rfl
  · have hl : l ≠ [] := by
      rintro rfl
      have hinner := Line.isInnerAttribute_of_isModuleDocMacro hcalls
      exact absurd hinner (by decide)
    rw [List.isEmpty_eq_false_iff.mpr hl]
    simp [innerAttribute]

/-- Reformatting goes on behind the line: the formatter does not fail on it in a way that no merge
expects. -/
def Proceeds (m : Markers) (format : Text → Except Formatter.Failure Text) (l : Line) : Prop :=
  ∀ content failure, Line.isModuleDocMacro m l = true → content? l = some content →
    format (wrap content) = .error failure → failure.isExpected = true

lemma exists_reformatLine {l : Line} (hproceeds : Proceeds m format l) :
    ∃ k, reformatLine m format l = .ok k := by
  unfold reformatLine
  by_cases hcalls : Line.isModuleDocMacro m l = true
  · rw [if_pos hcalls]
    unfold reformat
    cases hcontent : content? l with
    | none => exact ⟨l, rfl⟩
    | some content =>
      cases hformat : format (wrap content) with
      | error failure =>
        simp only [hformat, Outcome.line, hproceeds _ _ hcalls hcontent hformat]
        exact ⟨l, rfl⟩
      | ok formatted =>
        simp only [hformat]
        cases hunwrap : unwrap? formatted with
        | none => exact ⟨l, rfl⟩
        | some inner => exact ⟨innerAttribute (indent l) inner, rfl⟩
  · rw [if_neg hcalls]
    exact ⟨l, rfl⟩

/-! ### Whole texts -/

/-- Reformatting with a formatter that may answer in another way each time it is asked: `answer i` is
what it does when it is the turn of line `i`. -/
def reformatInTurn (m : Markers) (answer : Nat → Text → Except Formatter.Failure Text) :
    List Line → Except Formatter.Failure (List Line)
  | [] => .ok []
  | l :: rest => do
    let first ← reformatLine m (answer 0) l
    return first :: (← reformatInTurn m (fun i => answer (i + 1)) rest)

def reformatTextInTurn (m : Markers) (answer : Nat → Text → Except Formatter.Failure Text)
    (t : Text) : Except Formatter.Failure Text := do
  return Text.unpieces (← reformatInTurn m answer (Text.pieces t))

variable {answer : Nat → Text → Except Formatter.Failure Text}

lemma reformatInTurn_const (m : Markers) (format : Text → Except Formatter.Failure Text)
    (ls : List Line) : reformatInTurn m (fun _ => format) ls = reformatLines m format ls := by
  induction ls with
  | nil => rfl
  | cons l ls ih => rw [reformatInTurn, reformatLines, ih]

lemma reformatTextInTurn_const (m : Markers) (format : Text → Except Formatter.Failure Text)
    (t : Text) : reformatTextInTurn m (fun _ => format) t = reformatText m format t := by
  rw [reformatTextInTurn, reformatText, reformatInTurn_const]

lemma exists_reformatInTurn {ls : List Line}
    (hproceeds : ∀ (i : Nat) l, ls[i]? = some l → Proceeds m (answer i) l) :
    ∃ ks, reformatInTurn m answer ls = .ok ks ∧ List.Forall₂ (Reworked m) ls ks ∧
      ∀ i l k, ls[i]? = some l → ks[i]? = some k → reformatLine m (answer i) l = .ok k := by
  induction ls generalizing answer with
  | nil => exact ⟨[], rfl, .nil, by simp⟩
  | cons l ls ih =>
    obtain ⟨k, hk⟩ := exists_reformatLine (hproceeds 0 l rfl)
    obtain ⟨ks, hks, hall, hturn⟩ := ih fun i j hj => hproceeds (i + 1) j hj
    refine ⟨k :: ks, ?_, .cons (reworked_of_reformatLine hk) hall, ?_⟩
    · rw [reformatInTurn, hk, hks]
      rfl
    · intro i
      cases i with
      | zero =>
        intro j i hj hi
        obtain rfl := Option.some.inj hj
        obtain rfl := Option.some.inj hi
        exact hk
      | succ i => exact hturn i

lemma not_mem_of_reworked {ls ks : List Line} (h : List.Forall₂ (Reworked m) ls ks)
    (hls : ∀ l ∈ ls, '\n' ∉ l) : ∀ k ∈ ks, '\n' ∉ k := by
  induction h with
  | nil => simp
  | @cons l k ls ks hk _ ih =>
    intro j hj
    rcases List.mem_cons.mp hj with rfl | hj
    · exact hk.not_mem (hls l List.mem_cons_self)
    · exact ih (fun i hi => hls i (List.mem_cons_of_mem l hi)) j hj

lemma filter_of_reworked {p : Line → Bool} {ls ks : List Line}
    (hinner : ∀ l, Line.isInnerAttribute l = true → p l = false)
    (h : List.Forall₂ (Reworked m) ls ks) : ks.filter p = ls.filter p := by
  induction h with
  | nil => rfl
  | @cons l k ls ks hk _ ih =>
    rcases hk with rfl | ⟨hcalls, content, -, rfl⟩
    · rw [List.filter_cons, List.filter_cons, ih]
    · have hl := hinner l (Line.isInnerAttribute_of_isModuleDocMacro hcalls)
      have hk := hinner _ (isInnerAttribute_innerAttribute l content)
      rw [List.filter_cons, List.filter_cons, hl, hk, ih]
      rfl

lemma exists_reformatTextInTurn_of_proceeds {t : Text}
    (hproceeds : ∀ (i : Nat) l, (Text.pieces t)[i]? = some l → Proceeds m (answer i) l) :
    ∃ s, reformatTextInTurn m answer t = .ok s ∧
      List.Forall₂ (Reworked m) (Text.pieces t) (Text.pieces s) ∧
      ∀ i l k, (Text.pieces t)[i]? = some l → (Text.pieces s)[i]? = some k →
        reformatLine m (answer i) l = .ok k := by
  obtain ⟨ks, hks, hall, hturn⟩ := exists_reformatInTurn hproceeds
  have hfeed : ∀ k ∈ ks, '\n' ∉ k :=
    not_mem_of_reworked hall fun _ => Text.not_mem_of_mem_pieces
  have hne : ks ≠ [] := by
    rintro rfl
    exact Text.pieces_ne_nil t (List.eq_nil_of_length_eq_zero hall.length_eq)
  refine ⟨Text.unpieces ks, ?_, ?_⟩
  · rw [reformatTextInTurn, hks]
    rfl
  · rw [Text.pieces_unpieces hfeed hne]
    exact ⟨hall, hturn⟩

lemma exists_reformatTextInTurn (hexpected : ∀ i content failure,
    answer i (wrap content) = .error failure → failure.isExpected = true) (t : Text) :
    ∃ s, reformatTextInTurn m answer t = .ok s ∧
      List.Forall₂ (Reworked m) (Text.pieces t) (Text.pieces s) ∧
      ∀ i l k, (Text.pieces t)[i]? = some l → (Text.pieces s)[i]? = some k →
        reformatLine m (answer i) l = .ok k :=
  exists_reformatTextInTurn_of_proceeds fun i _ _ content failure _ _ =>
    hexpected i content failure

lemma reformatLines_eq_ok {ls : List Line}
    (h : ∀ l ∈ ls, reformatLine m format l = .ok l) : reformatLines m format ls = .ok ls := by
  induction ls with
  | nil => rfl
  | cons l ls ih =>
    have hrest := ih fun k hk => h k (List.mem_cons_of_mem l hk)
    rw [reformatLines, h l List.mem_cons_self, hrest]
    rfl

lemma reformatText_eq_ok {t : Text}
    (h : ∀ l ∈ Text.pieces t, reformatLine m format l = .ok l) :
    reformatText m format t = .ok t := by
  rw [reformatText, reformatLines_eq_ok h]
  change Except.ok (Text.unpieces (Text.pieces t)) = _
  rw [Text.unpieces_pieces]

lemma exists_reformatText (hexpected : ∀ content failure, format (wrap content) = .error failure →
    failure.isExpected = true) (t : Text) :
    ∃ s, reformatText m format t = .ok s ∧
      List.Forall₂ (Reworked m) (Text.pieces t) (Text.pieces s) ∧
      ∀ (i : Nat) l k, (Text.pieces t)[i]? = some l → (Text.pieces s)[i]? = some k →
        reformatLine m format l = .ok k := by
  obtain ⟨s, hs, hlines⟩ := exists_reformatTextInTurn (m := m) (fun _ => hexpected) t
  rw [reformatTextInTurn_const] at hs
  exact ⟨s, hs, hlines⟩

/-- A formatter that changes nothing does not fail either. -/
lemma isExpected_of_echo (h : ∀ t, format t = .ok t) (content : Text)
    (failure : Formatter.Failure) (hfailure : format (wrap content) = .error failure) :
    failure.isExpected = true := by
  rw [h] at hfailure
  exact absurd hfailure (by simp)

end Bookend

end DocGraft
