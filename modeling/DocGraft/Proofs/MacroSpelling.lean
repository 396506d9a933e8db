import DocGraft.Proofs.AttributeSpelling
import DocGraft.Proofs.ReformattedLines

/-!
# Spellings of an inner attribute

The content of an inner attribute is what stands between the first bracket and the last one, without
the blanks around it, however its tokens are spaced. Content on one line comes back from between
bookends as it was, so a formatter that changes nothing only closes the gaps between the tokens. That
is done once: the attribute it leaves has no gaps.
-/

namespace DocGraft

namespace Text

lemma bareLines_of_unbroken {t : Text} (hne : t ≠ []) (h : Unbroken t) : bareLines t = [t] := by
  fun_induction bareLines t with
  | case1 => exact absurd rfl hne
  | case2 rest => exact absurd (h '\r' List.mem_cons_self) (by decide)
  | case3 c rest _ hbreak =>
    rw [h c List.mem_cons_self] at hbreak
    exact absurd hbreak (by decide)
  | case4 c rest _ _ ih =>
    cases rest with
    | nil => rfl
    | cons d rest =>
      rw [ih (List.cons_ne_nil d rest) fun e he => h e (List.mem_cons_of_mem c he)]
      rfl

end Text

namespace Bookend

open Text (Blank indent)

/-- The blanks of an inner attribute: before and between its tokens, around its content, and behind
the last token. The content and the blanks around it are on one line. -/
structure InnerSpacing where
  indent : Text
  beforeMark : Text
  beforeBracket : Text
  beforeContent : Text
  afterContent : Text
  behind : Text
  blank : ∀ pad ∈ [indent, beforeMark, beforeBracket, beforeContent, afterContent, behind], Blank pad
  no_feed : '\n' ∉ beforeContent ++ afterContent

namespace InnerSpacing

variable (s : InnerSpacing) {c : Text}

def write (c : Text) : Line :=
  s.indent ++ ['#'] ++ s.beforeMark ++ ['!'] ++ s.beforeBracket ++ ['['] ++
    s.beforeContent ++ c ++ s.afterContent ++ [']'] ++ s.behind

lemma write_eq (c : Text) : s.write c = s.indent ++ '#' :: [] ++ (s.beforeMark ++ '!' :: [] ++
    (s.beforeBracket ++ '[' :: [] ++ (s.beforeContent ++ c ++ s.afterContent ++ ']' :: s.behind))) := by
  simp [write]

lemma indent_write (c : Text) : Text.indent (s.write c) = s.indent := by
  rw [write_eq]
  simp only [List.append_assoc, List.cons_append, List.nil_append]
  exact Text.indent_append (s.blank s.indent (by simp)) (by decide)

lemma content?_write (hne : c ≠ []) (htrim : Text.Trimmed c) (hfeed : '\n' ∉ c) :
    content? (s.write c) = some c := by
  have hinner : Text.trim (s.beforeContent ++ c ++ s.afterContent) = c :=
    htrim.trim_append hne (s.blank s.beforeContent (by simp)) (s.blank s.afterContent (by simp))
  have hline : '\n' ∉ s.beforeContent ++ c ++ s.afterContent := by
    have hpads := s.no_feed
    simp only [List.mem_append, not_or] at hpads ⊢
    exact ⟨⟨hpads.1, hfeed⟩, hpads.2⟩
  rw [content?, write_eq, afterTokens?_cons (s.blank s.indent (by simp)) (by decide),
    afterTokens?_cons (s.blank s.beforeMark (by simp)) (by decide),
    afterTokens?_cons (s.blank s.beforeBracket (by simp)) (by decide), afterTokens?,
    Option.bind_eq_bind, Option.bind_some,
    beforeTokens?_cons (s.blank s.behind (by simp)) (by decide), beforeTokens?, Option.bind_some,
    hinner, if_neg]
  simpa [hne] using hline

end InnerSpacing

/-- A line has this content exactly if it is an inner attribute, in some spelling, that is written
around it. -/
lemma content?_eq_some_iff {l : Line} {c : Text} : content? l = some c ↔
    (∃ s : InnerSpacing, l = s.write c) ∧ c ≠ [] ∧ Text.Trimmed c ∧ '\n' ∉ c := by
  constructor
  · intro h
    obtain ⟨opened, hopened, h⟩ := Option.bind_eq_some_iff.mp h
    obtain ⟨inner, hinner, h⟩ := Option.bind_eq_some_iff.mp h
    split at h
    · exact absurd h (by simp)
    · next hcontent =>
      obtain rfl := Option.some.inj h
      simp only [Bool.or_eq_true, List.isEmpty_iff, not_or, List.contains_iff_mem] at hcontent
      obtain ⟨pad, t, hindent, rfl, hmark⟩ := exists_pad_of_afterTokens? hopened
      obtain ⟨mark, t, hm, rfl, hbracket⟩ := exists_pad_of_afterTokens? hmark
      obtain ⟨bracket, t, hb, rfl, hend⟩ := exists_pad_of_afterTokens? hbracket
      obtain rfl := Option.some.inj hend
      obtain ⟨behind, t, hbehind, rfl, hlast⟩ := exists_pad_of_beforeTokens? hinner
      obtain rfl := Option.some.inj hlast
      obtain ⟨after, hafter, hright⟩ := Text.exists_trimRight_append (Text.trimLeft t)
      have ht : indent t ++ Text.trim t ++ after = t := by
        rw [List.append_assoc, Text.trim, ← hright, Text.indent_append_trimLeft]
      have hfeed : '\n' ∉ indent t ++ Text.trim t ++ after := ht.symm ▸ hcontent.1
      simp only [List.mem_append, not_or] at hfeed
      refine ⟨⟨⟨pad, mark, bracket, indent t, after, behind, ?_, ?_⟩, ?_⟩, hcontent.2,
        Text.trimmed_trim t, hfeed.1.2⟩
      · simp [hindent, hm, hb, Text.blank_indent, hafter, hbehind]
      · simp [hfeed]
      · conv_lhs => rw [← ht]
        simp [InnerSpacing.write]
  · rintro ⟨⟨s, rfl⟩, hne, htrim, hfeed⟩
    exact s.content?_write hne htrim hfeed

/-- The spacing of the attribute that reformatting writes behind the indentation of a line. -/
def plainSpacing (l : Line) : InnerSpacing where
  indent := indent l
  beforeMark := []
  beforeBracket := []
  beforeContent := []
  afterContent := []
  behind := []
  blank := by
    have hnil : Blank [] := by decide
    simp [hnil, Text.blank_indent]
  no_feed := by decide

lemma innerAttribute_eq_write (l : Line) (c : Text) :
    innerAttribute (indent l) c = (plainSpacing l).write c := by
  simp [innerAttribute, InnerSpacing.write, plainSpacing]

/-! ### Between bookends and back -/

variable {m : Markers} {format : Text → Except Formatter.Failure Text} {c : Text}

lemma parts_of_isContent (hc : IsContent c) : parts ([' '] ++ c ++ [' ']) = [c] := by
  have hblank : Blank [' '] := by decide
  have hbroken : Text.Unbroken ([' '] ++ c ++ [' ']) := by
    intro d hd
    simp only [List.mem_append, List.mem_singleton] at hd
    rcases hd with (rfl | hd) | rfl
    · decide
    · exact hc.unbroken d hd
    · decide
  have hne : (!c.isEmpty) = true := by simpa using hc.ne_nil
  rw [parts, Text.bareLines_of_unbroken (by simp) hbroken, List.map_singleton,
    hc.trimmed.trim_append hc.ne_nil hblank hblank, List.filter_cons, if_pos hne, List.filter_nil]

lemma unwrap?_wrap (hc : IsContent c) : unwrap? (wrap c) = some c := by
  have hparts := parts_of_isContent hc
  apply unwrap?_eq_some_iff.mpr
  refine ⟨[' '] ++ c ++ [' '], ?_, ?_, ?_⟩
  · have htrimmed : Text.Trimmed (wrap c) := by
      constructor
      · intro d hd
        obtain rfl : d = 'c' := Option.some.inj hd.symm
        decide
      · intro d hd
        rw [wrap, List.getLast?_append_of_ne_nil _ (by decide)] at hd
        obtain rfl : d = ';' := Option.some.inj hd.symm
        decide
    rw [IsWrapped, htrimmed.trim_eq, wrap]
    simp only [List.append_assoc]
  · rw [hparts]
    exact List.cons_ne_nil c []
  · rw [hparts, List.intercalate_singleton]

/-- A formatter that changes nothing closes the gaps of an inner attribute. -/
lemma reformat_write (h : ∀ t, format t = .ok t) (s : InnerSpacing) (hc : IsContent c) :
    reformat format (s.write c) = .done (innerAttribute s.indent c) := by
  unfold reformat
  simp only [s.content?_write hc.ne_nil hc.trimmed hc.unbroken.not_mem, h, unwrap?_wrap hc,
    s.indent_write]

lemma reformatLine_innerAttribute (h : ∀ t, format t = .ok t) (l : Line) (hc : IsContent c) :
    reformatLine m format (innerAttribute (indent l) c) = .ok (innerAttribute (indent l) c) := by
  unfold reformatLine
  split
  · rw [innerAttribute_eq_write, reformat_write h (plainSpacing l) hc, Outcome.line]
    exact congrArg Except.ok (innerAttribute_eq_write l c)
  · rfl

/-- A line that was reformatted is not changed again. -/
lemma reformatLine_of_reworked (h : ∀ t, format t = .ok t) {l k : Line}
    (hk : reformatLine m format l = .ok k) : reformatLine m format k = .ok k := by
  rcases reworked_of_reformatLine hk with rfl | ⟨-, content, hcontent, rfl⟩
  · exact hk
  · exact reformatLine_innerAttribute h l hcontent

end Bookend

end DocGraft
