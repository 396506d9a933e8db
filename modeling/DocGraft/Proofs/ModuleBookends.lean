import DocGraft.Proofs.AttributeSpelling
import DocGraft.Proofs.RestoredComments

/-!
# Module documentation in attributes

Documentation of a module is recognised in a line without its blanks and by the start of its literal
only, but it is uncarried from the line as it is written and from nothing but a whole attribute. The
two agree on attributes that end their line and whose plain literal opens with the comment. Whatever
else is recognised stays an attribute.
-/

namespace DocGraft.Bookend

open Text (indent)

/-- A doc attribute, in some spelling and with nothing behind it, whose plain literal is an inner doc
comment. -/
def IsBookend (l : Line) : Prop :=
  ∃ (s : Spacing) (t : Text), '\n' ∉ t ∧ l = s.write ('/' :: '/' :: '!' :: t)

variable {m : Markers} {l : Line} {t : Text}

lemma isBookend_iff : IsBookend l ↔ ∃ t, carried? l = some ('/' :: '/' :: '!' :: t) := by
  have hcomment : ∀ t, isComment ('/' :: '/' :: '!' :: t) = true := fun t =>
    isComment_iff.mpr ⟨'!', t, Or.inr rfl, rfl⟩
  simp only [carried?_eq_some_iff, hcomment, true_and]
  constructor
  · rintro ⟨s, t, hfeed, hl⟩
    exact ⟨t, ⟨s, hl⟩, by simpa using hfeed⟩
  · rintro ⟨t, ⟨s, hl⟩, hfeed⟩
    exact ⟨s, t, by simpa using hfeed, hl⟩

/-! ### Recognising -/

lemma isCarriedInnerDoc_write (s : Spacing) (c : Char) (hc : c = '/' ∨ c = '!') (t : Text) :
    Line.isCarriedInnerDoc (s.write ('/' :: '/' :: c :: t)) = (c == '!') := by
  have hafter := Text.after?_eq_some_iff.mpr (squash_write s ('/' :: '/' :: c :: t))
  unfold Line.isCarriedInnerDoc
  rw [hafter]
  rcases hc with rfl | rfl
  · rfl
  · rfl

lemma isOuterAttribute_write (s : Spacing) (literal : Text) :
    Line.isOuterAttribute (s.write literal) = true := by
  rw [Line.isOuterAttribute, squash_write]
  rfl

/-- An outer attribute is documentation of a module exactly if it carries an inner doc comment. -/
lemma isModuleDoc_eq_of_isOuterAttribute (h : Line.isOuterAttribute l = true) :
    Line.isModuleDoc m l = Line.isCarriedInnerDoc l := by
  have hcomment : Line.isInnerDocComment l ≠ true := by
    intro hc
    have hlead := Line.lead_of_isDocComment (Bool.or_eq_true_iff.mpr (Or.inr hc))
    rw [Line.lead_of_isOuterAttribute h] at hlead
    exact absurd hlead (by decide)
  rw [Line.isModuleDoc, if_neg hcomment, Line.isInnerAttribute_of_isOuterAttribute h]
  rfl

lemma IsBookend.isOuterAttribute (h : IsBookend l) : Line.isOuterAttribute l = true := by
  obtain ⟨s, t, -, rfl⟩ := h
  exact isOuterAttribute_write s _

lemma IsBookend.isModuleDoc (h : IsBookend l) : Line.isModuleDoc m l = true := by
  rw [isModuleDoc_eq_of_isOuterAttribute h.isOuterAttribute]
  obtain ⟨s, t, -, rfl⟩ := h
  exact isCarriedInnerDoc_write s '!' (Or.inr rfl) t

/-! ### Uncarrying -/

lemma exists_closeEmpty_inner (t : Text) :
    ∃ more, closeEmpty ('/' :: '/' :: '!' :: t) = '/' :: '/' :: '!' :: more := by
  rw [closeEmpty_eq_ite, if_neg (by simp)]
  split
  · exact ⟨[], rfl⟩
  · exact ⟨t, rfl⟩

/-- A bookend becomes an inner doc comment behind the same indentation. -/
lemma IsBookend.isInnerDocComment_uncarry (h : IsBookend l) :
    Line.isInnerDocComment (uncarry l) = true ∧ indent (uncarry l) = indent l := by
  obtain ⟨t, ht⟩ := isBookend_iff.mp h
  obtain ⟨more, hmore⟩ := exists_closeEmpty_inner (unescape t)
  have hl : uncarry l = indent l ++ '/' :: '/' :: '!' :: more := by
    rw [uncarry, ht]
    simp only [unescape_comment (Or.inr rfl), hmore]
  rw [hl, Line.isInnerDocComment, Text.trimLeft_append (Text.blank_indent l) (by decide)]
  exact ⟨rfl, Text.indent_append (Text.blank_indent l) (by decide)⟩

/-- Documentation of a module in any other outer attribute is no carried comment. -/
lemma uncarry_eq_self_of_isModuleDoc (houter : Line.isOuterAttribute l = true)
    (hmodule : Line.isModuleDoc m l = true) (hl : ¬IsBookend l) : uncarry l = l := by
  rw [isModuleDoc_eq_of_isOuterAttribute houter] at hmodule
  unfold uncarry
  cases h : carried? l with
  | none => rfl
  | some content =>
    exfalso
    obtain ⟨c, t, hc, rfl⟩ := isComment_iff.mp (isComment_of_carried? h).1
    obtain ⟨s, rfl⟩ := (carried?_eq_some_iff.mp h).1
    rw [isCarriedInnerDoc_write s c hc, beq_iff_eq] at hmodule
    subst hmodule
    exact hl (isBookend_iff.mpr ⟨t, h⟩)

/-! ### Restored texts -/

/-- No line of a restored text carries a comment. -/
lemma carried?_of_mem_restored (g : Merger) (fo ft : Text)
    (hl : l ∈ Text.pieces (g.planFormatted .restore fo ft).application.text) :
    carried? l = none := by
  have hfilter := g.filter_pieces_restored fo ft (q := fun l => (carried? l).isSome) rfl
  have hnone : ((g.planFormatted .restore fo ft).application.lines.map uncarry).filter
      (fun l => (carried? l).isSome) = [] := by
    apply List.filter_eq_nil_iff.mpr
    intro k hk
    obtain ⟨k, -, rfl⟩ := List.mem_map.mp hk
    simp [carried?_uncarry]
  rw [hnone] at hfilter
  simpa using List.filter_eq_nil_iff.mp hfilter l hl

/-- A bookend is recognised as documentation of a module in an outer attribute, and uncarrying makes
an inner doc comment with the same indentation of it. Any other line that is recognised stays as it
is, one with a raw literal too. No line of a restored text is a bookend. -/
theorem bookends_become_inner_comments (m : Markers) :
    (∀ l, IsBookend l → Line.isOuterAttribute l = true ∧ Line.isModuleDoc m l = true ∧
        Line.isInnerDocComment (uncarry l) = true ∧ indent (uncarry l) = indent l) ∧
      (∀ l, Line.isOuterAttribute l = true → Line.isModuleDoc m l = true → ¬IsBookend l →
        uncarry l = l) ∧
      ∀ (formatter : Formatter) (splitMixed reformatBookends : Bool) (process : Runner)
        (original transformed fo ft : Text), Formatter.format process original = .ok fo →
        Formatter.format process transformed = .ok ft →
        ∃ merged, Merger.merge ⟨formatter, m, splitMixed, reformatBookends, true⟩ process .restore
            original transformed = .ok merged ∧
          ∀ l ∈ Text.pieces merged, ¬IsBookend l := by
  refine ⟨fun l hl => ⟨hl.isOuterAttribute, hl.isModuleDoc, hl.isInnerDocComment_uncarry⟩,
    fun l houter hmodule hl => uncarry_eq_self_of_isModuleDoc houter hmodule hl, ?_⟩
  intro formatter splitMixed reformatBookends process original transformed fo ft ho ht
  refine ⟨_, Merger.merge_eq rfl ho ht, ?_⟩
  intro l hl hbookend
  obtain ⟨t, hcarried⟩ := isBookend_iff.mp hbookend
  have hnone := carried?_of_mem_restored ⟨formatter, m, splitMixed, reformatBookends, true⟩ fo ft hl
  rw [hnone] at hcarried
  exact absurd hcarried (by simp)

/-- An indented bookend with blanks between its tokens, a raw literal, and a restored text. -/
theorem bookends_become_inner_comments_of_spaced_lines :
    let original := "#![doc = module_doc!()]\nstruct S;\n".toList
    let transformed := "  # [doc = \"//! Tools.\" ]\nstruct S;\n".toList
    IsBookend "  # [doc = \"//! Tools.\" ]".toList ∧
      Line.isInnerDocComment (uncarry "  # [doc = \"//! Tools.\" ]".toList) = true ∧
      indent (uncarry "  # [doc = \"//! Tools.\" ]".toList) = "  ".toList ∧
      ¬IsBookend "#[doc = r\"//! Tools.\"]".toList ∧
      uncarry "#[doc = r\"//! Tools.\"]".toList = "#[doc = r\"//! Tools.\"]".toList ∧
      Formatter.format Formatter.echo original = .ok original ∧
      Formatter.format Formatter.echo transformed = .ok transformed ∧
      ∃ merged, ({} : Merger).merge Formatter.echo .restore original transformed = .ok merged ∧
        ∀ l ∈ Text.pieces merged, ¬IsBookend l := by
  intro original transformed
  obtain ⟨hbecome, hstay, hrestored⟩ := bookends_become_inner_comments {}
  have hbookend : IsBookend "  # [doc = \"//! Tools.\" ]".toList :=
    isBookend_iff.mpr ⟨" Tools.".toList, by decide⟩
  have hother : ¬IsBookend "#[doc = r\"//! Tools.\"]".toList := by
    intro h
    obtain ⟨t, ht⟩ := isBookend_iff.mp h
    rw [show carried? "#[doc = r\"//! Tools.\"]".toList = none by decide] at ht
    exact absurd ht (by simp)
  obtain ⟨-, -, hinner, hindent⟩ := hbecome _ hbookend
  exact ⟨hbookend, hinner, hindent.trans (by decide), hother,
    hstay _ (by decide) (by decide) hother, Formatter.format_echo _,
    Formatter.format_echo _, hrestored {} true true Formatter.echo original transformed original
      transformed (Formatter.format_echo _) (Formatter.format_echo _)⟩

/-- An item behind the attribute, a blank before the comment in the literal and a raw literal: all
three lines are recognised as documentation of a module, and stay outer attributes. -/
theorem recognised_bookends_stay_attributes :
    let lines := ["#[doc = \"//! Tools.\"] mod tools;".toList, "#[doc = \" //! Tools.\"]".toList,
      "#[doc = r\"//! Tools.\"]".toList]
    lines.all (fun l => Line.isOuterAttribute l && Line.isModuleDoc {} l) = true ∧
      lines.map uncarry = lines ∧ (lines.map uncarry).any Line.isInnerDocComment = false := by
  decide

end DocGraft.Bookend
