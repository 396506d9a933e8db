import DocGraft.Proofs.DocTransfer
import DocGraft.Proofs.ExchangedDocs
import DocGraft.Proofs.StandIns

/-!
# Documentation moved out and brought back

A source with all its documentation in doc comments is migrated to the text with stand-ins, and that
text is restored from the one with carried comments. Both merges compare texts that differ by
exchanged runs, so each has the lines of its transformed text, and what is left is to close, reformat
or uncarry them.
-/

namespace DocGraft

/-- A text that ends its lines by line feeds only, the last one by a single one, and has all its
documentation in doc comments. A comment of nothing but its mark and one blank is left out: it would
come back without that blank. -/
structure InlineSource (t : Text) : Prop where
  closed_eq : Text.closed t = t
  no_return : '\r' ∉ t
  no_attribute : ∀ l ∈ Text.lines t, Line.isDocAttribute l = false
  no_marker : ∀ l ∈ Text.lines t, Line.isMarker {} l = false
  no_empty : ∀ l ∈ Text.lines t, Line.isDocComment l = true →
    Text.trimLeft l ≠ ['/', '/', '/', ' '] ∧ Text.trimLeft l ≠ ['/', '/', '!', ' ']

/-- The text with a stand-in for each run of doc comments. -/
def withStandIns (t : Text) : Text := Text.ofLines (standIns (Text.lines t))

/-- The text with each doc comment in an attribute. -/
def withCarriedDocs (t : Text) : Text := Text.ofLines ((Text.lines t).map Line.carryDoc)

namespace InlineSource

variable {t : Text}

lemma not_mem (h : InlineSource t) {c : Char} (hc : c = '\n' ∨ c = '\r') :
    ∀ l ∈ Text.lines t, c ∉ l := by
  intro l hl
  exact Line.not_mem_of_lineEnd hc (Text.not_mem_of_mem_lines hl)
    ((Text.ofLines_lines h.closed_eq h.no_return).2.2 l hl)

lemma not_mem_standIns (h : InlineSource t) {c : Char} (hc : c = '\n' ∨ c = '\r') :
    ∀ l ∈ standIns (Text.lines t), c ∉ l := by
  intro l hl
  rcases (stoodIn_standIns (Text.lines t)).mem_cases hl with hl | ⟨k, hk, hs⟩
  · exact h.not_mem hc l hl
  · exact hs.not_mem hc (h.not_mem hc k hk)

lemma not_mem_carried (h : InlineSource t) {c : Char} (hc : c = '\n' ∨ c = '\r') :
    ∀ l ∈ (Text.lines t).map Line.carryDoc, c ∉ l := by
  intro l hl
  obtain ⟨k, hk, rfl⟩ := List.mem_map.mp hl
  exact Line.not_mem_carryDoc hc (h.not_mem hc k hk)

lemma lines_withStandIns (h : InlineSource t) :
    Text.lines (withStandIns t) = standIns (Text.lines t) :=
  Text.lines_ofLines (h.not_mem_standIns (Or.inl rfl)) (h.not_mem_standIns (Or.inr rfl))

lemma lines_withCarriedDocs (h : InlineSource t) :
    Text.lines (withCarriedDocs t) = (Text.lines t).map Line.carryDoc :=
  Text.lines_ofLines (h.not_mem_carried (Or.inl rfl)) (h.not_mem_carried (Or.inr rfl))

lemma exchanged_standIns (h : InlineSource t) :
    Diff.Exchanged Line.isDocComment (Line.isMarker {}) (Text.lines t) (standIns (Text.lines t)) :=
  (stoodIn_standIns (Text.lines t)).exchanged h.no_marker

lemma exchanged_carried (h : InlineSource t) :
    Diff.Exchanged (fun l => Line.isMarker {} l && !Line.isDocLiteral l) Line.isDocLiteral
      (standIns (Text.lines t)) ((Text.lines t).map Line.carryDoc) :=
  (stoodIn_standIns (Text.lines t)).exchanged_carryDoc h.no_marker h.no_attribute

lemma map_uncarry_carried (h : InlineSource t) :
    ((Text.lines t).map Line.carryDoc).map Bookend.uncarry = Text.lines t := by
  have hid : ∀ l ∈ Text.lines t, (Bookend.uncarry ∘ Line.carryDoc) l = id l := fun l hl =>
    uncarry_carryDoc (h.not_mem (Or.inl rfl) l hl) (h.no_attribute l hl) (h.no_empty l hl)
  rw [List.map_map, List.map_congr_left hid, List.map_id]

end InlineSource

namespace Merger

variable {process : Runner} {original : Text}

lemma text_migrated (h : InlineSource original) :
    (({} : Merger).planFormatted .migrate original (withStandIns original)).application.text =
      withStandIns original := by
  let p := ({} : Merger).planFormatted .migrate original (withStandIns original)
  have hlines : p.application.lines = standIns (Text.lines original) := by
    rw [← h.lines_withStandIns]
    refine lines_application_of_exchanged (p := Line.isDocComment) (q := Line.isMarker {}) {}
      .migrate ?_ ?_ ?_ ?_
    · exact fun l hl => Bool.or_eq_true_iff.mpr (Or.inl hl)
    · exact fun l hl => Bool.or_eq_true_iff.mpr (Or.inr hl)
    · exact fun l hl => Line.isMarker_eq_false_of_isDocComment hl
    · rw [h.lines_withStandIns]
      exact h.exchanged_standIns
  have hlast : (standIns (Text.lines original)).getLast? ≠ some [] :=
    h.exchanged_standIns.getLast?_ne (by decide)
      (Text.ofLines_lines h.closed_eq h.no_return).2.1
  change Text.closed (Text.unpieces p.application.lines) = _
  rw [hlines, Text.closed_unpieces (h.not_mem_standIns (Or.inl rfl)) hlast, withStandIns]

lemma text_restored (h : InlineSource original) :
    (({} : Merger).planFormatted .restore (withStandIns original)
      (withCarriedDocs original)).application.text = original := by
  let p := ({} : Merger).planFormatted .restore (withStandIns original) (withCarriedDocs original)
  obtain ⟨hback, hlast, -⟩ := Text.ofLines_lines h.closed_eq h.no_return
  have hlines : p.application.lines = (Text.lines original).map Line.carryDoc := by
    rw [← h.lines_withCarriedDocs]
    refine lines_application_of_exchanged {} .restore
      (p := fun l => Line.isMarker {} l && !Line.isDocLiteral l) (q := Line.isDocLiteral)
      ?_ ?_ ?_ ?_
    · exact fun l hl => (Bool.and_eq_true_iff.mp hl).1
    · exact fun l hl => Bool.or_eq_true_iff.mpr (Or.inr hl)
    · exact fun l hl => by simpa using (Bool.and_eq_true_iff.mp hl).2
    · rw [h.lines_withStandIns, h.lines_withCarriedDocs]
      exact h.exchanged_carried
  change Text.closed (Bookend.uncarryAll (Text.unpieces p.application.lines)) = _
  rw [hlines, Bookend.uncarryAll_unpieces (h.not_mem_carried (Or.inl rfl)), h.map_uncarry_carried,
    Text.closed_unpieces (h.not_mem (Or.inl rfl)) hlast, hback]

lemma reformatLine_withStandIns (hecho : ∀ t, Formatter.format process t = .ok t)
    (h : InlineSource original) : ∀ l ∈ Text.pieces (withStandIns original),
      Bookend.reformatLine {} (Formatter.format process) l = .ok l := by
  have hother : ∀ {l : Line}, Line.isModuleDocMacro {} l = false →
      Bookend.reformatLine {} (Formatter.format process) l = .ok l := by
    intro l hl
    rw [Bookend.reformatLine, hl]
    rfl
  intro l hl
  rw [withStandIns, Text.pieces_ofLines (h.not_mem_standIns (Or.inl rfl))] at hl
  rcases List.mem_append.mp hl with hl | hl
  · rcases (stoodIn_standIns (Text.lines original)).mem_cases hl with hl | ⟨k, -, rfl | rfl⟩
    · exact hother (Bool.or_eq_false_iff.mp (h.no_marker l hl)).2
    · exact Bookend.reformatLine_moduleStandIn hecho k
    · exact hother (Line.isModuleDocMacro_itemStandIn k)
  · rw [List.mem_singleton.mp hl]
    exact hother (by decide)

/-- A source is migrated to the text with stand-ins and restored from the one with carried
comments. -/
theorem restore_undoes_migrate (process : Runner) (original : Text)
    (hecho : ∀ t, Formatter.format process t = .ok t) (h : InlineSource original) :
    ({} : Merger).merge process .migrate original (withStandIns original) =
        .ok (withStandIns original) ∧
      ({} : Merger).merge process .restore (withStandIns original) (withCarriedDocs original) =
        .ok original := by
  constructor
  · rw [merge_eq rfl (hecho original) (hecho (withStandIns original))]
    simp only [text_migrated h]
    exact Bookend.reformatText_eq_ok (reformatLine_withStandIns hecho h)
  · rw [merge_eq rfl (hecho (withStandIns original)) (hecho (withCarriedDocs original))]
    simp only [text_restored h]
    rfl

/-- A file with documentation of a module next to that of an item, quotes in it, and members whose
lines repeat. -/
theorem restore_undoes_migrate_echo :
    let text (ls : List String) : Text := Text.ofLines (ls.map String.toList)
    let original := text ["//! Tools.", "/// A \"b\\c\".", "struct A;", "impl A \x7b",
      "    /// Runs.", "    /// Twice.", "    #[inline]", "    fn run();",
      "    /// Runs.", "    #[inline]", "    fn run();", "\x7d"]
    let bare := text ["#![doc = module_doc!()]", "#[omnidoc]", "struct A;", "impl A \x7b",
      "    #[omnidoc]", "    #[inline]", "    fn run();",
      "    #[omnidoc]", "    #[inline]", "    fn run();", "\x7d"]
    let carried := text ["#[doc = \"//! Tools.\"]", "#[doc = \"/// A \\\"b\\\\c\\\".\"]", "struct A;",
      "impl A \x7b", "    #[doc = \"/// Runs.\"]", "    #[doc = \"/// Twice.\"]", "    #[inline]",
      "    fn run();", "    #[doc = \"/// Runs.\"]", "    #[inline]", "    fn run();", "\x7d"]
    InlineSource original ∧ withStandIns original = bare ∧ withCarriedDocs original = carried ∧
      ({} : Merger).merge Formatter.echo .migrate original bare = .ok bare ∧
      ({} : Merger).merge Formatter.echo .restore bare carried = .ok original := by
  intro text original bare carried
  have h : InlineSource original :=
    ⟨by decide +kernel +zetaReduce, by decide +kernel +zetaReduce, by decide +kernel +zetaReduce,
      by decide +kernel +zetaReduce, by decide +kernel +zetaReduce⟩
  have hbare : withStandIns original = bare := by decide +kernel +zetaReduce
  have hcarried : withCarriedDocs original = carried := by decide +kernel +zetaReduce
  have hmerge := restore_undoes_migrate Formatter.echo original Formatter.format_echo h
  rw [hbare, hcarried] at hmerge
  exact ⟨h, hbare, hcarried, hmerge⟩

end Merger

end DocGraft
