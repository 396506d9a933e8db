import DocGraft.Proofs.CarriedDocs
import DocGraft.Proofs.EchoFormatter
import DocGraft.Proofs.MergedSegments
import Mathlib.Data.List.Flatten

/-!
# Documentation moves as a whole

A merge that takes documentation out of the source has exactly the documentation of the transformed
text, and at least its markers. One that brings it back has at most the markers of the transformed
text, and all its documentation, uncarried. Each is read off one segment at a time: a change that is
passed over hides nothing of what matters in its direction.
-/

namespace DocGraft

/-! ### Merges that can be made -/

namespace Merger

variable {g : Merger} {process : Runner} {d : Direction} {base transformed fb ft : Text}

/-- Texts that can be formatted have a plan, if the macro has a name. -/
lemma plan_eq (hname : g.macroIsText = true) (hb : Formatter.format process base = .ok fb)
    (ht : Formatter.format process transformed = .ok ft) :
    g.plan process d base transformed = .ok (g.planFormatted d fb ft) := by
  simp [plan, draft, planFails, hb, ht, hname, bind, Except.bind, pure, Except.pure]

/-- A merge of texts that can be formatted, with a name for the macro, is the application of its plan
and, where macro lines are reformatted, what that makes of it. -/
lemma merge_eq (hname : g.macroIsText = true) (hb : Formatter.format process base = .ok fb)
    (ht : Formatter.format process transformed = .ok ft) :
    g.merge process d base transformed =
      let p := g.planFormatted d fb ft
      if g.reformats p then
        Bookend.reformatText g.markers (Formatter.format process) p.application.text
      else .ok p.application.text := by
  have happly : g.applyFails (g.planFormatted d fb ft) = false := by
    simp [applyFails, renderFails, hname]
  rw [merge, plan_eq hname hb ht]
  change g.apply process (g.planFormatted d fb ft) = _
  rw [apply, happly]
  rfl

lemma not_mem_of_mem_application_lines (g : Merger) (d : Direction) (fb ft : Text) :
    ∀ l ∈ (g.planFormatted d fb ft).application.lines, '\n' ∉ l :=
  Application.not_mem_of_mem_lines (fun _ => Text.not_mem_of_mem_lines)
    (fun _ => Text.not_mem_of_mem_lines)

end Merger

/-! ### One segment -/

namespace Diff.Segment

variable (m : Markers) (s : Segment Line)

lemma filter_isInlineDoc_rendering (removed added : List Line) :
    (Hunk.rendering m removed added).filter Line.isInlineDoc = added.filter Line.isInlineDoc :=
  Hunk.filter_rendering_of_apart Hunk.visible_isInlineDoc
    (fun _ => Line.isKeptAside_eq_false_of_isInlineDoc) removed added

lemma filter_isMarker_rendering (removed added : List Line) :
    (Hunk.rendering m removed added).filter (Line.isMarker m) = added.filter (Line.isMarker m) :=
  Hunk.filter_rendering_of_apart (Hunk.visible_isMarker m)
    (fun _ => Line.isKeptAside_eq_false_of_isMarker) removed added

section Classes

variable {m : Markers} {p : Line → Bool} (d : Direction)
  (hrendering : ∀ removed added, (Hunk.rendering m removed added).filter p = added.filter p)
include hrendering

/-- Where it matters that lines of a class come, the merged segment has all of them. -/
lemma filter_after_sublist (hbrings : ∀ l, p l = true → d.brings m l = true) (s : Segment Line) :
    (s.after.filter p).Sublist ((s.merged d m).filter p) := by
  cases s with
  | same run => exact List.Sublist.refl _
  | change removed added =>
    rw [merged, after]
    split
    · rw [hrendering]
    · next h =>
      have hadded : ∀ l ∈ added, ¬p l = true := fun l hl hp =>
        (Direction.forall_of_not_applies h).2 l hl (hbrings l hp)
      rw [List.filter_eq_nil_iff.mpr hadded]
      exact List.nil_sublist _

/-- Where it matters that lines of a class go, the merged segment has only those that come. -/
lemma filter_merged_sublist (hleaves : ∀ l, p l = true → d.leaves m l = true) (s : Segment Line) :
    ((s.merged d m).filter p).Sublist (s.after.filter p) := by
  cases s with
  | same run => exact List.Sublist.refl _
  | change removed added =>
    rw [merged, after]
    split
    · rw [hrendering]
    · next h =>
      have hremoved : ∀ l ∈ removed, ¬p l = true := fun l hl hp =>
        (Direction.forall_of_not_applies h).1 l hl (hleaves l hp)
      rw [List.filter_eq_nil_iff.mpr hremoved]
      exact List.nil_sublist _

end Classes

lemma filter_isInlineDoc_migrated :
    (s.merged .migrate m).filter Line.isInlineDoc = s.after.filter Line.isInlineDoc := by
  have hrendering := filter_isInlineDoc_rendering m
  exact (filter_merged_sublist .migrate hrendering (fun _ hl => hl) s).antisymm
    (filter_after_sublist .migrate hrendering (fun _ hl => Bool.or_eq_true_iff.mpr (Or.inl hl)) s)

lemma filter_isMarker_migrated :
    (s.after.filter (Line.isMarker m)).Sublist ((s.merged .migrate m).filter (Line.isMarker m)) :=
  filter_after_sublist .migrate (filter_isMarker_rendering m)
    (fun _ hl => Bool.or_eq_true_iff.mpr (Or.inr hl)) s

lemma filter_isMarker_restored :
    ((s.merged .restore m).filter (Line.isMarker m)).Sublist (s.after.filter (Line.isMarker m)) :=
  filter_merged_sublist .restore (filter_isMarker_rendering m) (fun _ hl => hl) s

lemma filter_isInlineDoc_restored :
    (s.after.filter Line.isInlineDoc).Sublist ((s.merged .restore m).filter Line.isInlineDoc) :=
  filter_after_sublist .restore (filter_isInlineDoc_rendering m) (fun _ hl => hl) s

end Diff.Segment

/-! ### Whole merges -/

namespace Merger

open Diff (Segment)

variable (g : Merger) (fb ft : Text)

/-- A relation between lines of a class that holds of each segment and of what it is merged to holds
of the two texts. -/
lemma sublist_filter_lines {d : Direction} {p : Line → Bool}
    (h : ∀ s : Segment Line, (s.after.filter p).Sublist ((s.merged d g.markers).filter p)) :
    ((Text.lines ft).filter p).Sublist ((g.planFormatted d fb ft).application.lines.filter p) := by
  have hafter := flatMap_after_segments g (Text.lines fb) (Text.lines ft)
  rw [lines_application]
  nth_rewrite 1 [← hafter]
  rw [List.filter_flatMap, List.filter_flatMap]
  exact List.Sublist.flatMap_right _ fun s _ => h s

lemma filter_lines_sublist {d : Direction} {p : Line → Bool}
    (h : ∀ s : Segment Line, ((s.merged d g.markers).filter p).Sublist (s.after.filter p)) :
    ((g.planFormatted d fb ft).application.lines.filter p).Sublist ((Text.lines ft).filter p) := by
  have hafter := flatMap_after_segments g (Text.lines fb) (Text.lines ft)
  rw [lines_application]
  nth_rewrite 2 [← hafter]
  rw [List.filter_flatMap, List.filter_flatMap]
  exact List.Sublist.flatMap_right _ fun s _ => h s

/-- A merge that takes documentation out of the source has exactly the documentation of the
transformed text, in its order, and all its markers. -/
theorem migrate_takes_documentation (formatter : Formatter) (m : Markers) (splitMixed : Bool)
    (process : Runner) (original transformed fo ft : Text)
    (ho : Formatter.format process original = .ok fo)
    (ht : Formatter.format process transformed = .ok ft) :
    ∃ merged, Merger.merge ⟨formatter, m, splitMixed, false, true⟩ process .migrate original
        transformed = .ok merged ∧
      (Text.pieces merged).filter Line.isInlineDoc = (Text.lines ft).filter Line.isInlineDoc ∧
      ((Text.lines ft).filter (Line.isMarker m)).Sublist
        ((Text.pieces merged).filter (Line.isMarker m)) := by
  let g : Merger := ⟨formatter, m, splitMixed, false, true⟩
  let a := (g.planFormatted .migrate fo ft).application
  have hfeed : ∀ l ∈ a.lines, '\n' ∉ l := not_mem_of_mem_application_lines g .migrate fo ft
  have hpost : a.post = id := rfl
  refine ⟨a.text, merge_eq rfl ho ht, ?_, ?_⟩
  · rw [Application.filter_pieces_text Hunk.visible_isInlineDoc.nil hpost hfeed]
    apply List.Sublist.antisymm
    · exact filter_lines_sublist g fo ft fun s => by rw [Segment.filter_isInlineDoc_migrated]
    · exact sublist_filter_lines g fo ft fun s => by rw [Segment.filter_isInlineDoc_migrated]
  · rw [Application.filter_pieces_text (Hunk.visible_isMarker m).nil hpost hfeed]
    exact sublist_filter_lines g fo ft fun s => Segment.filter_isMarker_migrated m s

/-- A file whose documentation moves out and whose other lines are moved about. -/
theorem migrate_takes_documentation_echo :
    let original := "//! Tools.\n\n/// A.\n#[derive(Debug)]\nstruct A;\nstruct B;\n".toList
    let transformed :=
      "#![doc = module_doc!()]\n#[omnidoc]\nstruct A;\n/// New.\nstruct B;\n".toList
    Formatter.format Formatter.echo original = .ok original ∧
      Formatter.format Formatter.echo transformed = .ok transformed ∧
      ∃ merged, Merger.merge ⟨{}, {}, true, false, true⟩ Formatter.echo .migrate original
          transformed = .ok merged ∧
        (Text.pieces merged).filter Line.isInlineDoc =
          (Text.lines transformed).filter Line.isInlineDoc ∧
        ((Text.lines transformed).filter (Line.isMarker {})).Sublist
          ((Text.pieces merged).filter (Line.isMarker {})) :=
  ⟨Formatter.format_echo _, Formatter.format_echo _,
    migrate_takes_documentation {} {} true Formatter.echo _ _ _ _ (Formatter.format_echo _)
      (Formatter.format_echo _)⟩

/-- A merge that brings documentation back leaves no marker that the transformed text does not have,
and has all the documentation of that text, uncarried. -/
theorem restore_brings_documentation (formatter : Formatter) (m : Markers)
    (splitMixed reformatBookends : Bool) (process : Runner) (original transformed fo ft : Text)
    (ho : Formatter.format process original = .ok fo)
    (ht : Formatter.format process transformed = .ok ft) :
    ∃ merged, Merger.merge ⟨formatter, m, splitMixed, reformatBookends, true⟩ process .restore
        original transformed = .ok merged ∧
      ((Text.pieces merged).filter (Line.isMarker m)).Sublist
        ((Text.lines ft).filter (Line.isMarker m)) ∧
      (((Text.lines ft).filter Line.isInlineDoc).map Bookend.uncarry).Sublist
        (Text.pieces merged) := by
  let g : Merger := ⟨formatter, m, splitMixed, reformatBookends, true⟩
  let a := (g.planFormatted .restore fo ft).application
  have hfeed : ∀ l ∈ a.lines, '\n' ∉ l := not_mem_of_mem_application_lines g .restore fo ft
  have htext : a.text = Text.closed (Bookend.uncarryAll (Text.unpieces a.lines)) := rfl
  have hpieces := Bookend.pieces_uncarryAll (Text.unpieces a.lines)
  refine ⟨a.text, merge_eq rfl ho ht, ?_, ?_⟩
  · have hnil := (Hunk.visible_isMarker m).nil
    rw [htext, Text.filter_pieces_closed hnil, hpieces]
    refine (Bookend.filter_isMarker_map_uncarry m _).trans ?_
    rw [Text.filter_pieces_unpieces hnil hfeed]
    exact filter_lines_sublist g fo ft fun s => Segment.filter_isMarker_restored m s
  · have hdocs : ((Text.lines ft).filter Line.isInlineDoc).Sublist
        (Text.pieces (Text.unpieces a.lines)) := by
      refine (sublist_filter_lines g fo ft
        fun s => Segment.filter_isInlineDoc_restored m s).trans ?_
      rw [← Text.filter_pieces_unpieces Hunk.visible_isInlineDoc.nil hfeed]
      exact List.filter_sublist
    rw [htext]
    apply Text.sublist_pieces_closed
    · rw [hpieces]
      exact hdocs.map _
    · intro l hl
      obtain ⟨k, hk, rfl⟩ := List.mem_map.mp hl
      exact Bookend.uncarry_ne_nil (Hunk.visible_isInlineDoc k (List.mem_filter.mp hk).2)

/-- A file whose documentation comes back while one of its markers stays. -/
theorem restore_brings_documentation_echo :
    let original := "#![doc = module_doc!()]\n#[omnidoc]\nstruct A;\n#[omnidoc]\nstruct B;\n".toList
    let transformed :=
      "#![doc = module_doc!()]\n#[doc = \"/// A.\"]\nstruct A;\nstruct B;\n".toList
    Formatter.format Formatter.echo original = .ok original ∧
      Formatter.format Formatter.echo transformed = .ok transformed ∧
      ∃ merged, Merger.merge {} Formatter.echo .restore original transformed = .ok merged ∧
        ((Text.pieces merged).filter (Line.isMarker {})).Sublist
          ((Text.lines transformed).filter (Line.isMarker {})) ∧
        (((Text.lines transformed).filter Line.isInlineDoc).map Bookend.uncarry).Sublist
          (Text.pieces merged) :=
  ⟨Formatter.format_echo _, Formatter.format_echo _,
    restore_brings_documentation {} {} true true Formatter.echo _ _ _ _ (Formatter.format_echo _)
      (Formatter.format_echo _)⟩

end Merger

end DocGraft
