import DocGraft.Proofs.DocTransfer
import DocGraft.Proofs.EditScript

/-!
# A plan is what is applied

A merge first makes a plan and then applies it. The hunks of a plan follow each other, also where a
hunk was cut in two, so applying the plan is the plain splice of its hunks in their order: each hunk
counts as it was announced, none is refused, and nothing is said about one that would be.
-/

namespace DocGraft

/-! ### Traces without warnings -/

namespace Trace

/-- Nothing is said but what helps to look for errors. -/
def Quiet (t : Trace) : Prop := ∀ e ∈ t, e.level = .debug

lemma quiet_nil : Quiet [] := by simp [Quiet]

lemma quiet_map {α : Type} (xs : List α) (source : Source) (message : α → String) :
    Quiet (xs.map fun x => ⟨.debug, source, message x⟩) := by
  intro e he
  obtain ⟨x, -, rfl⟩ := List.mem_map.mp he
  rfl

lemma Quiet.append {s t : Trace} (hs : s.Quiet) (ht : t.Quiet) : Quiet (s ++ t) := by
  intro e he
  rcases List.mem_append.mp he with he | he
  · exact hs e he
  · exact ht e he

end Trace

lemma Formatter.quiet_trace (f : Formatter) (result : Except Failure Text) :
    (f.trace result).Quiet := by
  unfold trace
  split
  · simp [Trace.Quiet]
  · exact Trace.quiet_nil

lemma Hunk.quiet_splitTrace (m : Markers) (after : List Line) (hunks : List Hunk) :
    (splitTrace m after hunks).Quiet := by
  intro e he
  obtain ⟨h, -, hcut⟩ := List.mem_filterMap.mp he
  obtain ⟨parts, -, rfl⟩ := Option.map_eq_some_iff.mp hcut
  rfl

lemma Bookend.Attempt.quiet_trace (f : Formatter) (source : Source) (a : Bookend.Attempt) :
    (a.trace f source).Quiet := by
  unfold trace
  cases a.outcome with
  | noContent => simp [Trace.Quiet]
  | failed failure =>
    refine (f.quiet_trace _).append ?_
    by_cases hexpected : failure.isExpected = true
    · simp [Trace.Quiet, hexpected]
    · simp [Trace.Quiet, hexpected]
  | lost formatted => simp [Trace.Quiet]
  | done line => exact Trace.quiet_nil

namespace Application

variable (source : Source) (a : Application)

lemma quiet_traceUpTo (first : List Hunk) : (a.traceUpTo source first).Quiet := by
  unfold traceUpTo
  exact (Trace.quiet_map _ source _).append (Trace.quiet_map _ source _)

lemma quiet_trace (h : Patch.refused a.base.length 0 a.patches = []) :
    (a.trace source).Quiet := by
  unfold trace
  rw [h]
  exact (a.quiet_traceUpTo source a.ordered).append Trace.quiet_nil

end Application

namespace Merger

variable (g : Merger) (process : Runner)

lemma quiet_planTrace (d : Direction) (base transformed : Text) :
    (g.planTrace process d base transformed).Quiet := by
  unfold planTrace
  split
  · next p _ =>
    have hdiff : p.diffTrace.Quiet := by
      unfold Plan.diffTrace Diff.trace
      refine Trace.Quiet.append ?_ (Trace.quiet_map _ .merger _)
      simp [Trace.Quiet]
    have hsplit : (g.splitTrace p).Quiet := by
      unfold splitTrace
      split
      · exact Hunk.quiet_splitTrace _ _ _
      · exact Trace.quiet_nil
    refine (hdiff.append hsplit).append ?_
    split
    · exact Trace.quiet_nil
    · simp [Trace.Quiet, Plan.choiceTrace]
  · exact g.formatter.quiet_trace _

lemma quiet_applyTrace {p : Plan}
    (h : Patch.refused p.application.base.length 0 p.application.patches = []) :
    (g.applyTrace process p).Quiet := by
  unfold applyTrace
  split
  · exact p.application.quiet_traceUpTo .merger _
  · refine (p.application.quiet_trace .merger h).append ?_
    intro e he
    obtain ⟨attempt, -, he⟩ := List.mem_flatMap.mp he
    exact attempt.quiet_trace g.formatter .merger e he

end Merger

/-! ### The hunks of a plan -/

namespace Plan

variable (p : Plan)

/-- For each hunk to choose from, what stands in its place: its rendering if it is applied, and its
own lines if it is not. -/
def outcomes : List Patch :=
  List.zipWith (fun h applied => Patch.inPlaceOf h
    (if applied then h.render p.markers p.before p.after else h.removed p.before))
    p.split p.relevant

lemma outcomes_eq_map :
    p.outcomes = p.split.map fun h => Patch.inPlaceOf h (p.application.outcome h) := by
  rw [outcomes, relevant, List.zipWith_map_right, List.zipWith_self]
  rfl

lemma appliedCount_eq_length : p.appliedCount = (p.split.filter p.isRelevant).length := by
  rw [appliedCount, relevant, List.count_eq_countP, List.countP_map, List.countP_eq_length_filter]
  congr 1
  apply List.filter_congr
  intro h _
  simp

end Plan

namespace Merger

variable (g : Merger) (d : Direction) (base transformed : Text)

lemma covers_segments (base after : List Line) :
    Diff.Covers base after 0 0 (g.segments base after) where
  before_le := Nat.zero_le _
  after_le := Nat.zero_le _
  before_eq := (flatMap_before_segments g base after).symm
  after_eq := (flatMap_after_segments g base after).symm

/-- The hunks of a plan follow each other in the base. -/
lemma laid_planFormatted :
    Hunk.Laid (Text.lines base).length 0
      ((g.planFormatted d base transformed).split.map Hunk.beforeRange) := by
  have hcovers := g.covers_segments (Text.lines base) (Text.lines transformed)
  rw [split_planFormatted]
  exact (hcovers.laid (Nat.le_refl 0) (Nat.le_refl 0)).1

/-- A plan is applied as it stands: the merged lines are the plain splice of its hunks in their
order, each rendered or left as announced. The order in which hunks are looked at makes no
difference, none is refused and no warning is given, and without a hunk to apply the lines are those
of the base. -/
theorem plan_is_applied (formatter : Formatter) (m : Markers) (splitMixed reformatBookends : Bool)
    (process : Runner) (d : Direction) (original transformed fo ft : Text)
    (ho : Formatter.format process original = .ok fo)
    (ht : Formatter.format process transformed = .ok ft) :
    let g : Merger := ⟨formatter, m, splitMixed, reformatBookends, true⟩
    ∃ p, g.plan process d original transformed = .ok p ∧
      p.formattedBase = fo ∧ p.formattedTransformed = ft ∧
      Hunk.Laid p.before.length 0 (p.split.map Hunk.beforeRange) ∧
      p.application.lines = Patch.plainSplice p.before 0 p.outcomes ∧
      (∀ order : List Hunk, order.Perm p.split →
        Patch.splice p.before 0 (Patch.byStart ((order.filter p.isRelevant).map
          (Patch.ofHunk p.markers p.before p.after))) = p.application.lines) ∧
      Patch.refused p.before.length 0 p.application.patches = [] ∧
      (g.trace process d original transformed).Quiet ∧
      p.application.patches.length = p.appliedCount ∧
      (p.appliedCount = 0 → p.application.lines = p.before) ∧
      (p.before = p.after → p.split = [] ∧ p.appliedCount = 0) := by
  intro g
  let p := g.planFormatted d fo ft
  have hplan : g.plan process d original transformed = .ok p := plan_eq rfl ho ht
  have horder : Hunk.InOrder p.application.hunks := inOrder_planFormatted g d fo ft
  have hlaid : Hunk.Laid p.application.base.length 0 (p.application.hunks.map Hunk.beforeRange) :=
    laid_planFormatted g d fo ft
  have hrefused := Application.refused_eq_nil horder hlaid
  have hpatches := Application.patches_eq horder
  have hcount : p.application.patches.length = p.appliedCount := by
    rw [hpatches, List.length_map, p.appliedCount_eq_length]
    rfl
  refine ⟨p, hplan, rfl, rfl, hlaid, ?_, ?_, hrefused, ?_, hcount, ?_, ?_⟩
  · rw [p.outcomes_eq_map]
    exact Application.lines_eq_plainSplice horder hlaid
  · intro order hperm
    rw [Application.lines, hpatches]
    exact congrArg _ (Application.byStart_patches_of_perm horder hperm)
  · rw [trace, hplan]
    exact (g.quiet_planTrace process d original transformed).append
      (g.quiet_applyTrace process hrefused)
  · intro hzero
    rw [← hcount, List.length_eq_zero_iff] at hzero
    rw [Application.lines, hzero]
    rfl
  · intro hsame
    have hsplit : p.split = [] := by
      have hhunks : Diff.hunks p.before p.after = [] := by rw [hsame, Diff.hunks_self]
      change (if splitMixed then Hunk.splitAll m p.after (Diff.hunks p.before p.after)
        else Diff.hunks p.before p.after) = []
      rw [hhunks]
      split
      · rfl
      · rfl
    rw [p.appliedCount_eq_length, hsplit]
    exact ⟨rfl, rfl⟩

/-- A hunk that is cut in two, where the second part replaces no line of the base. -/
theorem plan_is_applied_to_module_and_item :
    let original := "//! Tools.\nstruct A;\n".toList
    let transformed := "#![doc = module_doc!()]\n#[omnidoc]\nstruct A;\n".toList
    Formatter.format Formatter.echo original = .ok original ∧
      Formatter.format Formatter.echo transformed = .ok transformed ∧
      ∃ p, ({} : Merger).plan Formatter.echo .migrate original transformed = .ok p ∧
        p.split = [⟨0, 1, 0, 1⟩, ⟨1, 0, 1, 1⟩] ∧
        p.application.lines = Patch.plainSplice p.before 0 p.outcomes ∧
        Patch.refused p.before.length 0 p.application.patches = [] ∧
        p.application.patches.length = p.appliedCount := by
  intro original transformed
  obtain ⟨p, hplan, -, -, -, hlines, -, hrefused, -, hcount, -, -⟩ :=
    plan_is_applied {} {} true true Formatter.echo .migrate original transformed original transformed
      (Formatter.format_echo _) (Formatter.format_echo _)
  have hp : p = ({} : Merger).planFormatted .migrate original transformed :=
    Except.ok.inj (hplan.symm.trans (plan_eq rfl (Formatter.format_echo _) (Formatter.format_echo _)))
  have hsplit : p.split = [⟨0, 1, 0, 1⟩, ⟨1, 0, 1, 1⟩] := by
    rw [hp]
    decide +kernel +zetaReduce
  exact ⟨Formatter.format_echo _, Formatter.format_echo _, p, hplan, hsplit, hlines, hrefused,
    hcount⟩

end Merger

end DocGraft
