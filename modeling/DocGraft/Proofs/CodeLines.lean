import DocGraft.Proofs.AppliedPlan
import DocGraft.Proofs.LineKinds
import DocGraft.Proofs.ReformattedTexts

/-!
# Lines of code under a merge

Where two texts have the same lines of code, their comparison may still move code: a line that is
removed in one hunk can be added again in another. A merge takes some hunks and passes over others,
so it keeps the code if all hunks that it takes, or all that it passes over, leave code alone, and
every choice of hunks keeps the code exactly if each hunk has as much code on one side as on the
other.
-/

namespace DocGraft

/-! ### Code as a class of lines -/

namespace Line

def isCode (m : Markers) (l : Line) : Bool := kind m l == .code

/-- The lines of code among these, in their order. -/
def code (m : Markers) (ls : List Line) : List Line := ls.filter (isCode m)

variable {m : Markers} {l : Line}

lemma has_eq_false_of_isCode (h : isCode m l = true) (c : LineClass) : c.has l = false :=
  kind_eq_code_iff.mp (beq_iff_eq.mp h) c

lemma isKeptAside_eq_false_of_isCode (h : isCode m l = true) : isKeptAside m l = false := by
  have hkind : kind m l = .code := beq_iff_eq.mp h
  apply Bool.eq_false_iff.mpr
  intro hkept
  rw [isKeptAside_iff_kind, hkind] at hkept
  exact absurd hkept (by decide)

lemma isCode_eq_false_of_isInnerAttribute (h : isInnerAttribute l = true) :
    isCode m l = false := by
  apply Bool.eq_false_iff.mpr
  intro hcode
  have hinner : isInnerAttribute l = false := has_eq_false_of_isCode hcode .innerAttribute
  rw [h] at hinner
  exact absurd hinner (by decide)

end Line

lemma Hunk.visible_isCode (m : Markers) : Visible (Line.isCode m) := by
  intro l h hlead
  have hblank : Text.isBlank l = false := Line.has_eq_false_of_isCode h .blank
  rw [Line.isBlank_of_lead_eq_none hlead] at hblank
  exact absurd hblank (by decide)

/-! ### Choices among the hunks of a script -/

namespace Hunk

/-- What a hunk leaves if it is applied as it stands, and what it leaves if it is passed over. -/
def side (taken : Bool) (before after : List Line) (h : Hunk) : List Line :=
  if taken then h.added after else h.removed before

/-- The hunk removes and adds equally many lines of a class. -/
def Balanced (p : Line → Bool) (before after : List Line) (h : Hunk) : Prop :=
  (h.removed before).countP p = (h.added after).countP p

lemma InOrder.nodup {hunks : List Hunk} (h : InOrder hunks) : hunks.Nodup := by
  refine h.imp ?_
  rintro k l hkl rfl
  exact absurd hkl (Nat.lt_irrefl _)

end Hunk

namespace Application

/-- The hunks follow each other and turn the base into the other side. -/
structure IsScript (a : Application) : Prop where
  inOrder : Hunk.InOrder a.hunks
  laid : Hunk.Laid a.base.length 0 (a.hunks.map Hunk.beforeRange)
  complete : Patch.plainSplice a.base 0
    (a.hunks.map fun h => Patch.inPlaceOf h (h.added a.after)) = a.after

variable {a : Application} {p : Line → Bool}

lemma IsScript.plainSplice_removed (hscript : a.IsScript) :
    Patch.plainSplice a.base 0 (a.hunks.map fun h => Patch.inPlaceOf h (h.removed a.base)) =
      a.base := Patch.plainSplice_removed hscript.laid

lemma IsScript.choose (hscript : a.IsScript) (choice : Hunk → Bool) :
    IsScript { a with relevant := choice } := ⟨hscript.inOrder, hscript.laid, hscript.complete⟩

section

variable (hscript : a.IsScript) (hp : Hunk.Visible p)
  (hapart : ∀ l, p l = true → Line.isKeptAside a.markers l = false)

include hscript hp hapart

/-- Of a class apart from the lines kept aside, each hunk leaves what one of its sides has. -/
lemma filter_lines : a.lines.filter p = (Patch.plainSplice a.base 0 (a.hunks.map fun h =>
    Patch.inPlaceOf h (h.side (a.relevant h) a.base a.after))).filter p := by
  rw [lines_eq_plainSplice hscript.inOrder hscript.laid]
  apply Patch.filter_plainSplice_congr
  intro h _
  unfold outcome Hunk.side
  by_cases hrelevant : a.relevant h = true
  · rw [if_pos hrelevant, if_pos hrelevant]
    exact Hunk.filter_rendering_of_apart hp hapart _ _
  · rw [if_neg hrelevant, if_neg hrelevant]

lemma filter_lines_eq_base (h : ∀ k ∈ a.hunks, a.relevant k = true →
    (k.removed a.base).filter p = (k.added a.after).filter p) :
    a.lines.filter p = a.base.filter p := by
  rw [filter_lines hscript hp hapart]
  conv_rhs => rw [← hscript.plainSplice_removed]
  apply Patch.filter_plainSplice_congr
  intro k hk
  cases hrelevant : a.relevant k with
  | true => exact (h k hk hrelevant).symm
  | false => rfl

lemma filter_lines_eq_after (h : ∀ k ∈ a.hunks, a.relevant k = false →
    (k.removed a.base).filter p = (k.added a.after).filter p) :
    a.lines.filter p = a.after.filter p := by
  rw [filter_lines hscript hp hapart]
  conv_rhs => rw [← hscript.complete]
  apply Patch.filter_plainSplice_congr
  intro k hk
  cases hrelevant : a.relevant k with
  | true => rfl
  | false => exact h k hk hrelevant

/-- Where both sides have the same lines of a class, every choice of hunks keeps them exactly if each
hunk has equally many of them on both sides. -/
lemma forall_balanced_iff (hsame : a.base.filter p = a.after.filter p) :
    (∀ h ∈ a.hunks, h.Balanced p a.base a.after) ↔
      ∀ choice : Hunk → Bool, { a with relevant := choice }.lines.filter p = a.base.filter p := by
  constructor
  · intro hbalanced choice
    have hsides : (Patch.plainSplice a.base 0
          (a.hunks.map fun k => Patch.inPlaceOf k (k.removed a.base))).filter p =
        (Patch.plainSplice a.base 0
          (a.hunks.map fun k => Patch.inPlaceOf k (k.added a.after))).filter p := by
      rw [hscript.plainSplice_removed, hscript.complete, hsame]
    have hequal := Patch.filter_eq_of_countP_eq hbalanced hsides
    exact filter_lines_eq_base (hscript.choose choice) hp hapart fun k hk _ => hequal k hk
  · -- The choice of one hunk alone shows what that hunk does.
    intro hkept h hh
    let only : Hunk → Bool := fun k => decide (k = h)
    have honly : (Patch.plainSplice a.base 0
          (a.hunks.map fun k => Patch.inPlaceOf k (k.side (only k) a.base a.after))).filter p =
        (Patch.plainSplice a.base 0
          (a.hunks.map fun k => Patch.inPlaceOf k (k.removed a.base))).filter p := by
      rw [hscript.plainSplice_removed, ← hkept only]
      exact (filter_lines (hscript.choose only) hp hapart).symm
    have hothers : ∀ k ∈ a.hunks, k ≠ h →
        (k.side (only k) a.base a.after).filter p = (k.removed a.base).filter p := by
      intro k _ hne
      rw [show only k = false from decide_eq_false hne]
      rfl
    have hequal := Patch.filter_eq_of_forall_ne hscript.inOrder.nodup hh hothers honly
    rw [show only h = true from decide_eq_true rfl] at hequal
    rw [Hunk.Balanced, List.countP_eq_length_filter, List.countP_eq_length_filter, ← hequal]
    rfl

end

end Application

/-! ### Whole merges -/

namespace Merger

lemma isScript_planFormatted (g : Merger) (d : Direction) (base transformed : Text) :
    (g.planFormatted d base transformed).application.IsScript where
  inOrder := inOrder_planFormatted g d base transformed
  laid := laid_planFormatted g d base transformed
  complete := by
    change Patch.plainSplice (Text.lines base) 0
      ((g.planFormatted d base transformed).split.map fun h =>
        Patch.inPlaceOf h (h.added (Text.lines transformed))) = Text.lines transformed
    rw [split_planFormatted]
    exact (g.covers_segments (Text.lines base) (Text.lines transformed)).plainSplice_added

lemma exists_merge_code {g : Merger} {process : Runner} (original transformed : Text)
    (hname : g.macroIsText = true) (hecho : ∀ t, Formatter.format process t = .ok t) :
    ∃ merged, g.merge process .migrate original transformed = .ok merged ∧
      Line.code g.markers (Text.pieces merged) = Line.code g.markers
        (g.planFormatted .migrate original transformed).application.lines := by
  obtain ⟨merged, hmerged, hall⟩ := exists_merge_reworked hname (hecho original)
    (hecho transformed) (Bookend.isExpected_of_echo hecho)
  refine ⟨merged, hmerged, ?_⟩
  calc Line.code g.markers (Text.pieces merged)
      = Line.code g.markers
          (Text.pieces (g.planFormatted .migrate original transformed).application.text) :=
        Bookend.filter_of_reworked (fun _ => Line.isCode_eq_false_of_isInnerAttribute) hall
    _ = _ := Application.filter_pieces_text (Hunk.visible_isCode g.markers).nil rfl
        (not_mem_of_mem_application_lines g .migrate original transformed)

/-- Between texts with the same lines of code, a merge that takes documentation out has of each hunk
the code of the side that it takes. The code changes only if a change of it is torn apart: one hunk
that changes code is applied, and another one is passed over. Every choice of hunks keeps the code
exactly if each hunk has as many lines of code on one side as on the other. -/
theorem migrate_keeps_code_unless_torn (formatter : Formatter) (m : Markers)
    (splitMixed reformatBookends : Bool) (process : Runner) (original transformed : Text)
    (hecho : ∀ t, Formatter.format process t = .ok t)
    (hcode : Line.code m (Text.lines original) = Line.code m (Text.lines transformed)) :
    let g : Merger := ⟨formatter, m, splitMixed, reformatBookends, true⟩
    ∃ p merged, g.plan process .migrate original transformed = .ok p ∧
      g.merge process .migrate original transformed = .ok merged ∧
      Line.code m (Text.pieces merged) = Line.code m (Patch.plainSplice p.before 0
        (p.split.map fun h => Patch.inPlaceOf h (h.side (p.isRelevant h) p.before p.after))) ∧
      (Line.code m (Text.pieces merged) ≠ Line.code m (Text.lines original) →
        ∀ applied : Bool, ∃ h ∈ p.split, p.isRelevant h = applied ∧
          Line.code m (h.removed p.before) ≠ Line.code m (h.added p.after)) ∧
      ((∀ h ∈ p.split, h.Balanced (Line.isCode m) p.before p.after) ↔
        ∀ choice : Hunk → Bool, Line.code m { p.application with relevant := choice }.lines =
          Line.code m (Text.lines original)) := by
  intro g
  let p := g.planFormatted .migrate original transformed
  have hscript : p.application.IsScript := isScript_planFormatted g .migrate original transformed
  have hvisible := Hunk.visible_isCode m
  have hapart : ∀ l, Line.isCode m l = true → Line.isKeptAside m l = false :=
    fun _ => Line.isKeptAside_eq_false_of_isCode
  obtain ⟨merged, hmerged, hlines⟩ := exists_merge_code (g := g) original transformed rfl hecho
  refine ⟨p, merged, plan_eq rfl (hecho original) (hecho transformed), hmerged, ?_, ?_, ?_⟩
  · rw [hlines]
    exact Application.filter_lines hscript hvisible hapart
  · intro hchanged applied
    by_contra hnone
    apply hchanged
    rw [hlines]
    have hequal : ∀ h ∈ p.split, p.isRelevant h = applied →
        Line.code m (h.removed p.before) = Line.code m (h.added p.after) := by
      intro h hh hrelevant
      by_contra hne
      exact hnone ⟨h, hh, hrelevant, hne⟩
    cases applied with
    | true => exact Application.filter_lines_eq_base hscript hvisible hapart hequal
    | false =>
      exact (Application.filter_lines_eq_after hscript hvisible hapart hequal).trans hcode.symm
  · exact Application.forall_balanced_iff hscript hvisible hapart hcode

/-- A marker takes the place of a comment, and a blank line between two items is gone. -/
theorem migrate_keeps_code_of_marked_item :
    let original := "/// Old.\nfn f() {}\n\nfn g() {}\n".toList
    let transformed := "#[omnidoc]\nfn f() {}\nfn g() {}\n".toList
    (∀ t, Formatter.format Formatter.echo t = .ok t) ∧
      Line.code {} (Text.lines original) = Line.code {} (Text.lines transformed) ∧
      ∃ p merged, ({} : Merger).plan Formatter.echo .migrate original transformed = .ok p ∧
        ({} : Merger).merge Formatter.echo .migrate original transformed = .ok merged ∧
        p.relevant = [true, false] ∧
        Line.code {} (Text.pieces merged) = ["fn f() {}".toList, "fn g() {}".toList] := by
  intro original transformed
  have hcode : Line.code {} (Text.lines original) = Line.code {} (Text.lines transformed) := by
    decide +kernel +zetaReduce
  obtain ⟨p, merged, hplan, hmerged, -, htorn, -⟩ := migrate_keeps_code_unless_torn {} {} true true
    Formatter.echo original transformed Formatter.format_echo hcode
  have hp : p = ({} : Merger).planFormatted .migrate original transformed :=
    Except.ok.inj (hplan.symm.trans (plan_eq rfl (Formatter.format_echo _) (Formatter.format_echo _)))
  have hequal : ∀ h ∈ p.split,
      Line.code {} (h.removed p.before) = Line.code {} (h.added p.after) := by
    rw [hp]
    decide +kernel +zetaReduce
  have hrelevant : p.relevant = [true, false] := by
    rw [hp]
    decide +kernel +zetaReduce
  have hkept : Line.code {} (Text.pieces merged) = Line.code {} (Text.lines original) := by
    by_contra hchanged
    obtain ⟨h, hh, -, hne⟩ := htorn hchanged true
    exact hne (hequal h hh)
  refine ⟨Formatter.format_echo, hcode, p, merged, hplan, hmerged, hrelevant, ?_⟩
  rw [hkept]
  decide +kernel +zetaReduce

/-- Blank lines come to stand before an item instead of behind it, and its comment is dropped. The
hunk that removes the comment takes the item with it, and the one that adds the item again behind the
blank lines is passed over. -/
theorem migrate_loses_code_of_torn_move :
    let original := "/// Old.\nfn f() {}\n\n\nfn g() {}\n".toList
    let transformed := "\n\nfn f() {}\nfn g() {}\n".toList
    (∀ t, Formatter.format Formatter.echo t = .ok t) ∧
      Line.code {} (Text.lines original) = ["fn f() {}".toList, "fn g() {}".toList] ∧
      Line.code {} (Text.lines transformed) = ["fn f() {}".toList, "fn g() {}".toList] ∧
      ({} : Merger).merge Formatter.echo .migrate original transformed =
        .ok "\n\nfn g() {}\n".toList ∧
      Line.code {} (Text.pieces "\n\nfn g() {}\n".toList) = ["fn g() {}".toList] := by
  intro original transformed
  refine ⟨Formatter.format_echo, by decide +kernel +zetaReduce, by decide +kernel +zetaReduce, ?_,
    by decide +kernel +zetaReduce⟩
  have htext : (({} : Merger).planFormatted .migrate original transformed).application.text =
      "\n\nfn g() {}\n".toList := by
    unfold Application.text
    rw [lines_application]
    decide +kernel +zetaReduce
  rw [merge_eq rfl (Formatter.format_echo _) (Formatter.format_echo _)]
  simp only [htext]
  rfl

end Merger

end DocGraft
