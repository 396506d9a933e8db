import DocGraft.Proofs.AppliedPlan
import DocGraft.Proofs.KeptLines

/-!
# Attributes over several lines

An attribute may be laid out over several lines, but what stays of a before range is chosen one line
at a time. The line that opens the attribute always stays. Those behind it stay only if they would
stay on their own, and then the attribute is whole; the closing one hardly ever does. A merge that
applies no hunk to any of the lines keeps them together.
-/

namespace DocGraft

namespace Text

/-- The square brackets that are open behind a text if `depth` of them are open before it. There is
no such number if the text closes all of them. -/
def openBrackets? : (depth : Nat) → Text → Option Nat
  | depth, [] => some depth
  | depth, c :: t =>
    if c = '[' then openBrackets? (depth + 1) t
    else if c = ']' then if depth ≤ 1 then none else openBrackets? (depth - 1) t
    else openBrackets? depth t

lemma openBrackets?_append (depth : Nat) (s t : Text) :
    openBrackets? depth (s ++ t) = (openBrackets? depth s).bind fun n => openBrackets? n t := by
  fun_induction openBrackets? depth s with
  | case1 depth => rfl
  | case2 depth s ih => rw [List.cons_append, openBrackets?, if_pos rfl, ih]
  | case3 depth s hlast hne =>
    rw [List.cons_append, openBrackets?, if_neg hne, if_pos rfl, if_pos hlast, Option.bind_none]
  | case4 depth s hlast hne ih =>
    rw [List.cons_append, openBrackets?, if_neg hne, if_pos rfl, if_neg hlast, ih]
  | case5 depth c s hopen hclose ih =>
    rw [List.cons_append, openBrackets?, if_neg hopen, if_neg hclose, ih]

lemma mem_of_openBrackets?_eq_none {depth : Nat} {t : Text} (h : openBrackets? depth t = none) :
    ']' ∈ t := by
  fun_induction openBrackets? depth t with
  | case1 depth => exact absurd h (Option.some_ne_none depth)
  | case2 depth t ih => exact List.mem_cons_of_mem _ (ih h)
  | case3 depth t hlast hne => exact List.mem_cons_self
  | case4 depth t hlast hne ih => exact List.mem_cons_self
  | case5 depth c t hopen hclose ih => exact List.mem_cons_of_mem c (ih h)

end Text

/-- An attribute over at least two lines that is neither documentation nor a stand-in for it: its
brackets are still open behind all lines but the last, and the last one closes them. -/
structure LongAttribute (m : Markers) where
  opening : Line
  inner : List Line
  closing : Line
  isOther : Line.isOtherAttribute m opening = true
  isOpen : (Text.openBrackets? 0 (opening ++ inner.flatten)).isSome = true
  isClosed : Text.openBrackets? 0 (opening ++ inner.flatten ++ closing) = none

namespace LongAttribute

variable {m : Markers} (a : LongAttribute m)

/-- The lines behind the opening one. -/
def later : List Line := a.inner ++ [a.closing]

def lines : List Line := a.opening :: a.later

lemma isBlank_closing : Text.isBlank a.closing = false := by
  obtain ⟨depth, hdepth⟩ := Option.isSome_iff_exists.mp a.isOpen
  have hclosed := a.isClosed
  rw [Text.openBrackets?_append, hdepth, Option.bind_some] at hclosed
  apply Bool.eq_false_iff.mpr
  intro hblank
  have hbracket := List.all_eq_true.mp hblank _ (Text.mem_of_openBrackets?_eq_none hclosed)
  exact absurd hbracket (by decide)

lemma isOrdinaryComment_opening : Line.isOrdinaryComment a.opening = false :=
  Line.isOrdinaryComment_eq_false_of_lead (by
    rw [Line.lead_of_isOtherAttribute a.isOther]
    decide)

/-! ### In a before range -/

open Hunk (endsInComment keptLines stays)

lemma keptLines_lines (afterComment : Bool) :
    keptLines m afterComment a.lines = a.opening :: keptLines m false a.later := by
  have hstays : stays m afterComment a.opening = true := by
    rw [stays, Line.isKeptAside, a.isOther]
    rfl
  rw [lines, Hunk.keptLines_cons, if_pos hstays, a.isOrdinaryComment_opening]
  rfl

lemma endsInComment_lines (afterComment : Bool) :
    endsInComment afterComment a.lines = Line.isOrdinaryComment a.closing := by
  rw [lines, later, ← List.cons_append, Hunk.endsInComment_concat]

lemma keptLines_append_lines (xs ys : List Line) :
    keptLines m false (xs ++ a.lines ++ ys) =
      keptLines m false xs ++ (a.opening :: keptLines m false a.later) ++
        keptLines m (Line.isOrdinaryComment a.closing) ys := by
  rw [List.append_assoc, Hunk.keptLines_append, Hunk.keptLines_append, a.keptLines_lines,
    a.endsInComment_lines, List.append_assoc]

/-- A closing line that is no attribute and no comment by itself is lost. -/
lemma keptLines_later (h : Line.isKeptAside m a.closing = false) :
    keptLines m false a.later = keptLines m false a.inner := by
  have hstays : stays m (endsInComment false a.inner) a.closing = false := by
    rw [stays, h, a.isBlank_closing]
    rfl
  rw [later, Hunk.keptLines_append, Hunk.keptLines_cons, hstays]
  exact List.append_nil _

end LongAttribute

/-! ### In a merge -/

namespace Merger

open Hunk (endsInComment keptLines stays)

/-- Of an attribute over several lines, a before range keeps the opening line and those of the others
that stay on their own, so the attribute is whole exactly if all of them do, and its closing line is
lost if that one does not. So it is in merged lines too if a hunk is applied to the whole attribute;
if every applied hunk ends before it or starts behind it, its lines stay together. -/
theorem long_attribute_stays_line_by_line (m : Markers) (a : LongAttribute m) :
    (∀ xs ys, keptLines m false (xs ++ a.lines ++ ys) =
        keptLines m false xs ++ (a.opening :: keptLines m false a.later) ++
          keptLines m (Line.isOrdinaryComment a.closing) ys) ∧
      (keptLines m false a.later = a.later ↔
        ∀ xs l ys, a.later = xs ++ l :: ys → stays m (endsInComment false xs) l = true) ∧
      (Line.isKeptAside m a.closing = false →
        keptLines m false a.later = keptLines m false a.inner) ∧
      ∀ (formatter : Formatter) (splitMixed reformatBookends : Bool) (process : Runner)
        (d : Direction) (original transformed fo ft : Text),
        Formatter.format process original = .ok fo →
        Formatter.format process transformed = .ok ft →
        ∃ p, Merger.plan ⟨formatter, m, splitMixed, reformatBookends, true⟩ process d original
            transformed = .ok p ∧ p.before = Text.lines fo ∧
          (∀ h ∈ p.split, p.isRelevant h = true → ∀ xs ys, h.removed p.before = xs ++ a.lines ++ ys →
            keptLines m false xs ++ (a.opening :: keptLines m false a.later) ++
              keptLines m (Line.isOrdinaryComment a.closing) ys <:+: p.application.lines) ∧
          ∀ xs ys, p.before = xs ++ a.lines ++ ys →
            (∀ h ∈ p.split, p.isRelevant h = true →
              h.beforeEnd ≤ xs.length ∨ xs.length + a.lines.length ≤ h.beforeStart) →
            a.lines <:+: p.application.lines := by
  refine ⟨a.keptLines_append_lines, Hunk.keptLines_eq_self_iff, a.keptLines_later, ?_⟩
  intro formatter splitMixed reformatBookends process d original transformed fo ft ho ht
  let g : Merger := ⟨formatter, m, splitMixed, reformatBookends, true⟩
  let p := g.planFormatted d fo ft
  have horder : Hunk.InOrder p.application.hunks := inOrder_planFormatted g d fo ft
  have hlaid : Hunk.Laid p.application.base.length 0 (p.application.hunks.map Hunk.beforeRange) :=
    laid_planFormatted g d fo ft
  have hlines := Application.lines_eq_plainSplice_filter horder hlaid
  refine ⟨p, plan_eq rfl ho ht, rfl, ?_, ?_⟩
  · intro h hh hrelevant xs ys hremoved
    have hmem : h ∈ p.application.hunks.filter p.application.relevant :=
      List.mem_filter.mpr ⟨hh, hrelevant⟩
    have hrender := Hunk.keptLines_prefix_render m p.before p.after h
    rw [hremoved, a.keptLines_append_lines] at hrender
    rw [hlines]
    exact hrender.isInfix.trans
      (Patch.infix_plainSplice (fun h => h.render m p.before p.after) hmem)
  · intro xs ys hbefore hclear
    have hwindow : Hunk.window p.before xs.length
        (xs.length + a.lines.length - xs.length) = a.lines := by
      rw [hbefore, Nat.add_sub_cancel_left, Hunk.window, List.append_assoc, List.drop_left,
        List.take_left]
    rw [hlines, ← hwindow]
    apply Patch.window_infix_plainSplice _ (Nat.zero_le _) (Nat.le_add_right ..)
    intro h hh
    obtain ⟨hh, hrelevant⟩ := List.mem_filter.mp hh
    exact hclear h hh hrelevant

/-- A list of names that does not fit on one line. -/
def deriveOverLines : LongAttribute {} where
  opening := "#[derive(".toList
  inner := ["    Debug,".toList]
  closing := ")]".toList
  isOther := by decide
  isOpen := by decide
  isClosed := by decide

/-- The attribute of another item than the one whose comment is replaced by a marker. -/
theorem long_attribute_stays_behind_marked_item :
    let original := "/// Doc.\nfn f() {}\n#[derive(\n    Debug,\n)]\nstruct A;\n".toList
    let transformed := "#[omnidoc]\nfn f() {}\n#[derive(\n    Debug,\n)]\nstruct A;\n".toList
    Formatter.format Formatter.echo original = .ok original ∧
      Formatter.format Formatter.echo transformed = .ok transformed ∧
      ∃ p, ({} : Merger).plan Formatter.echo .migrate original transformed = .ok p ∧
        p.split = [⟨0, 1, 0, 1⟩] ∧ p.relevant = [true] ∧
        deriveOverLines.lines <:+: p.application.lines := by
  intro original transformed
  obtain ⟨-, -, -, hmerge⟩ := long_attribute_stays_line_by_line {} deriveOverLines
  obtain ⟨p, hplan, hbase, -, hwhole⟩ := hmerge {} true true Formatter.echo .migrate original
    transformed original transformed (Formatter.format_echo _) (Formatter.format_echo _)
  have hp : p = ({} : Merger).planFormatted .migrate original transformed :=
    Except.ok.inj (hplan.symm.trans (plan_eq rfl (Formatter.format_echo _) (Formatter.format_echo _)))
  have hsplit : p.split = [⟨0, 1, 0, 1⟩] := by
    rw [hp]
    decide +kernel +zetaReduce
  have hrelevant : p.relevant = [true] := by
    rw [hp]
    decide +kernel +zetaReduce
  have hbefore : p.before = ["/// Doc.".toList, "fn f() {}".toList] ++ deriveOverLines.lines ++
      ["struct A;".toList] := by
    rw [hbase]
    decide +kernel +zetaReduce
  refine ⟨Formatter.format_echo _, Formatter.format_echo _, p, hplan, hsplit, hrelevant,
    hwhole _ _ hbefore ?_⟩
  intro h hh _
  rw [hsplit, List.mem_singleton] at hh
  subst hh
  exact Or.inl (by decide)

/-- The comment before the attribute is replaced by a marker, and the other text has no attribute.
One hunk removes the comment and the attribute, and only the opening line of the attribute stays. -/
theorem derive_over_lines_is_torn :
    let original := "/// Doc.\n#[derive(\n    Debug,\n)]\nstruct A;\n".toList
    let transformed := "#[omnidoc]\nstruct A;\n".toList
    let merged := "#[derive(\n#[omnidoc]\nstruct A;\n".toList
    keptLines {} false deriveOverLines.lines = ["#[derive(".toList] ∧
      deriveOverLines.lines <:+: Text.lines original ∧
      ({} : Merger).merge Formatter.echo .migrate original transformed = .ok merged ∧
      ¬deriveOverLines.lines <:+: Text.lines merged := by
  intro original transformed merged
  have htext : (({} : Merger).planFormatted .migrate original transformed).application.text =
      merged := by
    unfold Application.text
    rw [lines_application]
    decide +kernel +zetaReduce
  refine ⟨by decide, by decide +kernel +zetaReduce, ?_, by decide +kernel +zetaReduce⟩
  rw [merge_eq rfl (Formatter.format_echo _) (Formatter.format_echo _)]
  simp only [htext]
  rfl

end Merger

end DocGraft
