import DocGraft.Proofs.AppliedPlan

/-!
# Hunks that share a place

Hunks whose ranges do not overlap may still start at the same line: an insertion stands at either
end of a range that another hunk replaces. Which of the two comes first is left to the order in
which they are looked at, but only an insertion that comes first finds its place. Behind the hunk
that replaces lines from there on it is refused, and this is the only way to be refused.
-/

namespace DocGraft

namespace Hunk

/-- One of the hunks ends where the other starts, or before. Two insertions always do, and so does
an insertion that does not stand strictly inside of the other's range. -/
def ClearOf (h k : Hunk) : Prop := h.beforeEnd ≤ k.beforeStart ∨ k.beforeEnd ≤ h.beforeStart

/-- The first hunk replaces lines from the place on at which the second one only inserts. -/
def Shadows (k h : Hunk) : Prop :=
  0 < k.beforeCount ∧ h.beforeCount = 0 ∧ h.beforeStart = k.beforeStart

instance : DecidableRel ClearOf := fun h k => by unfold ClearOf; infer_instance

instance : DecidableRel Shadows := fun k h => by unfold Shadows; infer_instance

/-- Whether one of the hunks that came sooner shadows this one. -/
def isLate (sooner : List Hunk) (h : Hunk) : Bool := sooner.any fun k => k.Shadows h

/-- Of hunks that are spliced in one after the other, those that come late, or those that do not. -/
def arrivals (late : Bool) (sooner : List Hunk) : List Hunk → List Hunk
  | [] => []
  | h :: rest =>
    if isLate sooner h = late then h :: arrivals late (h :: sooner) rest
    else arrivals late (h :: sooner) rest

variable {h k : Hunk} {sooner hunks : List Hunk}

lemma ClearOf.symm (hk : h.ClearOf k) : k.ClearOf h := Or.symm hk

lemma isLate_cons : isLate (k :: sooner) h = true ↔ k.Shadows h ∨ isLate sooner h = true := by
  simp [isLate]

lemma isLate_eq_false_iff : isLate sooner h = false ↔ ∀ k ∈ sooner, ¬k.Shadows h := by
  simp [isLate]

lemma exists_shadows (hlate : isLate sooner h = true) : ∃ k ∈ sooner, k.Shadows h := by
  simpa [isLate] using hlate

/-- A hunk comes late, or it does not. -/
lemma arrivals_append_perm (sooner hunks : List Hunk) :
    (arrivals false sooner hunks ++ arrivals true sooner hunks).Perm hunks := by
  induction hunks generalizing sooner with
  | nil => exact List.Perm.refl []
  | cons h rest ih =>
    rw [arrivals, arrivals]
    by_cases hlate : isLate sooner h = true
    · rw [if_neg (by simp [hlate]), if_pos hlate]
      exact List.perm_middle.trans ((ih (h :: sooner)).cons h)
    · rw [if_pos (by simpa using hlate), if_neg hlate]
      exact (ih (h :: sooner)).cons h

lemma arrivals_true_eq_nil_iff : arrivals true sooner hunks = [] ↔
    (∀ h ∈ hunks, ∀ k ∈ sooner, ¬k.Shadows h) ∧ hunks.Pairwise fun k h => ¬k.Shadows h := by
  induction hunks generalizing sooner with
  | nil => simp [arrivals]
  | cons h rest ih =>
    rw [arrivals]
    by_cases hlate : isLate sooner h = true
    · obtain ⟨k, hk, hshadows⟩ := exists_shadows hlate
      rw [if_pos hlate]
      simp only [reduceCtorEq, false_iff, not_and]
      intro hnone
      exact absurd hshadows (hnone h List.mem_cons_self k hk)
    · have hnone := isLate_eq_false_iff.mp (Bool.eq_false_iff.mpr hlate)
      rw [if_neg hlate, ih, List.pairwise_cons]
      simp only [List.mem_cons, forall_eq_or_imp]
      constructor
      · rintro ⟨hlater, hpair⟩
        exact ⟨⟨hnone, fun l hl => (hlater l hl).2⟩, fun l hl => (hlater l hl).1, hpair⟩
      · rintro ⟨⟨-, hlater⟩, hfirst, hpair⟩
        exact ⟨fun l hl => ⟨hfirst l hl, hlater l hl⟩, hpair⟩

end Hunk

/-! ### Splicing hunks that are clear of each other -/

namespace Patch

variable {base : List Line} {hunks sooner : List Hunk} {cursor : Nat}

/-- Of two hunks in the order of their places that are clear of each other, the second starts behind
the first or is shadowed by it. -/
def Trails (h k : Hunk) : Prop :=
  h.beforeStart ≤ k.beforeStart ∧ (h.beforeEnd ≤ k.beforeStart ∨ h.Shadows k)

lemma trails_of_clearOf {h k : Hunk} (hclear : h.ClearOf k) (hle : h.beforeStart ≤ k.beforeStart) :
    Trails h k := by
  refine ⟨hle, ?_⟩
  unfold Hunk.ClearOf Hunk.Shadows Hunk.beforeEnd at *
  omega

/-- The cursor stands where the hunks that come late have been passed and no other one has. -/
def Separates (sooner : List Hunk) (cursor : Nat) (hunks : List Hunk) : Prop :=
  ∀ h ∈ hunks, if Hunk.isLate sooner h then h.beforeStart < cursor else cursor ≤ h.beforeStart

/-- Behind a hunk that comes late the cursor still separates. -/
lemma Separates.of_late {h : Hunk} (hsep : Separates sooner cursor (h :: hunks))
    (hlate : Hunk.isLate sooner h = true) : Separates (h :: sooner) cursor hunks := by
  obtain ⟨k, -, -, hcount, -⟩ := Hunk.exists_shadows hlate
  intro l hl
  have hnot : ¬h.Shadows l := fun hs => absurd hs.1 (by omega)
  have hsame : Hunk.isLate (h :: sooner) l = Hunk.isLate sooner l := by
    rw [Bool.eq_iff_iff, Hunk.isLate_cons, or_iff_right hnot]
  rw [hsame]
  exact hsep l (List.mem_cons_of_mem h hl)

/-- A hunk that finds its place leaves the cursor at its end, where it separates again. -/
lemma Separates.of_placed {h : Hunk} (hsep : Separates sooner cursor (h :: hunks))
    (hplaced : Hunk.isLate sooner h = false) (htrails : ∀ k ∈ hunks, Trails h k) :
    Separates (h :: sooner) h.beforeEnd hunks := by
  have hcursor := hsep h List.mem_cons_self
  rw [hplaced] at hcursor
  simp only [Bool.false_eq_true, if_false] at hcursor
  intro l hl
  obtain ⟨hle, hbehind⟩ := htrails l hl
  have hl' := hsep l (List.mem_cons_of_mem h hl)
  by_cases hs : h.Shadows l
  · rw [if_pos (Hunk.isLate_cons.mpr (Or.inl hs))]
    obtain ⟨hpos, -, hstart⟩ := hs
    rw [hstart]
    exact Nat.lt_add_of_pos_right hpos
  · have hnotlate : Hunk.isLate sooner l ≠ true := by
      intro hlate
      rw [if_pos hlate] at hl'
      omega
    rw [if_neg]
    · exact hbehind.resolve_right hs
    · rw [Hunk.isLate_cons]
      exact not_or.mpr ⟨hs, hnotlate⟩

/-- Hunks in the order of their places that are clear of each other are spliced in one behind the
other, but for those that come late, and these are refused. -/
lemma splice_arrivals (lines : Hunk → List Line) (htrails : hunks.Pairwise Trails)
    (hinside : ∀ h ∈ hunks, h.beforeEnd ≤ base.length) (hc : cursor ≤ base.length)
    (hsep : Separates sooner cursor hunks) :
    splice base cursor (hunks.map fun h => inPlaceOf h (lines h)) =
        plainSplice base cursor
          ((Hunk.arrivals false sooner hunks).map fun h => inPlaceOf h (lines h)) ∧
      refused base.length cursor (hunks.map fun h => inPlaceOf h (lines h)) =
        (Hunk.arrivals true sooner hunks).map Hunk.beforeStart ∧
      Hunk.Laid base.length cursor
        ((Hunk.arrivals false sooner hunks).map Hunk.beforeRange) := by
  induction hunks generalizing sooner cursor with
  | nil => exact ⟨rfl, rfl, hc⟩
  | cons h rest ih =>
    obtain ⟨hfirst, hrest⟩ := List.pairwise_cons.mp htrails
    have hin := hinside h List.mem_cons_self
    have hinrest : ∀ k ∈ rest, k.beforeEnd ≤ base.length :=
      fun k hk => hinside k (List.mem_cons_of_mem h hk)
    have hcursor := hsep h List.mem_cons_self
    have hclip : (inPlaceOf h (lines h)).clip base.length = h.beforeStart :=
      Nat.min_eq_left (Nat.le_trans (Nat.le_add_right ..) hin)
    rw [List.map_cons, splice, refused, hclip, Hunk.arrivals, Hunk.arrivals]
    by_cases hlate : Hunk.isLate sooner h = true
    · obtain ⟨hsplice, hrefused, hlaid⟩ := ih hrest hinrest hc (hsep.of_late hlate)
      rw [if_pos hlate] at hcursor
      simp only [hcursor, hlate, if_true, Bool.true_eq_false, if_false, List.map_cons]
      exact ⟨hsplice, congrArg _ hrefused, hlaid⟩
    · have hplaced := Bool.eq_false_iff.mpr hlate
      obtain ⟨hsplice, hrefused, hlaid⟩ := ih hrest hinrest hin (hsep.of_placed hplaced hfirst)
      rw [if_neg hlate] at hcursor
      have hnext : min (h.beforeStart + (inPlaceOf h (lines h)).count) base.length = h.beforeEnd :=
        Nat.min_eq_left hin
      simp only [Nat.not_lt.mpr hcursor, hplaced, hnext, if_true, Bool.false_eq_true, if_false,
        List.map_cons]
      refine ⟨?_, hrefused, hcursor, Nat.le_add_right .., hlaid⟩
      rw [hsplice]
      rfl

end Patch

/-! ### Applications of hunks that are clear of each other -/

namespace Application

/-- The relevant hunks by their places, and those of one place in the order in which they are looked
at. -/
def inPlace (a : Application) : List Hunk := Hunk.byStart (a.ordered.filter a.relevant)

/-- The warning about a hunk that is refused. -/
def refusal (source : Source) (h : Hunk) : Entry :=
  ⟨.warning, source, "Ignoring hunk overlapping already merged lines at " ++ toString h.beforeStart⟩

variable (a : Application)

lemma inPlace_perm : a.inPlace.Perm (a.hunks.filter a.relevant) :=
  (List.mergeSort_perm _ _).trans (a.ordered_perm.filter _)

lemma patches_eq_map_inPlace :
    a.patches = a.inPlace.map fun h => Patch.inPlaceOf h (h.render a.markers a.base a.after) := by
  change Patch.byStart ((a.ordered.filter a.relevant).map (Patch.ofHunk a.markers a.base a.after)) =
    a.inPlace.map (Patch.ofHunk a.markers a.base a.after)
  rw [inPlace, Hunk.byStart, List.map_mergeSort]
  · rfl
  · exact fun _ _ _ _ => rfl

variable {a}

lemma pairwise_trails_inPlace (hclear : a.hunks.Pairwise Hunk.ClearOf) :
    a.inPlace.Pairwise Patch.Trails := by
  have hpair : a.inPlace.Pairwise Hunk.ClearOf :=
    (a.inPlace_perm.pairwise_iff Hunk.ClearOf.symm).mpr (hclear.filter _)
  exact (hpair.and (Hunk.pairwise_byStart _)).imp fun h => Patch.trails_of_clearOf h.1 h.2

/-- Hunks of one place are spliced in in the order in which they are looked at. -/
lemma filter_inPlace (place : Nat) : a.inPlace.filter (fun h => h.beforeStart = place) =
    (a.ordered.filter a.relevant).filter fun h => h.beforeStart = place :=
  filter_mergeSort_place Hunk.beforeStart _ place

/-- Whether one hunk shadows another behind it is the same in the order in which hunks are looked at:
the two share their place. -/
lemma pairwise_not_shadows_inPlace_iff : (a.inPlace.Pairwise fun k h => ¬k.Shadows h) ↔
    (a.ordered.filter a.relevant).Pairwise fun k h => ¬k.Shadows h := by
  have hiff : ∀ hunks : List Hunk, (hunks.Pairwise fun k h => ¬k.Shadows h) ↔
      ∀ place, (hunks.filter fun h => h.beforeStart = place).Pairwise fun k h => ¬k.Shadows h := by
    intro hunks
    constructor
    · exact fun hpair place => hpair.filter _
    · intro hplace
      apply List.pairwise_iff_forall_sublist.mpr
      intro k h hsub hshadows
      refine List.pairwise_iff_forall_sublist.mp (hplace k.beforeStart) ?_ hshadows
      have hfilter := hsub.filter fun h => decide (h.beforeStart = k.beforeStart)
      simpa [hshadows.2.2] using hfilter
  rw [hiff a.inPlace, hiff (a.ordered.filter a.relevant)]
  simp only [filter_inPlace]

lemma mem_inPlace_iff {h : Hunk} : h ∈ a.inPlace ↔ h ∈ a.hunks ∧ a.relevant h = true := by
  rw [a.inPlace_perm.mem_iff, List.mem_filter]

/-- Relevant hunks that are clear of each other are spliced in one behind the other, and refused if
they come late. -/
lemma splice_inPlace (hinside : ∀ h ∈ a.hunks, h.beforeEnd ≤ a.base.length)
    (hclear : a.hunks.Pairwise Hunk.ClearOf) :
    a.lines = Patch.plainSplice a.base 0 ((Hunk.arrivals false [] a.inPlace).map fun h =>
        Patch.inPlaceOf h (h.render a.markers a.base a.after)) ∧
      Patch.refused a.base.length 0 a.patches =
        (Hunk.arrivals true [] a.inPlace).map Hunk.beforeStart ∧
      Hunk.Laid a.base.length 0 ((Hunk.arrivals false [] a.inPlace).map Hunk.beforeRange) := by
  rw [lines, patches_eq_map_inPlace]
  apply Patch.splice_arrivals _ (pairwise_trails_inPlace hclear)
  · exact fun h hh => hinside h (mem_inPlace_iff.mp hh).1
  · exact Nat.zero_le _
  · intro h _
    exact Nat.zero_le _

lemma warnings_trace (source : Source)
    (hrefused : Patch.refused a.base.length 0 a.patches =
      (Hunk.arrivals true [] a.inPlace).map Hunk.beforeStart) :
    (a.trace source).filter (fun e => e.level = .warning) =
      (Hunk.arrivals true [] a.inPlace).map (refusal source) := by
  have hquiet : (a.traceUpTo source a.ordered).filter (fun e => e.level = .warning) = [] := by
    apply List.filter_eq_nil_iff.mpr
    intro e he
    simp [a.quiet_traceUpTo source a.ordered e he]
  have hall : ∀ hunks : List Hunk,
      (hunks.map (refusal source)).filter (fun e => e.level = .warning) =
        hunks.map (refusal source) := by
    intro hunks
    apply List.filter_eq_self.mpr
    intro e he
    obtain ⟨h, -, rfl⟩ := List.mem_map.mp he
    rfl
  rw [trace, hrefused, List.filter_append, hquiet, List.nil_append, List.map_map]
  exact hall _

lemma exists_pieces_text (hbase : ∀ l ∈ a.base, '\n' ∉ l) (hafter : ∀ l ∈ a.after, '\n' ∉ l)
    (hpost : a.post = id) :
    ∃ n, a.lines ++ [[]] = Text.pieces a.text ++ List.replicate n [] := by
  have htext : a.text = Text.closed (Text.unpieces a.lines) := by rw [text, hpost, id_eq]
  rw [htext]
  by_cases hne : a.lines = []
  · rw [hne]
    exact ⟨0, rfl⟩
  · have h := Text.exists_pieces_closed (Text.unpieces a.lines)
    rwa [Text.pieces_unpieces (not_mem_of_mem_lines hbase hafter) hne] at h

/-- Hunks that lie inside of a text and are clear of each other are spliced in one behind the other,
each as one block, but for insertions that come behind a hunk which replaces lines from the same
place on. These are refused, with a warning for each, and no other hunk is. The order in which hunks
are looked at tells only how those of one place follow each other. Of the lines only empty ones at
their end are not in the text. -/
theorem hunks_are_placed_unless_shadowed (original transformed : Text) (hunks : List Hunk)
    (m : Markers) (relevant : Hunk → Bool)
    (hinside : ∀ h ∈ hunks, h.beforeEnd ≤ (Text.lines original).length)
    (hclear : hunks.Pairwise Hunk.ClearOf) :
    let a : Application := ⟨Text.lines original, Text.lines transformed, hunks, m, relevant, id⟩
    let placed := Hunk.arrivals false [] a.inPlace
    let late := Hunk.arrivals true [] a.inPlace
    (placed ++ late).Perm (hunks.filter relevant) ∧
      (∀ place, a.inPlace.filter (fun h => h.beforeStart = place) =
        (a.ordered.filter relevant).filter fun h => h.beforeStart = place) ∧
      Hunk.Laid a.base.length 0 (placed.map Hunk.beforeRange) ∧
      a.lines = Patch.plainSplice a.base 0
        (placed.map fun h => Patch.inPlaceOf h (h.render m a.base a.after)) ∧
      (∀ h ∈ placed, h.render m a.base a.after <:+: a.lines) ∧
      (∃ n, a.lines ++ [[]] = Text.pieces a.text ++ List.replicate n []) ∧
      (∀ source, (a.trace source).filter (fun e => e.level = .warning) =
        late.map (refusal source)) ∧
      (late = [] ↔ (a.ordered.filter relevant).Pairwise fun k h => ¬k.Shadows h) := by
  intro a placed late
  obtain ⟨hlines, hrefused, hlaid⟩ := splice_inPlace (a := a) hinside hclear
  refine ⟨(Hunk.arrivals_append_perm [] a.inPlace).trans a.inPlace_perm, filter_inPlace, hlaid,
    hlines, ?_, ?_, fun source => warnings_trace source hrefused, ?_⟩
  · intro h hh
    rw [hlines]
    exact Patch.infix_plainSplice (fun h => h.render m a.base a.after) hh
  · exact exists_pieces_text (fun _ => Text.not_mem_of_mem_lines)
      (fun _ => Text.not_mem_of_mem_lines) rfl
  · have hpair := pairwise_not_shadows_inPlace_iff (a := a)
    rw [← hpair, Hunk.arrivals_true_eq_nil_iff]
    simp

/-- Hunks that are in the order of their places are looked at in this order, those at module level
first. -/
lemma ordered_of_pairwise (h : a.hunks.Pairwise fun h k => h.beforeStart ≤ k.beforeStart) :
    a.ordered = a.hunks.filter (Hunk.isModuleLevel a.markers a.after) ++
      a.hunks.filter fun h => !Hunk.isModuleLevel a.markers a.after h := by
  rw [ordered, Hunk.inOrder, Hunk.byStart_eq_self (h.filter _), Hunk.byStart_eq_self (h.filter _)]

/-- A replacement, and an insertion at either end of it that finds its place. -/
theorem hunks_are_placed_around_replacement :
    let hunks : List Hunk := [⟨0, 1, 1, 1⟩, ⟨0, 0, 0, 1⟩, ⟨1, 0, 2, 1⟩]
    let a : Application := ⟨Text.lines "a\nb\n".toList,
      Text.lines "//! x\n/// y\n/// z\n".toList, hunks, {}, fun _ => true, id⟩
    (∀ h ∈ hunks, h.beforeEnd ≤ (Text.lines "a\nb\n".toList).length) ∧
      hunks.Pairwise Hunk.ClearOf ∧
      (a.trace .applier).filter (fun e => e.level = .warning) = [] ∧
      (Hunk.arrivals false [] a.inPlace).Perm hunks := by
  intro hunks a
  have hinside : ∀ h ∈ hunks, h.beforeEnd ≤ (Text.lines "a\nb\n".toList).length := by
    decide +kernel +zetaReduce
  have hclear : hunks.Pairwise Hunk.ClearOf := by decide
  obtain ⟨hperm, -, -, -, -, -, hwarnings, hlate⟩ :=
    hunks_are_placed_unless_shadowed "a\nb\n".toList "//! x\n/// y\n/// z\n".toList hunks {}
      (fun _ => true) hinside hclear
  have hordered : a.ordered = [⟨0, 0, 0, 1⟩, ⟨0, 1, 1, 1⟩, ⟨1, 0, 2, 1⟩] := by
    rw [ordered_of_pairwise (by decide)]
    decide +kernel +zetaReduce
  have hnone : Hunk.arrivals true [] a.inPlace = [] := by
    apply hlate.mpr
    rw [hordered]
    decide
  rw [hnone, List.append_nil] at hperm
  refine ⟨hinside, hclear, ?_, hperm.trans (by rw [List.filter_true])⟩
  rw [hwarnings, hnone]
  rfl

/-- A replacement at the level of a module is looked at before an insertion at the same line. The
insertion is lost, though the two do not overlap. -/
theorem insertion_behind_replacement_is_lost :
    let hunks : List Hunk := [⟨0, 0, 0, 1⟩, ⟨0, 1, 1, 1⟩]
    let a : Application := ⟨Text.lines "a\n".toList, Text.lines "/// x\n//! y\n".toList, hunks, {},
      fun _ => true, id⟩
    (∀ h ∈ hunks, h.beforeEnd ≤ a.base.length ∧ h.afterEnd ≤ a.after.length) ∧
      hunks.Pairwise Hunk.ClearOf ∧
      Hunk.render {} a.base a.after ⟨0, 0, 0, 1⟩ = ["/// x".toList] ∧
      a.text = "//! y\n".toList ∧
      ¬["/// x".toList] <:+: Text.pieces a.text ∧
      (a.trace .applier).filter (fun e => e.level = .warning) =
        [⟨.warning, .applier, "Ignoring hunk overlapping already merged lines at 0"⟩] := by
  intro hunks a
  have hordered : a.ordered = [⟨0, 1, 1, 1⟩, ⟨0, 0, 0, 1⟩] := by
    rw [ordered_of_pairwise (by decide)]
    decide +kernel +zetaReduce
  have hpatches : a.patches = [⟨0, 1, ["//! y".toList]⟩, ⟨0, 0, ["/// x".toList]⟩] := by
    rw [patches, hordered]
    exact (Patch.byStart_eq_self (by decide +kernel +zetaReduce)).trans
      (by decide +kernel +zetaReduce)
  have htext : a.text = "//! y\n".toList := by
    rw [text, lines, hpatches]
    decide +kernel +zetaReduce
  refine ⟨by decide +kernel +zetaReduce, by decide, by decide +kernel +zetaReduce, htext, ?_, ?_⟩
  · rw [htext]
    decide +kernel +zetaReduce
  · rw [trace, traceUpTo, hordered, hpatches]
    decide +kernel +zetaReduce

end Application

end DocGraft
