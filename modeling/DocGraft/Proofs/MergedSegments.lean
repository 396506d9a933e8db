import DocGraft.Merge
import DocGraft.Proofs.HunkOrder
import DocGraft.Proofs.Splicing

/-!
# A merge, segment by segment

The two texts of a merge are cut into segments, and what the merge does is told by one segment at a
time: a run that is the same stays, and a change is rendered if it matters in the direction of the
merge and undone if it does not. Positions, order and cursor are gone from this view.
-/

namespace DocGraft

namespace Direction

/-- The lines whose removal matters in a direction. -/
def leaves : Direction → Markers → Line → Bool
  | .migrate, _ => Line.isInlineDoc
  | .restore, m => Line.isMarker m

/-- The lines whose addition matters in a direction. -/
def brings : Direction → Markers → Line → Bool
  | .migrate, m => fun l => Line.isInlineDoc l || Line.isMarker m l
  | .restore, _ => Line.isInlineDoc

/-- Whether a change of these runs matters in this direction. -/
def applies (d : Direction) (m : Markers) (removed added : List Line) : Bool :=
  removed.any (d.leaves m) || added.any (d.brings m)

lemma forall_of_not_applies {d : Direction} {m : Markers} {removed added : List Line}
    (h : ¬d.applies m removed added = true) :
    (∀ l ∈ removed, ¬d.leaves m l = true) ∧ ∀ l ∈ added, ¬d.brings m l = true := by
  simpa [applies, not_or] using h

end Direction

lemma Hunk.isRelevant_eq_applies (d : Direction) (m : Markers) (before after : List Line)
    (h : Hunk) : h.isRelevant d m before after = d.applies m (h.removed before) (h.added after) := by
  cases d <;> rfl

namespace Diff

namespace Segment

/-- The lines that a merge has in the place of a segment. -/
def merged (d : Direction) (m : Markers) : Segment Line → List Line
  | .same run => run
  | .change removed added =>
    if d.applies m removed added then Hunk.rendering m removed added else removed

/-- A change cut where the documentation of an item follows that of a module: the first two removed
lines go with the module. -/
def split (m : Markers) : Segment Line → List (Segment Line)
  | .same run => [.same run]
  | .change removed added =>
    if removed = [] ∨ added = [] then [.change removed added]
    else
      match Hunk.border? m added with
      | some n => [.change (removed.take 2) (added.take n), .change (removed.drop 2) (added.drop n)]
      | none => [.change removed added]

lemma split_change_cases (m : Markers) (removed added : List Line) :
    (change removed added).split m = [.change removed added] ∨
      removed ≠ [] ∧ ∃ n, Hunk.border? m added = some n ∧ (change removed added).split m =
        [.change (removed.take 2) (added.take n), .change (removed.drop 2) (added.drop n)] := by
  rw [split]
  by_cases h : removed = [] ∨ added = []
  · left
    rw [if_pos h]
  · rw [if_neg h]
    cases hb : Hunk.border? m added with
    | none => exact Or.inl rfl
    | some n => exact Or.inr ⟨fun hr => h (Or.inl hr), n, rfl, rfl⟩

lemma flatMap_before_split (m : Markers) (s : Segment Line) :
    (s.split m).flatMap before = s.before := by
  cases s with
  | same run => simp [split]
  | change removed added =>
    rcases split_change_cases m removed added with h | ⟨-, n, -, h⟩
    · simp [h]
    · simp [h, before]

lemma flatMap_after_split (m : Markers) (s : Segment Line) :
    (s.split m).flatMap after = s.after := by
  cases s with
  | same run => simp [split]
  | change removed added =>
    rcases split_change_cases m removed added with h | ⟨-, n, -, h⟩
    · simp [h]
    · simp [h, after]

end Segment

end Diff

/-! ### Cutting hunks is cutting segments -/

lemma Hunk.window_eq_of_drop {ls run rest : List Line} {i : Nat} (h : ls.drop i = run ++ rest) :
    window ls i run.length = run := by
  rw [window, h, List.take_left]

lemma Hunk.border?_lt {m : Markers} {ls : List Line} {n : Nat} (h : border? m ls = some n) :
    n < ls.length := by
  induction ls generalizing n with
  | nil => simp [border?] at h
  | cons l rest ih =>
    have hlater : ∀ {k}, (border? m rest).map (· + 1) = some k → k < (l :: rest).length := by
      intro k hk
      obtain ⟨k', hk', rfl⟩ := Option.map_eq_some_iff.mp hk
      exact Nat.succ_lt_succ (ih hk')
    rw [border?] at h
    split at h
    · split at h
      · simp at h
      · next c more hd =>
        split at h
        · obtain rfl := Option.some.inj h
          have hlen := congrArg List.length
            (List.takeWhile_append_dropWhile (p := Text.isBlank) (l := rest))
          rw [hd, List.length_append, List.length_cons] at hlen
          rw [List.length_cons]
          omega
        · exact hlater h
    · exact hlater h

namespace Diff

variable {after : List Line}

lemma hunksFrom_append {α : Type} (i j : Nat) (xs ys : List (Segment α)) :
    hunksFrom i j (xs ++ ys) = hunksFrom i j xs ++
      hunksFrom (i + (xs.flatMap Segment.before).length) (j + (xs.flatMap Segment.after).length)
        ys := by
  induction xs generalizing i j with
  | nil => rfl
  | cons s xs ih =>
    cases s with
    | same run =>
      rw [List.cons_append, hunksFrom, hunksFrom, ih]
      simp [Segment.before, Segment.after, Nat.add_assoc]
    | change removed added =>
      rw [List.cons_append, hunksFrom, hunksFrom, ih]
      simp [Segment.before, Segment.after, Nat.add_assoc]

lemma split_hunk (m : Markers) {i j : Nat} {removed added : List Line}
    (h : Hunk.added ⟨i, removed.length, j, added.length⟩ after = added) :
    Hunk.split m after ⟨i, removed.length, j, added.length⟩ =
      hunksFrom i j ((Segment.change removed added).split m) := by
  rw [Hunk.split, Hunk.cut?, Hunk.splitPoint?, h, Segment.split]
  by_cases hk : removed = [] ∨ added = []
  · rw [if_pos hk, if_pos (by simpa [Hunk.isInsertion, Hunk.isDeletion] using hk)]
    rfl
  · rw [if_neg hk, if_neg (by simpa [Hunk.isInsertion, Hunk.isDeletion] using hk)]
    cases hb : Hunk.border? m added with
    | none => rfl
    | some n =>
      have hn := Hunk.border?_lt hb
      have hr := List.length_pos_of_ne_nil fun hr => hk (Or.inl hr)
      have hshare : Hunk.moduleShare ⟨i, removed.length, j, added.length⟩ =
          min 2 removed.length := by
        unfold Hunk.moduleShare
        split <;> simp only at * <;> omega
      simp only [Option.map_some, Hunk.halves, hshare, hunksFrom, List.length_take,
        List.length_drop, List.cons.injEq, Hunk.mk.injEq, and_true, true_and]
      omega

/-- Cutting the hunks of segments gives the hunks of the segments when these are cut. -/
lemma splitAll_hunksFrom (m : Markers) {segments : List (Segment Line)} {j : Nat}
    (h : after.drop j = segments.flatMap Segment.after) (i : Nat) :
    Hunk.splitAll m after (hunksFrom i j segments) =
      hunksFrom i j (segments.flatMap (Segment.split m)) := by
  induction segments generalizing i j with
  | nil => rfl
  | cons s rest ih =>
    have hrest : after.drop (j + s.after.length) = rest.flatMap Segment.after := by
      rw [← List.drop_drop, h, List.flatMap_cons, List.drop_left]
    rw [List.flatMap_cons, hunksFrom_append, Segment.flatMap_before_split,
      Segment.flatMap_after_split, ← ih hrest]
    cases s with
    | same run => rfl
    | change removed added =>
      have hadded : Hunk.added ⟨i, removed.length, j, added.length⟩ after = added :=
        Hunk.window_eq_of_drop (by rw [h, List.flatMap_cons, Segment.after])
      rw [← split_hunk m hadded]
      rfl

/-! ### Splicing the hunks of segments -/

lemma take_drop_add_length {base run rest : List Line} {cursor i : Nat} (hc : cursor ≤ i)
    (h : base.drop i = run ++ rest) : (base.drop cursor).take (i + run.length - cursor) =
      (base.drop cursor).take (i - cursor) ++ run := by
  rw [Nat.sub_add_comm hc, List.take_add, List.drop_drop, Nat.add_sub_cancel' hc, h,
    List.take_left]

/-- The patches of the segments from `i` and `j` on, spliced in from a cursor on that has not passed
them, leave the lines up to `i` and then what each segment is merged to. -/
lemma splice_hunksFrom (d : Direction) (m : Markers) {base after : List Line}
    {segments : List (Segment Line)} {i j cursor : Nat} (hc : cursor ≤ i) (hi : i ≤ base.length)
    (hb : base.drop i = segments.flatMap Segment.before)
    (ha : after.drop j = segments.flatMap Segment.after) :
    Patch.splice base cursor (((hunksFrom i j segments).filter
        (Hunk.isRelevant d m base after)).map (Patch.ofHunk m base after)) =
      (base.drop cursor).take (i - cursor) ++ segments.flatMap (Segment.merged d m) := by
  induction segments generalizing i j cursor with
  | nil =>
    have hend : base.length ≤ i := List.drop_eq_nil_iff.mp hb
    have hlen : (base.drop cursor).length ≤ i - cursor := by
      rw [List.length_drop]
      omega
    simp [hunksFrom, Patch.splice, List.take_of_length_le hlen]
  | cons s rest ih =>
    have hb' : base.drop (i + s.before.length) = rest.flatMap Segment.before := by
      rw [← List.drop_drop, hb, List.flatMap_cons, List.drop_left]
    have ha' : after.drop (j + s.after.length) = rest.flatMap Segment.after := by
      rw [← List.drop_drop, ha, List.flatMap_cons, List.drop_left]
    have hi' : i + s.before.length ≤ base.length := by
      have hlen := congrArg List.length hb
      rw [List.length_drop, List.flatMap_cons, List.length_append] at hlen
      omega
    rw [List.flatMap_cons] at hb ha ⊢
    cases s with
    | same run =>
      simp only [Segment.before, Segment.after] at hb hb' ha' hi'
      rw [hunksFrom, Segment.merged, ← List.append_assoc, ← take_drop_add_length hc hb]
      exact ih (Nat.le_add_right_of_le hc) hi' hb' ha'
    | change removed added =>
      simp only [Segment.before, Segment.after] at hb ha hb' ha' hi'
      have hremoved : Hunk.removed ⟨i, removed.length, j, added.length⟩ base = removed :=
        Hunk.window_eq_of_drop hb
      have hadded : Hunk.added ⟨i, removed.length, j, added.length⟩ after = added :=
        Hunk.window_eq_of_drop ha
      have hrel : Hunk.isRelevant d m base after ⟨i, removed.length, j, added.length⟩ =
          d.applies m removed added := by
        rw [Hunk.isRelevant_eq_applies, hremoved, hadded]
      rw [hunksFrom, List.filter_cons, hrel, Segment.merged]
      split
      · have hpatch : Patch.ofHunk m base after ⟨i, removed.length, j, added.length⟩ =
            ⟨i, removed.length, Hunk.rendering m removed added⟩ := by
          rw [Patch.ofHunk, Hunk.render_eq_rendering, hremoved, hadded]
        have hnext := ih (Nat.le_refl (i + removed.length)) hi' hb' ha'
        rw [List.map_cons, hpatch, Patch.splice, Patch.clip]
        simp only [Nat.min_eq_left hi, Nat.not_lt.mpr hc, if_false]
        rw [Nat.min_eq_left hi', hnext]
        simp
      · rw [← List.append_assoc, ← take_drop_add_length hc hb]
        exact ih (Nat.le_add_right_of_le hc) hi' hb' ha'

end Diff

/-! ### The segments of a merge -/

namespace Merger

open Diff (Segment)

/-- The segments of two texts that a merge chooses from. -/
def segments (g : Merger) (base after : List Line) : List (Segment Line) :=
  let aligned := Diff.align (fun _ => false) base after
  if g.splitMixed then aligned.flatMap (Segment.split g.markers) else aligned

variable (g : Merger) (base after : List Line)

lemma flatMap_before_segments : (g.segments base after).flatMap Segment.before = base := by
  have h := Diff.flatMap_before_align (fun _ => false) base after
  unfold segments
  split
  · rw [List.flatMap_assoc]
    simp only [Segment.flatMap_before_split, h]
  · exact h

lemma flatMap_after_segments : (g.segments base after).flatMap Segment.after = after := by
  have h := Diff.flatMap_after_align (fun _ => false) base after
  unfold segments
  split
  · rw [List.flatMap_assoc]
    simp only [Segment.flatMap_after_split, h]
  · exact h

lemma split_planFormatted (d : Direction) (base transformed : Text) :
    (g.planFormatted d base transformed).split =
      Diff.hunksFrom 0 0 (g.segments (Text.lines base) (Text.lines transformed)) := by
  have h := Diff.flatMap_after_align (fun _ => false) (Text.lines base) (Text.lines transformed)
  rw [planFormatted, segments]
  simp only
  split
  · exact Diff.splitAll_hunksFrom g.markers (by rw [List.drop_zero, h]) 0
  · rfl

lemma inOrder_planFormatted (d : Direction) (base transformed : Text) :
    Hunk.InOrder (g.planFormatted d base transformed).split := by
  have h := Diff.lieApart_hunks (Text.lines base) (Text.lines transformed)
  rw [planFormatted]
  simp only
  split
  · exact h.splitAll g.markers (Text.lines transformed)
  · exact h.inOrder

/-- The merged lines of a plan are the segments of its texts, merged one by one. -/
lemma lines_application (d : Direction) (base transformed : Text) :
    (g.planFormatted d base transformed).application.lines =
      (g.segments (Text.lines base) (Text.lines transformed)).flatMap
        (Segment.merged d g.markers) := by
  have horder := inOrder_planFormatted g d base transformed
  have hsplit := split_planFormatted g d base transformed
  rw [Application.lines, Application.patches_eq horder]
  change Patch.splice (Text.lines base) 0 (((g.planFormatted d base transformed).split.filter
    (Hunk.isRelevant d g.markers (Text.lines base) (Text.lines transformed))).map
      (Patch.ofHunk g.markers (Text.lines base) (Text.lines transformed))) = _
  rw [hsplit, Diff.splice_hunksFrom d g.markers (Nat.le_refl 0) (Nat.zero_le _)]
  · rfl
  · rw [List.drop_zero, flatMap_before_segments]
  · rw [List.drop_zero, flatMap_after_segments]

end Merger

end DocGraft
