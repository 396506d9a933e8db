import DocGraft.Diff.Alignment
import DocGraft.Hunk.Split
import DocGraft.Proofs.Alignment
import DocGraft.Splice
import Mathlib.Data.List.Nodup

/-!
# The order of hunks

The hunks of a comparison lie apart, so they are still in order when mixed ones are cut in two. Hunks
in order are applied in that order, whatever their level: sorting them by level first and by place
afterwards changes nothing.
-/

namespace DocGraft

/-! ### Sorting by places -/

section Place

variable {α : Type} (place : α → Nat)

lemma trans_place (x y z : α) (hxy : decide (place x ≤ place y) = true)
    (hyz : decide (place y ≤ place z) = true) : decide (place x ≤ place z) = true :=
  decide_eq_true (Nat.le_trans (of_decide_eq_true hxy) (of_decide_eq_true hyz))

lemma total_place (x y : α) : (decide (place x ≤ place y) || decide (place y ≤ place x)) = true := by
  rw [Bool.or_eq_true, decide_eq_true_eq, decide_eq_true_eq]
  exact Nat.le_total _ _

lemma pairwise_mergeSort_place (xs : List α) :
    (xs.mergeSort fun x y => place x ≤ place y).Pairwise fun x y => place x ≤ place y :=
  (List.pairwise_mergeSort (trans_place place) (total_place place) xs).imp of_decide_eq_true

variable {place} in
lemma mergeSort_place_eq_self {xs : List α} (h : xs.Pairwise fun x y => place x ≤ place y) :
    (xs.mergeSort fun x y => place x ≤ place y) = xs :=
  List.mergeSort_of_pairwise (h.imp decide_eq_true)

/-- What stands at one place stays in its order. -/
lemma filter_mergeSort_place (xs : List α) (i : Nat) :
    (xs.mergeSort fun x y => place x ≤ place y).filter (fun x => place x = i) =
      xs.filter fun x => place x = i := by
  have hsorted : (xs.filter fun x => place x = i).Pairwise fun x y => place x ≤ place y := by
    apply List.pairwise_iff_forall_sublist.mpr
    intro x y hxy
    have hx := List.of_mem_filter (hxy.subset (List.mem_cons_self ..))
    have hy := List.of_mem_filter (hxy.subset (List.mem_cons_of_mem x List.mem_cons_self))
    rw [decide_eq_true_eq] at hx hy
    exact Nat.le_of_eq (hx.trans hy.symm)
  have hsub := List.sublist_mergeSort (trans_place place) (total_place place)
    (hsorted.imp decide_eq_true) List.filter_sublist
  have hfilter := hsub.filter fun x => place x = i
  simp only [List.filter_filter, Bool.and_self] at hfilter
  refine (hfilter.eq_of_length ?_).symm
  exact ((List.mergeSort_perm xs _).filter _).length_eq.symm

end Place

namespace Hunk

lemma pairwise_byStart (hunks : List Hunk) :
    (byStart hunks).Pairwise fun h k => h.beforeStart ≤ k.beforeStart :=
  pairwise_mergeSort_place beforeStart hunks

lemma byStart_eq_self {hunks : List Hunk}
    (h : hunks.Pairwise fun h k => h.beforeStart ≤ k.beforeStart) : byStart hunks = hunks :=
  mergeSort_place_eq_self h

/-- Each hunk ends before the next one starts, with a line between them. -/
def LieApart (hunks : List Hunk) : Prop := hunks.Pairwise fun h k => h.beforeEnd < k.beforeStart

/-- Each hunk starts behind the start of the one before. -/
def InOrder (hunks : List Hunk) : Prop := hunks.Pairwise fun h k => h.beforeStart < k.beforeStart

lemma LieApart.inOrder {hunks : List Hunk} (h : LieApart hunks) : InOrder hunks := by
  refine List.Pairwise.imp ?_ h
  intro k l hkl
  exact Nat.lt_of_le_of_lt (Nat.le_add_right ..) hkl

lemma moduleShare_pos (h : Hunk) : 0 < h.moduleShare := by
  unfold moduleShare
  split
  · exact Nat.zero_lt_two
  · exact Nat.one_pos

lemma moduleShare_le {h : Hunk} (hi : h.isInsertion = false) : h.moduleShare ≤ h.beforeCount := by
  simp only [isInsertion, beq_eq_false_iff_ne] at hi
  unfold moduleShare
  split
  · assumption
  · omega

/-- A hunk that is cut gives two hunks in order, whose starts lie in the range that it removes. -/
lemma split_cases (m : Markers) (after : List Line) (h : Hunk) :
    h.split m after = [h] ∨ ∃ point, h.splitPoint? m after = some point ∧
      h.isInsertion = false ∧ h.isDeletion = false ∧
      h.split m after = [(h.halves point).1, (h.halves point).2] := by
  unfold split cut?
  by_cases hk : (h.isInsertion || h.isDeletion) = true
  · left
    rw [if_pos hk]
  · rw [if_neg hk]
    simp only [Bool.or_eq_true, not_or, Bool.not_eq_true] at hk
    cases hp : h.splitPoint? m after with
    | none => exact Or.inl rfl
    | some point => exact Or.inr ⟨point, rfl, hk.1, hk.2, rfl⟩

lemma beforeRange_of_mem_split {m : Markers} {after : List Line} {h k : Hunk}
    (hk : k ∈ h.split m after) : h.beforeStart ≤ k.beforeStart ∧ k.beforeEnd ≤ h.beforeEnd := by
  rcases split_cases m after h with hs | ⟨point, -, hi, -, hs⟩
  · obtain rfl : k = h := by simpa [hs] using hk
    exact ⟨Nat.le_refl _, Nat.le_refl _⟩
  · have hle := moduleShare_le hi
    rw [hs, List.mem_pair] at hk
    rcases hk with rfl | rfl
    · exact ⟨Nat.le_refl _, Nat.add_le_add_left hle _⟩
    · refine ⟨Nat.le_add_right .., ?_⟩
      simp only [halves, beforeEnd]
      omega

/-- The parts of hunks that lie apart start one behind the other, each where the one before has
ended or later. -/
lemma LieApart.pairwise_splitAll {hunks : List Hunk} (h : LieApart hunks) (m : Markers)
    (after : List Line) : (splitAll m after hunks).Pairwise fun h k =>
      h.beforeStart < k.beforeStart ∧ h.beforeEnd ≤ k.beforeStart := by
  refine List.pairwise_flatMap.mpr ⟨?_, ?_⟩
  · intro k _
    rcases split_cases m after k with hs | ⟨point, -, -, -, hs⟩
    · rw [hs]
      exact List.pairwise_singleton _ _
    · rw [hs, List.pairwise_pair]
      exact ⟨Nat.lt_add_of_pos_right (moduleShare_pos k), Nat.le_refl _⟩
  · refine List.Pairwise.imp ?_ h
    intro k l hkl x hx y hy
    have hxk := (beforeRange_of_mem_split hx).2
    have hyl := (beforeRange_of_mem_split hy).1
    have hstart : x.beforeStart ≤ x.beforeEnd := Nat.le_add_right ..
    omega

lemma LieApart.splitAll {hunks : List Hunk} (h : LieApart hunks) (m : Markers)
    (after : List Line) : InOrder (splitAll m after hunks) :=
  (h.pairwise_splitAll m after).imp And.left

end Hunk

/-! ### Hunks of an alignment -/

namespace Diff

variable {α : Type}

lemma le_beforeStart_of_mem_hunksFrom {segments : List (Segment α)} {i j : Nat} {h : Hunk}
    (hh : h ∈ hunksFrom i j segments) : i ≤ h.beforeStart := by
  induction segments generalizing i j with
  | nil => simp [hunksFrom] at hh
  | cons s rest ih =>
    cases s with
    | same run => exact Nat.le_trans (Nat.le_add_right ..) (ih hh)
    | change removed added =>
      rcases List.mem_cons.mp hh with rfl | hh
      · exact Nat.le_refl _
      · exact Nat.le_trans (Nat.le_add_right ..) (ih hh)

lemma lieApart_hunksFrom {segments : List (Segment α)} (hchain : segments.IsChain Segment.Apart)
    (hproper : ∀ s ∈ segments, s.IsProper) (i j : Nat) :
    Hunk.LieApart (hunksFrom i j segments) := by
  induction segments generalizing i j with
  | nil => exact List.Pairwise.nil
  | cons s rest ih =>
    have hrestProper : ∀ t ∈ rest, t.IsProper := fun t ht => hproper t (List.mem_cons_of_mem _ ht)
    have hrest := ih hchain.tail hrestProper
    cases s with
    | same run => exact hrest _ _
    | change removed added =>
      refine List.pairwise_cons.mpr ⟨?_, hrest _ _⟩
      intro h hh
      rcases eq_nil_or_same_of_isChain hchain hrestProper with rfl | ⟨run, later, rfl, hpos⟩
      · simp [hunksFrom] at hh
      · rw [hunksFrom] at hh
        have hle := le_beforeStart_of_mem_hunksFrom hh
        change i + removed.length < h.beforeStart
        omega

lemma lieApart_hunks (before after : List Line) : Hunk.LieApart (hunks before after) :=
  lieApart_hunksFrom (isChain_align _ before after) (fun _ => isProper_of_mem_align _) 0 0

end Diff

/-! ### Patches of hunks in order -/

namespace Patch

lemma pairwise_byStart (patches : List Patch) :
    (byStart patches).Pairwise fun p q => p.start ≤ q.start :=
  pairwise_mergeSort_place start patches

lemma byStart_eq_self {patches : List Patch} (h : patches.Pairwise fun p q => p.start ≤ q.start) :
    byStart patches = patches :=
  mergeSort_place_eq_self h

/-- Patches with different starts have one order only. -/
lemma byStart_eq_of_perm {patches sorted : List Patch} (hperm : patches.Perm sorted)
    (hsorted : sorted.Pairwise fun p q => p.start < q.start) : byStart patches = sorted := by
  have hbyStart : (byStart patches).Perm sorted := (List.mergeSort_perm _ _).trans hperm
  have hnodup : (sorted.map Patch.start).Nodup :=
    List.pairwise_map.mpr (hsorted.imp fun hpq => Nat.ne_of_lt hpq)
  refine List.Perm.eq_of_pairwise ?_ (pairwise_byStart patches)
    (hsorted.imp fun hpq => Nat.le_of_lt hpq) hbyStart
  intro p q hp hq hpq hqp
  exact List.inj_on_of_nodup_map hnodup (hbyStart.mem_iff.mp hp) hq (Nat.le_antisymm hpq hqp)

end Patch

namespace Application

variable {a : Application}

lemma ordered_perm (a : Application) : a.ordered.Perm a.hunks := by
  unfold ordered Hunk.inOrder Hunk.byStart
  refine List.Perm.trans ((List.mergeSort_perm _ _).append (List.mergeSort_perm _ _)) ?_
  exact List.filter_append_perm _ a.hunks

/-- In whatever order hunks with different starts are looked at, their patches are in the order of
the text. -/
lemma byStart_patches_of_perm (h : Hunk.InOrder a.hunks) {order : List Hunk}
    (hperm : order.Perm a.hunks) :
    Patch.byStart ((order.filter a.relevant).map (Patch.ofHunk a.markers a.base a.after)) =
      (a.hunks.filter a.relevant).map (Patch.ofHunk a.markers a.base a.after) :=
  Patch.byStart_eq_of_perm ((hperm.filter _).map _)
    (List.pairwise_map.mpr (List.Pairwise.filter _ h))

lemma patches_eq (h : Hunk.InOrder a.hunks) :
    a.patches = (a.hunks.filter a.relevant).map (Patch.ofHunk a.markers a.base a.after) :=
  byStart_patches_of_perm h a.ordered_perm

end Application

end DocGraft
