import DocGraft.Diff.Unified
import DocGraft.Proofs.LongestBlock
import Mathlib.Data.List.Chain

/-!
# Alignments

An alignment covers both of its lists, and no change in it is empty or stands next to another one.
-/

namespace DocGraft.Diff

/-- At most one of two neighbours is a change. -/
def Segment.Apart {α : Type} (s t : Segment α) : Prop := s.isChange = true → t.isChange = false

/-- The segment covers something: a run that is the same is not empty, and a change removes or adds. -/
def Segment.IsProper {α : Type} : Segment α → Prop
  | .same run => run ≠ []
  | .change removed added => removed ≠ [] ∨ added ≠ []

variable {α : Type} [DecidableEq α] (common : α → Bool)

lemma flatMap_before_align (a b : List α) : (align common a b).flatMap Segment.before = a := by
  fun_induction align common a b with
  | case1 a b m hm h => simp_all
  | case2 a b m hm h => simp [Segment.before]
  | case3 a b m hm ihl ihr =>
    rw [List.flatMap_append, List.flatMap_cons, ihl, ihr, Segment.before, ← List.drop_drop,
      List.take_append_drop, List.take_append_drop]

lemma flatMap_after_align (a b : List α) : (align common a b).flatMap Segment.after = b := by
  fun_induction align common a b with
  | case1 a b m hm h => simp_all
  | case2 a b m hm h => simp [Segment.after]
  | case3 a b m hm ihl ihr =>
    obtain ⟨-, -, he⟩ := isCommon_longestBlock common a b
    rw [List.flatMap_append, List.flatMap_cons, ihl, ihr, Segment.after, he, ← List.drop_drop,
      List.take_append_drop, List.take_append_drop]

lemma isProper_of_mem_align {a b : List α} {s : Segment α} (h : s ∈ align common a b) :
    s.IsProper := by
  fun_induction align common a b with
  | case1 => simp at h
  | case2 a b m hm hne =>
    obtain rfl := List.mem_singleton.mp h
    simp only [Bool.and_eq_true, List.isEmpty_iff, not_and_or] at hne
    exact hne
  | case3 a b m hm ihl ihr =>
    rcases List.mem_append.mp h with h | h
    · exact ihl h
    · rcases List.mem_cons.mp h with rfl | h
      · have hend : m.before + m.size ≤ a.length := longestBlock_end_le common a b
        apply List.ne_nil_of_length_pos
        rw [List.length_take, List.length_drop]
        omega
      · exact ihr h

/-- Between two changes of an alignment stands a run that both lists have. -/
lemma isChain_align (a b : List α) : (align common a b).IsChain Segment.Apart := by
  fun_induction align common a b with
  | case1 => exact List.IsChain.nil
  | case2 => exact List.IsChain.singleton _
  | case3 a b m hm ihl ihr =>
    refine List.isChain_append.mpr ⟨ihl, List.isChain_cons.mpr ⟨?_, ihr⟩, ?_⟩
    · intro t _ hs
      exact absurd hs (by simp [Segment.isChange])
    · intro s _ t ht
      rw [List.head?_cons, Option.mem_some_iff] at ht
      intro _
      rw [← ht]
      rfl

/-- Behind a change stands nothing, or a run that is the same. -/
lemma eq_nil_or_same_of_isChain {α : Type} {removed added : List α} {rest : List (Segment α)}
    (hchain : (.change removed added :: rest).IsChain Segment.Apart)
    (hproper : ∀ s ∈ rest, s.IsProper) :
    rest = [] ∨ ∃ run later, rest = .same run :: later ∧ 0 < run.length := by
  cases rest with
  | nil => exact Or.inl rfl
  | cons t later =>
    cases t with
    | change removed' added' =>
      exact absurd ((List.isChain_cons_cons.mp hchain).1 rfl) (by simp [Segment.isChange])
    | same run =>
      have hrun : run ≠ [] := hproper (.same run) List.mem_cons_self
      exact Or.inr ⟨run, later, rfl, List.length_pos_of_ne_nil hrun⟩

end DocGraft.Diff
