import DocGraft.Proofs.Alignment

/-!
# A list and itself

The alignment of a list with itself is one run, whichever elements anchor no block. The block that
the search finds stands at the same place on both sides, since a run that stands at two places of the
list would have been found at the first of them on each side. Extending it then covers the list.
-/

namespace DocGraft.Diff

variable {α : Type} [DecidableEq α] {common : α → Bool} {a b : List α}

/-- Every element of a common run anchors blocks. -/
lemma eq_false_of_mem_take_commonRun {x : α} (h : x ∈ b.take (commonRun common a b)) :
    common x = false := by
  fun_induction commonRun common a b with
  | case1 y a z b hyz ih =>
    rcases List.mem_cons.mp h with rfl | h
    · simpa using (Bool.and_eq_true_iff.mp hyz).2
    · exact ih h
  | case2 => simp at h
  | case3 => simp at h

lemma le_commonRun_self {n : Nat} (hn : n ≤ a.length) (h : ∀ x ∈ a.take n, common x = false) :
    n ≤ commonRun common a a := by
  induction n generalizing a with
  | zero => exact Nat.zero_le _
  | succ n ih =>
    cases a with
    | nil => simp at hn
    | cons x a =>
      have hx : common x = false := h x (by simp)
      have htail := ih (Nat.le_of_succ_le_succ hn) fun y hy => h y (by simp [hy])
      simp only [commonRun, hx, decide_true, Bool.not_false, Bool.and_self, if_pos]
      omega

/-- The search finds a block that ends no later than any run of the list that is as long and anchors
blocks, seen on both sides. -/
lemma searched_endsBy_self {c₁ c₂ : List α} (ha : a = c₁ ++ c₂) (hne : c₁ ≠ [])
    (hlen : (searched common a a).size ≤ c₁.length)
    (hfree : ∀ x ∈ c₁.reverse.take (searched common a a).size, common x = false) :
    (searched common a a).EndsBy (runBlock common c₁.reverse c₁.reverse) := by
  have hmem := runBlock_mem_tableBlocks common c₂ [] c₂ hne hne
  rw [← ha, List.append_nil] at hmem
  have hsize : (searched common a a).size ≤ (runBlock common c₁.reverse c₁.reverse).size :=
    le_commonRun_self (by rwa [List.length_reverse]) hfree
  rcases (searched_leads common a a).2 _ hmem with hlonger | ⟨-, hends⟩
  · omega
  · exact hends

/-- The block that the search finds in a list and itself stands at one place. -/
lemma before_searched_self (common : α → Bool) (a : List α) :
    (searched common a a).before = (searched common a a).after := by
  rcases List.mem_cons.mp (searched_leads common a a).1 with h | h
  · rw [h]
  · obtain ⟨a₁, a₂, b₁, b₂, ha, hne₁, hb, hne₂, hblock⟩ := mem_tableBlocks h
    rw [List.append_nil] at hblock
    have hsize : (searched common a a).size = commonRun common a₁.reverse b₁.reverse := by
      rw [hblock, runBlock]
    obtain ⟨hlen₁, hlen₂⟩ := commonRun_le common a₁.reverse b₁.reverse
    rw [← hsize, List.length_reverse] at hlen₁ hlen₂
    have hfree : ∀ x ∈ b₁.reverse.take (searched common a a).size, common x = false := by
      intro x hx
      rw [hsize] at hx
      exact eq_false_of_mem_take_commonRun hx
    have htake := take_commonRun common a₁.reverse b₁.reverse
    rw [← hsize] at htake
    have hends₁ := searched_endsBy_self ha hne₁ hlen₁ (htake ▸ hfree)
    have hends₂ := searched_endsBy_self hb hne₂ hlen₂ hfree
    have hend := runBlock_end common a₁.reverse b₁.reverse
    have hend₁ := runBlock_end common a₁.reverse a₁.reverse
    have hend₂ := runBlock_end common b₁.reverse b₁.reverse
    rw [← hblock] at hend
    unfold Block.EndsBy at hends₁ hends₂
    omega

lemma commonPrefix_self (a : List α) : commonPrefix a a = a.length := by
  induction a with
  | nil => rfl
  | cons x a ih => rw [commonPrefix, if_pos rfl, ih, List.length_cons]

/-- The longest block of a list and itself is the list. -/
lemma longestBlock_self (common : α → Bool) (a : List α) :
    longestBlock common a a = ⟨0, 0, a.length⟩ := by
  have hplace := before_searched_self common a
  obtain ⟨hend, -, -⟩ := isCommon_searched common a a
  rw [longestBlock_eq_extend, Block.extend, ← hplace, commonPrefix_self, commonPrefix_self,
    List.length_reverse, List.length_take, List.length_drop]
  simp only [Block.mk.injEq]
  omega

lemma align_nil (common : α → Bool) : align common ([] : List α) [] = [] := by
  rw [align]
  simp [longestBlock_self]

/-- A list is aligned with itself as one run. -/
lemma align_self (common : α → Bool) (a : List α) (h : a ≠ []) :
    align common a a = [.same a] := by
  have hlen := List.length_pos_of_ne_nil h
  rw [align]
  simp [longestBlock_self, Nat.pos_iff_ne_zero.mp hlen, align_nil]

end DocGraft.Diff
