import DocGraft.Diff.Alignment
import Mathlib.Data.List.Basic
import Mathlib.Tactic.Common

/-!
# The longest common block

The search for the longest block goes through the rows of a table. A row holds, for one place in the
first list, the lengths of the common runs that end there and at each place of the second list. So
the search is a fold over blocks in the order of their ends, and it keeps the first longest one.
-/

namespace DocGraft.Diff

variable {α : Type} [DecidableEq α]

/-- The two lists have the same `n` elements from `i` and from `j` on. -/
def IsCommon (a b : List α) (i j n : Nat) : Prop :=
  i + n ≤ a.length ∧ j + n ≤ b.length ∧ (a.drop i).take n = (b.drop j).take n

omit [DecidableEq α] in
lemma IsCommon.append {a b : List α} {i j n k : Nat} (h : IsCommon a b i j n)
    (hk : IsCommon a b (i + n) (j + n) k) : IsCommon a b i j (n + k) := by
  obtain ⟨-, -, he⟩ := h
  obtain ⟨hi, hj, hke⟩ := hk
  refine ⟨by omega, by omega, ?_⟩
  rw [List.take_add, List.take_add, he, List.drop_drop, List.drop_drop, hke]

omit [DecidableEq α] in
/-- Equal ends of two prefixes, given in reverse, are a common run. -/
lemma isCommon_of_take_eq {ra rb : List α} {n : Nat} (ha : n ≤ ra.length) (hb : n ≤ rb.length)
    (h : ra.take n = rb.take n) (a b : List α) :
    IsCommon (ra.reverse ++ a) (rb.reverse ++ b) (ra.length - n) (rb.length - n) n := by
  have hwindow : ∀ {r : List α}, n ≤ r.length → ∀ s : List α,
      ((r.reverse ++ s).drop (r.length - n)).take n = (r.take n).reverse := by
    intro r hr s
    rw [List.drop_append_of_le_length (by rw [List.length_reverse]; omega), List.drop_reverse,
      List.take_append_of_le_length (by rw [List.length_reverse, List.length_take]; omega),
      Nat.sub_sub_self hr,
      List.take_of_length_le (by rw [List.length_reverse, List.length_take]; omega)]
  refine ⟨?_, ?_, ?_⟩
  · rw [List.length_append, List.length_reverse]
    omega
  · rw [List.length_append, List.length_reverse]
    omega
  · rw [hwindow ha, hwindow hb, h]

omit [DecidableEq α] in
lemma take_eq_of_isCommon {a b : List α} {i j n : Nat} (h : IsCommon a b i j n) :
    (a.take (i + n)).reverse.take n = (b.take (j + n)).reverse.take n := by
  obtain ⟨hi, hj, he⟩ := h
  have hend : ∀ {l : List α} {k : Nat}, k + n ≤ l.length →
      (l.take (k + n)).reverse.take n = ((l.drop k).take n).reverse := by
    intro l k hk
    rw [List.take_reverse, List.length_take, Nat.min_eq_left hk, Nat.add_sub_cancel,
      List.drop_take, Nat.add_sub_cancel_left]
  rw [hend hi, hend hj, he]

/-! ### Common runs -/

/-- The number of leading elements that two lists share, up to the first that anchors no block. -/
def commonRun (common : α → Bool) : List α → List α → Nat
  | x :: a, y :: b => if x = y && !common y then commonRun common a b + 1 else 0
  | _, _ => 0

lemma commonRun_nil_right (common : α → Bool) (a : List α) : commonRun common a [] = 0 := by
  cases a <;> rfl

lemma commonRun_le (common : α → Bool) (a b : List α) :
    commonRun common a b ≤ a.length ∧ commonRun common a b ≤ b.length := by
  fun_induction commonRun common a b with
  | case1 x a y b h ih => simp only [List.length_cons]; omega
  | case2 => simp
  | case3 => simp

lemma take_commonRun (common : α → Bool) (a b : List α) :
    a.take (commonRun common a b) = b.take (commonRun common a b) := by
  fun_induction commonRun common a b with
  | case1 x a y b h ih =>
    have hxy : x = y := by simpa using (Bool.and_eq_true_iff.mp h).1
    rw [List.take_succ_cons, List.take_succ_cons, ih, hxy]
  | case2 => simp
  | case3 => simp

lemma le_commonRun {common : α → Bool} (hfree : ∀ y, common y = false) {a b : List α} {n : Nat}
    (ha : n ≤ a.length) (h : a.take n = b.take n) : n ≤ commonRun common a b := by
  induction n generalizing a b with
  | zero => exact Nat.zero_le _
  | succ n ih =>
    cases a with
    | nil => simp at ha
    | cons x a =>
      cases b with
      | nil => simp at h
      | cons y b =>
        simp only [List.take_succ_cons, List.cons.injEq] at h
        have hn := ih (Nat.le_of_succ_le_succ ha) h.2
        simp only [commonRun, h.1, hfree, decide_true, Bool.not_false, Bool.and_self, if_pos]
        omega

lemma commonPrefix_eq_commonRun (a b : List α) :
    commonPrefix a b = commonRun (fun _ => false) a b := by
  fun_induction commonPrefix a b with
  | case1 a y b ih => simp [commonRun, ih]
  | case2 x a y b h => simp [commonRun, h]
  | case3 a b h =>
    cases a with
    | nil => rfl
    | cons x a =>
      cases b with
      | nil => rfl
      | cons y b => exact absurd rfl (h x a y b rfl)

/-! ### The table as a list of blocks -/

/-- The row of the table for a prefix of the first list, given in reverse, from the place on that
`rb` reaches in the second list. -/
def runEnds (common : α → Bool) (ra : List α) : (rb b : List α) → List Nat
  | _, [] => []
  | rb, y :: b => commonRun common ra (y :: rb) :: runEnds common ra (y :: rb) b

lemma runEnds_nil (common : α → Bool) (rb b : List α) :
    runEnds common [] rb b = b.map fun _ => 0 := by
  induction b generalizing rb with
  | nil => rfl
  | cons y b ih => rw [runEnds, ih, commonRun, List.map_cons]; simp

lemma nextRow_runEnds (common : α → Bool) (x : α) (ra b : List α) :
    nextRow common x b (runEnds common ra [] b) = runEnds common (x :: ra) [] b := by
  have hrow : ∀ rb : List α, List.zipWith (fun y n => if x = y && !common y then n + 1 else 0) b
      (commonRun common ra rb :: runEnds common ra rb b) = runEnds common (x :: ra) rb b := by
    induction b with
    | nil => intro rb; rfl
    | cons y b ih =>
      intro rb
      rw [runEnds, List.zipWith_cons_cons, ih (y :: rb), runEnds, commonRun]
  rw [nextRow, ← hrow [], commonRun_nil_right]

/-- The longest common run that ends where two prefixes, given in reverse, end. -/
def runBlock (common : α → Bool) (ra rb : List α) : Block :=
  ⟨ra.length - commonRun common ra rb, rb.length - commonRun common ra rb, commonRun common ra rb⟩

def rowBlocks (common : α → Bool) (ra : List α) : (rb b : List α) → List Block
  | _, [] => []
  | rb, y :: b => runBlock common ra (y :: rb) :: rowBlocks common ra (y :: rb) b

/-- The blocks of all rows from one place of the first list on. -/
def tableBlocks (common : α → Bool) (b : List α) : (ra a : List α) → List Block
  | _, [] => []
  | ra, x :: a => rowBlocks common (x :: ra) [] b ++ tableBlocks common b (x :: ra) a

def Block.longer (best c : Block) : Block := if best.size < c.size then c else best

lemma bestInRow_eq_foldl (common : α → Bool) (x : α) (ra rb b : List α) (best : Block) :
    bestInRow ra.length rb.length (runEnds common (x :: ra) rb b) best =
      (rowBlocks common (x :: ra) rb b).foldl Block.longer best := by
  induction b generalizing rb best with
  | nil => rfl
  | cons y b ih =>
    have hnext := ih (y :: rb) (best.longer (runBlock common (x :: ra) (y :: rb)))
    rw [List.length_cons] at hnext
    rw [runEnds, bestInRow, rowBlocks, List.foldl_cons, ← hnext]
    rfl

lemma bestRun_eq_foldl (common : α → Bool) (b ra a : List α) (best : Block) :
    bestRun common b ra.length (runEnds common ra [] b) a best =
      (tableBlocks common b ra a).foldl Block.longer best := by
  induction a generalizing ra best with
  | nil => rfl
  | cons x a ih =>
    rw [bestRun, nextRow_runEnds, tableBlocks, List.foldl_append]
    have hrow := bestInRow_eq_foldl common x ra [] b best
    rw [List.length_nil] at hrow
    rw [hrow]
    exact ih (x :: ra) _

/-! ### The order of the blocks -/

/-- One block ends no later than another: in the first list, or there at the same place and in the
second list. -/
def Block.EndsBy (c d : Block) : Prop :=
  c.before + c.size < d.before + d.size ∨
    c.before + c.size = d.before + d.size ∧ c.after + c.size ≤ d.after + d.size

lemma runBlock_end (common : α → Bool) (ra rb : List α) :
    (runBlock common ra rb).before + (runBlock common ra rb).size = ra.length ∧
      (runBlock common ra rb).after + (runBlock common ra rb).size = rb.length := by
  have h := commonRun_le common ra rb
  simp only [runBlock]
  omega

lemma mem_rowBlocks {common : α → Bool} {ra rb b : List α} {c : Block}
    (h : c ∈ rowBlocks common ra rb b) :
    ∃ b₁ b₂, b = b₁ ++ b₂ ∧ b₁ ≠ [] ∧ c = runBlock common ra (b₁.reverse ++ rb) := by
  induction b generalizing rb with
  | nil => simp [rowBlocks] at h
  | cons y b ih =>
    rcases List.mem_cons.mp h with rfl | h
    · exact ⟨[y], b, rfl, by simp, rfl⟩
    · obtain ⟨b₁, b₂, rfl, -, rfl⟩ := ih h
      exact ⟨y :: b₁, b₂, rfl, by simp, by simp⟩

lemma runBlock_mem_rowBlocks (common : α → Bool) (ra rb b₂ : List α) {b₁ : List α} (h : b₁ ≠ []) :
    runBlock common ra (b₁.reverse ++ rb) ∈ rowBlocks common ra rb (b₁ ++ b₂) := by
  induction b₁ generalizing rb with
  | nil => exact absurd rfl h
  | cons y b₁ ih =>
    rw [List.cons_append, rowBlocks]
    cases b₁ with
    | nil => exact List.mem_cons_self ..
    | cons z b₁ =>
      have hmem := ih (y :: rb) (List.cons_ne_nil z b₁)
      rw [List.reverse_cons (a := y), List.append_assoc]
      exact List.mem_cons_of_mem _ hmem

lemma mem_tableBlocks {common : α → Bool} {b ra a : List α} {c : Block}
    (h : c ∈ tableBlocks common b ra a) :
    ∃ a₁ a₂ b₁ b₂, a = a₁ ++ a₂ ∧ a₁ ≠ [] ∧ b = b₁ ++ b₂ ∧ b₁ ≠ [] ∧
      c = runBlock common (a₁.reverse ++ ra) b₁.reverse := by
  induction a generalizing ra with
  | nil => simp [tableBlocks] at h
  | cons x a ih =>
    rcases List.mem_append.mp h with h | h
    · obtain ⟨b₁, b₂, hb, hne, rfl⟩ := mem_rowBlocks h
      exact ⟨[x], a, b₁, b₂, rfl, by simp, hb, hne, by simp⟩
    · obtain ⟨a₁, a₂, b₁, b₂, rfl, -, hb, hne, rfl⟩ := ih h
      exact ⟨x :: a₁, a₂, b₁, b₂, rfl, by simp, hb, hne, by simp⟩

lemma runBlock_mem_tableBlocks (common : α → Bool) (b₂ ra a₂ : List α) {a₁ b₁ : List α}
    (ha : a₁ ≠ []) (hb : b₁ ≠ []) :
    runBlock common (a₁.reverse ++ ra) b₁.reverse ∈
      tableBlocks common (b₁ ++ b₂) ra (a₁ ++ a₂) := by
  induction a₁ generalizing ra with
  | nil => exact absurd rfl ha
  | cons x a₁ ih =>
    rw [List.cons_append, tableBlocks]
    cases a₁ with
    | nil =>
      have hmem := runBlock_mem_rowBlocks common (x :: ra) [] b₂ hb
      rw [List.append_nil] at hmem
      exact List.mem_append_left _ hmem
    | cons z a₁ =>
      have hmem := ih (x :: ra) (List.cons_ne_nil z a₁)
      rw [List.reverse_cons (a := x), List.append_assoc]
      exact List.mem_append_right _ hmem

lemma pairwise_rowBlocks (common : α → Bool) (ra rb b : List α) :
    (rowBlocks common ra rb b).Pairwise Block.EndsBy := by
  induction b generalizing rb with
  | nil => exact List.Pairwise.nil
  | cons y b ih =>
    refine List.Pairwise.cons ?_ (ih (y :: rb))
    intro c hc
    obtain ⟨b₁, b₂, -, -, rfl⟩ := mem_rowBlocks hc
    have h1 := runBlock_end common ra (y :: rb)
    have h2 := runBlock_end common ra (b₁.reverse ++ y :: rb)
    rw [List.length_append] at h2
    exact Or.inr ⟨by omega, by omega⟩

lemma pairwise_tableBlocks (common : α → Bool) (b ra a : List α) :
    (tableBlocks common b ra a).Pairwise Block.EndsBy := by
  induction a generalizing ra with
  | nil => exact List.Pairwise.nil
  | cons x a ih =>
    refine List.pairwise_append.mpr ⟨pairwise_rowBlocks common (x :: ra) [] b, ih (x :: ra), ?_⟩
    intro c hc d hd
    obtain ⟨b₁, b₂, -, -, rfl⟩ := mem_rowBlocks hc
    obtain ⟨a₁, a₂, c₁, c₂, -, hne, -, -, rfl⟩ := mem_tableBlocks hd
    have h1 := runBlock_end common (x :: ra) (b₁.reverse ++ [])
    have h2 := runBlock_end common (a₁.reverse ++ x :: ra) c₁.reverse
    have hpos := List.length_pos_of_ne_nil hne
    rw [List.length_append, List.length_reverse] at h2
    exact Or.inl (by omega)

/-! ### The first longest block -/

/-- One block is as long as another and ends no later if it is no longer. -/
def Block.Leads (c d : Block) : Prop := d.size < c.size ∨ d.size = c.size ∧ c.EndsBy d

lemma Block.EndsBy.refl (c : Block) : c.EndsBy c := Or.inr ⟨rfl, Nat.le_refl _⟩

lemma Block.EndsBy.trans {c d e : Block} (h : c.EndsBy d) (h' : d.EndsBy e) : c.EndsBy e := by
  unfold EndsBy at *
  omega

lemma Block.Leads.refl (c : Block) : c.Leads c := Or.inr ⟨rfl, EndsBy.refl c⟩

lemma Block.Leads.trans {c d e : Block} (h : c.Leads d) (h' : d.Leads e) : c.Leads e := by
  rcases h with h | ⟨h, hends⟩
  · rcases h' with h' | ⟨h', -⟩
    · exact Or.inl (Nat.lt_trans h' h)
    · exact Or.inl (h' ▸ h)
  · rcases h' with h' | ⟨h', hends'⟩
    · exact Or.inl (h ▸ h')
    · exact Or.inr ⟨h'.trans h, hends.trans hends'⟩

lemma Block.longer_eq_or (best c : Block) : best.longer c = best ∨ best.longer c = c := by
  unfold longer
  split
  · exact Or.inr rfl
  · exact Or.inl rfl

/-- Of two blocks the longer one leads, and the first one if they are equally long. -/
lemma Block.longer_leads {best c : Block} (h : best.EndsBy c) :
    (best.longer c).Leads best ∧ (best.longer c).Leads c := by
  unfold longer
  split
  · next hlt => exact ⟨Or.inl hlt, .refl c⟩
  · next hle =>
    refine ⟨.refl best, ?_⟩
    rcases Nat.lt_or_eq_of_le (Nat.not_lt.mp hle) with hlt | heq
    · exact Or.inl hlt
    · exact Or.inr ⟨heq, h⟩

lemma foldl_longer_leads {best : Block} {cs : List Block}
    (h : (best :: cs).Pairwise Block.EndsBy) :
    cs.foldl Block.longer best ∈ best :: cs ∧
      ∀ d ∈ best :: cs, (cs.foldl Block.longer best).Leads d := by
  induction cs generalizing best with
  | nil =>
    refine ⟨List.mem_cons_self .., ?_⟩
    intro d hd
    obtain rfl := List.mem_singleton.mp hd
    exact .refl d
  | cons c cs ih =>
    obtain ⟨hbest, hc⟩ := List.pairwise_cons.mp h
    have hnext : (best.longer c :: cs).Pairwise Block.EndsBy := by
      rcases best.longer_eq_or c with heq | heq
      · rw [heq]
        exact List.pairwise_cons.mpr ⟨fun d hd => hbest d (List.mem_cons_of_mem _ hd), hc.tail⟩
      · rw [heq]
        exact hc
    obtain ⟨hmem, hleads⟩ := ih hnext
    obtain ⟨hover, hoverNext⟩ := Block.longer_leads (hbest c List.mem_cons_self)
    have hkept := hleads (best.longer c) List.mem_cons_self
    rw [List.foldl_cons]
    refine ⟨?_, ?_⟩
    · rcases List.mem_cons.mp hmem with heq | hmem
      · rw [heq]
        rcases best.longer_eq_or c with hlonger | hlonger
        · rw [hlonger]
          exact List.mem_cons_self
        · rw [hlonger]
          exact List.mem_cons_of_mem _ List.mem_cons_self
      · exact List.mem_cons_of_mem _ (List.mem_cons_of_mem _ hmem)
    · intro d hd
      rcases List.mem_cons.mp hd with rfl | hd
      · exact hkept.trans hover
      · rcases List.mem_cons.mp hd with rfl | hd
        · exact hkept.trans hoverNext
        · exact hleads d (List.mem_cons_of_mem _ hd)

/-- The block that the search over the whole table gives. -/
def searched (common : α → Bool) (a b : List α) : Block :=
  bestRun common b 0 (b.map fun _ => 0) a ⟨0, 0, 0⟩

lemma searched_leads (common : α → Bool) (a b : List α) :
    searched common a b ∈ ⟨0, 0, 0⟩ :: tableBlocks common b [] a ∧
      ∀ d ∈ tableBlocks common b [] a, (searched common a b).Leads d := by
  have hfold : searched common a b =
      (tableBlocks common b [] a).foldl Block.longer ⟨0, 0, 0⟩ := by
    rw [← bestRun_eq_foldl, runEnds_nil]
    rfl
  have hsorted : ((⟨0, 0, 0⟩ : Block) :: tableBlocks common b [] a).Pairwise Block.EndsBy := by
    refine List.pairwise_cons.mpr ⟨?_, pairwise_tableBlocks common b [] a⟩
    intro d _
    unfold Block.EndsBy
    simp only
    omega
  obtain ⟨hmem, hleads⟩ := foldl_longer_leads hsorted
  rw [hfold]
  exact ⟨hmem, fun d hd => hleads d (List.mem_cons_of_mem _ hd)⟩

lemma isCommon_searched (common : α → Bool) (a b : List α) :
    IsCommon a b (searched common a b).before (searched common a b).after
      (searched common a b).size := by
  rcases List.mem_cons.mp (searched_leads common a b).1 with h | h
  · rw [h]
    simp [IsCommon]
  · obtain ⟨a₁, a₂, b₁, b₂, rfl, -, rfl, -, hblock⟩ := mem_tableBlocks h
    have hle := commonRun_le common a₁.reverse b₁.reverse
    have hcommon := isCommon_of_take_eq hle.1 hle.2 (take_commonRun common _ _) a₂ b₂
    rw [List.append_nil] at hblock
    simpa [hblock, runBlock] using hcommon

/-- No common run is longer than the block found, and none of the same length stands before it in the
first list, or at the same place there and before it in the second. -/
lemma searched_first {common : α → Bool} (hfree : ∀ y, common y = false) {a b : List α}
    {i j n : Nat} (h : IsCommon a b i j n) (hn : 0 < n) :
    n < (searched common a b).size ∨ n = (searched common a b).size ∧
      ((searched common a b).before < i ∨
        (searched common a b).before = i ∧ (searched common a b).after ≤ j) := by
  have hends := take_eq_of_isCommon h
  obtain ⟨hi, hj, -⟩ := h
  have hrun : n ≤ commonRun common (a.take (i + n)).reverse (b.take (j + n)).reverse := by
    apply le_commonRun hfree _ hends
    rw [List.length_reverse, List.length_take]
    omega
  have ha : a.take (i + n) ≠ [] := by
    apply List.ne_nil_of_length_pos
    rw [List.length_take]
    omega
  have hb : b.take (j + n) ≠ [] := by
    apply List.ne_nil_of_length_pos
    rw [List.length_take]
    omega
  have hmem := runBlock_mem_tableBlocks common (b.drop (j + n)) [] (a.drop (i + n)) ha hb
  rw [List.take_append_drop, List.take_append_drop, List.append_nil] at hmem
  have hend := runBlock_end common (a.take (i + n)).reverse (b.take (j + n)).reverse
  rw [List.length_reverse, List.length_reverse, List.length_take, List.length_take] at hend
  have hsize : (runBlock common (a.take (i + n)).reverse (b.take (j + n)).reverse).size =
    commonRun common (a.take (i + n)).reverse (b.take (j + n)).reverse := rfl
  have hleads := (searched_leads common a b).2 _ hmem
  unfold Block.Leads Block.EndsBy at hleads
  omega

/-! ### Extension of a block -/

lemma IsCommon.extend {a b : List α} {m : Block} (h : IsCommon a b m.before m.after m.size) :
    IsCommon a b (m.extend a b).before (m.extend a b).after (m.extend a b).size := by
  obtain ⟨hi, hj, -⟩ := id h
  have hleft : IsCommon a b
      (m.before - commonPrefix (a.take m.before).reverse (b.take m.after).reverse)
      (m.after - commonPrefix (a.take m.before).reverse (b.take m.after).reverse)
      (commonPrefix (a.take m.before).reverse (b.take m.after).reverse) := by
    rw [commonPrefix_eq_commonRun]
    have hle := commonRun_le (fun _ => false) (a.take m.before).reverse (b.take m.after).reverse
    have hc := isCommon_of_take_eq hle.1 hle.2 (take_commonRun _ _ _) (a.drop m.before)
      (b.drop m.after)
    simp only [List.reverse_reverse, List.take_append_drop, List.length_reverse, List.length_take,
      Nat.min_eq_left (show m.before ≤ a.length by omega),
      Nat.min_eq_left (show m.after ≤ b.length by omega)] at hc
    exact hc
  have hright : IsCommon a b (m.before + m.size) (m.after + m.size)
      (commonPrefix (a.drop (m.before + m.size)) (b.drop (m.after + m.size))) := by
    rw [commonPrefix_eq_commonRun]
    have hle := commonRun_le (fun _ => false) (a.drop (m.before + m.size))
      (b.drop (m.after + m.size))
    rw [List.length_drop, List.length_drop] at hle
    exact ⟨by omega, by omega, take_commonRun _ _ _⟩
  have hlen := commonPrefix_eq_commonRun (a.take m.before).reverse (b.take m.after).reverse ▸
    commonRun_le (fun _ => false) (a.take m.before).reverse (b.take m.after).reverse
  rw [List.length_reverse, List.length_reverse, List.length_take, List.length_take] at hlen
  refine (hleft.append ?_).append ?_
  · rwa [Nat.sub_add_cancel (by omega), Nat.sub_add_cancel (by omega)]
  · rwa [← Nat.add_assoc, ← Nat.add_assoc, Nat.sub_add_cancel (by omega),
      Nat.sub_add_cancel (by omega)]

lemma longestBlock_eq_extend (common : α → Bool) (a b : List α) :
    longestBlock common a b = (searched common a b).extend a b := rfl

lemma isCommon_longestBlock (common : α → Bool) (a b : List α) :
    IsCommon a b (longestBlock common a b).before (longestBlock common a b).after
      (longestBlock common a b).size := (isCommon_searched common a b).extend

/-- Where every element anchors blocks, the block found is the longest one and cannot be extended. -/
lemma longestBlock_eq_searched {common : α → Bool} (hfree : ∀ y, common y = false)
    (a b : List α) : longestBlock common a b = searched common a b := by
  have hcommon := isCommon_longestBlock common a b
  rw [longestBlock_eq_extend] at hcommon ⊢
  have hsize : ((searched common a b).extend a b).size ≤ (searched common a b).size := by
    rcases Nat.eq_zero_or_pos ((searched common a b).extend a b).size with h0 | hpos
    · omega
    · rcases searched_first hfree hcommon hpos with h | ⟨h, -⟩
      · omega
      · omega
  generalize searched common a b = m at hsize ⊢
  obtain ⟨i, j, n⟩ := m
  simp only [Block.extend] at hsize ⊢
  simp only [Block.mk.injEq]
  omega

lemma longestBlock_first {common : α → Bool} (hfree : ∀ y, common y = false) {a b : List α}
    {i j n : Nat} (h : IsCommon a b i j n) (hn : 0 < n) :
    n < (longestBlock common a b).size ∨ n = (longestBlock common a b).size ∧
      ((longestBlock common a b).before < i ∨
        (longestBlock common a b).before = i ∧ (longestBlock common a b).after ≤ j) := by
  rw [longestBlock_eq_searched hfree]
  exact searched_first hfree h hn

end DocGraft.Diff
