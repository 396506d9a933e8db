import DocGraft.Trace

/-!
# Alignment of two lists

Two lists are aligned around their longest common block: of the longest ones the first in the first
list, and of those the first in the second list. What stands before the block in both lists and what
stands behind it are aligned in the same way. The result is a list of segments, each of which is the
same in both lists or a change of one run into another.

A caller may name elements that are too common to anchor a block. They still become part of one that
stands next to them. The changes of an alignment, with their places in both lists, are the hunks
between them.
-/

namespace DocGraft.Diff

/-- A run that both lists have, or a run of the first list with what the second list has in its
place. -/
inductive Segment (α : Type)
  | same (run : List α)
  | change (removed added : List α)
  deriving DecidableEq, Repr

/-- A block of `size` elements, at `before` in the first list and at `after` in the second. -/
structure Block where
  before : Nat
  after : Nat
  size : Nat
  deriving DecidableEq, Repr

variable {α : Type} [DecidableEq α]

/-- The lengths of the common runs that end at an element `x` of the first list, one for each
element of the second list, from those of the element before `x`. -/
def nextRow (common : α → Bool) (x : α) (b : List α) (row : List Nat) : List Nat :=
  List.zipWith (fun y n => if x = y && !common y then n + 1 else 0) b (0 :: row)

/-- The longer of `best` and the runs of a row; `i` and `j` are the positions of its elements. -/
def bestInRow (i : Nat) : (j : Nat) → List Nat → Block → Block
  | _, [], best => best
  | j, n :: row, best =>
    bestInRow i (j + 1) row (if best.size < n then ⟨i + 1 - n, j + 1 - n, n⟩ else best)

/-- The longest run over all rows from position `i` on. -/
def bestRun (common : α → Bool) (b : List α) : (i : Nat) → (row : List Nat) → List α → Block → Block
  | _, _, [], best => best
  | i, row, x :: a, best =>
    bestRun common b (i + 1) (nextRow common x b row) a
      (bestInRow i 0 (nextRow common x b row) best)

def commonPrefix : List α → List α → Nat
  | x :: a, y :: b => if x = y then commonPrefix a b + 1 else 0
  | _, _ => 0

/-- The block with all equal elements on both of its sides. -/
def Block.extend (m : Block) (a b : List α) : Block :=
  let left := commonPrefix (a.take m.before).reverse (b.take m.after).reverse
  let right := commonPrefix (a.drop (m.before + m.size)) (b.drop (m.after + m.size))
  ⟨m.before - left, m.after - left, left + m.size + right⟩

def longestBlock (common : α → Bool) (a b : List α) : Block :=
  (bestRun common b 0 (b.map fun _ => 0) a ⟨0, 0, 0⟩).extend a b

omit [DecidableEq α] in
theorem mem_le_of_zipWith {f : α → Nat → Nat} (hf : ∀ y n, f y n ≤ n + 1) {bound : Nat} {b : List α}
    {row : List Nat} (h : ∀ n ∈ row, n ≤ bound) : ∀ n ∈ List.zipWith f b row, n ≤ bound + 1 := by
  induction b generalizing row with
  | nil => simp
  | cons y b ih =>
    cases row with
    | nil => simp
    | cons m row =>
      intro n hn
      simp only [List.zipWith_cons_cons, List.mem_cons] at hn
      rcases hn with rfl | hn
      · have := hf y m
        have := h m (by simp)
        omega
      · exact ih (fun k hk => h k (by simp [hk])) n hn

theorem mem_nextRow_le (common : α → Bool) (x : α) (b : List α) {row : List Nat} {i : Nat}
    (h : ∀ n ∈ row, n ≤ i) : ∀ n ∈ nextRow common x b row, n ≤ i + 1 := by
  refine mem_le_of_zipWith (fun y n => ?_) ?_
  · split <;> omega
  · simpa using h

theorem bestInRow_end_le {i limit : Nat} (hi : i < limit) {row : List Nat}
    (h : ∀ n ∈ row, n ≤ i + 1) (j : Nat) {best : Block} (hb : best.before + best.size ≤ limit) :
    (bestInRow i j row best).before + (bestInRow i j row best).size ≤ limit := by
  induction row generalizing j best with
  | nil => simpa [bestInRow] using hb
  | cons n row ih =>
    have hn := h n (by simp)
    refine ih (fun k hk => h k (by simp [hk])) (j + 1) ?_
    split
    · simp only; omega
    · exact hb

theorem bestRun_end_le (common : α → Bool) (b : List α) {i limit : Nat} {row : List Nat}
    {a : List α}
    (ha : i + a.length ≤ limit) (h : ∀ n ∈ row, n ≤ i) {best : Block}
    (hb : best.before + best.size ≤ limit) :
    (bestRun common b i row a best).before + (bestRun common b i row a best).size ≤ limit := by
  induction a generalizing i row best with
  | nil => simpa [bestRun] using hb
  | cons x a ih =>
    simp only [List.length_cons] at ha
    exact ih (by omega) (mem_nextRow_le common x b h)
      (bestInRow_end_le (by omega) (mem_nextRow_le common x b h) 0 hb)

theorem commonPrefix_le (a b : List α) : commonPrefix a b ≤ a.length := by
  fun_induction commonPrefix a b with
  | case1 a x b h => simp; omega
  | case2 => simp
  | case3 => simp

theorem longestBlock_end_le (common : α → Bool) (a b : List α) :
    (longestBlock common a b).before + (longestBlock common a b).size ≤ a.length := by
  have start : (⟨0, 0, 0⟩ : Block).before + (⟨0, 0, 0⟩ : Block).size ≤ a.length := by simp
  have h := bestRun_end_le common b (Nat.le_of_eq (Nat.zero_add a.length))
    (by simp : ∀ n ∈ b.map fun _ => 0, n ≤ 0) start
  simp only [longestBlock, Block.extend]
  generalize bestRun common b 0 (b.map fun _ => 0) a ⟨0, 0, 0⟩ = m at h ⊢
  have h1 := commonPrefix_le (a.take m.before).reverse (b.take m.after).reverse
  have h2 := commonPrefix_le (a.drop (m.before + m.size)) (b.drop (m.after + m.size))
  simp only [List.length_reverse, List.length_take, List.length_drop] at h1 h2
  omega

/-- The alignment of two lists; `common` tells the elements that anchor no block. -/
def align (common : α → Bool) (a b : List α) : List (Segment α) :=
  let m := longestBlock common a b
  if _h : m.size = 0 then
    if a.isEmpty && b.isEmpty then [] else [.change a b]
  else
    align common (a.take m.before) (b.take m.after) ++ .same ((a.drop m.before).take m.size) ::
      align common (a.drop (m.before + m.size)) (b.drop (m.after + m.size))
  termination_by a.length
  decreasing_by
    all_goals
      have := longestBlock_end_le common a b
      simp only [List.length_take, List.length_drop, m] at *
      omega

/-- The hunks of an alignment whose first segment starts at `i` and `j`. -/
def hunksFrom {α : Type} : (i j : Nat) → List (Segment α) → List Hunk
  | _, _, [] => []
  | i, j, .same run :: rest => hunksFrom (i + run.length) (j + run.length) rest
  | i, j, .change removed added :: rest =>
    ⟨i, removed.length, j, added.length⟩ ::
      hunksFrom (i + removed.length) (j + added.length) rest

def hunks (before after : List Line) : List Hunk :=
  hunksFrom 0 0 (align (fun _ => false) before after)

/-- The entry about a comparison: the sizes of both texts and the number of hunks. -/
def trace (before after : List Line) : Trace :=
  [⟨.debug, .differ, "Diffed " ++ toString before.length ++ " -> " ++ toString after.length ++
    " lines into " ++ toString (hunks before after).length ++ " hunk(s)"⟩]

end DocGraft.Diff
