import DocGraft.Proofs.EditScript

/-!
# Matched blocks

The runs that an alignment keeps are blocks that both lists share, and a script goes through them:
an edit for each gap in front of a block, and then the block. Blocks and edits take turns, since blocks
without a gap between them would be one longer block. So joining neighbouring edits to hunks joins
nothing, and each hunk is one gap. In a gap the two lists have nothing in common, for the longest
common block of what stands there is empty.
-/

namespace DocGraft.Diff

section Scripts

/-- A part of a script: a block that both lists share, or a range of one list in place of a range of
the other. -/
inductive Opcode
  | same (block : Block)
  | edit (range : Hunk)
  deriving DecidableEq, Repr

namespace Opcode

def isEdit : Opcode → Bool
  | .same _ => false
  | .edit _ => true

def range? : Opcode → Option Hunk
  | .same _ => none
  | .edit range => some range

/-- The hunks of a script: edits that follow each other are joined to one that is `pending` until a
block comes. -/
def coalesce : (pending : Option Hunk) → List Opcode → List Hunk
  | pending, [] => pending.toList
  | pending, .same _ :: rest => pending.toList ++ coalesce none rest
  | none, .edit range :: rest => coalesce (some range) rest
  | some p, .edit range :: rest =>
    coalesce (some ⟨p.beforeStart, range.beforeEnd - p.beforeStart, p.afterStart,
      range.afterEnd - p.afterStart⟩) rest

/-- Where no edits follow each other, none are joined. -/
lemma coalesce_of_isChain {script : List Opcode}
    (h : script.IsChain fun o o' => o.isEdit ≠ o'.isEdit) :
    coalesce none script = script.filterMap range? := by
  induction script with
  | nil => rfl
  | cons o rest ih =>
    have hrest := ih h.tail
    cases o with
    | same block =>
      rw [coalesce, hrest]
      rfl
    | edit range =>
      cases rest with
      | nil => rfl
      | cons o' rest =>
        cases o' with
        | edit range' => exact absurd rfl (List.isChain_cons_cons.mp h).1
        | same block =>
          rw [coalesce] at hrest
          rw [coalesce, coalesce, Option.toList_some, List.singleton_append]
          exact congrArg _ hrest

end Opcode

/-- The script from `i` and `j` on through blocks: the gap in front of each block, if there is
something in it, and the block, if it is not empty. -/
def opcodesFrom : (i j : Nat) → List Block → List Opcode
  | _, _, [] => []
  | i, j, m :: rest =>
    (if i < m.before ∨ j < m.after then [.edit ⟨i, m.before - i, j, m.after - j⟩] else []) ++
      ((if m.size = 0 then [] else [.same m]) ++
        opcodesFrom (m.before + m.size) (m.after + m.size) rest)

/-- The blocks of segments that start at `i` and `j`, and behind them an empty block. -/
def blocksFrom {α : Type} : (i j : Nat) → List (Segment α) → List Block
  | i, j, [] => [⟨i, j, 0⟩]
  | i, j, .same run :: rest =>
    ⟨i, j, run.length⟩ :: blocksFrom (i + run.length) (j + run.length) rest
  | i, j, .change removed added :: rest =>
    blocksFrom (i + removed.length) (j + added.length) rest

/-- The blocks that two lists of lines share, and behind them an empty block. -/
def blocks (before after : List Line) : List Block :=
  blocksFrom 0 0 (align (fun _ => false) before after)

def opcodes (before after : List Line) : List Opcode := opcodesFrom 0 0 (blocks before after)

end Scripts

/-! ### Segments that take turns -/

section Alignments

variable {α : Type} [DecidableEq α] {common : α → Bool} {a b run : List α}

lemma size_le_longestBlock (hfree : ∀ y, common y = false) {i j n : Nat}
    (h : IsCommon a b i j n) : n ≤ (longestBlock common a b).size := by
  rcases Nat.eq_zero_or_pos n with rfl | hn
  · exact Nat.zero_le _
  · rcases longestBlock_first hfree h hn with hlt | ⟨heq, -⟩
    · exact Nat.le_of_lt hlt
    · exact Nat.le_of_eq heq

/-- No run that both lists have stands right in front of their longest block. -/
lemma eq_nil_of_take_longestBlock (hfree : ∀ y, common y = false) {u x : List α}
    (ha : a.take (longestBlock common a b).before = u ++ run)
    (hb : b.take (longestBlock common a b).after = x ++ run) : run = [] := by
  obtain ⟨w, hw, haw, hbw⟩ := (isCommon_longestBlock common a b).exists_append
  have hcommon := isCommon_append u (a.drop ((longestBlock common a b).before +
    (longestBlock common a b).size)) x (b.drop ((longestBlock common a b).after +
    (longestBlock common a b).size)) (run ++ w)
  rw [List.append_assoc, ← List.append_assoc u, ← ha, ← haw, List.append_assoc,
    ← List.append_assoc x, ← hb, ← hbw] at hcommon
  have hle := size_le_longestBlock hfree hcommon
  rw [List.length_append, hw] at hle
  exact List.eq_nil_of_length_eq_zero (by omega)

/-- No run that both lists have stands right behind their longest block. -/
lemma eq_nil_of_drop_longestBlock (hfree : ∀ y, common y = false) {v y : List α}
    (ha : a.drop ((longestBlock common a b).before + (longestBlock common a b).size) = run ++ v)
    (hb : b.drop ((longestBlock common a b).after + (longestBlock common a b).size) = run ++ y) :
    run = [] := by
  obtain ⟨w, hw, haw, hbw⟩ := (isCommon_longestBlock common a b).exists_append
  have hcommon := isCommon_append (a.take (longestBlock common a b).before) v
    (b.take (longestBlock common a b).after) y (w ++ run)
  rw [List.append_assoc w, List.append_assoc w, ← ha, ← hb, ← haw, ← hbw] at hcommon
  have hle := size_le_longestBlock hfree hcommon
  rw [List.length_append, hw] at hle
  exact List.eq_nil_of_length_eq_zero (by omega)

/-- Runs that both lists have and changes take turns in an alignment. -/
lemma isChain_ne_align (hfree : ∀ y, common y = false) (a b : List α) :
    (align common a b).IsChain fun s t => s.isChange ≠ t.isChange := by
  fun_induction align common a b with
  | case1 => exact List.IsChain.nil
  | case2 => exact List.IsChain.singleton _
  | case3 a b m hm ihl ihr =>
    refine List.isChain_append.mpr ⟨ihl, List.isChain_cons.mpr ⟨?_, ihr⟩, ?_⟩
    · intro t ht
      cases t with
      | change removed added => exact Bool.false_ne_true
      | same run =>
        obtain ⟨rest, hrest⟩ := List.head?_eq_some_iff.mp ht
        have hbefore := flatMap_before_align common (a.drop (m.before + m.size))
          (b.drop (m.after + m.size))
        have hafter := flatMap_after_align common (a.drop (m.before + m.size))
          (b.drop (m.after + m.size))
        rw [hrest, List.flatMap_cons] at hbefore hafter
        exact absurd (eq_nil_of_drop_longestBlock hfree hbefore.symm hafter.symm)
          (isProper_of_mem_align common (List.mem_of_mem_head? ht))
    · intro s hs t ht
      rw [List.head?_cons, Option.mem_some_iff] at ht
      rw [← ht]
      cases s with
      | change removed added => exact Bool.false_ne_true.symm
      | same run =>
        obtain ⟨rest, hrest⟩ := List.getLast?_eq_some_iff.mp hs
        have hbefore := flatMap_before_align common (a.take m.before) (b.take m.after)
        have hafter := flatMap_after_align common (a.take m.before) (b.take m.after)
        rw [hrest, List.flatMap_append, List.flatMap_singleton] at hbefore hafter
        exact absurd (eq_nil_of_take_longestBlock hfree hbefore.symm hafter.symm)
          (isProper_of_mem_align common (List.mem_of_mem_getLast? hs))

/-- What a change removes and what it adds have no element in common. -/
lemma not_mem_added_of_mem_align (hfree : ∀ y, common y = false) {removed added : List α}
    (h : Segment.change removed added ∈ align common a b) {x : α} (hx : x ∈ removed) :
    x ∉ added := by
  fun_induction align common a b with
  | case1 => simp at h
  | case2 a b m hm _ =>
    obtain ⟨rfl, rfl⟩ := Segment.change.inj (List.mem_singleton.mp h)
    exact not_mem_of_size_eq_zero hfree hm hx
  | case3 a b m hm ihl ihr =>
    rcases List.mem_append.mp h with h | h
    · exact ihl h
    · rcases List.mem_cons.mp h with h | h
      · simp at h
      · exact ihr h

end Alignments

/-! ### Scripts through the blocks of segments -/

section Places

variable {α : Type} {i j : Nat} {segments : List (Segment α)}

/-- One part of a script for each of several segments that start at `i` and `j`. -/
def opcodesOf : (i j : Nat) → List (Segment α) → List Opcode
  | _, _, [] => []
  | i, j, .same run :: rest =>
    .same ⟨i, j, run.length⟩ :: opcodesOf (i + run.length) (j + run.length) rest
  | i, j, .change removed added :: rest =>
    .edit ⟨i, removed.length, j, added.length⟩ ::
      opcodesOf (i + removed.length) (j + added.length) rest

lemma filterMap_opcodesOf (i j : Nat) (segments : List (Segment α)) :
    (opcodesOf i j segments).filterMap Opcode.range? = hunksFrom i j segments := by
  induction segments generalizing i j with
  | nil => rfl
  | cons s rest ih =>
    cases s with
    | same run => exact ih ..
    | change removed added => exact congrArg _ (ih ..)

lemma map_isEdit_opcodesOf (i j : Nat) (segments : List (Segment α)) :
    (opcodesOf i j segments).map Opcode.isEdit = segments.map Segment.isChange := by
  induction segments generalizing i j with
  | nil => rfl
  | cons s rest ih =>
    cases s with
    | same run => exact congrArg _ (ih ..)
    | change removed added => exact congrArg _ (ih ..)

/-- The parts of a script take turns as the segments do. -/
lemma isChain_opcodesOf (i j : Nat) (h : segments.IsChain fun s t => s.isChange ≠ t.isChange) :
    (opcodesOf i j segments).IsChain fun o o' => o.isEdit ≠ o'.isEdit := by
  apply (List.isChain_map Opcode.isEdit).mp
  rw [map_isEdit_opcodesOf]
  exact (List.isChain_map Segment.isChange).mpr h

/-- If no change comes first, the first block stands at the start. -/
lemma exists_blocksFrom_eq_cons (i j : Nat) (h : ∀ s ∈ segments.head?, s.isChange = false) :
    ∃ size rest, blocksFrom i j segments = ⟨i, j, size⟩ :: rest := by
  cases segments with
  | nil => exact ⟨0, [], rfl⟩
  | cons s rest =>
    cases s with
    | same run => exact ⟨run.length, _, rfl⟩
    | change removed added => exact absurd (h _ rfl) (by simp [Segment.isChange])

/-- There is no gap in front of a block that stands at the start. -/
lemma opcodesFrom_cons_of_start (m : Block) (rest : List Block) :
    opcodesFrom m.before m.after (m :: rest) = (if m.size = 0 then [] else [.same m]) ++
      opcodesFrom (m.before + m.size) (m.after + m.size) rest := by
  rw [opcodesFrom, if_neg (by omega), List.nil_append]

/-- The script through the blocks of segments has one part for each segment. -/
lemma opcodesFrom_blocksFrom (i j : Nat)
    (hchain : segments.IsChain fun s t => s.isChange ≠ t.isChange)
    (hproper : ∀ s ∈ segments, s.IsProper) :
    opcodesFrom i j (blocksFrom i j segments) = opcodesOf i j segments := by
  induction segments generalizing i j with
  | nil => simp [blocksFrom, opcodesFrom, opcodesOf]
  | cons s rest ih =>
    have hrest := fun i j => ih i j hchain.tail fun t ht => hproper t (List.mem_cons_of_mem _ ht)
    cases s with
    | same run =>
      have hrun : run.length ≠ 0 :=
        List.length_eq_zero_iff.not.mpr (hproper (.same run) List.mem_cons_self)
      rw [blocksFrom, opcodesFrom_cons_of_start ⟨i, j, run.length⟩, if_neg hrun, hrest]
      rfl
    | change removed added =>
      have hgap : i < i + removed.length ∨ j < j + added.length := by
        refine (hproper (.change removed added) List.mem_cons_self).imp ?_ ?_
        · exact fun h => Nat.lt_add_of_pos_right (List.length_pos_of_ne_nil h)
        · exact fun h => Nat.lt_add_of_pos_right (List.length_pos_of_ne_nil h)
      -- the change is the gap in front of the first block of the other segments
      obtain ⟨size, later, hblocks⟩ := exists_blocksFrom_eq_cons (i + removed.length)
        (j + added.length) fun t ht => by
          simpa [Segment.isChange] using ((List.isChain_cons.mp hchain).1 t ht).symm
      have hlater := hrest (i + removed.length) (j + added.length)
      rw [hblocks, opcodesFrom_cons_of_start ⟨_, _, size⟩] at hlater
      rw [blocksFrom, hblocks, opcodesFrom, if_pos hgap, hlater, opcodesOf,
        Nat.add_sub_cancel_left, Nat.add_sub_cancel_left, List.singleton_append]

end Places

/-! ### Blocks and gaps of two lists of lines -/

namespace Covers

variable {before after : List Line} {i j : Nat} {segments : List (Segment Line)}

lemma isCommon_of_mem_blocksFrom (h : Covers before after i j segments) {m : Block}
    (hm : m ∈ blocksFrom i j segments) : IsCommon before after m.before m.after m.size := by
  induction segments generalizing i j with
  | nil =>
    obtain rfl := List.mem_singleton.mp hm
    exact ⟨h.before_le, h.after_le, rfl⟩
  | cons s rest ih =>
    cases s with
    | change removed added => exact ih h.tail hm
    | same run =>
      rcases List.mem_cons.mp hm with rfl | hm
      · refine ⟨add_length_le_of_drop h.before_le h.before_eq,
          add_length_le_of_drop h.after_le h.after_eq, ?_⟩
        have hbefore := window_of_drop h.before_eq
        have hafter := window_of_drop h.after_eq
        rw [Nat.add_sub_cancel_left] at hbefore hafter
        exact hbefore.trans hafter.symm
      · exact ih h.tail hm

lemma getLast?_blocksFrom (h : Covers before after i j segments) :
    (blocksFrom i j segments).getLast? = some ⟨before.length, after.length, 0⟩ := by
  induction segments generalizing i j with
  | nil =>
    have hi := Nat.le_antisymm h.before_le (List.drop_eq_nil_iff.mp h.before_eq)
    have hj := Nat.le_antisymm h.after_le (List.drop_eq_nil_iff.mp h.after_eq)
    rw [blocksFrom, hi, hj]
    rfl
  | cons s rest ih =>
    cases s with
    | change removed added => exact ih h.tail
    | same run =>
      have hlast : (blocksFrom (i + run.length) (j + run.length) rest).getLast? = _ := ih h.tail
      rw [blocksFrom, List.getLast?_cons, hlast]
      rfl

/-- A hunk of segments replaces what one of the changes removes by what it adds. -/
lemma change_mem_of_mem_hunksFrom (h : Covers before after i j segments) {k : Hunk}
    (hk : k ∈ hunksFrom i j segments) :
    Segment.change (k.removed before) (k.added after) ∈ segments := by
  induction segments generalizing i j with
  | nil => simp [hunksFrom] at hk
  | cons s rest ih =>
    cases s with
    | same run => exact List.mem_cons_of_mem _ (ih h.tail hk)
    | change removed added =>
      rcases List.mem_cons.mp hk with rfl | hk
      · have hremoved := window_of_drop h.before_eq
        have hadded := window_of_drop h.after_eq
        rw [Nat.add_sub_cancel_left] at hremoved hadded
        have heq : Segment.change removed added = .change
            (Hunk.removed ⟨i, removed.length, j, added.length⟩ before)
            (Hunk.added ⟨i, removed.length, j, added.length⟩ after) :=
          congrArg₂ _ hremoved.symm hadded.symm
        exact heq ▸ List.mem_cons_self
      · exact List.mem_cons_of_mem _ (ih h.tail hk)

end Covers

lemma opcodes_eq_opcodesOf (before after : List Line) :
    opcodes before after = opcodesOf 0 0 (align (fun _ => false) before after) :=
  opcodesFrom_blocksFrom 0 0 (isChain_ne_align (fun _ => rfl) before after)
    fun _ => isProper_of_mem_align _

/-- No hunk covers a line that both lists have in it. The hunks are the edits of a script through
blocks that both lists share. Blocks and edits take turns in the script, so no edits are joined, and
each hunk is the gap in front of one block; the last block is the end of both lists. -/
theorem hunks_share_no_line (before after : List Line) :
    (∀ h ∈ hunks before after, ∀ l ∈ h.removed before, l ∉ h.added after) ∧
      ((opcodes before after).IsChain fun o o' => o.isEdit ≠ o'.isEdit) ∧
      Opcode.coalesce none (opcodes before after) = hunks before after ∧
      (opcodes before after).filterMap Opcode.range? = hunks before after ∧
      (∀ m ∈ blocks before after, IsCommon before after m.before m.after m.size) ∧
      (blocks before after).getLast? = some ⟨before.length, after.length, 0⟩ := by
  have hcovers := covers_align before after
  have hturns : (opcodes before after).IsChain fun o o' => o.isEdit ≠ o'.isEdit := by
    rw [opcodes_eq_opcodesOf]
    exact isChain_opcodesOf 0 0 (isChain_ne_align (fun _ => rfl) before after)
  have hedits : (opcodes before after).filterMap Opcode.range? = hunks before after := by
    rw [opcodes_eq_opcodesOf]
    exact filterMap_opcodesOf 0 0 _
  refine ⟨?_, hturns, (Opcode.coalesce_of_isChain hturns).trans hedits, hedits, ?_, ?_⟩
  · intro h hh l hl
    exact not_mem_added_of_mem_align (fun _ => rfl) (hcovers.change_mem_of_mem_hunksFrom hh) hl
  · exact fun m hm => hcovers.isCommon_of_mem_blocksFrom hm
  · exact hcovers.getLast?_blocksFrom

end DocGraft.Diff
