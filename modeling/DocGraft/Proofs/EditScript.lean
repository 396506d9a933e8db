import DocGraft.Proofs.Exchange
import DocGraft.Proofs.PlainSplice

/-!
# Edit scripts

The hunks between two lists of lines are an edit script. They leave out exactly runs of lines that
both lists share, with at least one line in each run between two hunks, so replacing what each hunk
removes by what it adds turns the first list into the second. There is nothing to replace only if
the lists are equal.

The argument follows segments that cover both lists from one place on. Positions are compared by the
lines that lie between a cursor and the next segment.
-/

namespace DocGraft

namespace Hunk

/-- The runs of lines outside of ranges, from `cursor` on: before the first range, between each two
neighbours, and behind the last. -/
def gaps (ls : List Line) : (cursor : Nat) → List (Nat × Nat) → List (List Line)
  | cursor, [] => [ls.drop cursor]
  | cursor, r :: rest => window ls cursor (r.1 - cursor) :: gaps ls r.2 rest

/-- The second hunk follows the first with equally many lines between them on both sides, and at
least one. -/
def Parted (h k : Hunk) : Prop :=
  ∃ n, 0 < n ∧ k.beforeStart = h.beforeEnd + n ∧ k.afterStart = h.afterEnd + n

/-- One hunk ends before the other starts, on both sides and with a line between them. -/
def Precedes (h k : Hunk) : Prop := h.beforeEnd < k.beforeStart ∧ h.afterEnd < k.afterStart

instance : IsTrans Hunk Precedes where
  trans h k l hk hl := by
    have hbefore : k.beforeStart ≤ k.beforeEnd := Nat.le_add_right ..
    have hafter : k.afterStart ≤ k.afterEnd := Nat.le_add_right ..
    unfold Precedes at *
    omega

/-- The hunks turn one list of lines into another and cover as little as neighbours allow. -/
structure IsEditScript (before after : List Line) (hunks : List Hunk) : Prop where
  /-- The hunks lie inside both lists. -/
  inside : ∀ h ∈ hunks, h.beforeEnd ≤ before.length ∧ h.afterEnd ≤ after.length
  /-- Each hunk removes or adds something. -/
  proper : ∀ h ∈ hunks, 0 < h.beforeCount ∨ 0 < h.afterCount
  ordered : hunks.Pairwise Precedes
  parted : hunks.IsChain Parted
  /-- All lines outside of the hunks are pairwise equal. -/
  gaps_eq : gaps before 0 (hunks.map beforeRange) = gaps after 0 (hunks.map afterRange)

/-- Where the runs outside of hunks are equal, what the hunks add completes them to the second
list. -/
lemma plainSplice_added {before after : List Line} {hunks : List Hunk} {i j : Nat}
    (hgaps : gaps before i (hunks.map beforeRange) = gaps after j (hunks.map afterRange))
    (hlaid : Laid after.length j (hunks.map afterRange)) :
    Patch.plainSplice before i (hunks.map fun h => Patch.inPlaceOf h (h.added after)) =
      after.drop j := by
  induction hunks generalizing i j with
  | nil => exact (List.cons.inj hgaps).1
  | cons h rest ih =>
    obtain ⟨hstart, hstop, hrest⟩ := hlaid
    obtain ⟨hgap, hgaps⟩ := List.cons.inj hgaps
    simp only [beforeRange, afterRange] at hstart hstop hrest hgap hgaps
    calc
      Patch.plainSplice before i ((h :: rest).map fun h => Patch.inPlaceOf h (h.added after))
        = window after j (h.afterStart - j) ++ h.added after ++ after.drop h.afterEnd := by
          rw [List.map_cons, Patch.plainSplice_cons, hgap, ih hgaps hrest]
      _ = after.drop j := by
          rw [added_eq_window, window_append after hstart hstop,
            window_append_drop after (Nat.le_trans hstart hstop)]

end Hunk

/-! ### Segments that cover two lists -/

namespace Diff

/-- The segments are what the two lists hold from `i` and from `j` on. -/
structure Covers (before after : List Line) (i j : Nat) (segments : List (Segment Line)) :
    Prop where
  before_le : i ≤ before.length
  after_le : j ≤ after.length
  before_eq : before.drop i = segments.flatMap Segment.before
  after_eq : after.drop j = segments.flatMap Segment.after

variable {before after : List Line} {i j : Nat} {segments : List (Segment Line)}

lemma add_length_le_of_drop {ls run rest : List Line} (hi : i ≤ ls.length)
    (h : ls.drop i = run ++ rest) : i + run.length ≤ ls.length := by
  have hlen := congrArg List.length h
  rw [List.length_drop, List.length_append] at hlen
  omega

lemma drop_add_length_of_drop {ls run rest : List Line} (h : ls.drop i = run ++ rest) :
    ls.drop (i + run.length) = rest := by
  rw [← List.drop_drop, h, List.drop_left]

lemma window_of_drop {ls run rest : List Line} (h : ls.drop i = run ++ rest) :
    Hunk.window ls i (i + run.length - i) = run := by
  rw [Nat.add_sub_cancel_left, Hunk.window, h, List.take_left]

namespace Covers

variable {s : Segment Line}

lemma tail (h : Covers before after i j (s :: segments)) :
    Covers before after (i + s.before.length) (j + s.after.length) segments where
  before_le := add_length_le_of_drop h.before_le h.before_eq
  after_le := add_length_le_of_drop h.after_le h.after_eq
  before_eq := drop_add_length_of_drop h.before_eq
  after_eq := drop_add_length_of_drop h.after_eq

/-- The hunks of segments follow each other on both sides. -/
lemma laid (h : Covers before after i j segments) {c d : Nat} (hc : c ≤ i) (hd : d ≤ j) :
    Hunk.Laid before.length c ((hunksFrom i j segments).map Hunk.beforeRange) ∧
      Hunk.Laid after.length d ((hunksFrom i j segments).map Hunk.afterRange) := by
  induction segments generalizing i j c d with
  | nil => exact ⟨Nat.le_trans hc h.before_le, Nat.le_trans hd h.after_le⟩
  | cons s rest ih =>
    cases s with
    | same run => exact ih h.tail (Nat.le_add_right_of_le hc) (Nat.le_add_right_of_le hd)
    | change removed added =>
      obtain ⟨hbefore, hafter⟩ := ih h.tail (Nat.le_refl _) (Nat.le_refl _)
      exact ⟨⟨hc, Nat.le_add_right .., hbefore⟩, ⟨hd, Nat.le_add_right .., hafter⟩⟩

/-- The runs outside of the hunks of segments are equal, if those up to the first segment are. -/
lemma gaps_eq (h : Covers before after i j segments) {c d : Nat} (hc : c ≤ i) (hd : d ≤ j)
    (hgap : Hunk.window before c (i - c) = Hunk.window after d (j - d)) :
    Hunk.gaps before c ((hunksFrom i j segments).map Hunk.beforeRange) =
      Hunk.gaps after d ((hunksFrom i j segments).map Hunk.afterRange) := by
  induction segments generalizing i j c d with
  | nil =>
    have hbefore := Hunk.window_append_drop before hc
    have hafter := Hunk.window_append_drop after hd
    rw [h.before_eq, List.flatMap_nil, List.append_nil] at hbefore
    rw [h.after_eq, List.flatMap_nil, List.append_nil] at hafter
    exact congrArg ([·]) (hbefore.symm.trans (hgap.trans hafter))
  | cons s rest ih =>
    cases s with
    | same run =>
      refine ih h.tail (Nat.le_add_right_of_le hc) (Nat.le_add_right_of_le hd) ?_
      rw [← Hunk.window_append before hc (Nat.le_add_right ..),
        ← Hunk.window_append after hd (Nat.le_add_right ..), hgap]
      exact congrArg _ ((window_of_drop h.before_eq).trans (window_of_drop h.after_eq).symm)
    | change removed added =>
      refine congrArg₂ List.cons hgap (ih h.tail (Nat.le_refl _) (Nat.le_refl _) ?_)
      exact (Hunk.window_sub_self ..).trans (Hunk.window_sub_self ..).symm

/-- Replacing what the hunks of segments remove by what they add gives the second list. -/
lemma plainSplice_added (h : Covers before after 0 0 segments) :
    Patch.plainSplice before 0 ((hunksFrom 0 0 segments).map
      fun h => Patch.inPlaceOf h (h.added after)) = after := by
  exact Hunk.plainSplice_added (h.gaps_eq (Nat.le_refl 0) (Nat.le_refl 0) rfl)
    (h.laid (Nat.le_refl 0) (Nat.le_refl 0)).2

end Covers

lemma covers_align (before after : List Line) :
    Covers before after 0 0 (align (fun _ => false) before after) where
  before_le := Nat.zero_le _
  after_le := Nat.zero_le _
  before_eq := (flatMap_before_align _ before after).symm
  after_eq := (flatMap_after_align _ before after).symm

/-! ### The hunks of an alignment -/

variable {α : Type} {runs : List (Segment α)} {h : Hunk}

lemma exists_change_of_mem_hunksFrom (hh : h ∈ hunksFrom i j runs) :
    ∃ removed added, Segment.change removed added ∈ runs ∧ h.beforeCount = removed.length ∧
      h.afterCount = added.length := by
  induction runs generalizing i j with
  | nil => simp [hunksFrom] at hh
  | cons s rest ih =>
    cases s with
    | same run =>
      obtain ⟨removed, added, hmem, hcounts⟩ := ih hh
      exact ⟨removed, added, List.mem_cons_of_mem _ hmem, hcounts⟩
    | change removed added =>
      rcases List.mem_cons.mp hh with rfl | hh
      · exact ⟨removed, added, List.mem_cons_self, rfl, rfl⟩
      · obtain ⟨removed, added, hmem, hcounts⟩ := ih hh
        exact ⟨removed, added, List.mem_cons_of_mem _ hmem, hcounts⟩

/-- Up to the first hunk both sides have equally many lines. -/
lemma exists_of_mem_head?_hunksFrom (hh : h ∈ (hunksFrom i j runs).head?) :
    ∃ n, h.beforeStart = i + n ∧ h.afterStart = j + n := by
  induction runs generalizing i j with
  | nil => simp [hunksFrom] at hh
  | cons s rest ih =>
    cases s with
    | same run =>
      obtain ⟨n, hbefore, hafter⟩ := ih hh
      exact ⟨run.length + n, by omega, by omega⟩
    | change removed added =>
      rw [hunksFrom, List.head?_cons, Option.mem_some_iff] at hh
      exact ⟨0, by rw [← hh]; rfl, by rw [← hh]; rfl⟩

lemma isChain_hunksFrom (hchain : runs.IsChain Segment.Apart) (hproper : ∀ s ∈ runs, s.IsProper) :
    (hunksFrom i j runs).IsChain Hunk.Parted := by
  induction runs generalizing i j with
  | nil => exact List.IsChain.nil
  | cons s rest ih =>
    have hrestProper : ∀ t ∈ rest, t.IsProper := fun t ht => hproper t (List.mem_cons_of_mem _ ht)
    have hrest : ∀ {i j}, (hunksFrom i j rest).IsChain Hunk.Parted := ih hchain.tail hrestProper
    cases s with
    | same run => exact hrest
    | change removed added =>
      refine List.isChain_cons.mpr ⟨?_, hrest⟩
      intro k hk
      rcases eq_nil_or_same_of_isChain hchain hrestProper with rfl | ⟨run, later, rfl, hpos⟩
      · simp [hunksFrom] at hk
      · rw [hunksFrom] at hk
        obtain ⟨n, hbefore, hafter⟩ := exists_of_mem_head?_hunksFrom hk
        refine ⟨run.length + n, by omega, ?_, ?_⟩
        · change k.beforeStart = i + removed.length + (run.length + n)
          omega
        · change k.afterStart = j + added.length + (run.length + n)
          omega

lemma pairwise_of_isChain_parted {hunks : List Hunk} (h : hunks.IsChain Hunk.Parted) :
    hunks.Pairwise Hunk.Precedes := by
  apply List.isChain_iff_pairwise.mp
  refine h.imp ?_
  rintro h k ⟨n, hn, hbefore, hafter⟩
  exact ⟨by omega, by omega⟩

lemma isEditScript_hunks (before after : List Line) :
    Hunk.IsEditScript before after (hunks before after) where
  inside := by
    obtain ⟨hbefore, hafter⟩ := (covers_align before after).laid (Nat.le_refl 0) (Nat.le_refl 0)
    intro h hh
    exact ⟨(hbefore.bounds_of_mem (List.mem_map_of_mem hh)).2.2,
      (hafter.bounds_of_mem (List.mem_map_of_mem hh)).2.2⟩
  proper := by
    intro h hh
    obtain ⟨removed, added, hmem, hremoved, hadded⟩ := exists_change_of_mem_hunksFrom hh
    rw [hremoved, hadded]
    exact (isProper_of_mem_align _ hmem).imp List.length_pos_of_ne_nil List.length_pos_of_ne_nil
  ordered := pairwise_of_isChain_parted
    (isChain_hunksFrom (isChain_align _ before after) fun _ => isProper_of_mem_align _)
  parted := isChain_hunksFrom (isChain_align _ before after) fun _ => isProper_of_mem_align _
  gaps_eq := (covers_align before after).gaps_eq (Nat.le_refl 0) (Nat.le_refl 0) rfl

lemma exchanged_self (ls : List Line) :
    Exchanged (fun _ => false) (fun _ => false) ls ls := by
  induction ls with
  | nil => exact .nil
  | cons l ls ih => exact .keep rfl rfl ih

lemma hunks_self (ls : List Line) : hunks ls ls = [] := by
  apply List.eq_nil_iff_forall_not_mem.mpr
  intro h hh
  obtain ⟨removed, added, hmem, -, -⟩ := exists_change_of_mem_hunksFrom hh
  obtain ⟨hremoved, hadded⟩ := (exchanged_self ls).exchanges_of_mem_align (fun _ => rfl)
    (fun _ hl => by simp at hl) _ hmem
  have hnil : ∀ {run : List Line}, (∀ l ∈ run, false = true) → run = [] := by
    intro run hrun
    exact List.eq_nil_iff_forall_not_mem.mpr fun l hl => by simpa using hrun l hl
  rcases isProper_of_mem_align _ hmem with hne | hne
  · exact hne (hnil hremoved)
  · exact hne (hnil hadded)

/-- The hunks between two lists of lines are an edit script. Applied to the first list they give the
second one, and there are none exactly if the lists are equal. -/
theorem hunks_turn_before_into_after (before after : List Line) :
    Hunk.IsEditScript before after (hunks before after) ∧
      Patch.plainSplice before 0
        ((hunks before after).map fun h => Patch.inPlaceOf h (h.added after)) = after ∧
      (hunks before after = [] ↔ before = after) := by
  have hscript := isEditScript_hunks before after
  refine ⟨hscript, (covers_align before after).plainSplice_added, ?_, ?_⟩
  · intro hnil
    have hgaps := hscript.gaps_eq
    rw [hnil] at hgaps
    exact (List.cons.inj hgaps).1
  · rintro rfl
    exact hunks_self before

end Diff

end DocGraft
