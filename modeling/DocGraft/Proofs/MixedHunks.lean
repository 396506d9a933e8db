import DocGraft.Proofs.LineClasses
import DocGraft.Proofs.MergedSegments
import DocGraft.Proofs.PlainSplice
import Mathlib.Order.Bounds.Basic

/-!
# Mixed hunks and their parts

A hunk is cut at the first place where an item's documentation starts right behind a module's. The
two parts cover what the hunk covers and meet where it was cut, so what one of them removes or adds
the hunk does, and the other way round: a hunk matters exactly if a part of it does.
-/

namespace DocGraft.Hunk

variable {m : Markers} {ls rest before after : List Line} {l : Line} {h : Hunk}
  {start n i k : Nat}

/-! ### Where an item's documentation starts -/

/-- A line that is documentation of an item and not of a module. -/
def StartsItem (m : Markers) (l : Line) : Prop :=
  Line.isItemDoc l = true ∧ Line.isModuleDoc m l = false

/-- Behind a line of module documentation at `start` or later an item's documentation starts at
position `n`, with nothing but blank lines between the two. -/
structure OpensItem (m : Markers) (ls : List Line) (start n : Nat) : Prop where
  item : ∃ c ∈ ls[n]?, StartsItem m c
  follows : ∃ j, start ≤ j ∧ j < n ∧ (∃ l ∈ ls[j]?, Line.isModuleDoc m l = true) ∧
    ∀ i, j < i → i < n → ∃ b ∈ ls[i]?, Text.isBlank b = true

lemma StartsItem.isBlank_eq_false (hl : StartsItem m l) : Text.isBlank l = false := by
  apply Bool.eq_false_iff.mpr
  intro hb
  have hlead := Line.lead_of_isBlank hb
  rcases Bool.or_eq_true_iff.mp hl.1 with ho | hd
  · rw [Line.lead_of_isOuterAttribute ho] at hlead
    exact absurd hlead (by decide)
  · rw [Line.lead_of_isDocComment (Bool.or_eq_true_iff.mpr (Or.inl hd))] at hlead
    exact absurd hlead (by decide)

/-- The blank lines that a list starts with are followed by the start of an item's documentation. -/
lemma exists_dropWhile_isBlank_iff :
    (∃ c more, ls.dropWhile Text.isBlank = c :: more ∧ StartsItem m c ∧
        (ls.takeWhile Text.isBlank).length = n) ↔
      (∃ c ∈ ls[n]?, StartsItem m c) ∧ ∀ i < n, ∃ b ∈ ls[i]?, Text.isBlank b = true := by
  induction ls generalizing n with
  | nil => simp
  | cons b ls ih =>
    by_cases hb : Text.isBlank b = true
    · rw [List.dropWhile_cons_of_pos hb, List.takeWhile_cons_of_pos hb]
      cases n with
      | zero =>
        have hitem : ¬StartsItem m b := fun hc => by simp [hc.isBlank_eq_false] at hb
        simp [hitem]
      | succ n =>
        rw [Nat.forall_lt_succ_left]
        simp only [List.length_cons, Nat.add_right_cancel_iff, ih]
        simp [hb]
    · rw [List.dropWhile_cons_of_neg hb, List.takeWhile_cons_of_neg hb]
      cases n with
      | zero => simp
      | succ n =>
        rw [Nat.forall_lt_succ_left]
        simp [hb]

/-- In a list that starts with `l` an item's documentation starts behind `l` itself, if that is
documentation of a module, or as it does in the rest. -/
lemma opensItem_cons_iff :
    OpensItem m (l :: rest) 0 k ↔ ∃ n, k = n + 1 ∧
      ((Line.isModuleDoc m l = true ∧ ∃ c more, rest.dropWhile Text.isBlank = c :: more ∧
          StartsItem m c ∧ (rest.takeWhile Text.isBlank).length = n) ∨
        OpensItem m rest 0 n) := by
  constructor
  · rintro ⟨hitem, j, -, hj, hmodule, hblank⟩
    obtain ⟨n, rfl⟩ := Nat.exists_eq_succ_of_ne_zero (Nat.ne_zero_of_lt hj)
    refine ⟨n, rfl, ?_⟩
    cases j with
    | zero =>
      left
      refine ⟨by simpa using hmodule, exists_dropWhile_isBlank_iff.mpr ⟨by simpa using hitem, ?_⟩⟩
      intro i hi
      simpa using hblank (i + 1) (Nat.succ_pos i) (Nat.succ_lt_succ hi)
    | succ j =>
      right
      refine ⟨by simpa using hitem, j, Nat.zero_le j, Nat.lt_of_succ_lt_succ hj,
        by simpa using hmodule, ?_⟩
      intro i hji hi
      simpa using hblank (i + 1) (Nat.succ_lt_succ hji) (Nat.succ_lt_succ hi)
  · rintro ⟨n, rfl, ⟨hl, hrest⟩ | ⟨hitem, j, -, hj, hmodule, hblank⟩⟩
    · obtain ⟨hitem, hblank⟩ := exists_dropWhile_isBlank_iff.mp hrest
      refine ⟨by simpa using hitem, 0, Nat.le_refl 0, Nat.succ_pos n, by simpa using hl, ?_⟩
      intro i hi hin
      obtain ⟨i, rfl⟩ := Nat.exists_eq_succ_of_ne_zero (Nat.ne_of_gt hi)
      simpa using hblank i (Nat.lt_of_succ_lt_succ hin)
    · refine ⟨by simpa using hitem, j + 1, Nat.zero_le _, Nat.succ_lt_succ hj,
        by simpa using hmodule, ?_⟩
      intro i hji hin
      obtain ⟨i, rfl⟩ := Nat.exists_eq_succ_of_ne_zero (Nat.ne_zero_of_lt hji)
      simpa using hblank i (Nat.lt_of_succ_lt_succ hji) (Nat.lt_of_succ_lt_succ hin)

/-- A border is told by what it is: the least position at which an item's documentation starts. -/
def IsFound (m : Markers) (ls : List Line) : Option Nat → Prop
  | some n => IsLeast {i | OpensItem m ls 0 i} n
  | none => ∀ i, ¬OpensItem m ls 0 i

lemma IsFound.succ {found : Option Nat} (hfound : IsFound m rest found)
    (hhead : ¬(Line.isModuleDoc m l = true ∧
      ∃ c more, rest.dropWhile Text.isBlank = c :: more ∧ StartsItem m c)) :
    IsFound m (l :: rest) (found.map (· + 1)) := by
  have hiff : ∀ k, OpensItem m (l :: rest) 0 k ↔ ∃ n, k = n + 1 ∧ OpensItem m rest 0 n := by
    intro k
    rw [opensItem_cons_iff]
    constructor
    · rintro ⟨n, rfl, ⟨hl, c, more, hdrop, hc, -⟩ | hn⟩
      · exact absurd ⟨hl, c, more, hdrop, hc⟩ hhead
      · exact ⟨n, rfl, hn⟩
    · rintro ⟨n, rfl, hn⟩
      exact ⟨n, rfl, Or.inr hn⟩
  cases found with
  | none =>
    intro k hk
    obtain ⟨n, -, hn⟩ := (hiff k).mp hk
    exact hfound n hn
  | some n =>
    refine ⟨(hiff (n + 1)).mpr ⟨n, rfl, hfound.1⟩, ?_⟩
    intro k hk
    obtain ⟨i, rfl, hi⟩ := (hiff k).mp hk
    exact Nat.succ_le_succ (hfound.2 hi)

/-- Behind blank lines only no item's documentation starts. -/
lemma isFound_none_of_blank (hblank : ∀ b ∈ rest, Text.isBlank b = true) :
    IsFound m (l :: rest) none := by
  rintro k ⟨⟨c, hc, hitem⟩, j, -, hj, -⟩
  obtain ⟨n, rfl⟩ := Nat.exists_eq_succ_of_ne_zero (Nat.ne_zero_of_lt hj)
  have hb := hblank c (List.mem_of_getElem? (i := n) (by simpa using hc))
  rw [hitem.isBlank_eq_false] at hb
  exact absurd hb (by decide)

/-- The first line that is not blank behind a module's documentation is the border, if an item's
documentation starts there. -/
lemma isFound_some_of_follows {c : Line} {more : List Line} (hl : Line.isModuleDoc m l = true)
    (hdrop : rest.dropWhile Text.isBlank = c :: more) (hc : StartsItem m c) :
    IsFound m (l :: rest) (some ((rest.takeWhile Text.isBlank).length + 1)) := by
  refine ⟨opensItem_cons_iff.mpr ⟨_, rfl, Or.inl ⟨hl, c, more, hdrop, hc, rfl⟩⟩, ?_⟩
  intro k hk
  obtain ⟨n, rfl, ⟨-, d, tail, -, -, rfl⟩ | ⟨⟨d, hd, hitem⟩, -⟩⟩ := opensItem_cons_iff.mp hk
  · exact Nat.le_refl _
  · apply Nat.succ_le_succ
    apply Nat.le_of_not_lt
    intro hlt
    obtain ⟨b, hb, hblank⟩ := (exists_dropWhile_isBlank_iff.mp ⟨c, more, hdrop, hc, rfl⟩).2 n hlt
    obtain rfl : b = d := Option.mem_unique hb hd
    rw [hitem.isBlank_eq_false] at hblank
    exact absurd hblank (by decide)

lemma isFound_border? (m : Markers) (ls : List Line) : IsFound m ls (border? m ls) := by
  induction ls with
  | nil =>
    rintro i ⟨⟨c, hc, -⟩, -⟩
    simp at hc
  | cons l rest ih =>
    rw [border?]
    by_cases hl : Line.isModuleDoc m l = true
    · rw [if_pos hl]
      cases hdrop : rest.dropWhile Text.isBlank with
      | nil => exact isFound_none_of_blank (List.dropWhile_eq_nil_iff.mp hdrop)
      | cons c more =>
        by_cases hc : StartsItem m c
        · have hcond : (!Line.isModuleDoc m c && Line.isItemDoc c) = true := by
            rw [hc.1, hc.2]
            rfl
          simp only [hcond, if_true]
          exact isFound_some_of_follows hl hdrop hc
        · have hcond : (!Line.isModuleDoc m c && Line.isItemDoc c) ≠ true := by
            intro h
            simp only [Bool.and_eq_true, Bool.not_eq_true'] at h
            exact hc ⟨h.2, h.1⟩
          simp only [if_neg hcond]
          apply ih.succ
          rintro ⟨-, d, tail, hcons, hd⟩
          rw [hdrop] at hcons
          obtain ⟨rfl, -⟩ := List.cons.inj hcons
          exact hc hd
    · rw [if_neg hl]
      exact ih.succ fun hhead => hl hhead.1

lemma border?_eq_some_iff : border? m ls = some n ↔ IsLeast {i | OpensItem m ls 0 i} n := by
  have hfound := isFound_border? m ls
  constructor
  · intro h
    rwa [h] at hfound
  · intro hn
    cases hborder : border? m ls with
    | none =>
      rw [hborder] at hfound
      exact absurd hn.1 (hfound n)
    | some i =>
      rw [hborder] at hfound
      rw [hfound.unique hn]

/-! ### Where a hunk is cut -/

/-- The position lies in the range that the hunk adds, and there an item's documentation starts
right behind a module's that is in this range too. -/
def IsBorder (m : Markers) (after : List Line) (h : Hunk) (k : Nat) : Prop :=
  k < h.afterEnd ∧ OpensItem m after h.afterStart k

lemma mem_getElem?_added_iff : l ∈ (h.added after)[i]? ↔
    i < h.afterCount ∧ l ∈ after[h.afterStart + i]? := by
  rw [added, window, List.getElem?_take]
  split
  · next hi => simp [hi]
  · next hi => simp [hi]

lemma IsBorder.afterStart_lt (hk : h.IsBorder m after k) : h.afterStart < k := by
  obtain ⟨-, -, j, hj, hjk, -⟩ := hk
  omega

lemma opensItem_added_iff :
    OpensItem m (h.added after) 0 n ↔ h.IsBorder m after (h.afterStart + n) := by
  constructor
  · rintro ⟨⟨c, hc, hitem⟩, j, -, hj, ⟨l, hl, hmodule⟩, hblank⟩
    obtain ⟨hn, hc⟩ := mem_getElem?_added_iff.mp hc
    obtain ⟨-, hl⟩ := mem_getElem?_added_iff.mp hl
    refine ⟨Nat.add_lt_add_left hn _, ⟨c, hc, hitem⟩, h.afterStart + j, Nat.le_add_right ..,
      Nat.add_lt_add_left hj _, ⟨l, hl, hmodule⟩, ?_⟩
    intro i hji hin
    obtain ⟨i, rfl⟩ := Nat.exists_eq_add_of_le (show h.afterStart ≤ i by omega)
    obtain ⟨b, hb, hbb⟩ := hblank i (by omega) (by omega)
    exact ⟨b, (mem_getElem?_added_iff.mp hb).2, hbb⟩
  · rintro ⟨hn, ⟨c, hc, hitem⟩, j, hsj, hj, ⟨l, hl, hmodule⟩, hblank⟩
    have hcount : n < h.afterCount := Nat.lt_of_add_lt_add_left hn
    obtain ⟨j, rfl⟩ := Nat.exists_eq_add_of_le hsj
    refine ⟨⟨c, mem_getElem?_added_iff.mpr ⟨hcount, hc⟩, hitem⟩, j, Nat.zero_le j, by omega,
      ⟨l, mem_getElem?_added_iff.mpr ⟨by omega, hl⟩, hmodule⟩, ?_⟩
    intro i hji hin
    obtain ⟨b, hb, hbb⟩ := hblank (h.afterStart + i) (by omega) (by omega)
    exact ⟨b, mem_getElem?_added_iff.mpr ⟨by omega, hb⟩, hbb⟩

lemma splitPoint?_eq_some_iff :
    h.splitPoint? m after = some k ↔ IsLeast {i | h.IsBorder m after i} k := by
  rw [splitPoint?, Option.map_eq_some_iff]
  constructor
  · rintro ⟨n, hn, rfl⟩
    obtain ⟨hmem, hleast⟩ := border?_eq_some_iff.mp hn
    refine ⟨opensItem_added_iff.mp hmem, ?_⟩
    intro i hi
    obtain ⟨i, rfl⟩ := Nat.exists_eq_add_of_le (Nat.le_of_lt hi.afterStart_lt)
    exact Nat.add_le_add_left (hleast (opensItem_added_iff.mpr hi)) _
  · rintro ⟨hmem, hleast⟩
    obtain ⟨n, rfl⟩ := Nat.exists_eq_add_of_le (Nat.le_of_lt hmem.afterStart_lt)
    refine ⟨n, border?_eq_some_iff.mpr ⟨opensItem_added_iff.mpr hmem, ?_⟩, rfl⟩
    intro i hi
    exact Nat.le_of_add_le_add_left (hleast (opensItem_added_iff.mp hi))

lemma splitPoint?_eq_none_iff : h.splitPoint? m after = none ↔ ∀ k, ¬h.IsBorder m after k := by
  rw [splitPoint?, Option.map_eq_none_iff]
  have hfound := isFound_border? m (h.added after)
  constructor
  · intro hnone k hk
    rw [hnone] at hfound
    obtain ⟨n, rfl⟩ := Nat.exists_eq_add_of_le (Nat.le_of_lt hk.afterStart_lt)
    exact hfound n (opensItem_added_iff.mpr hk)
  · intro hnone
    cases hborder : border? m (h.added after) with
    | none => rfl
    | some n =>
      rw [hborder] at hfound
      exact absurd (opensItem_added_iff.mp hfound.1) (hnone _)

/-! ### The two parts -/

/-- The two hunks are the parts of a hunk: they meet where an item's documentation starts behind a
module's for the first time and cover on both sides what the hunk covers. -/
structure IsCutInto (m : Markers) (after : List Line) (h first second : Hunk) : Prop where
  /-- Both parts can be made from differences of positions: none of these is negative. -/
  made : ofInts h.beforeStart h.moduleShare h.afterStart (second.afterStart - h.afterStart : Int) =
      .ok first ∧
    ofInts (h.beforeStart + h.moduleShare) (h.beforeCount - h.moduleShare : Int) second.afterStart
      (h.afterCount - (second.afterStart - h.afterStart) : Int) = .ok second
  before_covered : first.beforeStart = h.beforeStart ∧ first.beforeEnd = second.beforeStart ∧
    second.beforeEnd = h.beforeEnd
  after_covered : first.afterStart = h.afterStart ∧ first.afterEnd = second.afterStart ∧
    second.afterEnd = h.afterEnd
  added_pos : 0 < first.afterCount ∧ 0 < second.afterCount
  border : IsLeast {i | h.IsBorder m after i} second.afterStart
  isModuleLevel_first : first.isModuleLevel m after = true
  splitPoint?_first : first.splitPoint? m after = none

lemma ofInts_eq_ok {beforeStart beforeCount afterStart afterCount : Int} {h : Hunk}
    (hbs : beforeStart = h.beforeStart) (hbc : beforeCount = h.beforeCount)
    (has : afterStart = h.afterStart) (hac : afterCount = h.afterCount) :
    ofInts beforeStart beforeCount afterStart afterCount = .ok h := by
  subst hbs hbc has hac
  simp [ofInts]

lemma ofInts_halves (hshare : h.moduleShare ≤ h.beforeCount) (hstart : h.afterStart ≤ k)
    (hend : k ≤ h.afterStart + h.afterCount) :
    ofInts h.beforeStart h.moduleShare h.afterStart (k - h.afterStart : Int) =
        .ok (h.halves k).1 ∧
      ofInts (h.beforeStart + h.moduleShare) (h.beforeCount - h.moduleShare : Int) k
        (h.afterCount - (k - h.afterStart) : Int) = .ok (h.halves k).2 := by
  constructor
  · refine ofInts_eq_ok rfl rfl rfl ?_
    exact (Int.ofNat_sub hstart).symm
  · refine ofInts_eq_ok (Int.natCast_add ..).symm (Int.ofNat_sub hshare).symm rfl ?_
    change _ = ((h.afterCount - (k - h.afterStart) : Nat) : Int)
    omega

lemma isCutInto_halves (hi : h.isInsertion = false) (hk : h.splitPoint? m after = some k) :
    h.IsCutInto m after (h.halves k).1 (h.halves k).2 := by
  have hborder := splitPoint?_eq_some_iff.mp hk
  have hshare := moduleShare_le hi
  have hstart := hborder.1.afterStart_lt
  have hend : k < h.afterStart + h.afterCount := hborder.1.1
  refine ⟨ofInts_halves hshare (Nat.le_of_lt hstart) (Nat.le_of_lt hend), ⟨rfl, rfl, ?_⟩,
    ⟨rfl, ?_, ?_⟩, ⟨?_, ?_⟩, hborder, ?_, ?_⟩
  · simp only [halves, beforeEnd]
    omega
  · simp only [halves, afterEnd]
    omega
  · simp only [halves, afterEnd]
    omega
  · simp only [halves]
    omega
  · simp only [halves]
    omega
  · obtain ⟨-, -, j, hsj, hjk, ⟨l, hl, hmodule⟩, -⟩ := hborder.1
    apply List.any_eq_true.mpr
    refine ⟨l, List.mem_of_getElem? (i := j - h.afterStart) (mem_getElem?_added_iff.mpr ⟨?_, ?_⟩),
      hmodule⟩
    · simp only [halves]
      omega
    · simpa only [halves, Nat.add_sub_cancel' hsj] using hl
  · apply splitPoint?_eq_none_iff.mpr
    rintro i ⟨hik, hopens⟩
    simp only [halves, afterEnd] at hik hopens
    have hle := hborder.2 ⟨by simp only [afterEnd]; omega, hopens⟩
    omega

namespace IsCutInto

variable {first second : Hunk}

lemma removed_eq (hcut : h.IsCutInto m after first second) (before : List Line) :
    h.removed before = first.removed before ++ second.removed before := by
  obtain ⟨hstart, hmeet, hend⟩ := hcut.before_covered
  have hfirst : first.beforeStart ≤ first.beforeEnd := Nat.le_add_right ..
  have hsecond : second.beforeStart ≤ second.beforeEnd := Nat.le_add_right ..
  simp only [removed_eq_window]
  rw [hmeet] at hfirst ⊢
  rw [window_append before hfirst hsecond, hstart, hend]

lemma added_eq (hcut : h.IsCutInto m after first second) :
    h.added after = first.added after ++ second.added after := by
  obtain ⟨hstart, hmeet, hend⟩ := hcut.after_covered
  have hfirst : first.afterStart ≤ first.afterEnd := Nat.le_add_right ..
  have hsecond : second.afterStart ≤ second.afterEnd := Nat.le_add_right ..
  simp only [added_eq_window]
  rw [hmeet] at hfirst ⊢
  rw [window_append after hfirst hsecond, hstart, hend]

/-- A hunk matters exactly if one of its parts does. -/
lemma isRelevant_iff (hcut : h.IsCutInto m after first second) (d : Direction)
    (before : List Line) : h.isRelevant d m before after = true ↔
      first.isRelevant d m before after = true ∨ second.isRelevant d m before after = true := by
  simp only [isRelevant_eq_applies, Direction.applies, hcut.removed_eq, hcut.added_eq,
    List.any_append, Bool.or_eq_true]
  tauto

lemma isModuleLevel_iff (hcut : h.IsCutInto m after first second) :
    h.isModuleLevel m after = true ↔
      first.isModuleLevel m after = true ∨ second.isModuleLevel m after = true := by
  simp only [isModuleLevel, hcut.added_eq, List.any_append, Bool.or_eq_true]

end IsCutInto

lemma split_eq_or_isCutInto (m : Markers) (after : List Line) (h : Hunk) :
    (h.split m after = [h] ∧
        (h.beforeCount = 0 ∨ h.afterCount = 0 ∨ ∀ k, ¬h.IsBorder m after k)) ∨
      ∃ first second, h.split m after = [first, second] ∧ h.IsCutInto m after first second := by
  by_cases hpure : (h.isInsertion || h.isDeletion) = true
  · left
    have hcut : h.cut? m after = none := by rw [cut?, if_pos hpure]
    refine ⟨by rw [split, hcut], ?_⟩
    rcases Bool.or_eq_true_iff.mp hpure with hi | hd
    · exact Or.inl (by simpa [isInsertion] using hi)
    · exact Or.inr (Or.inl (by simpa [isDeletion] using hd))
  · have hi : h.isInsertion = false := by
      simp only [Bool.or_eq_true, not_or, Bool.not_eq_true] at hpure
      exact hpure.1
    have hcut : h.cut? m after = (h.splitPoint? m after).map h.halves := by rw [cut?, if_neg hpure]
    cases hk : h.splitPoint? m after with
    | none =>
      left
      rw [hk] at hcut
      exact ⟨by rw [split, hcut]; rfl, Or.inr (Or.inr (splitPoint?_eq_none_iff.mp hk))⟩
    | some k =>
      right
      rw [hk] at hcut
      exact ⟨_, _, by rw [split, hcut]; rfl, isCutInto_halves hi hk⟩

lemma lieApart_of_isChain {hunks : List Hunk}
    (h : hunks.IsChain fun h k => h.beforeEnd < k.beforeStart) : LieApart hunks := by
  have htrans : IsTrans Hunk fun h k => h.beforeEnd < k.beforeStart := by
    refine ⟨fun h k l hk hl => ?_⟩
    have hle : k.beforeStart ≤ k.beforeEnd := Nat.le_add_right ..
    omega
  exact List.isChain_iff_pairwise.mp h

/-- A hunk is cut at the first border in it, or stays as it is if it has none or only adds or only
removes lines. Its parts can always be made, cover what it covers, and matter where it matters, and
the parts of hunks that lie apart follow each other in the text. -/
theorem split_parts_mixed_hunk (m : Markers) (before after : List Line) (h : Hunk) :
    (∀ k, h.splitPoint? m after = some k ↔ IsLeast {i | h.IsBorder m after i} k) ∧
      ((h.split m after = [h] ∧
          (h.beforeCount = 0 ∨ h.afterCount = 0 ∨ ∀ k, ¬h.IsBorder m after k)) ∨
        ∃ first second, h.split m after = [first, second] ∧
          h.IsCutInto m after first second) ∧
      (∀ d, h.isRelevant d m before after = true ↔
        ∃ k ∈ h.split m after, k.isRelevant d m before after = true) ∧
      (h.isModuleLevel m after = true ↔
        ∃ k ∈ h.split m after, k.isModuleLevel m after = true) ∧
      ∀ hunks : List Hunk, hunks.IsChain (fun h k => h.beforeEnd < k.beforeStart) →
        (splitAll m after hunks).Pairwise fun h k =>
          h.beforeStart < k.beforeStart ∧ h.beforeEnd ≤ k.beforeStart := by
  have hcases := split_eq_or_isCutInto m after h
  refine ⟨fun k => splitPoint?_eq_some_iff, hcases, ?_, ?_, ?_⟩
  · intro d
    rcases hcases with ⟨hs, -⟩ | ⟨first, second, hs, hcut⟩
    · simp [hs]
    · simp [hs, hcut.isRelevant_iff]
  · rcases hcases with ⟨hs, -⟩ | ⟨first, second, hs, hcut⟩
    · simp [hs]
    · simp [hs, hcut.isModuleLevel_iff]
  · intro hunks hchain
    exact (lieApart_of_isChain hchain).pairwise_splitAll m after

/-- Two hunks with a line between them, the first of which is cut and leaves its second part without
a line to remove. -/
theorem split_parts_mixed_hunk_of_two :
    let hunks : List Hunk := [⟨0, 1, 0, 3⟩, ⟨2, 1, 4, 1⟩]
    let after := ["//! Tools.".toList, [], "/// A.".toList, "struct A;".toList, "/// B.".toList]
    (hunks.IsChain fun h k => h.beforeEnd < k.beforeStart) ∧
      splitAll {} after hunks = [⟨0, 1, 0, 2⟩, ⟨1, 0, 2, 1⟩, ⟨2, 1, 4, 1⟩] ∧
      (splitAll {} after hunks).Pairwise fun h k =>
        h.beforeStart < k.beforeStart ∧ h.beforeEnd ≤ k.beforeStart := by
  intro hunks after
  have hchain : hunks.IsChain fun h k => h.beforeEnd < k.beforeStart := by decide
  obtain ⟨-, -, -, -, hfollow⟩ := split_parts_mixed_hunk {} [] after ⟨0, 1, 0, 3⟩
  exact ⟨hchain, by decide +kernel +zetaReduce, hfollow hunks hchain⟩

end DocGraft.Hunk
