import DocGraft.Proofs.Alignment

/-!
# Lists that differ by exchanged runs

One list comes from another when runs of one class of elements are exchanged for runs of a second
class, and everything else is kept. The alignment of two such lists finds these runs: no change in it
covers a kept element, however often the kept elements repeat. The argument follows the longest
block. It is the first of its kind in both lists, and the number of kept elements before it makes
these two first places correspond.
-/

namespace DocGraft.Diff

/-- Runs of the class `p` in the first list are exchanged for runs of the class `q`, and the elements
of neither class are kept. -/
inductive Exchanged {α : Type} (p q : α → Bool) : List α → List α → Prop
  | nil : Exchanged p q [] []
  | keep {x : α} {a b : List α} (hp : p x = false) (hq : q x = false) (h : Exchanged p q a b) :
    Exchanged p q (x :: a) (x :: b)
  | swap {r s a b : List α} (hr : r ≠ []) (hs : s ≠ []) (hp : ∀ x ∈ r, p x = true)
    (hq : ∀ x ∈ s, q x = true) (h : Exchanged p q a b) : Exchanged p q (r ++ a) (s ++ b)

namespace Exchanged

variable {α : Type} {p q : α → Bool} {a b : List α}

lemma symm (h : Exchanged p q a b) : Exchanged q p b a := by
  induction h with
  | nil => exact nil
  | keep hp hq _ ih => exact keep hq hp ih
  | swap hr hs hp hq _ ih => exact swap hs hr hq hp ih

lemma mem_of_mem {x : α} (h : Exchanged p q a b) (hx : x ∈ a) (hp : p x = false) :
    q x = false ∧ x ∈ b := by
  induction h with
  | nil => simp at hx
  | keep _ hq _ ih =>
    rcases List.mem_cons.mp hx with rfl | hx
    · exact ⟨hq, List.mem_cons_self⟩
    · exact ⟨(ih hx).1, List.mem_cons_of_mem _ (ih hx).2⟩
  | swap _ _ hr _ _ ih =>
    rcases List.mem_append.mp hx with hx | hx
    · rw [hr x hx] at hp
      exact absurd hp (by decide)
    · exact ⟨(ih hx).1, List.mem_append_right _ (ih hx).2⟩

lemma countP_eq (h : Exchanged p q a b) :
    a.countP (fun x => !p x && !q x) = b.countP (fun x => !p x && !q x) := by
  induction h with
  | nil => rfl
  | keep _ _ _ ih => rw [List.countP_cons, List.countP_cons, ih]
  | swap _ _ hr hs _ ih =>
    rw [List.countP_append, List.countP_append, ih]
    congr 1
    rw [List.countP_eq_zero.mpr fun x hx => by simp [hr x hx],
      List.countP_eq_zero.mpr fun x hx => by simp [hs x hx]]

lemma exists_of_cons {x : α} (h : Exchanged p q (x :: a) b) (hp : p x = false) :
    ∃ b', b = x :: b' ∧ Exchanged p q a b' := by
  generalize hxa : x :: a = xa at h
  cases h with
  | nil => simp at hxa
  | keep _ _ h =>
    obtain ⟨rfl, rfl⟩ := List.cons.inj hxa
    exact ⟨_, rfl, h⟩
  | @swap r s _ _ hr _ hrp _ _ =>
    obtain ⟨y, r, rfl⟩ := List.exists_cons_of_ne_nil hr
    obtain ⟨rfl, -⟩ := List.cons.inj hxa
    rw [hrp x List.mem_cons_self] at hp
    exact absurd hp (by decide)

lemma eq_nil_of_nil (h : Exchanged p q [] b) : b = [] := by
  generalize ha : [] = a at h
  cases h with
  | nil => rfl
  | keep => simp at ha
  | swap hr => exact absurd (List.append_eq_nil_iff.mp ha.symm).1 hr

lemma exists_of_append {w v : List α} (h : Exchanged p q (w ++ v) b)
    (hw : ∀ x ∈ w, p x = false) : ∃ y, b = w ++ y ∧ Exchanged p q v y := by
  induction w generalizing b with
  | nil => exact ⟨b, rfl, h⟩
  | cons x w ih =>
    obtain ⟨b, rfl, hrest⟩ := exists_of_cons h (hw x List.mem_cons_self)
    obtain ⟨y, rfl, hy⟩ := ih hrest fun z hz => hw z (List.mem_cons_of_mem x hz)
    exact ⟨y, rfl, hy⟩

/-- A run of the first list that cannot be exchanged stands in the second list too, and what is before
it and behind it in one list is exchanged for what is there in the other. -/
lemma exists_of_append_append {u w v : List α} (h : Exchanged p q a b) (ha : a = u ++ (w ++ v))
    (hne : w ≠ []) (hw : ∀ x ∈ w, p x = false) :
    ∃ x y, b = x ++ (w ++ y) ∧ Exchanged p q u x ∧ Exchanged p q v y := by
  induction h generalizing u with
  | nil => simp_all
  | @keep z a b hp hq h ih =>
    cases u with
    | nil =>
      have hz := keep hp hq h
      rw [ha, List.nil_append] at hz
      obtain ⟨y, hy, hvy⟩ := hz.exists_of_append hw
      exact ⟨[], y, hy, nil, hvy⟩
    | cons k u =>
      obtain ⟨rfl, hrest⟩ := List.cons.inj ha
      obtain ⟨x, y, rfl, hux, hvy⟩ := ih hrest
      exact ⟨z :: x, y, rfl, keep hp hq hux, hvy⟩
  | @swap r s a b hr hs hp hq h ih =>
    rcases List.append_eq_append_iff.mp ha with ⟨more, rfl, hrest⟩ | ⟨more, rfl, hmore⟩
    · obtain ⟨x, y, rfl, hux, hvy⟩ := ih hrest
      exact ⟨s ++ x, y, (List.append_assoc ..).symm, swap hr hs hp hq hux, hvy⟩
    · cases more with
      | nil =>
        rw [List.nil_append] at hmore
        rw [List.append_nil] at hr hp
        rw [← hmore] at h
        obtain ⟨y, rfl, hvy⟩ := h.exists_of_append hw
        have hus := swap hr hs hp hq nil
        rw [List.append_nil, List.append_nil] at hus
        exact ⟨s, y, rfl, hus, hvy⟩
      | cons z more =>
        -- The run would start inside the exchanged one.
        obtain ⟨k, w, rfl⟩ := List.exists_cons_of_ne_nil hne
        obtain ⟨rfl, -⟩ := List.cons.inj hmore
        have hk := hw k List.mem_cons_self
        rw [hp k (by simp)] at hk
        exact absurd hk (by decide)

lemma getLast?_ne {x : α} (h : Exchanged p q a b) (hq : q x = false)
    (ha : a.getLast? ≠ some x) : b.getLast? ≠ some x := by
  intro hb
  obtain ⟨init, rfl⟩ := List.getLast?_eq_some_iff.mp hb
  obtain ⟨u, v, rfl, -, hv⟩ := h.symm.exists_of_append_append (u := init)
    (w := [x]) (v := []) rfl (List.cons_ne_nil x []) (by simp [hq])
  rw [hv.eq_nil_of_nil] at ha
  exact ha (by simp)

/-- The first places of a common run in the two lists correspond. -/
lemma of_first {u w v x y : List α} (hpq : ∀ z, p z = true → q z = false)
    (h : Exchanged p q (u ++ (w ++ v)) (x ++ (w ++ y))) (hne : w ≠ [])
    (hu : ∀ u' v', u ++ (w ++ v) = u' ++ (w ++ v') → u.length ≤ u'.length)
    (hx : ∀ x' y', x ++ (w ++ y) = x' ++ (w ++ y') → x.length ≤ x'.length) :
    Exchanged p q u x ∧ Exchanged p q v y := by
  have hkept : ∀ z ∈ w, p z = false ∧ q z = false := by
    intro z hz
    cases hpz : p z with
    | false => exact ⟨rfl, (h.mem_of_mem (by simp [hz]) hpz).1⟩
    | true =>
      have hpz' := (h.symm.mem_of_mem (x := z) (by simp [hz]) (hpq z hpz)).1
      rw [hpz'] at hpz
      exact absurd hpz (by decide)
  obtain ⟨x', y', hxy, hux, hvy⟩ :=
    h.exists_of_append_append rfl hne fun z hz => (hkept z hz).1
  obtain ⟨u', v', huv, hxu, -⟩ :=
    h.symm.exists_of_append_append rfl hne fun z hz => (hkept z hz).2
  obtain ⟨between, rfl⟩ : x <+: x' := List.prefix_of_prefix_length_le
    ⟨w ++ y, rfl⟩ ⟨w ++ y', hxy.symm⟩ (hx x' y' hxy)
  have huu : u <+: u' := List.prefix_of_prefix_length_le
    ⟨w ++ v, rfl⟩ ⟨w ++ v', huv.symm⟩ (hu u' v' huv)
  -- No kept element fits between the first place of the run and the one that corresponds.
  have hcount : between.countP (fun z => !p z && !q z) = 0 := by
    have h1 := hux.countP_eq
    have h2 := hxu.symm.countP_eq
    have h3 := huu.sublist.countP_le (p := fun z => !p z && !q z)
    rw [List.countP_append] at h1
    omega
  rw [List.append_assoc, List.append_cancel_left_eq] at hxy
  cases between with
  | nil =>
    rw [List.nil_append, List.append_cancel_left_eq] at hxy
    rw [List.append_nil] at hux
    rw [hxy]
    exact ⟨hux, hvy⟩
  | cons z between =>
    obtain ⟨k, w, rfl⟩ := List.exists_cons_of_ne_nil hne
    obtain ⟨rfl, -⟩ := List.cons.inj hxy
    have hk := List.countP_eq_zero.mp hcount k List.mem_cons_self
    simp [hkept k List.mem_cons_self] at hk

end Exchanged

variable {α : Type} {p q : α → Bool} {a b : List α}

/-- A change covers elements of two classes only, one on each side. -/
def Segment.Exchanges (p q : α → Bool) : Segment α → Prop
  | .same _ => True
  | .change removed added => (∀ x ∈ removed, p x = true) ∧ ∀ x ∈ added, q x = true

lemma isCommon_append (u v x y w : List α) :
    IsCommon (u ++ (w ++ v)) (x ++ (w ++ y)) u.length x.length w.length := by
  refine ⟨by simp, by simp, ?_⟩
  rw [List.drop_left, List.drop_left, List.take_left, List.take_left]

lemma IsCommon.exists_append {i j n : Nat} (h : IsCommon a b i j n) :
    ∃ w, w.length = n ∧ a = a.take i ++ (w ++ a.drop (i + n)) ∧
      b = b.take j ++ (w ++ b.drop (j + n)) := by
  obtain ⟨hi, hj, he⟩ := h
  refine ⟨(a.drop i).take n, ?_, ?_, ?_⟩
  · rw [List.length_take, List.length_drop]
    omega
  · rw [← List.drop_drop, List.take_append_drop, List.take_append_drop]
  · rw [he, ← List.drop_drop, List.take_append_drop, List.take_append_drop]

variable [DecidableEq α]

/-- Around their longest block two lists are exchanged part by part. -/
lemma Exchanged.around_longestBlock {common : α → Bool} (hfree : ∀ y, common y = false)
    (hpq : ∀ z, p z = true → q z = false) (h : Exchanged p q a b)
    (hn : (longestBlock common a b).size ≠ 0) :
    let m := longestBlock common a b
    Exchanged p q (a.take m.before) (b.take m.after) ∧
      Exchanged p q (a.drop (m.before + m.size)) (b.drop (m.after + m.size)) := by
  intro m
  have hblock : IsCommon a b m.before m.after m.size := isCommon_longestBlock common a b
  have hfirst : ∀ {i j}, IsCommon a b i j m.size →
      m.before < i ∨ m.before = i ∧ m.after ≤ j := by
    intro i j hij
    rcases longestBlock_first hfree hij (Nat.pos_of_ne_zero hn) with hlt | ⟨-, hle⟩
    · exact absurd hlt (Nat.lt_irrefl _)
    · exact hle
  have hi : (a.take m.before).length = m.before := by
    rw [List.length_take]
    exact Nat.min_eq_left (Nat.le_of_add_right_le hblock.1)
  have hj : (b.take m.after).length = m.after := by
    rw [List.length_take]
    exact Nat.min_eq_left (Nat.le_of_add_right_le hblock.2.1)
  obtain ⟨w, hw, ha, hb⟩ := hblock.exists_append
  rw [ha, hb] at h
  have hpos : 0 < w.length := hw ▸ Nat.pos_of_ne_zero hn
  refine h.of_first hpq (List.ne_nil_of_length_pos hpos) ?_ ?_
  · intro u v hu
    have hc := isCommon_append u v (b.take m.after) (b.drop (m.after + m.size)) w
    rw [← hu, ← ha, ← hb, hw] at hc
    have := hfirst hc
    omega
  · intro x y hx
    have hc := isCommon_append (a.take m.before) (a.drop (m.before + m.size)) x y w
    rw [← hx, ← ha, ← hb, hw, hi] at hc
    have := hfirst hc
    omega

lemma not_mem_of_size_eq_zero {common : α → Bool} (hfree : ∀ y, common y = false)
    (hn : (longestBlock common a b).size = 0) {x : α} (hx : x ∈ a) : x ∉ b := by
  intro hxb
  obtain ⟨u, v, rfl⟩ := List.append_of_mem hx
  obtain ⟨u', v', rfl⟩ := List.append_of_mem hxb
  have hfirst := longestBlock_first hfree (isCommon_append u v u' v' [x]) Nat.one_pos
  simp only [List.singleton_append, List.length_singleton] at hfirst
  omega

/-- The alignment of two lists that differ by exchanged runs changes no kept element. -/
lemma Exchanged.exchanges_of_mem_align {common : α → Bool} (hfree : ∀ y, common y = false)
    (hpq : ∀ z, p z = true → q z = false) (h : Exchanged p q a b) :
    ∀ s ∈ align common a b, s.Exchanges p q := by
  fun_induction align common a b with
  | case1 => simp
  | case2 a b m hm _ =>
    intro s hs
    obtain rfl := List.mem_singleton.mp hs
    refine ⟨fun x hx => ?_, fun x hx => ?_⟩
    · by_contra hp
      exact not_mem_of_size_eq_zero hfree hm hx (h.mem_of_mem hx (Bool.eq_false_iff.mpr hp)).2
    · by_contra hq
      exact not_mem_of_size_eq_zero hfree hm
        (h.symm.mem_of_mem hx (Bool.eq_false_iff.mpr hq)).2 hx
  | case3 a b m hm ihl ihr =>
    obtain ⟨hl, hr⟩ := h.around_longestBlock hfree hpq hm
    intro s hs
    rcases List.mem_append.mp hs with hs | hs
    · exact ihl hl s hs
    · rcases List.mem_cons.mp hs with rfl | hs
      · trivial
      · exact ihr hr s hs

end DocGraft.Diff
