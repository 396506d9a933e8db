import DocGraft.Proofs.HunkOrder
import DocGraft.Proofs.Splicing

/-!
# The plain splice

The plain splice goes through patches in the order of the list and puts each in the place of the
lines that it replaces. It has no guard, so it says what it should only of patches that follow each
other. Hunks that follow each other are spliced like this, whatever choice is made among them: what
is left out is put back as it was, and nothing is refused.
-/

namespace DocGraft

namespace Hunk

def beforeRange (h : Hunk) : Nat × Nat := (h.beforeStart, h.beforeEnd)

def afterRange (h : Hunk) : Nat × Nat := (h.afterStart, h.afterEnd)

/-- The ranges follow each other inside a text of `size` lines, and the first one does not start
before `cursor`. -/
def Laid (size : Nat) : (cursor : Nat) → List (Nat × Nat) → Prop
  | cursor, [] => cursor ≤ size
  | cursor, r :: rest => cursor ≤ r.1 ∧ r.1 ≤ r.2 ∧ Laid size r.2 rest

variable {size cursor : Nat} {ranges : List (Nat × Nat)} {r : Nat × Nat}

lemma Laid.le_size (h : Laid size cursor ranges) : cursor ≤ size := by
  induction ranges generalizing cursor with
  | nil => exact h
  | cons r rest ih =>
    obtain ⟨hstart, hstop, hrest⟩ := h
    exact Nat.le_trans hstart (Nat.le_trans hstop (ih hrest))

lemma Laid.bounds_of_mem (h : Laid size cursor ranges) (hr : r ∈ ranges) :
    cursor ≤ r.1 ∧ r.1 ≤ r.2 ∧ r.2 ≤ size := by
  induction ranges generalizing cursor with
  | nil => simp at hr
  | cons s rest ih =>
    obtain ⟨hstart, hstop, hrest⟩ := h
    rcases List.mem_cons.mp hr with rfl | hr
    · exact ⟨hstart, hstop, hrest.le_size⟩
    · obtain ⟨h1, h2, h3⟩ := ih hrest hr
      exact ⟨by omega, h2, h3⟩

lemma Laid.mono {earlier : Nat} (h : Laid size cursor ranges) (he : earlier ≤ cursor) :
    Laid size earlier ranges := by
  cases ranges with
  | nil => exact Nat.le_trans he h
  | cons r rest => exact ⟨Nat.le_trans he h.1, h.2⟩

lemma Laid.filter {hunks : List Hunk} (chosen : Hunk → Bool)
    (h : Laid size cursor (hunks.map beforeRange)) :
    Laid size cursor ((hunks.filter chosen).map beforeRange) := by
  induction hunks generalizing cursor with
  | nil => exact h
  | cons k rest ih =>
    obtain ⟨hstart, hstop, hrest⟩ := h
    rw [List.filter_cons]
    split
    · exact ⟨hstart, hstop, ih hrest⟩
    · exact ih (hrest.mono (Nat.le_trans hstart hstop))

lemma window_sub_self (ls : List Line) (i : Nat) : window ls i (i - i) = [] := by
  rw [window, Nat.sub_self, List.take_zero]

lemma window_append (ls : List Line) {i j k : Nat} (hij : i ≤ j) (hjk : j ≤ k) :
    window ls i (j - i) ++ window ls j (k - j) = window ls i (k - i) := by
  have hsum : k - i = (j - i) + (k - j) := by omega
  rw [window, window, window, hsum, List.take_add, List.drop_drop, Nat.add_sub_cancel' hij]

lemma window_append_drop (ls : List Line) {i j : Nat} (hij : i ≤ j) :
    window ls i (j - i) ++ ls.drop j = ls.drop i := by
  have hdrop : ls.drop j = (ls.drop i).drop (j - i) := by
    rw [List.drop_drop, Nat.add_sub_cancel' hij]
  rw [window, hdrop, List.take_append_drop]

lemma removed_eq_window (h : Hunk) (ls : List Line) :
    h.removed ls = window ls h.beforeStart (h.beforeEnd - h.beforeStart) := by
  rw [removed, beforeEnd, Nat.add_sub_cancel_left]

lemma added_eq_window (h : Hunk) (ls : List Line) :
    h.added ls = window ls h.afterStart (h.afterEnd - h.afterStart) := by
  rw [added, afterEnd, Nat.add_sub_cancel_left]

end Hunk

/-! ### Splicing without a guard -/

namespace Patch

/-- The lines from `cursor` on, with each patch in the place of the lines that it replaces. -/
def plainSplice (base : List Line) : (cursor : Nat) → List Patch → List Line
  | cursor, [] => base.drop cursor
  | cursor, p :: rest =>
    Hunk.window base cursor (p.start - cursor) ++ p.lines ++
      plainSplice base (p.start + p.count) rest

/-- The patch that puts these lines in the place of what the hunk removes. -/
def inPlaceOf (h : Hunk) (lines : List Line) : Patch := ⟨h.beforeStart, h.beforeCount, lines⟩

lemma plainSplice_cons (base : List Line) (cursor : Nat) (h : Hunk) (lines : List Line)
    (rest : List Patch) :
    plainSplice base cursor (inPlaceOf h lines :: rest) =
      Hunk.window base cursor (h.beforeStart - cursor) ++ lines ++
        plainSplice base h.beforeEnd rest := rfl

variable {base : List Line} {hunks : List Hunk}

/-- The chosen ones of hunks that follow each other, spliced in from a cursor on that has not passed
them, give the plain splice of all hunks in which the others keep their lines. -/
lemma splice_filter_eq_plainSplice (chosen : Hunk → Bool) (lines : Hunk → List Line)
    {cursor position : Nat} (hc : cursor ≤ position)
    (hlaid : Hunk.Laid base.length position (hunks.map Hunk.beforeRange)) :
    splice base cursor ((hunks.filter chosen).map fun h => inPlaceOf h (lines h)) =
      Hunk.window base cursor (position - cursor) ++ plainSplice base position
        (hunks.map fun h => inPlaceOf h (if chosen h then lines h else h.removed base)) := by
  induction hunks generalizing cursor position with
  | nil => exact (Hunk.window_append_drop base hc).symm
  | cons h rest ih =>
    obtain ⟨hstart, hstop, hrest⟩ := hlaid
    simp only [Hunk.beforeRange] at hstart hstop hrest
    have hend : h.beforeEnd ≤ base.length := hrest.le_size
    rw [List.map_cons, plainSplice_cons, List.filter_cons]
    by_cases hchosen : chosen h = true
    · have hclip : (inPlaceOf h (lines h)).clip base.length = h.beforeStart :=
        Nat.min_eq_left (Nat.le_trans hstop hend)
      have hnext : min (h.beforeStart + (inPlaceOf h (lines h)).count) base.length = h.beforeEnd :=
        Nat.min_eq_left hend
      rw [if_pos hchosen, if_pos hchosen, List.map_cons, splice, hclip, hnext,
        if_neg (Nat.not_lt.mpr (Nat.le_trans hc hstart)), ih (Nat.le_refl _) hrest,
        Hunk.window_sub_self]
      change Hunk.window base cursor (h.beforeStart - cursor) ++ lines h ++ _ = _
      rw [← Hunk.window_append base hc hstart]
      simp only [List.append_assoc, List.nil_append]
    · have hkept := ih (Nat.le_trans hc (Nat.le_trans hstart hstop)) hrest
      rw [if_neg hchosen, if_neg hchosen, hkept, Hunk.removed_eq_window]
      rw [← Hunk.window_append base (Nat.le_trans hc hstart) hstop,
        ← Hunk.window_append base hc hstart]
      simp only [List.append_assoc]

lemma infix_plainSplice (lines : Hunk → List Line) {cursor : Nat} {h : Hunk} (hh : h ∈ hunks) :
    lines h <:+: plainSplice base cursor (hunks.map fun h => inPlaceOf h (lines h)) := by
  induction hunks generalizing cursor with
  | nil => simp at hh
  | cons k rest ih =>
    rw [List.map_cons, plainSplice_cons]
    rcases List.mem_cons.mp hh with rfl | hh
    · exact List.infix_append ..
    · exact List.infix_append_of_infix_right (ih hh)

/-- The lines from `i` to `j` stay together if each hunk ends before them or starts behind them. -/
lemma window_infix_plainSplice (lines : Hunk → List Line) {cursor i j : Nat} (hi : cursor ≤ i)
    (hij : i ≤ j) (hclear : ∀ h ∈ hunks, h.beforeEnd ≤ i ∨ j ≤ h.beforeStart) :
    Hunk.window base i (j - i) <:+:
      plainSplice base cursor (hunks.map fun h => inPlaceOf h (lines h)) := by
  induction hunks generalizing cursor with
  | nil =>
    have hdrop : base.drop cursor =
        Hunk.window base cursor (i - cursor) ++ (Hunk.window base i (j - i) ++ base.drop j) := by
      rw [Hunk.window_append_drop base hij, Hunk.window_append_drop base hi]
    rw [List.map_nil, plainSplice, hdrop]
    exact List.infix_append_of_infix_right (List.prefix_append ..).isInfix
  | cons h rest ih =>
    rw [List.map_cons, plainSplice_cons]
    rcases hclear h List.mem_cons_self with hend | hstart
    · exact List.infix_append_of_infix_right
        (ih hend fun k hk => hclear k (List.mem_cons_of_mem h hk))
    · rw [← Hunk.window_append base hi (Nat.le_trans hij hstart),
        ← Hunk.window_append base hij hstart]
      simp only [List.append_assoc]
      exact List.infix_append_of_infix_right (List.prefix_append ..).isInfix

/-- Hunks that keep their lines change nothing. -/
lemma plainSplice_removed {cursor : Nat}
    (hlaid : Hunk.Laid base.length cursor (hunks.map Hunk.beforeRange)) :
    plainSplice base cursor (hunks.map fun h => inPlaceOf h (h.removed base)) =
      base.drop cursor := by
  have h := splice_filter_eq_plainSplice (fun _ => false) (fun _ => []) (Nat.le_refl cursor) hlaid
  rw [Hunk.window_sub_self, List.nil_append, List.filter_false] at h
  exact h.symm

/-- No patch of hunks that follow each other is refused. -/
lemma refused_filter_eq_nil (chosen : Hunk → Bool) (lines : Hunk → List Line)
    {size cursor position : Nat} (hc : cursor ≤ position)
    (hlaid : Hunk.Laid size position (hunks.map Hunk.beforeRange)) :
    refused size cursor ((hunks.filter chosen).map fun h => inPlaceOf h (lines h)) = [] := by
  induction hunks generalizing cursor position with
  | nil => rfl
  | cons h rest ih =>
    obtain ⟨hstart, hstop, hrest⟩ := hlaid
    simp only [Hunk.beforeRange] at hstart hstop hrest
    have hend : h.beforeEnd ≤ size := hrest.le_size
    rw [List.filter_cons]
    by_cases hchosen : chosen h = true
    · have hclip : (inPlaceOf h (lines h)).clip size = h.beforeStart :=
        Nat.min_eq_left (Nat.le_trans hstop hend)
      rw [if_pos hchosen, List.map_cons, refused, hclip,
        if_neg (Nat.not_lt.mpr (Nat.le_trans hc hstart))]
      exact ih (Nat.min_le_left h.beforeEnd size) hrest
    · rw [if_neg hchosen]
      exact ih (Nat.le_trans hc (Nat.le_trans hstart hstop)) hrest

end Patch

/-! ### Classes of lines in a plain splice -/

namespace Patch

variable {p : Line → Bool} {base : List Line} {hunks : List Hunk} {f g : Hunk → List Line}
  {cursor : Nat}

lemma filter_plainSplice_congr (h : ∀ k ∈ hunks, (f k).filter p = (g k).filter p) :
    (plainSplice base cursor (hunks.map fun k => inPlaceOf k (f k))).filter p =
      (plainSplice base cursor (hunks.map fun k => inPlaceOf k (g k))).filter p := by
  induction hunks generalizing cursor with
  | nil => rfl
  | cons k rest ih =>
    rw [List.map_cons, List.map_cons, plainSplice_cons, plainSplice_cons]
    simp only [List.filter_append]
    rw [h k List.mem_cons_self, ih fun j hj => h j (List.mem_cons_of_mem k hj)]

/-- Two plain splices with the same lines of a class, and equally many in the place of each hunk,
have the same ones in the place of each hunk. -/
lemma filter_eq_of_countP_eq (hcount : ∀ k ∈ hunks, (f k).countP p = (g k).countP p)
    (heq : (plainSplice base cursor (hunks.map fun k => inPlaceOf k (f k))).filter p =
      (plainSplice base cursor (hunks.map fun k => inPlaceOf k (g k))).filter p) :
    ∀ k ∈ hunks, (f k).filter p = (g k).filter p := by
  induction hunks generalizing cursor with
  | nil => simp
  | cons k rest ih =>
    have hlength : ((f k).filter p).length = ((g k).filter p).length := by
      rw [← List.countP_eq_length_filter, ← List.countP_eq_length_filter]
      exact hcount k List.mem_cons_self
    rw [List.map_cons, List.map_cons, plainSplice_cons, plainSplice_cons] at heq
    simp only [List.filter_append, List.append_assoc, List.append_cancel_left_eq] at heq
    obtain ⟨hk, hrest⟩ := List.append_inj heq hlength
    intro j hj
    rcases List.mem_cons.mp hj with rfl | hj
    · exact hk
    · exact ih (fun i hi => hcount i (List.mem_cons_of_mem k hi)) hrest j hj

/-- Two plain splices with the same lines of a class that agree in the place of all hunks but one
agree there too. -/
lemma filter_eq_of_forall_ne {h : Hunk} (hnodup : hunks.Nodup) (hmem : h ∈ hunks)
    (hne : ∀ k ∈ hunks, k ≠ h → (f k).filter p = (g k).filter p)
    (heq : (plainSplice base cursor (hunks.map fun k => inPlaceOf k (f k))).filter p =
      (plainSplice base cursor (hunks.map fun k => inPlaceOf k (g k))).filter p) :
    (f h).filter p = (g h).filter p := by
  induction hunks generalizing cursor with
  | nil => simp at hmem
  | cons k rest ih =>
    obtain ⟨hk, hrest⟩ := List.nodup_cons.mp hnodup
    rw [List.map_cons, List.map_cons, plainSplice_cons, plainSplice_cons] at heq
    simp only [List.filter_append, List.append_assoc, List.append_cancel_left_eq] at heq
    by_cases hkh : k = h
    · subst hkh
      have hsame : ∀ j ∈ rest, (f j).filter p = (g j).filter p := by
        intro j hj
        apply hne j (List.mem_cons_of_mem k hj)
        rintro rfl
        exact hk hj
      rw [filter_plainSplice_congr hsame, List.append_cancel_right_eq] at heq
      exact heq
    · rw [hne k List.mem_cons_self hkh, List.append_cancel_left_eq] at heq
      have hrestmem : h ∈ rest := (List.mem_cons.mp hmem).resolve_left fun hhk => hkh hhk.symm
      exact ih hrest hrestmem (fun j hj => hne j (List.mem_cons_of_mem k hj)) heq

end Patch

/-! ### Applications of hunks that follow each other -/

namespace Application

variable {a : Application}

/-- What an application leaves in the place of a hunk: its rendering, or its own lines if it is
passed over. -/
def outcome (a : Application) (h : Hunk) : List Line :=
  if a.relevant h then h.render a.markers a.base a.after else h.removed a.base

lemma lines_eq_plainSplice (horder : Hunk.InOrder a.hunks)
    (hlaid : Hunk.Laid a.base.length 0 (a.hunks.map Hunk.beforeRange)) :
    a.lines =
      Patch.plainSplice a.base 0 (a.hunks.map fun h => Patch.inPlaceOf h (a.outcome h)) := by
  have h := Patch.splice_filter_eq_plainSplice a.relevant
    (fun h => h.render a.markers a.base a.after) (Nat.le_refl 0) hlaid
  rw [lines, patches_eq horder]
  exact h

/-- Only the relevant hunks have to be spliced in. -/
lemma lines_eq_plainSplice_filter (horder : Hunk.InOrder a.hunks)
    (hlaid : Hunk.Laid a.base.length 0 (a.hunks.map Hunk.beforeRange)) :
    a.lines = Patch.plainSplice a.base 0 ((a.hunks.filter a.relevant).map fun h =>
      Patch.inPlaceOf h (h.render a.markers a.base a.after)) := by
  have h := Patch.splice_filter_eq_plainSplice (fun _ => true)
    (fun h => h.render a.markers a.base a.after) (Nat.le_refl 0) (hlaid.filter a.relevant)
  rw [List.filter_true, Hunk.window_sub_self, List.nil_append] at h
  rw [lines, patches_eq horder]
  exact h

lemma refused_eq_nil (horder : Hunk.InOrder a.hunks)
    (hlaid : Hunk.Laid a.base.length 0 (a.hunks.map Hunk.beforeRange)) :
    Patch.refused a.base.length 0 a.patches = [] := by
  rw [patches_eq horder]
  exact Patch.refused_filter_eq_nil a.relevant (fun h => h.render a.markers a.base a.after)
    (Nat.le_refl 0) hlaid

end Application

end DocGraft
