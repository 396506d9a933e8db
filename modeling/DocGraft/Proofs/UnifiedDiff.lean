import DocGraft.Proofs.Alignment
import DocGraft.Proofs.ReformattedLines

/-!
# What a unified diff shows

The cut into groups drops unchanged lines only, so every change of an alignment is shown. An
alignment without a change is one of two equal lists, and a text is the concatenation of its lines.
Hence two texts with an empty diff are equal, whichever lines are too common to anchor a block.
-/

namespace DocGraft

namespace Text

lemma flatten_consHead (c : Char) (ls : List Text) : (consHead c ls).flatten = c :: ls.flatten := by
  cases ls with
  | nil => rfl
  | cons l rest => simp [consHead]

lemma flatten_brokenLines (t : Text) : (brokenLines t).flatten = t := by
  fun_induction brokenLines t with
  | case1 => rfl
  | case2 rest ih => rw [List.flatten_cons, ih, List.cons_append, List.singleton_append]
  | case3 c rest _ hbreak ih => rw [List.flatten_cons, ih, List.singleton_append]
  | case4 c rest _ hbreak ih => rw [flatten_consHead, ih]

end Text

namespace Diff

namespace Group

variable {α : Type} {s : Segment α} {segments : List (Segment α)}

lemma exists_mem_cons_self (i j : Nat) (s : Segment α) (gs : List (Group α)) :
    ∃ g ∈ cons i j s gs, s ∈ g.segments := by
  cases gs with
  | nil => exact ⟨_, List.mem_cons_self, List.mem_cons_self⟩
  | cons g rest => exact ⟨_, List.mem_cons_self, List.mem_cons_self⟩

/-- A segment that some group shows is shown after another one was put in front. -/
lemma exists_mem_cons_of_mem (i j : Nat) (r : Segment α) {gs : List (Group α)}
    (h : ∃ g ∈ gs, s ∈ g.segments) : ∃ g ∈ cons i j r gs, s ∈ g.segments := by
  obtain ⟨g, hg, hs⟩ := h
  cases gs with
  | nil => simp at hg
  | cons first rest =>
    rcases List.mem_cons.mp hg with rfl | hg
    · exact ⟨_, List.mem_cons_self, List.mem_cons_of_mem r hs⟩
    · exact ⟨g, List.mem_cons_of_mem _ hg, hs⟩

lemma exists_mem_cut (hchange : s.isChange = true) (hs : s ∈ segments) (i j : Nat) :
    ∃ g ∈ cut i j segments, s ∈ g.segments := by
  fun_induction cut i j segments with
  | case1 => simp at hs
  | case2 i j run rest later hlong skipped ih =>
    rcases List.mem_cons.mp hs with rfl | hs
    · simp [Segment.isChange] at hchange
    · obtain ⟨g, hg, hsg⟩ := exists_mem_cons_of_mem (i + skipped) (j + skipped)
        (.same (run.drop skipped)) (ih hs)
      exact ⟨g, List.mem_cons_of_mem _ hg, hsg⟩
  | case3 i j run rest later hshort ih =>
    rcases List.mem_cons.mp hs with rfl | hs
    · simp [Segment.isChange] at hchange
    · exact exists_mem_cons_of_mem i j _ (ih hs)
  | case4 i j removed added rest ih =>
    rcases List.mem_cons.mp hs with rfl | hs
    · exact exists_mem_cons_self i j _ _
    · exact exists_mem_cons_of_mem i j _ (ih hs)

/-- Only a run is cut at the end. -/
lemma mem_trimTail_iff (hchange : s.isChange = true) : s ∈ trimTail segments ↔ s ∈ segments := by
  have hsame : ∀ run, s ≠ .same run := by
    rintro run rfl
    simp [Segment.isChange] at hchange
  fun_induction trimTail segments with
  | case1 => rfl
  | case2 run => simp [hsame]
  | case3 r rest _ ih =>
    rw [List.mem_cons, List.mem_cons]
    exact or_congr_right ih

lemma filter_isChange_ne_nil (hchange : s.isChange = true) {gs : List (Group α)}
    (h : ∃ g ∈ gs, s ∈ g.segments) : gs.filter (fun g => g.segments.any Segment.isChange) ≠ [] := by
  obtain ⟨g, hg, hs⟩ := h
  apply List.ne_nil_of_mem (a := g)
  exact List.mem_filter.mpr ⟨hg, List.any_eq_true.mpr ⟨s, hs, hchange⟩⟩

/-- Every change is shown. -/
lemma ofSegments_ne_nil (hchange : s.isChange = true) (hs : s ∈ segments) :
    ofSegments segments ≠ [] := by
  have htrim := (mem_trimTail_iff hchange).mpr hs
  unfold ofSegments
  apply filter_isChange_ne_nil hchange
  split
  · next run rest heq =>
    rw [heq] at htrim
    apply exists_mem_cut hchange
    rcases List.mem_cons.mp htrim with rfl | hrest
    · simp [Segment.isChange] at hchange
    · exact List.mem_cons_of_mem _ hrest
  · exact exists_mem_cut hchange htrim 0 0

end Group

lemma Segment.before_eq_after {α : Type} {s : Segment α} (h : s.isChange = false) :
    s.before = s.after := by
  cases s with
  | same run => rfl
  | change removed added => simp [isChange] at h

/-- An alignment of two lists that differ has a change. -/
lemma exists_isChange_align {α : Type} [DecidableEq α] (common : α → Bool) {a b : List α}
    (h : a ≠ b) : ∃ s ∈ align common a b, s.isChange = true := by
  by_contra hnone
  push Not at hnone
  apply h
  calc a = (align common a b).flatMap Segment.before := (flatMap_before_align common a b).symm
    _ = (align common a b).flatMap Segment.after :=
        List.flatMap_congr fun s hs => Segment.before_eq_after (Bool.eq_false_iff.mpr (hnone s hs))
    _ = b := flatMap_after_align common a b

namespace Unified

lemma groups_ne_nil {before after : Text} (h : before ≠ after) : groups before after ≠ [] := by
  -- lines keep their boundaries, so no two texts have the same lines
  have hlines : Text.brokenLines before ≠ Text.brokenLines after := by
    intro hlines
    apply h
    rw [← Text.flatten_brokenLines before, hlines, Text.flatten_brokenLines]
  obtain ⟨s, hs, hchange⟩ := exists_isChange_align
    (popular (Text.brokenLines after)).contains hlines
  exact Group.ofSegments_ne_nil hchange hs

/-- The diff of two texts that differ is not empty. -/
lemma diff_ne_nil {before after : Text} (h : before ≠ after) (path : Text) :
    diff before after path ≠ [] := by
  unfold diff entries
  split
  · next hgroups => exact absurd hgroups (groups_ne_nil h)
  · rw [List.flatten_cons, List.append_assoc]
    have hmark : "--- a/".toList ≠ [] := by decide
    exact List.append_ne_nil_of_left_ne_nil (List.append_ne_nil_of_left_ne_nil hmark path) _

end Unified

end Diff

end DocGraft
