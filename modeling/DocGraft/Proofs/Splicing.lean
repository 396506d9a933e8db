import DocGraft.Proofs.Rendering
import DocGraft.Proofs.TextLines
import DocGraft.Splice

/-!
# Splicing keeps what is not documentation

Whatever hunks are spliced into a text, in whatever order and however they overlap, the lines kept
aside of the result are those of the base: each patch has the ones of the lines that it replaces, and
a patch that reaches back is left out as a whole.
-/

namespace DocGraft

namespace Patch

lemma drop_eq_append_window (base : List Line) {cursor start : Nat} (h : cursor ≤ start)
    (count : Nat) :
    base.drop cursor = (base.drop cursor).take (start - cursor) ++
      (Hunk.window base start count ++ base.drop (start + count)) := by
  have hwindow : Hunk.window base start count ++ base.drop (start + count) = base.drop start := by
    rw [Hunk.window, ← List.drop_drop, List.take_append_drop]
  have hstart : base.drop start = (base.drop cursor).drop (start - cursor) := by
    rw [List.drop_drop, Nat.add_sub_cancel' h]
  rw [hwindow, hstart, List.take_append_drop]

lemma drop_min_length (base : List Line) (n : Nat) :
    base.drop (min n base.length) = base.drop n := by
  rcases Nat.le_total n base.length with hn | hn
  · rw [Nat.min_eq_left hn]
  · rw [Nat.min_eq_right hn, List.drop_length, List.drop_eq_nil_of_le hn]

lemma window_min_length (base : List Line) (start count : Nat) :
    Hunk.window base (min start base.length) count = Hunk.window base start count := by
  rw [Hunk.window, drop_min_length, Hunk.window]

/-- If each patch has the lines of a class that it replaces, so has the spliced text. -/
lemma filter_splice {p : Line → Bool} {base : List Line} {patches : List Patch}
    (h : ∀ q ∈ patches, q.lines.filter p = (Hunk.window base q.start q.count).filter p)
    (cursor : Nat) : (splice base cursor patches).filter p = (base.drop cursor).filter p := by
  induction patches generalizing cursor with
  | nil => rfl
  | cons q rest ih =>
    have hrest := ih fun r hr => h r (List.mem_cons_of_mem _ hr)
    rw [splice]
    split
    · exact hrest cursor
    · next hs =>
      have hq := h q (List.mem_cons_self ..)
      rw [← window_min_length] at hq
      conv_rhs => rw [drop_eq_append_window base (Nat.le_of_not_lt hs) q.count]
      simp only [List.filter_append, hq, hrest, drop_min_length, clip, List.append_assoc]

lemma mem_splice {base : List Line} {patches : List Patch} {cursor : Nat} {l : Line}
    (h : l ∈ splice base cursor patches) : l ∈ base ∨ ∃ q ∈ patches, l ∈ q.lines := by
  induction patches generalizing cursor with
  | nil => exact Or.inl (List.mem_of_mem_drop h)
  | cons q rest ih =>
    have hlater : ∀ {c}, l ∈ splice base c rest → l ∈ base ∨ ∃ r ∈ q :: rest, l ∈ r.lines := by
      intro c hc
      rcases ih hc with hb | ⟨r, hr, hl⟩
      · exact Or.inl hb
      · exact Or.inr ⟨r, List.mem_cons_of_mem _ hr, hl⟩
    rw [splice] at h
    split at h
    · exact hlater h
    · rcases List.mem_append.mp h with h | h
      · rcases List.mem_append.mp h with h | h
        · exact Or.inl (List.mem_of_mem_drop (List.mem_of_mem_take h))
        · exact Or.inr ⟨q, List.mem_cons_self .., h⟩
      · exact hlater h

end Patch

namespace Application

variable {a : Application}

lemma exists_hunk_of_mem_patches {q : Patch} (h : q ∈ a.patches) :
    ∃ k ∈ a.hunks, a.relevant k = true ∧ q = Patch.ofHunk a.markers a.base a.after k := by
  rw [patches, Patch.byStart, List.mem_mergeSort] at h
  obtain ⟨k, hk, rfl⟩ := List.mem_map.mp h
  obtain ⟨hmem, hrel⟩ := List.mem_filter.mp hk
  refine ⟨k, ?_, hrel, rfl⟩
  simp only [ordered, Hunk.inOrder, Hunk.byStart, List.mem_append, List.mem_mergeSort,
    List.mem_filter] at hmem
  rcases hmem with hmem | hmem
  · exact hmem.1
  · exact hmem.1

lemma mem_lines {l : Line} (h : l ∈ a.lines) : l = [] ∨ l ∈ a.base ∨ l ∈ a.after := by
  rcases Patch.mem_splice h with hb | ⟨q, hq, hl⟩
  · exact Or.inr (Or.inl hb)
  · obtain ⟨k, -, -, rfl⟩ := exists_hunk_of_mem_patches hq
    rcases Hunk.mem_rendering hl with he | hr | ha
    · exact Or.inl he
    · exact Or.inr (Or.inl (List.mem_of_mem_drop (List.mem_of_mem_take hr)))
    · exact Or.inr (Or.inr (List.mem_of_mem_drop (List.mem_of_mem_take ha)))

lemma filter_isKeptAside_lines :
    a.lines.filter (Line.isKeptAside a.markers) = a.base.filter (Line.isKeptAside a.markers) := by
  rw [lines, Patch.filter_splice, List.drop_zero]
  intro q hq
  obtain ⟨k, -, -, rfl⟩ := exists_hunk_of_mem_patches hq
  exact Hunk.filter_isKeptAside_rendering _ _

lemma not_mem_of_mem_lines (hbase : ∀ l ∈ a.base, '\n' ∉ l) (hafter : ∀ l ∈ a.after, '\n' ∉ l) :
    ∀ l ∈ a.lines, '\n' ∉ l := by
  intro l hl
  rcases mem_lines hl with rfl | hb | ha
  · simp
  · exact hbase l hb
  · exact hafter l ha

/-- A class of lines without the empty one has the same lines in the merged text as among the merged
lines. -/
lemma filter_pieces_text {p : Line → Bool} (hp : p [] = false) (hpost : a.post = id)
    (hfeed : ∀ l ∈ a.lines, '\n' ∉ l) : (Text.pieces a.text).filter p = a.lines.filter p := by
  rw [text, Text.filter_pieces_closed hp, hpost, id_eq, Text.filter_pieces_unpieces hp hfeed]

/-- Hunks of any kind, applied to a text in any number and order and chosen in any way, neither lose
nor bring, double nor move an ordinary comment or an attribute that is not documentation. -/
theorem isKeptAside_preserved (original transformed : Text) (hunks : List Hunk) (m : Markers)
    (relevant : Hunk → Bool) :
    (Text.pieces (text ⟨Text.lines original, Text.lines transformed, hunks, m, relevant, id⟩)).filter
        (Line.isKeptAside m) = (Text.lines original).filter (Line.isKeptAside m) := by
  rw [filter_pieces_text (Hunk.visible_isKeptAside m).nil rfl]
  · exact filter_isKeptAside_lines
      (a := ⟨Text.lines original, Text.lines transformed, hunks, m, relevant, id⟩)
  · exact not_mem_of_mem_lines (fun _ => Text.not_mem_of_mem_lines)
      (fun _ => Text.not_mem_of_mem_lines)

end Application

end DocGraft
