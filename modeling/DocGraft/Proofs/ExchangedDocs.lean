import DocGraft.Proofs.Exchange
import DocGraft.Proofs.MergedSegments

/-!
# Texts that differ in documentation only

If documentation and its stand-ins are all that two texts do not share, a merge has nothing of the
base to keep in the places that change. Each of its segments becomes the run of the transformed
text, also where a change is cut in two.
-/

namespace DocGraft

/-! ### Changes of documentation only -/

namespace Direction

variable (d : Direction) (m : Markers)

lemma visible_leaves : Hunk.Visible (d.leaves m) := by
  cases d with
  | migrate => exact Hunk.visible_isInlineDoc
  | restore => exact Hunk.visible_isMarker m

variable {d m} {l : Line}

lemma isKeptAside_of_leaves (h : d.leaves m l = true) : Line.isKeptAside m l = false := by
  cases d with
  | migrate => exact Line.isKeptAside_eq_false_of_isInlineDoc h
  | restore => exact Line.isKeptAside_eq_false_of_isMarker h

lemma isKeptAside_of_brings (h : d.brings m l = true) : Line.isKeptAside m l = false := by
  cases d with
  | migrate =>
    rcases Bool.or_eq_true_iff.mp h with h | h
    · exact Line.isKeptAside_eq_false_of_isInlineDoc h
    · exact Line.isKeptAside_eq_false_of_isMarker h
  | restore => exact Line.isKeptAside_eq_false_of_isInlineDoc h

end Direction

namespace Hunk

variable {m : Markers} {removed added : List Line}

lemma keptLines_eq_nil (hkept : ∀ l ∈ removed, Line.isKeptAside m l = false)
    (hblank : ∀ l ∈ removed, Text.isBlank l = false) : keptLines m false removed = [] := by
  apply List.eq_nil_iff_forall_not_mem.mpr
  intro l hl
  have hmem := (keptLines_sublist false removed).subset hl
  rcases isKeptAside_or_isBlank_of_mem_keptLines hl with hk | hb
  · rw [hkept l hmem] at hk
    exact absurd hk (by decide)
  · rw [hblank l hmem] at hb
    exact absurd hb (by decide)

lemma freeBlanks_eq_zero (afterComment : Bool) (hblank : ∀ l ∈ removed, Text.isBlank l = false) :
    freeBlanks afterComment removed = 0 := by
  induction removed generalizing afterComment with
  | nil => rfl
  | cons l ls ih =>
    rw [freeBlanks, hblank l List.mem_cons_self,
      ih _ fun k hk => hblank k (List.mem_cons_of_mem l hk)]
    rfl

lemma rendering_eq_added (hremoved : ∀ l ∈ removed, Line.isKeptAside m l = false)
    (hblank : ∀ l ∈ removed, Text.isBlank l = false)
    (hadded : ∀ l ∈ added, Line.isKeptAside m l = false) : rendering m removed added = added := by
  have hfresh : added.filter (fun l => !Line.isKeptAside m l) = added := by
    apply List.filter_eq_self.mpr
    intro l hl
    rw [hadded l hl]
    rfl
  unfold rendering
  rw [keptLines_eq_nil hremoved hblank, freeBlanks_eq_zero false hblank, hfresh]
  simp

end Hunk

namespace Diff.Segment

variable {p q : Line → Bool} {d : Direction} {m : Markers} {s : Segment Line}

lemma Exchanges.mono {p' q' : Line → Bool} (hp : ∀ l, p l = true → p' l = true)
    (hq : ∀ l, q l = true → q' l = true) (h : s.Exchanges p q) : s.Exchanges p' q' := by
  cases s with
  | same run => trivial
  | change removed added => exact ⟨fun l hl => hp l (h.1 l hl), fun l hl => hq l (h.2 l hl)⟩

lemma Exchanges.split (h : s.Exchanges p q) : ∀ t ∈ s.split m, t.Exchanges p q := by
  cases s with
  | same run =>
    intro t ht
    obtain rfl := List.mem_singleton.mp ht
    trivial
  | change removed added =>
    intro t ht
    rcases split_change_cases m removed added with he | ⟨-, n, -, he⟩
    · rw [he] at ht
      obtain rfl := List.mem_singleton.mp ht
      exact h
    · rw [he] at ht
      simp only [List.mem_cons, List.not_mem_nil, or_false] at ht
      rcases ht with rfl | rfl
      · exact ⟨fun l hl => h.1 l (List.mem_of_mem_take hl),
          fun l hl => h.2 l (List.mem_of_mem_take hl)⟩
      · exact ⟨fun l hl => h.1 l (List.mem_of_mem_drop hl),
          fun l hl => h.2 l (List.mem_of_mem_drop hl)⟩

/-- A change of documentation only is merged to the run of the transformed text. -/
lemma Exchanges.merged_eq_after (h : s.Exchanges (d.leaves m) (d.brings m)) :
    s.merged d m = s.after := by
  cases s with
  | same run => rfl
  | change removed added =>
    obtain ⟨hremoved, hadded⟩ := h
    rw [merged, after]
    split
    · refine Hunk.rendering_eq_added (fun l hl => ?_) (fun l hl => ?_) (fun l hl => ?_)
      · exact Direction.isKeptAside_of_leaves (hremoved l hl)
      · apply Bool.eq_false_iff.mpr
        intro hb
        have hl' := Line.eq_false_of_isBlank (d.visible_leaves m) hb
        rw [hremoved l hl] at hl'
        exact absurd hl' (by decide)
      · exact Direction.isKeptAside_of_brings (hadded l hl)
    · next hn =>
      -- Both runs are empty.
      obtain ⟨hr, ha⟩ := Direction.forall_of_not_applies hn
      rw [List.eq_nil_iff_forall_not_mem.mpr fun l hl => hr l hl (hremoved l hl),
        List.eq_nil_iff_forall_not_mem.mpr fun l hl => ha l hl (hadded l hl)]

end Diff.Segment

/-! ### Merges of such texts -/

namespace Merger

open Diff (Exchanged Segment)

variable {p q : Line → Bool}

lemma exchanges_of_mem_segments (g : Merger) {base after : List Line}
    (hpq : ∀ l, p l = true → q l = false) (h : Exchanged p q base after) :
    ∀ s ∈ g.segments base after, s.Exchanges p q := by
  have haligned := h.exchanges_of_mem_align (fun _ => rfl) hpq
  unfold segments
  split
  · intro s hs
    obtain ⟨t, ht, hs⟩ := List.mem_flatMap.mp hs
    exact (haligned t ht).split s hs
  · exact haligned

/-- Where texts differ by runs that matter in the direction of a merge, it has the lines of the
transformed text. -/
lemma lines_application_of_exchanged (g : Merger) (d : Direction) {fb ft : Text}
    (hp : ∀ l, p l = true → d.leaves g.markers l = true)
    (hq : ∀ l, q l = true → d.brings g.markers l = true)
    (hpq : ∀ l, p l = true → q l = false)
    (h : Exchanged p q (Text.lines fb) (Text.lines ft)) :
    (g.planFormatted d fb ft).application.lines = Text.lines ft := by
  have hseg := exchanges_of_mem_segments g hpq h
  rw [lines_application]
  calc
    (g.segments (Text.lines fb) (Text.lines ft)).flatMap (Segment.merged d g.markers)
      = (g.segments (Text.lines fb) (Text.lines ft)).flatMap Segment.after :=
        List.flatMap_congr fun s hs => ((hseg s hs).mono hp hq).merged_eq_after
    _ = Text.lines ft := flatMap_after_segments g (Text.lines fb) (Text.lines ft)

end Merger

end DocGraft
