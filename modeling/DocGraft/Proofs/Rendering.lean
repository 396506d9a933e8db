import DocGraft.Hunk.Render
import DocGraft.Proofs.LineClasses

/-!
# What a rendered hunk holds

A rendered hunk is made of kept lines of the removed run, empty lines, and fresh lines of the added
run. A class of lines without blank ones sees only the first or only the last of these parts: lines
kept aside are exactly those of the removed run, and lines of a class apart from them, such as
documentation and markers, are exactly those of the added run.
-/

namespace DocGraft.Hunk

/-- The lines that take the place of a removed run when another run is added. -/
def rendering (m : Markers) (removed added : List Line) : List Line :=
  let kept := keptLines m false removed
  let gap := List.replicate (freeBlanks false removed) []
  let fresh := added.filter fun l => !Line.isKeptAside m l
  if opensWithModuleDoc m added then kept ++ fresh ++ gap else kept ++ gap ++ fresh

lemma render_eq_rendering (m : Markers) (before after : List Line) (h : Hunk) :
    h.render m before after = rendering m (h.removed before) (h.added after) := rfl

/-- A class of lines in which no line is blank. -/
def Visible (p : Line → Bool) : Prop := ∀ l, p l = true → Line.lead l ≠ none

lemma Visible.nil {p : Line → Bool} (hp : Visible p) : p [] = false :=
  Line.eq_false_of_isBlank hp rfl

lemma visible_isKeptAside (m : Markers) : Visible (Line.isKeptAside m) :=
  fun _ h => Line.lead_ne_none_of_isKeptAside h

lemma visible_isInlineDoc : Visible Line.isInlineDoc := fun _ h => Line.lead_ne_none_of_isInlineDoc h

lemma visible_isMarker (m : Markers) : Visible (Line.isMarker m) := by
  intro l h
  rw [Line.lead_of_isMarker h]
  exact Option.some_ne_none _

variable {m : Markers} {p : Line → Bool}

lemma filter_gap (hp : Visible p) (n : Nat) : (List.replicate n ([] : Line)).filter p = [] := by
  simp [hp.nil]

lemma filter_rendering (hp : Visible p) (removed added : List Line) :
    (rendering m removed added).filter p = (keptLines m false removed).filter p ++
      (added.filter fun l => !Line.isKeptAside m l).filter p := by
  unfold rendering
  split
  · simp only [List.filter_append, filter_gap hp, List.append_nil]
  · simp only [List.filter_append, filter_gap hp, List.append_nil]

lemma filter_isKeptAside_keptLines (afterComment : Bool) (ls : List Line) :
    (keptLines m afterComment ls).filter (Line.isKeptAside m) = ls.filter (Line.isKeptAside m) := by
  induction ls generalizing afterComment with
  | nil => rfl
  | cons l ls ih =>
    rw [keptLines]
    split
    · simp only [List.filter_cons, ih]
    · next hc =>
      split
      · simp only [List.filter_cons, ih]
      · next ho =>
        have hl : Line.isKeptAside m l = false := by
          simp only [Bool.or_eq_true, not_or] at ho
          simp [Line.isKeptAside, hc, ho.1]
        rw [ih, List.filter_cons, hl]
        rfl

lemma keptLines_sublist (afterComment : Bool) (ls : List Line) :
    (keptLines m afterComment ls).Sublist ls := by
  induction ls generalizing afterComment with
  | nil => exact List.Sublist.refl _
  | cons l ls ih =>
    rw [keptLines]
    split
    · exact (ih true).cons_cons l
    · split
      · exact (ih false).cons_cons l
      · exact (ih false).cons l

lemma isKeptAside_or_isBlank_of_mem_keptLines {afterComment : Bool} {ls : List Line} {l : Line}
    (h : l ∈ keptLines m afterComment ls) :
    Line.isKeptAside m l = true ∨ Text.isBlank l = true := by
  induction ls generalizing afterComment with
  | nil => simp [keptLines] at h
  | cons k ls ih =>
    rw [keptLines] at h
    split at h
    · next hc =>
      rcases List.mem_cons.mp h with rfl | h
      · left
        simp [Line.isKeptAside, hc]
      · exact ih h
    · split at h
      · next ho =>
        rcases List.mem_cons.mp h with rfl | h
        · rcases Bool.or_eq_true_iff.mp ho with ho | hb
          · left
            simp [Line.isKeptAside, ho]
          · right
            exact (Bool.and_eq_true_iff.mp hb).1
        · exact ih h
      · exact ih h

lemma mem_rendering {removed added : List Line} {l : Line} (h : l ∈ rendering m removed added) :
    l = [] ∨ l ∈ removed ∨ l ∈ added := by
  have hparts : l ∈ keptLines m false removed ∨
      l ∈ List.replicate (freeBlanks false removed) ([] : Line) ∨
      l ∈ added.filter fun l => !Line.isKeptAside m l := by
    unfold rendering at h
    split at h
    · simp only [List.mem_append] at h
      tauto
    · simp only [List.mem_append] at h
      tauto
  rcases hparts with hk | hg | hf
  · exact Or.inr (Or.inl ((keptLines_sublist false removed).subset hk))
  · exact Or.inl (List.eq_of_mem_replicate hg)
  · exact Or.inr (Or.inr (List.mem_of_mem_filter hf))

/-- A rendered hunk has the lines kept aside of the run it removes, and no others. -/
lemma filter_isKeptAside_rendering (removed added : List Line) :
    (rendering m removed added).filter (Line.isKeptAside m) =
      removed.filter (Line.isKeptAside m) := by
  rw [filter_rendering (visible_isKeptAside m), filter_isKeptAside_keptLines, List.filter_filter]
  simp

/-- A rendered hunk has the lines of the run it adds that are of a class apart from the lines kept
aside. -/
lemma filter_rendering_of_apart (hp : Visible p)
    (hapart : ∀ l, p l = true → Line.isKeptAside m l = false) (removed added : List Line) :
    (rendering m removed added).filter p = added.filter p := by
  have hkept : (keptLines m false removed).filter p = [] := by
    apply List.filter_eq_nil_iff.mpr
    intro l hl hpl
    rcases isKeptAside_or_isBlank_of_mem_keptLines hl with hk | hb
    · rw [hapart l hpl] at hk
      exact absurd hk (by decide)
    · rw [Line.eq_false_of_isBlank hp hb] at hpl
      exact absurd hpl (by decide)
  have hfresh : (added.filter fun l => !Line.isKeptAside m l).filter p = added.filter p := by
    rw [List.filter_filter]
    apply List.filter_congr
    intro l _
    cases hpl : p l with
    | false => simp
    | true => simp [hapart l hpl]
  rw [filter_rendering hp, hkept, hfresh, List.nil_append]

end DocGraft.Hunk
