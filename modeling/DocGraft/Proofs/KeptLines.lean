import DocGraft.Proofs.Rendering

/-!
# What becomes of a before range

Two passes go over the lines that a hunk removes: one keeps lines, the other counts blank ones. Both
know of the lines before only whether the last of them is an ordinary comment, so each can be read
in parts. A blank line is in exactly one of them: it is kept where it stands directly behind such a
comment and counted everywhere else.
-/

namespace DocGraft.Hunk

open Text (isBlank)

/-- Whether what follows these lines stands directly behind an ordinary comment; the flag tells it of
the lines themselves. -/
def endsInComment : (afterComment : Bool) → List Line → Bool
  | afterComment, [] => afterComment
  | _, l :: rest => endsInComment (Line.isOrdinaryComment l) rest

/-- The line is one that a before range keeps. -/
def stays (m : Markers) (afterComment : Bool) (l : Line) : Bool :=
  Line.isKeptAside m l || (isBlank l && afterComment)

variable {m : Markers} {afterComment : Bool} {l : Line} {ls : List Line}

/-! ### One line after the other -/

lemma endsInComment_concat (afterComment : Bool) (ls : List Line) (l : Line) :
    endsInComment afterComment (ls ++ [l]) = Line.isOrdinaryComment l := by
  induction ls generalizing afterComment with
  | nil => rfl
  | cons k ls ih => exact ih (Line.isOrdinaryComment k)

lemma keptLines_cons (m : Markers) (afterComment : Bool) (l : Line) (ls : List Line) :
    keptLines m afterComment (l :: ls) = (if stays m afterComment l then [l] else []) ++
      keptLines m (Line.isOrdinaryComment l) ls := by
  rw [keptLines, stays, Line.isKeptAside]
  by_cases hcomment : Line.isOrdinaryComment l = true
  · simp [hcomment]
  · rw [if_neg hcomment, Bool.eq_false_iff.mpr hcomment, Bool.or_false]
    split
    · rfl
    · rfl

lemma keptLines_append (m : Markers) (afterComment : Bool) (xs ys : List Line) :
    keptLines m afterComment (xs ++ ys) =
      keptLines m afterComment xs ++ keptLines m (endsInComment afterComment xs) ys := by
  induction xs generalizing afterComment with
  | nil => rfl
  | cons l xs ih =>
    rw [List.cons_append, keptLines_cons, keptLines_cons, ih, endsInComment, List.append_assoc]

lemma freeBlanks_append (afterComment : Bool) (xs ys : List Line) :
    freeBlanks afterComment (xs ++ ys) =
      freeBlanks afterComment xs + freeBlanks (endsInComment afterComment xs) ys := by
  induction xs generalizing afterComment with
  | nil => exact (Nat.zero_add _).symm
  | cons l xs ih =>
    rw [List.cons_append, freeBlanks, freeBlanks, ih, endsInComment, Nat.add_assoc]

/-- A range stays as it is exactly if each of its lines is one that is kept. -/
lemma keptLines_eq_self_iff : keptLines m afterComment ls = ls ↔
    ∀ xs l ys, ls = xs ++ l :: ys → stays m (endsInComment afterComment xs) l = true := by
  induction ls generalizing afterComment with
  | nil => simp [keptLines]
  | cons k ls ih =>
    rw [keptLines_cons]
    by_cases hk : stays m afterComment k = true
    · rw [if_pos hk, List.singleton_append, List.cons_inj_right, ih]
      constructor
      · intro h xs l ys hls
        cases xs with
        | nil =>
          obtain ⟨rfl, -⟩ := List.cons.inj hls
          exact hk
        | cons x xs =>
          obtain ⟨rfl, htail⟩ := List.cons.inj hls
          exact h xs l ys htail
      · intro h xs l ys hls
        exact h (k :: xs) l ys (congrArg (k :: ·) hls)
    · rw [if_neg hk, List.nil_append]
      constructor
      · intro h
        have hlength := (keptLines_sublist (m := m) (Line.isOrdinaryComment k) ls).length_le
        rw [h, List.length_cons] at hlength
        omega
      · intro h
        exact absurd (h [] k ls rfl) hk

/-! ### Blank lines -/

lemma isKeptAside_of_isBlank (m : Markers) (h : isBlank l = true) : Line.isKeptAside m l = false :=
  Line.eq_false_of_isBlank (visible_isKeptAside m) h

lemma isOrdinaryComment_of_isBlank (h : isBlank l = true) : Line.isOrdinaryComment l = false :=
  (Bool.or_eq_false_iff.mp (isKeptAside_of_isBlank {} h)).2

/-- A blank line of a range is kept in its place, or it is counted. -/
lemma keptLines_and_freeBlanks_of_isBlank (m : Markers) (h : isBlank l = true)
    (xs ys : List Line) :
    keptLines m false (xs ++ l :: ys) = keptLines m false xs ++
        (if endsInComment false xs then [l] else []) ++ keptLines m false ys ∧
      freeBlanks false (xs ++ l :: ys) = freeBlanks false xs +
        (if endsInComment false xs then 0 else 1) + freeBlanks false ys := by
  have hcomment := isOrdinaryComment_of_isBlank h
  constructor
  · rw [keptLines_append, keptLines_cons, stays, isKeptAside_of_isBlank m h, h, hcomment,
      Bool.false_or, Bool.true_and, List.append_assoc]
  · rw [freeBlanks_append, freeBlanks, h, hcomment, Bool.true_and, Nat.add_assoc]
    cases endsInComment false xs with
    | true => rfl
    | false => rfl

lemma countP_isBlank_keptLines (m : Markers) (afterComment : Bool) (ls : List Line) :
    (keptLines m afterComment ls).countP isBlank + freeBlanks afterComment ls =
      ls.countP isBlank := by
  induction ls generalizing afterComment with
  | nil => rfl
  | cons l ls ih =>
    have hrest := ih (Line.isOrdinaryComment l)
    rw [keptLines_cons, freeBlanks, List.countP_append, List.countP_cons]
    cases hblank : isBlank l with
    | true =>
      rw [stays, isKeptAside_of_isBlank m hblank, hblank]
      cases afterComment with
      | true =>
        simp [hblank]
        omega
      | false =>
        simp
        omega
    | false =>
      have hnone : (if stays m afterComment l then [l] else []).countP isBlank = 0 := by
        split
        · simp [hblank]
        · rfl
      rw [hnone]
      simp
      omega

lemma countP_isBlank_fresh (m : Markers) (added : List Line) :
    (added.filter fun l => !Line.isKeptAside m l).countP isBlank = added.countP isBlank := by
  rw [List.countP_filter]
  apply List.countP_congr
  intro l _
  cases hblank : isBlank l with
  | true => simp [isKeptAside_of_isBlank m hblank]
  | false => simp

lemma countP_isBlank_rendering (m : Markers) (removed added : List Line) :
    (rendering m removed added).countP isBlank =
      removed.countP isBlank + added.countP isBlank := by
  have hgap : (List.replicate (freeBlanks false removed) ([] : Line)).countP isBlank =
      freeBlanks false removed := by
    simp [List.countP_replicate, isBlank]
  have hkept := countP_isBlank_keptLines m false removed
  have hfresh := countP_isBlank_fresh m added
  unfold rendering
  split
  · rw [List.countP_append, List.countP_append, hgap, hfresh]
    omega
  · rw [List.countP_append, List.countP_append, hgap, hfresh]
    omega

/-! ### Accounts of a rendered hunk -/

lemma keptLines_prefix_render (m : Markers) (before after : List Line) (h : Hunk) :
    keptLines m false (h.removed before) <+: h.render m before after := by
  rw [render_eq_rendering, rendering]
  split
  · rw [List.append_assoc]
    exact List.prefix_append ..
  · rw [List.append_assoc]
    exact List.prefix_append ..

/-- A line that is copied from the added run only: it is not blank and not kept aside. -/
def isCopied (m : Markers) (l : Line) : Bool := !isBlank l && !Line.isKeptAside m l

lemma visible_isCopied (m : Markers) : Visible (isCopied m) := by
  intro l h hlead
  rw [isCopied, Line.isBlank_of_lead_eq_none hlead] at h
  exact absurd h Bool.false_ne_true

/-- A rendered hunk has as many blank lines as the two runs together: a blank line of the removed run
is kept in its place if it stands directly behind an ordinary comment and counted if it does not. Of
the lines that are neither blank nor kept aside it has those of the added run. -/
theorem rendering_accounts_for_every_line (m : Markers) (before after : List Line) (h : Hunk) :
    (h.render m before after).countP isBlank =
        (h.removed before).countP isBlank + (h.added after).countP isBlank ∧
      (∀ xs l ys, h.removed before = xs ++ l :: ys → isBlank l = true →
        keptLines m false (h.removed before) = keptLines m false xs ++
            (if endsInComment false xs then [l] else []) ++ keptLines m false ys ∧
          freeBlanks false (h.removed before) = freeBlanks false xs +
            (if endsInComment false xs then 0 else 1) + freeBlanks false ys) ∧
      (h.render m before after).filter (isCopied m) = (h.added after).filter (isCopied m) := by
  rw [render_eq_rendering]
  refine ⟨countP_isBlank_rendering m _ _, ?_, ?_⟩
  · intro xs l ys hremoved hblank
    rw [hremoved]
    exact keptLines_and_freeBlanks_of_isBlank m hblank xs ys
  · apply filter_rendering_of_apart (visible_isCopied m)
    intro l hl
    simpa using (Bool.and_eq_true_iff.mp hl).2

/-- Two blank lines behind a comment, of which one is kept and one counted, in a hunk that reaches
past the end of both texts. -/
theorem rendering_accounts_for_blanks_behind_comment :
    let before := ["// Note.".toList, [], "\t".toList, "/// Doc.".toList]
    let after := ["#[omnidoc]".toList, [], "#[inline]".toList]
    let h : Hunk := ⟨0, 7, 0, 7⟩
    h.removed before = ["// Note.".toList] ++ [] :: ["\t".toList, "/// Doc.".toList] ∧
      (h.render {} before after).countP isBlank = 3 ∧
      keptLines {} false (h.removed before) = ["// Note.".toList, []] ∧
      freeBlanks false (h.removed before) = 1 ∧
      (h.render {} before after).filter (isCopied {}) = ["#[omnidoc]".toList] := by
  intro before after h
  obtain ⟨hcount, hblank, hcopied⟩ := rendering_accounts_for_every_line {} before after h
  have hremoved : h.removed before =
      ["// Note.".toList] ++ [] :: ["\t".toList, "/// Doc.".toList] := by decide
  obtain ⟨hkept, hfree⟩ := hblank _ _ _ hremoved rfl
  exact ⟨hremoved, hcount.trans (by decide), hkept.trans (by decide), hfree.trans (by decide),
    hcopied.trans (by decide)⟩

end DocGraft.Hunk
