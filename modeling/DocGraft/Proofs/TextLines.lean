import DocGraft.Text.Basic
import Mathlib.Data.List.Basic
import Mathlib.Data.List.TakeWhile
import Mathlib.Tactic.Common

/-!
# Texts and their lines

A text is cut at line feeds, worked on line by line, joined, and closed by one line feed. Empty
pieces at its end are all that is lost on the way, so a class of lines that has no empty line in it
can be counted before or after the text is closed.
-/

namespace DocGraft.Text

/-- The text in which each of these lines is ended by a line feed. -/
def ofLines (ls : List Line) : Text := ls.flatMap (· ++ ['\n'])

@[simp] lemma ofLines_nil : ofLines [] = [] := rfl

lemma ofLines_cons (l : Line) (ls : List Line) : ofLines (l :: ls) = l ++ '\n' :: ofLines ls := by
  simp [ofLines]

lemma ofLines_concat (ls : List Line) (l : Line) :
    ofLines (ls ++ [l]) = ofLines ls ++ l ++ ['\n'] := by
  simp [ofLines]

lemma unpieces_cons_cons (k l : Line) (ls : List Line) :
    unpieces (k :: l :: ls) = k ++ '\n' :: unpieces (l :: ls) := by
  simp [unpieces, List.intercalate_cons_cons]

lemma unpieces_concat (ls : List Line) (l : Line) : unpieces (ls ++ [l]) = ofLines ls ++ l := by
  induction ls with
  | nil => simp [unpieces]
  | cons k ls ih =>
    obtain ⟨first, rest, hrest⟩ := List.exists_cons_of_ne_nil
      (List.append_ne_nil_of_right_ne_nil ls (List.cons_ne_nil l []))
    rw [hrest] at ih
    rw [List.cons_append, hrest, ofLines_cons, unpieces_cons_cons, ih]
    simp

lemma subset_intercalate {sep p : Text} {ps : List Text} (h : p ∈ ps) :
    p ⊆ sep.intercalate ps := by
  induction ps with
  | nil => simp at h
  | cons q ps ih =>
    cases ps with
    | nil =>
      obtain rfl := List.mem_singleton.mp h
      rw [List.intercalate_singleton]
      exact List.Subset.refl p
    | cons r ps =>
      rw [List.intercalate_cons_cons]
      rcases List.mem_cons.mp h with rfl | h
      · exact fun c hc => List.mem_append_left _ (List.mem_append_left _ hc)
      · exact fun c hc => List.mem_append_right _ (ih h hc)

lemma subset_unpieces {ls : List Line} {l : Line} (h : l ∈ ls) : l ⊆ unpieces ls :=
  subset_intercalate h

/-! ### Cutting at line feeds -/

lemma pieces_ne_nil (t : Text) : pieces t ≠ [] := List.splitOn_ne_nil _ t

lemma unpieces_pieces (t : Text) : unpieces (pieces t) = t := List.intercalate_splitOn '\n'

lemma subset_of_mem_pieces {t : Text} {l : Line} (h : l ∈ pieces t) : l ⊆ t := by
  simpa only [unpieces_pieces] using subset_unpieces h

lemma not_mem_of_mem_pieces {t : Text} {l : Line} (h : l ∈ pieces t) : '\n' ∉ l := by
  induction t generalizing l with
  | nil => simp_all [pieces]
  | cons c t ih =>
    simp only [pieces, List.splitOn_cons_eq_if_modifyHead] at h ih
    split at h
    · rcases List.mem_cons.mp h with rfl | h
      · simp
      · exact ih h
    · next hc =>
      obtain ⟨p, ps, hps⟩ := List.exists_cons_of_ne_nil (List.splitOn_ne_nil '\n' t)
      rw [hps] at h ih
      rcases List.mem_cons.mp h with rfl | h
      · have hp := ih (List.mem_cons_self ..)
        rw [beq_iff_eq] at hc
        simp [hp, Ne.symm hc]
      · exact ih (List.mem_cons_of_mem _ h)

lemma pieces_unpieces {ls : List Line} (h : ∀ l ∈ ls, '\n' ∉ l) (hne : ls ≠ []) :
    pieces (unpieces ls) = ls := List.splitOn_intercalate '\n' h hne

lemma pieces_append_feed (t : Text) : pieces (t ++ ['\n']) = pieces t ++ [[]] :=
  List.splitOn_append_cons_self t []

lemma pieces_ofLines {ls : List Line} (h : ∀ l ∈ ls, '\n' ∉ l) :
    pieces (ofLines ls) = ls ++ [[]] := by
  induction ls with
  | nil => rfl
  | cons l ls ih =>
    have hl := h l (List.mem_cons_self ..)
    rw [ofLines_cons, pieces, List.splitOn_append_cons_self_of_not_mem hl]
    exact congrArg (l :: ·) (ih fun k hk => h k (List.mem_cons_of_mem _ hk))

lemma pieces_append_feeds (t : Text) (n : Nat) :
    pieces (t ++ List.replicate n '\n') = pieces t ++ List.replicate n [] := by
  induction n with
  | zero => simp
  | succ n ih =>
    rw [List.replicate_succ', ← List.append_assoc, pieces_append_feed, ih, List.replicate_succ',
      List.append_assoc]

/-- A class of lines without the empty one does not see the final line feeds of a text. -/
lemma filter_pieces_append_feeds {p : Line → Bool} (hp : p [] = false) (t : Text) (n : Nat) :
    (pieces (t ++ List.replicate n '\n')).filter p = (pieces t).filter p := by
  rw [pieces_append_feeds, List.filter_append]
  simp [hp]

lemma filter_pieces_unpieces {p : Line → Bool} (hp : p [] = false) {ls : List Line}
    (h : ∀ l ∈ ls, '\n' ∉ l) : (pieces (unpieces ls)).filter p = ls.filter p := by
  cases ls with
  | nil => simp [pieces, unpieces, hp]
  | cons l ls => rw [pieces_unpieces h (List.cons_ne_nil l ls)]

/-! ### The end of a text -/

lemma exists_eq_dropFinalFeeds_append (t : Text) :
    ∃ n, t = dropFinalFeeds t ++ List.replicate n '\n' := by
  refine ⟨(t.reverse.takeWhile (· == '\n')).length, ?_⟩
  have h : t.reverse.takeWhile (· == '\n') =
      List.replicate (t.reverse.takeWhile (· == '\n')).length '\n' := by
    apply List.eq_replicate_of_mem
    intro c hc
    simpa using List.mem_takeWhile_imp hc
  have ht := congrArg List.reverse
    (List.takeWhile_append_dropWhile (p := (· == '\n')) (l := t.reverse))
  rw [h, List.reverse_append, List.reverse_reverse, List.reverse_replicate] at ht
  simpa [dropFinalFeeds] using ht.symm

lemma filter_pieces_closed {p : Line → Bool} (hp : p [] = false) (t : Text) :
    (pieces (closed t)).filter p = (pieces t).filter p := by
  obtain ⟨n, hn⟩ := exists_eq_dropFinalFeeds_append t
  have hbody : (pieces t).filter p = (pieces (dropFinalFeeds t)).filter p := by
    rw [← filter_pieces_append_feeds hp (dropFinalFeeds t) n, ← hn]
  rw [hbody]
  unfold closed
  cases dropFinalFeeds t with
  | nil => rfl
  | cons c body => exact filter_pieces_append_feeds hp (c :: body) 1

/-- All that a text loses when it is closed are empty pieces at its end. -/
lemma exists_pieces_closed (t : Text) :
    ∃ n, pieces t ++ [[]] = pieces (closed t) ++ List.replicate n [] := by
  obtain ⟨n, hn⟩ := exists_eq_dropFinalFeeds_append t
  have hpieces : pieces t = pieces (dropFinalFeeds t) ++ List.replicate n [] := by
    rw [← pieces_append_feeds, ← hn]
  rw [hpieces, List.append_assoc, ← List.replicate_succ']
  unfold closed
  cases dropFinalFeeds t with
  | nil => exact ⟨n + 1, rfl⟩
  | cons c body =>
    refine ⟨n, ?_⟩
    simp only
    rw [pieces_append_feed, List.append_assoc]
    rfl

lemma sublist_pieces_closed {ls : List Line} {t : Text} (h : ls.Sublist (pieces t))
    (hne : ∀ l ∈ ls, l ≠ []) : ls.Sublist (pieces (closed t)) := by
  have hf : ls.filter (!·.isEmpty) = ls := by
    apply List.filter_eq_self.mpr
    intro l hl
    simpa using hne l hl
  rw [← hf]
  refine (h.filter _).trans ?_
  rw [← filter_pieces_closed rfl]
  exact List.filter_sublist

lemma closed_append_feed {t : Text} (hne : t ≠ []) (hlast : t.getLast? ≠ some '\n') :
    closed t = t ++ ['\n'] := by
  have hd : dropFinalFeeds t = t := by
    unfold dropFinalFeeds
    rw [← List.head?_reverse] at hlast
    cases hr : t.reverse with
    | nil => simp_all
    | cons c r =>
      have hc : c ≠ '\n' := by simpa [hr] using hlast
      rw [List.dropWhile_cons_of_neg (by simpa using hc), ← hr, List.reverse_reverse]
  unfold closed
  rw [hd]
  cases t with
  | nil => exact absurd rfl hne
  | cons c t => rfl

/-- Joined lines, the last of which is not empty, are closed by the one line feed they lack. -/
lemma closed_unpieces {ls : List Line} (h : ∀ l ∈ ls, '\n' ∉ l) (hlast : ls.getLast? ≠ some []) :
    closed (unpieces ls) = ofLines ls := by
  rcases List.eq_nil_or_concat' ls with rfl | ⟨ks, l, rfl⟩
  · rfl
  · have hl : l ≠ [] := by simpa using hlast
    have hfeed : '\n' ∉ l := h l (by simp)
    have hend : (ofLines ks ++ l).getLast? ≠ some '\n' := by
      rw [List.getLast?_append_of_ne_nil _ hl]
      exact fun hn => hfeed (List.mem_of_getLast? hn)
    rw [unpieces_concat, closed_append_feed (by simp [hl]) hend, ofLines_concat]

/-! ### Lines -/

lemma not_mem_of_mem_lines {t : Text} {l : Line} (h : l ∈ lines t) : '\n' ∉ l := by
  obtain ⟨k, hk, rfl⟩ := List.mem_map.mp h
  have hp : k ∈ pieces t := by
    split at hk
    · exact List.dropLast_subset _ hk
    · exact hk
  have hn := not_mem_of_mem_pieces hp
  unfold dropReturn
  split
  · exact fun hc => hn (List.dropLast_subset _ hc)
  · exact hn

lemma lines_ofLines {ls : List Line} (h : ∀ l ∈ ls, '\n' ∉ l) (hr : ∀ l ∈ ls, '\r' ∉ l) :
    lines (ofLines ls) = ls := by
  have hdrop : ∀ l ∈ ls, dropReturn l = l := by
    intro l hl
    unfold dropReturn
    rw [if_neg fun hc => hr l hl (List.mem_of_getLast? hc)]
  simp only [lines, pieces_ofLines h, List.getLast?_concat, if_pos, List.dropLast_concat]
  rw [List.map_congr_left hdrop, List.map_id']

lemma getLast?_dropFinalFeeds (t : Text) : (dropFinalFeeds t).getLast? ≠ some '\n' := by
  intro h
  rw [dropFinalFeeds, List.getLast?_reverse] at h
  have hd := List.head?_dropWhile_not (· == '\n') t.reverse
  simp [h] at hd

/-- The text is empty, or exactly one line feed stands at its end, behind something else. -/
def IsClosed (t : Text) : Prop :=
  t = [] ∨ ∃ body, t = body ++ ['\n'] ∧ body ≠ [] ∧ body.getLast? ≠ some '\n'

lemma isClosed_closed (t : Text) : IsClosed (closed t) := by
  have hlast := getLast?_dropFinalFeeds t
  unfold closed
  cases hd : dropFinalFeeds t with
  | nil => exact Or.inl rfl
  | cons c body =>
    rw [hd] at hlast
    exact Or.inr ⟨c :: body, rfl, List.cons_ne_nil c body, hlast⟩

lemma exists_pieces_eq_concat {t : Text} (hne : t ≠ []) (hlast : t.getLast? ≠ some '\n') :
    ∃ ks l, pieces t = ks ++ [l] ∧ l ≠ [] := by
  obtain ⟨ks, l, hks⟩ := (List.eq_nil_or_concat' (pieces t)).resolve_left (pieces_ne_nil t)
  have ht : ofLines ks ++ l = t := by rw [← unpieces_concat, ← hks, unpieces_pieces]
  refine ⟨ks, l, hks, ?_⟩
  -- A last piece that is empty would stand behind a final line feed.
  rintro rfl
  rw [List.append_nil] at ht
  rcases List.eq_nil_or_concat' ks with rfl | ⟨js, k, rfl⟩
  · exact hne ht.symm
  · rw [← ht, ofLines_concat] at hlast
    exact hlast (List.getLast?_concat ..)

/-- Which pieces of a text are empty tells whether it is closed. -/
lemma isClosed_iff {t : Text} : IsClosed t ↔
    (pieces t).map List.isEmpty = [true] ∨
      ∃ marks, (pieces t).map List.isEmpty = marks ++ [false, true] := by
  constructor
  · rintro (rfl | ⟨body, rfl, hne, hlast⟩)
    · exact Or.inl rfl
    · obtain ⟨ks, l, hks, hl⟩ := exists_pieces_eq_concat hne hlast
      refine Or.inr ⟨ks.map List.isEmpty, ?_⟩
      rw [pieces_append_feed, hks]
      simp [hl]
  · rintro (h | ⟨marks, h⟩)
    · obtain ⟨l, hpieces, hl⟩ := List.map_eq_singleton_iff.mp h
      left
      rw [← unpieces_pieces t, hpieces, List.isEmpty_iff.mp hl]
      rfl
    · obtain ⟨ks, ends, hpieces, -, hends⟩ := List.map_eq_append_iff.mp h
      obtain ⟨l, more, rfl, hl, hmore⟩ := List.map_eq_cons_iff.mp hends
      obtain ⟨last, rfl, hempty⟩ := List.map_eq_singleton_iff.mp hmore
      have hne : l ≠ [] := by simpa using hl
      have hfeed : '\n' ∉ l := not_mem_of_mem_pieces (t := t) (by simp [hpieces])
      refine Or.inr ⟨ofLines ks ++ l, ?_, List.append_ne_nil_of_right_ne_nil _ hne, ?_⟩
      · rw [← unpieces_pieces t, hpieces, List.isEmpty_iff.mp hempty,
          show ks ++ [l, []] = ks ++ [l] ++ [[]] by simp, unpieces_concat, ofLines_concat,
          List.append_nil]
      · rw [List.getLast?_append_of_ne_nil _ hne]
        exact fun hlast => hfeed (List.mem_of_getLast? hlast)

/-- A closed text without carriage returns is its lines, each ended by a line feed. -/
lemma ofLines_lines {t : Text} (hc : closed t = t) (hr : '\r' ∉ t) :
    ofLines (lines t) = t ∧ (lines t).getLast? ≠ some [] ∧ ∀ l ∈ lines t, '\r' ∉ l := by
  rcases hc ▸ isClosed_closed t with rfl | ⟨body, rfl, hne, hlast⟩
  · simp [lines, pieces]
  · have hl : lines (body ++ ['\n']) = pieces body := by
      have hdrop : ∀ l ∈ pieces body, dropReturn l = l := by
        intro l hl
        unfold dropReturn
        rw [if_neg]
        intro he
        exact hr (List.mem_append_left _ (subset_of_mem_pieces hl (List.mem_of_getLast? he)))
      simp only [lines, pieces_append_feed, List.getLast?_concat, if_pos, List.dropLast_concat]
      rw [List.map_congr_left hdrop, List.map_id']
    rw [hl]
    obtain ⟨ks, l, hks, hlne⟩ := exists_pieces_eq_concat hne hlast
    refine ⟨?_, ?_, ?_⟩
    · rw [hks, ofLines_concat, ← unpieces_concat, ← hks, unpieces_pieces]
    · simpa [hks] using hlne
    · intro l hl hc
      exact hr (List.mem_append_left _ (subset_of_mem_pieces hl hc))

end DocGraft.Text
