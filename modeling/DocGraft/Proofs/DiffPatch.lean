import DocGraft.Proofs.DiffGroups
import DocGraft.Proofs.SelfAlignment

/-!
# A unified diff as a patch

The entries of a unified diff are read with the rules of the format: a header gives the place of its
group in both texts, and the mark in front of a line tells in which of them it stands. Read like this
the groups are an edit script from the lines of the first text to those of the second one. There are
no entries exactly if the texts are equal, also where most lines are too common to anchor a block.
-/

namespace DocGraft.Diff

/-! ### Reading a header -/

namespace Unified

/-- A number written with decimal digits. -/
def count? (t : Text) : Option Nat :=
  if t.isEmpty || !t.all Char.isDigit then none else some (Nat.ofDigitChars 10 t 0)

/-- The place of a range of so many lines that is said to start at a line, counted from one. A range
without lines stands behind the line that it names. -/
def place? (line length : Nat) : Option Nat :=
  if length = 0 then some line else if line = 0 then none else some (line - 1)

/-- The place and the length of a range; the length of one line may be left out. -/
def readRange? (t : Text) : Option (Nat × Nat) :=
  match t.splitOn ',' with
  | [line] => do return (← place? (← count? line) 1, 1)
  | [line, length] => do
    let length ← count? length
    return (← place? (← count? line) length, length)
  | _ => none

/-- The ranges that a header states; a section name may follow the second mark. -/
def readHeader? (t : Text) : Option Hunk := do
  let ranges ← Text.after? "@@ -".toList t
  let more ← Text.after? " +".toList (ranges.dropWhile (· ≠ ' '))
  let (beforeStart, beforeCount) ← readRange? (ranges.takeWhile (· ≠ ' '))
  let (afterStart, afterCount) ← readRange? (more.takeWhile (· ≠ ' '))
  let _ ← Text.after? " @@".toList (more.dropWhile (· ≠ ' '))
  return ⟨beforeStart, beforeCount, afterStart, afterCount⟩

lemma count?_toDigits (n : Nat) : count? (Nat.toDigits 10 n) = some n := by
  have hall : (Nat.toDigits 10 n).all Char.isDigit = true :=
    List.all_eq_true.mpr fun c hc => Nat.isDigit_of_mem_toDigits (by decide) (by decide) hc
  have hempty : (Nat.toDigits 10 n).isEmpty = false := by simp
  rw [count?, hall, hempty, Nat.ofDigitChars_ten_toDigits]
  rfl

lemma not_mem_toDigits {c : Char} (hc : c.isDigit = false) (n : Nat) : c ∉ Nat.toDigits 10 n := by
  intro h
  rw [Nat.isDigit_of_mem_toDigits (by decide) (by decide) h] at hc
  exact absurd hc (by decide)

lemma toList_range (start length : Nat) : (range start length).toList =
    if length = 1 then Nat.toDigits 10 (start + 1)
    else Nat.toDigits 10 (if length = 0 then start else start + 1) ++
      ',' :: Nat.toDigits 10 length := by
  unfold range
  split <;> simp [String.toList_append]

lemma readRange?_range (start length : Nat) :
    readRange? (range start length).toList = some (start, length) := by
  rw [toList_range, readRange?]
  by_cases hone : length = 1
  · rw [if_pos hone, List.splitOn_eq_singleton (not_mem_toDigits (by decide) _)]
    simp [count?_toDigits, place?, hone]
  · rw [if_neg hone, List.splitOn_append_cons_self_of_not_mem (not_mem_toDigits (by decide) _),
      List.splitOn_eq_singleton (not_mem_toDigits (by decide) _)]
    by_cases hnone : length = 0
    · simp only [hnone, if_true, count?_toDigits, place?, Option.bind_eq_bind, Option.bind_some]
      rfl
    · simp [count?_toDigits, place?, hnone]

/-- A range is written with digits and a comma. -/
lemma not_mem_range {c : Char} (hdigit : c.isDigit = false) (hcomma : c ≠ ',')
    (start length : Nat) : c ∉ (range start length).toList := by
  have hdigits := not_mem_toDigits hdigit
  rw [toList_range]
  split
  · exact hdigits _
  · simp only [List.mem_append, List.mem_cons, not_or]
    exact ⟨hdigits _, hcomma, hdigits _⟩

lemma span_range (start length : Nat) (rest : Text) :
    ((range start length).toList ++ ' ' :: rest).takeWhile (· ≠ ' ') = (range start length).toList ∧
      ((range start length).toList ++ ' ' :: rest).dropWhile (· ≠ ' ') = ' ' :: rest := by
  have hall : ∀ c ∈ (range start length).toList, decide (c ≠ ' ') = true := by
    intro c hc
    refine decide_eq_true ?_
    rintro rfl
    exact not_mem_range (by decide) (by decide) start length hc
  constructor
  · rw [List.takeWhile_append_of_pos hall]
    simp
  · rw [List.dropWhile_append_of_pos hall]
    simp

/-- A header, with anything behind its second mark. -/
def headed (h : Hunk) (rest : Text) : Text :=
  "@@ -".toList ++ ((range h.beforeStart h.beforeCount).toList ++ ' ' :: '+' ::
    ((range h.afterStart h.afterCount).toList ++ ' ' :: '@' :: '@' :: rest))

lemma readHeader?_headed (h : Hunk) (rest : Text) : readHeader? (headed h rest) = some h := by
  obtain ⟨i, m, j, n⟩ := h
  obtain ⟨htake, hdrop⟩ := span_range i m ('+' :: ((range j n).toList ++ ' ' :: '@' :: '@' :: rest))
  obtain ⟨htake', hdrop'⟩ := span_range j n ('@' :: '@' :: rest)
  have hstart : ∀ t, Text.after? "@@ -".toList ("@@ -".toList ++ t) = some t :=
    fun t => Text.after?_eq_some_iff.mpr rfl
  have hmark : ∀ t, Text.after? " +".toList (' ' :: '+' :: t) = some t :=
    fun t => Text.after?_eq_some_iff.mpr rfl
  have hend : ∀ t, Text.after? " @@".toList (' ' :: '@' :: '@' :: t) = some t :=
    fun t => Text.after?_eq_some_iff.mpr rfl
  rw [headed, readHeader?, hstart]
  simp only [Option.bind_eq_bind, Option.bind_some, hdrop, htake, hmark, hdrop', htake', hend,
    readRange?_range]
  rfl

lemma header_eq_headed (g : Group Text) : header g = headed g.hunk ['\n'] := by
  simp [header, headed, Group.hunk, String.toList_append]

/-! ### Entries of a group -/

def body (g : Group Text) : List Text := g.segments.flatMap segmentEntries

/-- The lines that stand behind one of the marks. -/
def marked (marks : List Char) (es : List Text) : List Text :=
  es.filterMap fun e =>
    match e with
    | [] => none
    | mark :: line => if mark ∈ marks then some line else none

lemma marked_append (marks : List Char) (es fs : List Text) :
    marked marks (es ++ fs) = marked marks es ++ marked marks fs := List.filterMap_append

lemma marked_map_cons (marks : List Char) (mark : Char) (ls : List Text) :
    marked marks (ls.map (mark :: ·)) = if mark ∈ marks then ls else [] := by
  rw [marked, List.filterMap_map]
  split
  · next h => simp [h]
  · next h => simp [h]

lemma marked_segmentEntries (s : Segment Text) :
    marked [' ', '-'] (segmentEntries s) = s.before ∧
      marked [' ', '+'] (segmentEntries s) = s.after := by
  cases s with
  | same run => simp [segmentEntries, marked_map_cons, Segment.before, Segment.after]
  | change removed added =>
    simp [segmentEntries, marked_append, marked_map_cons, Segment.before, Segment.after]

/-- The marks tell which lines a group has on each side. -/
lemma marked_body (g : Group Text) :
    marked [' ', '-'] (body g) = g.before ∧ marked [' ', '+'] (body g) = g.after := by
  have hflat : ∀ (marks : List Char) (side : Segment Text → List Text),
      (∀ s, marked marks (segmentEntries s) = side s) →
        ∀ segments : List (Segment Text), marked marks (segments.flatMap segmentEntries) =
          segments.flatMap side := by
    intro marks side hside segments
    induction segments with
    | nil => rfl
    | cons s rest ih => rw [List.flatMap_cons, List.flatMap_cons, marked_append, hside, ih]
  exact ⟨hflat _ _ (fun s => (marked_segmentEntries s).1) _,
    hflat _ _ (fun s => (marked_segmentEntries s).2) _⟩

lemma exists_mark_of_mem_body {g : Group Text} {e : Text} (h : e ∈ body g) :
    ∃ mark ∈ [' ', '-', '+'], ∃ l, e = mark :: l ∧ (l ∈ g.before ∨ l ∈ g.after) := by
  obtain ⟨s, hs, he⟩ := List.mem_flatMap.mp h
  have hbefore : ∀ l ∈ s.before, l ∈ g.before := fun l hl => List.mem_flatMap_of_mem hs hl
  have hafter : ∀ l ∈ s.after, l ∈ g.after := fun l hl => List.mem_flatMap_of_mem hs hl
  cases s with
  | same run =>
    obtain ⟨l, hl, rfl⟩ := List.mem_map.mp he
    exact ⟨' ', by simp, l, rfl, .inl (hbefore l hl)⟩
  | change removed added =>
    rcases List.mem_append.mp he with he | he
    · obtain ⟨l, hl, rfl⟩ := List.mem_map.mp he
      exact ⟨'-', by simp, l, rfl, .inl (hbefore l hl)⟩
    · obtain ⟨l, hl, rfl⟩ := List.mem_map.mp he
      exact ⟨'+', by simp, l, rfl, .inr (hafter l hl)⟩

/-- A header and the entries behind it say what a hunk replaces in one list of lines by what it has
in another. -/
structure Tells (before after : List Line) (h : Hunk) (header : Text) (body : List Text) :
    Prop where
  places : readHeader? header = some h
  marks : ∀ e ∈ body, ∃ mark ∈ [' ', '-', '+'], ∃ l, e = mark :: l
  removed : marked [' ', '-'] body = h.removed before
  added : marked [' ', '+'] body = h.added after

/-! ### The groups of two texts -/

variable (before after : Text)

lemma interleaved_groups : Group.Interleaved 0 0 (Text.brokenLines before)
    (Text.brokenLines after) (groups before after) := by
  have h := Group.interleaved_ofSegments
    (align (popular (Text.brokenLines after)).contains (Text.brokenLines before)
      (Text.brokenLines after))
  rwa [flatMap_before_align, flatMap_after_align] at h

lemma isEditScript_groups : Hunk.IsEditScript (Text.brokenLines before) (Text.brokenLines after)
    ((groups before after).map Group.hunk) := by
  have h := interleaved_groups before after
  refine ⟨?_, ?_, pairwise_of_isChain_parted h.isChain_parted, h.isChain_parted, h.gaps_eq rfl rfl⟩
  · rw [List.forall_mem_map]
    exact fun g hg => (h.window_of_mem (Nat.zero_le _) (Nat.zero_le _) rfl rfl hg).1
  · rw [List.forall_mem_map]
    exact fun g hg => Group.length_pos_of_mem_ofSegments (fun s => isProper_of_mem_align _) hg

lemma laid_groups : Hunk.Laid (Text.brokenLines after).length 0
    (((groups before after).map Group.hunk).map Hunk.afterRange) :=
  (interleaved_groups before after).laid (Nat.zero_le _) rfl (Nat.le_refl 0)

lemma tells_of_mem_groups {g : Group Text} (hg : g ∈ groups before after) :
    Tells (Text.brokenLines before) (Text.brokenLines after) g.hunk (header g) (body g) := by
  obtain ⟨-, hremoved, hadded⟩ := (interleaved_groups before after).window_of_mem
    (Nat.zero_le _) (Nat.zero_le _) rfl rfl hg
  refine ⟨?_, ?_, (marked_body g).1.trans hremoved.symm, (marked_body g).2.trans hadded.symm⟩
  · rw [header_eq_headed]
    exact readHeader?_headed ..
  · intro e he
    obtain ⟨mark, hmark, l, hl, -⟩ := exists_mark_of_mem_body he
    exact ⟨mark, hmark, l, hl⟩

lemma groups_self (t : Text) : groups t t = [] := by
  simp only [groups]
  by_cases hnil : Text.brokenLines t = []
  · rw [hnil, align_nil]
    rfl
  · rw [align_self _ _ hnil, Group.ofSegments_same]

lemma groups_eq_nil_iff : groups before after = [] ↔ before = after :=
  ⟨fun h => by_contra fun hne => groups_ne_nil hne h, by rintro rfl; exact groups_self before⟩

/-- The two entries that name the texts. -/
def names (path : Text) : List Text :=
  ["--- a/".toList ++ path ++ ['\n'], "+++ b/".toList ++ path ++ ['\n']]

lemma entries_eq (path : Text) : entries before after path =
    if before = after then []
    else names path ++ (groups before after).flatMap fun g => header g :: body g := by
  split
  · next h =>
    rw [entries, (groups_eq_nil_iff before after).mpr h]
  · next h =>
    unfold entries
    split
    · next hnil => exact absurd ((groups_eq_nil_iff before after).mp hnil) h
    · rfl

/-- The diff of two texts is a patch. It is empty exactly if the texts are equal, and otherwise names
them and goes on with groups. The ranges that the headers state are an edit script from the lines of
one text to those of the other, each group shows the lines of both texts in its ranges, and putting
what it shows of the second text in the place of its range of the first rebuilds the second text. -/
theorem diff_is_patch (path : Text) :
    (diff before after path = [] ↔ before = after) ∧
    entries before after path = (if before = after then []
      else names path ++ (groups before after).flatMap fun g => header g :: body g) ∧
    Hunk.IsEditScript (Text.brokenLines before) (Text.brokenLines after)
      ((groups before after).map Group.hunk) ∧
    (∀ g ∈ groups before after,
      Tells (Text.brokenLines before) (Text.brokenLines after) g.hunk (header g) (body g)) ∧
    (Patch.plainSplice (Text.brokenLines before) 0 ((groups before after).map fun g =>
      Patch.inPlaceOf g.hunk (marked [' ', '+'] (body g)))).flatten = after := by
  have hscript := isEditScript_groups before after
  have htells := fun g => tells_of_mem_groups before after (g := g)
  refine ⟨⟨?_, ?_⟩, entries_eq before after path, hscript, htells, ?_⟩
  · intro hdiff
    by_contra hne
    exact diff_ne_nil hne path hdiff
  · intro heq
    rw [diff, entries_eq, if_pos heq, List.flatten_nil]
  · have hpatches : ((groups before after).map fun g =>
        Patch.inPlaceOf g.hunk (marked [' ', '+'] (body g))) =
        ((groups before after).map Group.hunk).map fun h =>
          Patch.inPlaceOf h (h.added (Text.brokenLines after)) := by
      rw [List.map_map]
      exact List.map_congr_left fun g hg => congrArg (Patch.inPlaceOf g.hunk) (htells g hg).added
    rw [hpatches, Hunk.plainSplice_added hscript.gaps_eq (laid_groups before after), List.drop_zero,
      Text.flatten_brokenLines]

/-- A text that loses its first line. -/
theorem diff_is_patch_of_first_line_removed :
    let shown : Group Text := ⟨0, 0, [.change ["a\n".toList] [], .same ["b\n".toList]]⟩
    groups "a\nb\n".toList "b\n".toList = [shown] ∧
      header shown = "@@ -1,2 +1 @@\n".toList ∧
      Tells ["a\n".toList, "b\n".toList] ["b\n".toList] shown.hunk (header shown) (body shown) := by
  intro shown
  have hgroups : groups "a\nb\n".toList "b\n".toList = [shown] := by decide +kernel
  have htells := (diff_is_patch "a\nb\n".toList "b\n".toList []).2.2.2.1 shown
    (by rw [hgroups]; exact List.mem_singleton_self shown)
  exact ⟨hgroups, by decide, htells⟩

end Unified

end DocGraft.Diff
