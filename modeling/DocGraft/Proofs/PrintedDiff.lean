import DocGraft.Proofs.AttributeSpelling
import DocGraft.Proofs.DiffPatch

/-!
# Reading a printed diff

The entries of a diff are printed without anything between them, and a reader cuts the text at line
feeds. The cut gives the entries back exactly if each of them but the last ends in a line feed. Then
the printed diff reads as a patch: each record begins as the format wants, and behind a header stand
as many lines of each side as it states. An entry for a line that ends otherwise, or in nothing, runs
together with the next one.
-/

namespace DocGraft.Diff.Unified

open Text (pieces)

/-! ### Records -/

/-- What lies between line feeds; a final line feed opens no further record. -/
def records (t : Text) : List Text :=
  if (pieces t).getLast? = some [] then (pieces t).dropLast else pieces t

/-- Whether a text ends in a line feed. -/
def endsInFeed (e : Text) : Bool := e.getLast? == some '\n'

/-- An entry without the line feed at its end. -/
def bare (e : Text) : Text := if endsInFeed e then e.dropLast else e

/-- An entry is not empty and has no line feed but at its end. -/
structure IsEntry (e : Text) : Prop where
  ne_nil : e ≠ []
  single : '\n' ∉ e.dropLast

variable {e l t : Text} {es : List Text}

lemma endsInFeed_concat (l : Text) : endsInFeed (l ++ ['\n']) = true := by
  rw [endsInFeed, List.getLast?_concat]
  rfl

lemma bare_concat (l : Text) : bare (l ++ ['\n']) = l := by
  rw [bare, endsInFeed_concat, if_pos rfl, List.dropLast_concat]

lemma endsInFeed_cons (c : Char) (h : l ≠ []) : endsInFeed (c :: l) = endsInFeed l := by
  rw [endsInFeed, List.getLast?_cons_of_ne_nil h, endsInFeed]

lemma bare_cons (c : Char) (h : l ≠ []) : bare (c :: l) = c :: bare l := by
  unfold bare
  rw [endsInFeed_cons c h, List.dropLast_cons_of_ne_nil h]
  split
  · rfl
  · rfl

lemma isEntry_concat (h : '\n' ∉ l) : IsEntry (l ++ ['\n']) :=
  ⟨by simp, by rwa [List.dropLast_concat]⟩

lemma IsEntry.cons {c : Char} (h : IsEntry l) (hc : c ≠ '\n') : IsEntry (c :: l) := by
  refine ⟨List.cons_ne_nil c l, ?_⟩
  rw [List.dropLast_cons_of_ne_nil h.ne_nil, List.mem_cons, not_or]
  exact ⟨hc.symm, h.single⟩

/-- An entry ends in its only line feed, or has none. -/
lemma IsEntry.cases (h : IsEntry e) : (∃ l, '\n' ∉ l ∧ e = l ++ ['\n']) ∨
    '\n' ∉ e ∧ endsInFeed e = false := by
  obtain ⟨l, c, rfl⟩ := (List.eq_nil_or_concat' e).resolve_left h.ne_nil
  have hl : '\n' ∉ l := by simpa using h.single
  by_cases hc : c = '\n'
  · exact .inl ⟨l, hl, by rw [hc]⟩
  · refine .inr ⟨by simp [hl, Ne.symm hc], ?_⟩
    rw [endsInFeed, List.getLast?_concat]
    simpa using hc

lemma records_nil : records [] = [] := rfl

lemma records_of_not_mem (hne : l ≠ []) (h : '\n' ∉ l) : records l = [l] := by
  have hpieces : pieces l = [l] := List.splitOn_eq_singleton h
  rw [records, hpieces, if_neg]
  simpa using hne

lemma records_append_feed (h : '\n' ∉ l) (t : Text) :
    records (l ++ '\n' :: t) = l :: records t := by
  have hpieces : pieces (l ++ '\n' :: t) = l :: pieces t :=
    List.splitOn_append_cons_self_of_not_mem h t
  have hne := Text.pieces_ne_nil t
  unfold records
  rw [hpieces, List.getLast?_cons_of_ne_nil hne, List.dropLast_cons_of_ne_nil hne]
  split
  · rfl
  · rfl

/-- Entries that end in line feeds, up to the last one, are cut apart again. -/
lemma records_flatten (h : ∀ e ∈ es, IsEntry e) (hfeed : ∀ e ∈ es.dropLast, endsInFeed e = true) :
    records es.flatten = es.map bare := by
  induction es with
  | nil => exact records_nil
  | cons e es ih =>
    have hrest := fun k hk => h k (List.mem_cons_of_mem e hk)
    rcases (h e List.mem_cons_self).cases with ⟨l, hl, rfl⟩ | ⟨hnone, hopen⟩
    · have htail : records es.flatten = es.map bare := by
        cases es with
        | nil => exact records_nil
        | cons k es => exact ih hrest fun d hd => hfeed d (List.mem_cons_of_mem _ hd)
      rw [List.flatten_cons, List.append_assoc, List.singleton_append, records_append_feed hl,
        htail, List.map_cons, bare_concat]
    · cases es with
      | nil =>
        rw [List.flatten_singleton, records_of_not_mem (h e List.mem_cons_self).ne_nil hnone,
          List.map_singleton, bare, hopen]
        rfl
      | cons k es =>
        have hclosed := hfeed e List.mem_cons_self
        rw [hopen] at hclosed
        exact absurd hclosed (by decide)

lemma length_records (hne : t ≠ []) :
    (records t).length = t.count '\n' + if endsInFeed t then 0 else 1 := by
  obtain ⟨l, c, rfl⟩ := (List.eq_nil_or_concat' t).resolve_left hne
  by_cases hc : c = '\n'
  · rw [hc, records, Text.pieces_append_feed, List.getLast?_concat, if_pos rfl,
      List.dropLast_concat, Text.length_pieces, endsInFeed_concat]
    simp
  · have hlast : (pieces (l ++ [c])).getLast? ≠ some [] := by
      intro hempty
      obtain ⟨front, hfront⟩ := List.getLast?_eq_some_iff.mp hempty
      have hwhole := Text.unpieces_pieces (l ++ [c])
      rw [hfront, Text.unpieces_concat, List.append_nil] at hwhole
      rcases List.eq_nil_or_concat' front with rfl | ⟨front, k, rfl⟩
      · exact absurd hwhole (by simp [Text.ofLines])
      · rw [Text.ofLines_concat] at hwhole
        exact hc (List.append_inj_right' hwhole rfl |> List.singleton_inj.mp).symm
    have hopen : endsInFeed (l ++ [c]) = false := by
      rw [endsInFeed, List.getLast?_concat]
      simpa using hc
    rw [records, if_neg hlast, Text.length_pieces, hopen]
    rfl

lemma count_flatten (h : ∀ e ∈ es, IsEntry e) : es.flatten.count '\n' = es.countP endsInFeed := by
  induction es with
  | nil => rfl
  | cons e es ih =>
    rw [List.flatten_cons, List.count_append, ih fun k hk => h k (List.mem_cons_of_mem e hk),
      List.countP_cons]
    rcases (h e List.mem_cons_self).cases with ⟨l, hl, rfl⟩ | ⟨hnone, hopen⟩
    · rw [List.count_append, List.count_eq_zero_of_not_mem hl, endsInFeed_concat]
      simp [Nat.add_comm]
    · rw [List.count_eq_zero_of_not_mem hnone, hopen]
      simp

lemma feeds_of_records_flatten (h : ∀ e ∈ es, IsEntry e)
    (hrecords : records es.flatten = es.map bare) : ∀ e ∈ es.dropLast, endsInFeed e = true := by
  rcases List.eq_nil_or_concat' es with rfl | ⟨front, last, rfl⟩
  · simp
  · rw [List.dropLast_concat]
    have hlast := h last (by simp)
    have hne : (front ++ [last]).flatten ≠ [] := by simp [hlast.ne_nil]
    have hends : endsInFeed (front ++ [last]).flatten = endsInFeed last := by
      rw [List.flatten_append, List.flatten_singleton, endsInFeed,
        List.getLast?_append_of_ne_nil _ hlast.ne_nil, endsInFeed]
    have hlength := congrArg List.length hrecords
    rw [length_records hne, count_flatten h, hends, List.length_map, List.length_append,
      List.countP_append, List.countP_singleton, List.length_singleton] at hlength
    apply List.countP_eq_length.mp
    split at hlength
    · omega
    · omega

/-! ### The entries of a diff -/

lemma isEntry_of_mem_brokenLines (t : Text) : ∀ l ∈ Text.brokenLines t, IsEntry l := by
  fun_induction Text.brokenLines t with
  | case1 => simp
  | case2 rest ih =>
    exact List.forall_mem_cons.mpr ⟨isEntry_concat (by decide : '\n' ∉ ['\r']), ih⟩
  | case3 c rest _ hbreak ih =>
    exact List.forall_mem_cons.mpr ⟨⟨List.cons_ne_nil c [], by simp⟩, ih⟩
  | case4 c rest _ hbreak ih =>
    have hc : c ≠ '\n' := by
      rintro rfl
      exact hbreak (by decide)
    cases hlines : Text.brokenLines rest with
    | nil => exact List.forall_mem_singleton.mpr ⟨List.cons_ne_nil c [], by simp⟩
    | cons first later =>
      rw [hlines] at ih
      exact List.forall_mem_cons.mpr ⟨(ih first List.mem_cons_self).cons hc,
        fun l hl => ih l (List.mem_cons_of_mem first hl)⟩

variable {before after path : Text} {g : Group Text}

/-- A group shows lines of the two texts. -/
lemma mem_brokenLines_of_mem_group (hg : g ∈ groups before after)
    (h : l ∈ g.before ∨ l ∈ g.after) :
    l ∈ Text.brokenLines before ++ Text.brokenLines after := by
  obtain ⟨-, hremoved, hadded⟩ := (interleaved_groups before after).window_of_mem
    (Nat.zero_le _) (Nat.zero_le _) rfl rfl hg
  rcases h with h | h
  · rw [← hremoved] at h
    exact List.mem_append_left _ (List.mem_of_mem_drop (List.mem_of_mem_take h))
  · rw [← hadded] at h
    exact List.mem_append_right _ (List.mem_of_mem_drop (List.mem_of_mem_take h))

/-- An entry of a group is a mark and a line. -/
lemma exists_of_mem_body (hg : g ∈ groups before after) (h : e ∈ body g) :
    ∃ mark ∈ [' ', '-', '+'], ∃ l, IsEntry l ∧
      l ∈ Text.brokenLines before ++ Text.brokenLines after ∧ e = mark :: l := by
  obtain ⟨mark, hmark, l, rfl, hl⟩ := exists_mark_of_mem_body h
  have hmem := mem_brokenLines_of_mem_group hg hl
  refine ⟨mark, hmark, l, ?_, hmem, rfl⟩
  exact (List.mem_append.mp hmem).elim (isEntry_of_mem_brokenLines _ l)
    (isEntry_of_mem_brokenLines _ l)

lemma header_eq_concat (g : Group Text) : header g = headed g.hunk [] ++ ['\n'] := by
  rw [header_eq_headed, headed, headed]
  simp only [List.append_assoc, List.cons_append, List.nil_append]

lemma feed_not_mem_headed (h : Hunk) : '\n' ∉ headed h [] := by
  simp [headed, not_mem_range (c := '\n') (by decide) (by decide)]

lemma isEntry_of_mem_names (hpath : '\n' ∉ path) (h : e ∈ names path) : IsEntry e := by
  simp only [names, List.mem_cons, List.not_mem_nil, or_false] at h
  rcases h with rfl | rfl
  · exact isEntry_concat (by simp [hpath])
  · exact isEntry_concat (by simp [hpath])

/-- An entry names a text, is the header of a group or belongs to its body. -/
lemma mem_entries_cases (h : e ∈ entries before after path) :
    e ∈ names path ∨ ∃ g ∈ groups before after, e = header g ∨ e ∈ body g := by
  rw [entries_eq] at h
  split at h
  · simp at h
  · rcases List.mem_append.mp h with h | h
    · exact .inl h
    · obtain ⟨g, hg, h⟩ := List.mem_flatMap.mp h
      exact .inr ⟨g, hg, List.mem_cons.mp h⟩

lemma isEntry_of_mem_entries (hpath : '\n' ∉ path) (h : e ∈ entries before after path) :
    IsEntry e := by
  rcases mem_entries_cases h with h | ⟨g, hg, rfl | h⟩
  · exact isEntry_of_mem_names hpath h
  · rw [header_eq_concat]
    exact isEntry_concat (feed_not_mem_headed g.hunk)
  · obtain ⟨mark, hmark, l, hl, -, rfl⟩ := exists_of_mem_body hg h
    refine hl.cons ?_
    rintro rfl
    simp at hmark

/-- The entries for whole lines end in line feeds. -/
lemma endsInFeed_of_mem_entries
    (h : ∀ l ∈ Text.brokenLines before ++ Text.brokenLines after, endsInFeed l = true)
    (he : e ∈ entries before after path) : endsInFeed e = true := by
  rcases mem_entries_cases he with he | ⟨g, hg, rfl | he⟩
  · simp only [names, List.mem_cons, List.not_mem_nil, or_false] at he
    rcases he with rfl | rfl
    · exact endsInFeed_concat _
    · exact endsInFeed_concat _
  · rw [header_eq_concat]
    exact endsInFeed_concat _
  · obtain ⟨mark, -, l, hl, hmem, rfl⟩ := exists_of_mem_body hg he
    rw [endsInFeed_cons mark hl.ne_nil]
    exact h l hmem

/-! ### Reading the records -/

/-- How records begin. -/
def starts : List Text := ["--- ".toList, "+++ ".toList, "@@ ".toList, [' '], ['-'], ['+']]

def isHeader (r : Text) : Bool := "@@ ".toList.isPrefixOf r

/-- The records before the first header, and each header with the records behind it. -/
def sections : List Text → List Text × List (Text × List Text)
  | [] => ([], [])
  | r :: rest =>
    let (front, later) := sections rest
    if isHeader r then ([], (r, front) :: later) else (r :: front, later)

/-- Records can be read as a patch: each begins as the format wants, and behind each header stand as
many lines of both sides as it states. -/
structure ReadsAsPatch (rs : List Text) : Prop where
  starts : ∀ r ∈ rs, ∃ start ∈ starts, start <+: r
  counts : ∀ s ∈ (sections rs).2, ∃ h, readHeader? s.1 = some h ∧
    (marked [' ', '-'] s.2).length = h.beforeCount ∧ (marked [' ', '+'] s.2).length = h.afterCount

lemma sections_append (front rs : List Text) (h : ∀ r ∈ front, isHeader r = false) :
    sections (front ++ rs) = (front ++ (sections rs).1, (sections rs).2) := by
  induction front with
  | nil => rfl
  | cons r front ih =>
    have hr := h r List.mem_cons_self
    rw [List.cons_append, sections, ih fun k hk => h k (List.mem_cons_of_mem r hk)]
    simp only [hr]
    rfl

/-- Headers are found again, each with its records. -/
lemma sections_flatMap {ι : Type} (gs : List ι) (top : ι → Text) (under : ι → List Text)
    (htop : ∀ g ∈ gs, isHeader (top g) = true)
    (hunder : ∀ g ∈ gs, ∀ r ∈ under g, isHeader r = false) :
    sections (gs.flatMap fun g => top g :: under g) = ([], gs.map fun g => (top g, under g)) := by
  induction gs with
  | nil => rfl
  | cons g gs ih =>
    have hrest := ih (fun k hk => htop k (List.mem_cons_of_mem g hk))
      fun k hk => hunder k (List.mem_cons_of_mem g hk)
    rw [List.flatMap_cons, List.cons_append, sections,
      sections_append _ _ (hunder g List.mem_cons_self), hrest]
    simp [htop g List.mem_cons_self]

lemma bare_header (g : Group Text) : bare (header g) = headed g.hunk [] := by
  rw [header_eq_concat, bare_concat]

lemma start_prefix_headed (h : Hunk) (rest : Text) : "@@ ".toList <+: headed h rest :=
  ⟨_, rfl⟩

lemma bare_of_mem_body (hg : g ∈ groups before after) (h : e ∈ body g) :
    ∃ mark ∈ [' ', '-', '+'], ∃ l, e = mark :: l ∧ bare e = mark :: bare l := by
  obtain ⟨mark, hmark, l, hl, -, rfl⟩ := exists_of_mem_body hg h
  exact ⟨mark, hmark, l, rfl, bare_cons mark hl.ne_nil⟩

lemma isHeader_of_mem_body (hg : g ∈ groups before after) {r : Text} (h : r ∈ (body g).map bare) :
    isHeader r = false := by
  obtain ⟨e, he, rfl⟩ := List.mem_map.mp h
  obtain ⟨mark, hmark, l, -, heq⟩ := bare_of_mem_body hg he
  rw [heq]
  simp only [List.mem_cons, List.not_mem_nil, or_false] at hmark
  rcases hmark with rfl | rfl | rfl
  · rfl
  · rfl
  · rfl

/-- Taking the line feeds away keeps the marks. -/
lemma marked_map_bare (hg : g ∈ groups before after) (marks : List Char) :
    marked marks ((body g).map bare) = (marked marks (body g)).map bare := by
  have hall : ∀ es : List Text, (∀ e ∈ es, e ∈ body g) →
      marked marks (es.map bare) = (marked marks es).map bare := by
    intro es hes
    induction es with
    | nil => rfl
    | cons e es ih =>
      obtain ⟨mark, -, l, rfl, heq⟩ := bare_of_mem_body hg (hes e List.mem_cons_self)
      have hrest := ih fun k hk => hes k (List.mem_cons_of_mem _ hk)
      unfold marked at hrest ⊢
      rw [List.map_cons, heq, List.filterMap_cons, List.filterMap_cons, hrest]
      by_cases hmark : mark ∈ marks
      · simp [hmark]
      · simp [hmark]
  exact hall (body g) fun e he => he

lemma exists_start_of_mem_entries (h : e ∈ entries before after path) :
    ∃ start ∈ starts, start <+: bare e := by
  rcases mem_entries_cases h with h | ⟨g, hg, rfl | h⟩
  · simp only [names, List.mem_cons, List.not_mem_nil, or_false] at h
    rcases h with rfl | rfl
    · exact ⟨"--- ".toList, by simp [starts], by rw [bare_concat]; exact ⟨_, rfl⟩⟩
    · exact ⟨"+++ ".toList, by simp [starts], by rw [bare_concat]; exact ⟨_, rfl⟩⟩
  · exact ⟨"@@ ".toList, by simp [starts], bare_header g ▸ start_prefix_headed ..⟩
  · obtain ⟨mark, hmark, l, -, heq⟩ := bare_of_mem_body hg h
    refine ⟨[mark], ?_, heq ▸ ⟨_, rfl⟩⟩
    simp only [List.mem_cons, List.not_mem_nil, or_false] at hmark
    rcases hmark with rfl | rfl | rfl
    · decide
    · decide
    · decide

/-- The records of a diff hold one section for each group. -/
lemma sections_entries (before after path : Text) :
    (sections ((entries before after path).map bare)).2 =
      (groups before after).map fun g => (bare (header g), (body g).map bare) := by
  rw [entries_eq]
  split
  · next heq =>
    rw [(groups_eq_nil_iff before after).mpr heq]
    rfl
  · have hgroups := sections_flatMap (groups before after) (fun g => bare (header g))
      (fun g => (body g).map bare)
      (fun g _ => List.isPrefixOf_iff_prefix.mpr (bare_header g ▸ start_prefix_headed ..))
      (fun g hg r hr => isHeader_of_mem_body hg hr)
    rw [List.map_append, List.map_flatMap, sections_append]
    · exact congrArg Prod.snd hgroups
    · intro r hr
      simp only [names, List.map_cons, List.map_nil, bare_concat, List.mem_cons,
        List.not_mem_nil, or_false] at hr
      rcases hr with rfl | rfl
      · rfl
      · rfl

lemma readsAsPatch_entries (before after path : Text) :
    ReadsAsPatch ((entries before after path).map bare) := by
  refine ⟨?_, ?_⟩
  · intro r hr
    obtain ⟨e, he, rfl⟩ := List.mem_map.mp hr
    exact exists_start_of_mem_entries he
  · intro s hs
    rw [sections_entries] at hs
    obtain ⟨g, hg, rfl⟩ := List.mem_map.mp hs
    refine ⟨g.hunk, ?_, ?_, ?_⟩
    · rw [bare_header]
      exact readHeader?_headed ..
    · rw [marked_map_bare hg, List.length_map, (marked_body g).1]
      rfl
    · rw [marked_map_bare hg, List.length_map, (marked_body g).2]
      rfl

/-- Cutting a printed diff at line feeds gives back its entries exactly if all of them but the last
end in a line feed, and then it reads as a patch. So it does for texts of whole lines, which know no
other line boundary and do not break off in a line. -/
theorem printed_diff_reads_as_patch (before after path : Text) (hpath : '\n' ∉ path) :
    (records (diff before after path) = (entries before after path).map bare ↔
      ∀ e ∈ (entries before after path).dropLast, endsInFeed e = true) ∧
    ((∀ e ∈ (entries before after path).dropLast, endsInFeed e = true) →
      ReadsAsPatch (records (diff before after path))) ∧
    ((∀ l ∈ Text.brokenLines before ++ Text.brokenLines after, endsInFeed l = true) →
      ReadsAsPatch (records (diff before after path))) := by
  have hentries : ∀ e ∈ entries before after path, IsEntry e :=
    fun e he => isEntry_of_mem_entries hpath he
  have hcut := records_flatten hentries
  have hreads : (∀ e ∈ (entries before after path).dropLast, endsInFeed e = true) →
      ReadsAsPatch (records (diff before after path)) := by
    intro hfeed
    rw [diff, hcut hfeed]
    exact readsAsPatch_entries before after path
  refine ⟨⟨feeds_of_records_flatten hentries, hcut⟩, hreads, ?_⟩
  intro hwhole
  exact hreads fun e he => endsInFeed_of_mem_entries hwhole (List.dropLast_subset _ he)

/-- A change before a line that breaks off in both texts: the entry for this line is the last one. -/
theorem printed_diff_reads_as_patch_before_open_line :
    '\n' ∉ "a.rs".toList ∧
      (∀ e ∈ (entries "/// A\nfn a() {}".toList "fn a() {}".toList "a.rs".toList).dropLast,
        endsInFeed e = true) ∧
      records (diff "/// A\nfn a() {}".toList "fn a() {}".toList "a.rs".toList) =
        ["--- a/a.rs".toList, "+++ b/a.rs".toList, "@@ -1,2 +1 @@".toList, "-/// A".toList,
          " fn a() {}".toList] ∧
      ReadsAsPatch (records (diff "/// A\nfn a() {}".toList "fn a() {}".toList "a.rs".toList)) := by
  have hpath : '\n' ∉ "a.rs".toList := by decide
  have hfeed : ∀ e ∈ (entries "/// A\nfn a() {}".toList "fn a() {}".toList "a.rs".toList).dropLast,
      endsInFeed e = true := by decide +kernel
  exact ⟨hpath, hfeed, by decide +kernel,
    (printed_diff_reads_as_patch "/// A\nfn a() {}".toList "fn a() {}".toList "a.rs".toList
      hpath).2.1 hfeed⟩

/-- Where only one of two texts breaks off in its last line, a removed line and an added one become
one record, and the group has fewer records than its header states. -/
theorem printed_diff_of_open_line_is_no_patch :
    records (diff "/// A\nfn a() {}".toList "#[omnidoc]\nfn a() {}\n".toList "a.rs".toList) =
        ["--- a/a.rs".toList, "+++ b/a.rs".toList, "@@ -1,2 +1,2 @@".toList, "-/// A".toList,
          "-fn a() {}+#[omnidoc]".toList, "+fn a() {}".toList] ∧
      ¬ ReadsAsPatch (records
        (diff "/// A\nfn a() {}".toList "#[omnidoc]\nfn a() {}\n".toList "a.rs".toList)) := by
  have hrecords : records
      (diff "/// A\nfn a() {}".toList "#[omnidoc]\nfn a() {}\n".toList "a.rs".toList) =
        ["--- a/a.rs".toList, "+++ b/a.rs".toList, "@@ -1,2 +1,2 @@".toList, "-/// A".toList,
          "-fn a() {}+#[omnidoc]".toList, "+fn a() {}".toList] := by decide +kernel
  refine ⟨hrecords, ?_⟩
  rw [hrecords]
  intro h
  obtain ⟨stated, hheader, -, hadded⟩ := h.counts
    ("@@ -1,2 +1,2 @@".toList, ["-/// A".toList, "-fn a() {}+#[omnidoc]".toList,
      "+fn a() {}".toList]) (by decide)
  have hstated : readHeader? "@@ -1,2 +1,2 @@".toList = some ⟨0, 2, 0, 2⟩ :=
    readHeader?_headed ⟨0, 2, 0, 2⟩ []
  obtain rfl := Option.some.inj (hheader.symm.trans hstated)
  exact absurd hadded (by decide)

end DocGraft.Diff.Unified
