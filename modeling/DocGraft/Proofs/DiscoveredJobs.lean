import DocGraft.Proofs.BatchWriting
import Mathlib.Data.List.Nodup

/-!
# Jobs that are discovered

The jobs of a directory are one for each file below it. In a tree as it is on a disk their names in
reports differ, their outputs differ, and no two outputs ever lead to one place, whether or not the
output directory is one of the two that are read. There are no jobs at all if something below the
directory has a path that is too long to be asked for.
-/

namespace DocGraft

/-- Names that lead from a directory to a file below it: there is one, none goes back or is too
long, and none holds a separator or a null character. -/
structure Place.IsDescent (names : Place) : Prop where
  ne_nil : names ≠ []
  not_back : ".." ∉ names
  short : ∀ name ∈ names, name.utf8ByteSize ≤ Tree.longestName
  not_separator : ∀ name ∈ names, '/' ∉ name.toList
  not_null : ∀ name ∈ names, '\x00' ∉ name.toList

instance (names : Place) : Decidable names.IsDescent :=
  decidable_of_iff (names ≠ [] ∧ ".." ∉ names ∧
    (∀ name ∈ names, name.utf8ByteSize ≤ Tree.longestName) ∧
    (∀ name ∈ names, '/' ∉ name.toList) ∧ ∀ name ∈ names, '\x00' ∉ name.toList)
    ⟨fun h => ⟨h.1, h.2.1, h.2.2.1, h.2.2.2.1, h.2.2.2.2⟩,
      fun h => ⟨h.ne_nil, h.not_back, h.short, h.not_separator, h.not_null⟩⟩

namespace Tree

/-- A tree as it is on a disk: every file is listed once, by names that lead to it, and no file is a
directory. -/
structure IsProper (t : Tree) : Prop where
  nodup : (t.files.map Prod.fst).Nodup
  isDescent : ∀ f ∈ t.files, Place.IsDescent f.1
  noDir : ∀ f ∈ t.files, t.hasDir f.1 = false

instance (t : Tree) : Decidable t.IsProper :=
  decidable_of_iff ((t.files.map Prod.fst).Nodup ∧ (∀ f ∈ t.files, Place.IsDescent f.1) ∧
    ∀ f ∈ t.files, t.hasDir f.1 = false)
    ⟨fun h => ⟨h.1, h.2.1, h.2.2⟩, fun h => ⟨h.nodup, h.isDescent, h.noDir⟩⟩

/-- The path that leads to a directory, and the paths that lead on from there to what is below it,
can all be asked for. -/
structure IsExplorable (t : Tree) (p : Path) : Prop where
  found : t.place p ≠ .error .nameTooLong
  below : ∀ q names, t.place p = .ok q →
    t.hasDir (q ++ names) = true ∨ (t.file? (q ++ names)).isSome = true →
    (p.append names).text.utf8ByteSize ≤ longestPath

variable {t : Tree} {p : Path} {q names : Place}

lemma mem_of_file? {bytes : List UInt8} (h : t.file? q = some bytes) : (q, bytes) ∈ t.files := by
  obtain ⟨before, after, hfiles, -⟩ := List.lookup_eq_some_iff.mp h
  rw [hfiles]
  exact List.mem_append_right _ List.mem_cons_self

lemma isSome_file?_iff : (t.file? q).isSome = true ↔ ∃ f ∈ t.files, f.1 = q := by
  rw [Option.isSome_iff_exists]
  constructor
  · rintro ⟨bytes, hbytes⟩
    exact ⟨_, mem_of_file? hbytes, rfl⟩
  · rintro ⟨f, hf, rfl⟩
    by_contra hnone
    have hlookup := Option.eq_none_iff_forall_not_mem.mpr fun bytes h => hnone ⟨bytes, h⟩
    have hne := List.lookup_eq_none_iff.mp hlookup f hf
    simp at hne

lemma IsProper.isApart (h : t.IsProper) : t.IsApart := by
  intro q hdir
  by_contra hfile
  obtain ⟨bytes, hbytes⟩ := Option.ne_none_iff_exists'.mp hfile
  have hnone := h.noDir (q, bytes) (mem_of_file? hbytes)
  rw [hdir] at hnone
  simp at hnone

/-! ### What is below a directory -/

lemma mem_filesBelow_iff :
    names ∈ t.filesBelow q ↔ names ≠ [] ∧ (t.file? (q ++ names)).isSome = true := by
  simp only [filesBelow, List.mem_mergeSort, List.mem_map, List.mem_filter, Bool.and_eq_true,
    List.isPrefixOf_iff_prefix, decide_eq_true_iff, isSome_file?_iff]
  constructor
  · rintro ⟨f, ⟨hf, ⟨rest, hrest⟩, hne⟩, rfl⟩
    rw [← hrest, List.drop_left]
    refine ⟨?_, f, hf, hrest.symm⟩
    rintro rfl
    exact hne (by rw [← hrest, List.append_nil])
  · rintro ⟨hne, f, hf, hfile⟩
    refine ⟨f, ⟨hf, ⟨names, hfile.symm⟩, ?_⟩, by rw [hfile, List.drop_left]⟩
    rw [hfile, ne_eq, List.self_eq_append_right]
    exact hne

/-- The names that lead to a place from one on the way to it. -/
lemma exists_take_iff {dir : Place} (hq : q <+: dir) :
    (∃ n < dir.length - q.length, (dir.drop q.length).take (n + 1) = names) ↔
      names ≠ [] ∧ q ++ names <+: dir := by
  obtain ⟨rest, rfl⟩ := hq
  rw [List.drop_left, List.length_append, Nat.add_sub_cancel_left, List.prefix_append_right_inj]
  constructor
  · rintro ⟨n, hn, rfl⟩
    refine ⟨?_, List.take_prefix _ _⟩
    apply List.ne_nil_of_length_pos
    rw [List.length_take]
    omega
  · rintro ⟨hne, hprefix⟩
    have hpos := List.length_pos_iff.mpr hne
    have hle := hprefix.length_le
    refine ⟨names.length - 1, by omega, ?_⟩
    rw [Nat.sub_add_cancel hpos]
    exact (List.prefix_iff_eq_take.mp hprefix).symm

lemma isPrefix_dropLast_iff {f : Place} (hne : q ≠ []) : q <+: f.dropLast ↔ q <+: f ∧ q ≠ f := by
  constructor
  · intro h
    refine ⟨h.trans (List.dropLast_prefix f), ?_⟩
    rintro rfl
    have hle := h.length_le
    have hpos := List.length_pos_iff.mpr hne
    rw [List.length_dropLast] at hle
    omega
  · rintro ⟨h, hother⟩
    exact (eq_or_prefix_dropLast h).resolve_left hother

lemma mem_dirsBelow_iff : names ∈ t.dirsBelow q ↔ names ≠ [] ∧ t.hasDir (q ++ names) = true := by
  have hlisted : t.hasDir (q ++ names) = true ∨ names = [] ↔
      (∃ dir ∈ t.here :: t.dirs ++ t.files.map fun f => f.1.dropLast, q ++ names <+: dir) ∨
        names = [] := by
    by_cases hne : names = []
    · simp [hne]
    · have happend : q ++ names ≠ [] := by simp [hne]
      simp only [hasDir_iff, List.mem_append, List.mem_cons, List.mem_map, or_assoc, exists_or,
        or_and_right, exists_eq_left, exists_exists_and_eq_and, isPrefix_dropLast_iff happend]
  simp only [dirsBelow, List.mem_flatMap, List.mem_filter, List.isPrefixOf_iff_prefix,
    List.mem_map, List.mem_range]
  constructor
  · rintro ⟨dir, ⟨hdir, hq⟩, hnames⟩
    obtain ⟨hne, hprefix⟩ := (exists_take_iff hq).mp hnames
    exact ⟨hne, (hlisted.mpr (.inl ⟨dir, hdir, hprefix⟩)).resolve_right hne⟩
  · rintro ⟨hne, hdir⟩
    obtain ⟨dir, hmem, hprefix⟩ := (hlisted.mp (.inl hdir)).resolve_right hne
    have hq := (List.prefix_append q names).trans hprefix
    exact ⟨dir, ⟨hmem, hq⟩, (exists_take_iff hq).mpr ⟨hne, hprefix⟩⟩

lemma isDescent_of_append (h : Place.IsDescent (q ++ names)) (hne : names ≠ []) :
    Place.IsDescent names where
  ne_nil := hne
  not_back hback := h.not_back (List.mem_append_right q hback)
  short name hname := h.short name (List.mem_append_right q hname)
  not_separator name hname := h.not_separator name (List.mem_append_right q hname)
  not_null name hname := h.not_null name (List.mem_append_right q hname)

lemma IsProper.isDescent_of_mem (h : t.IsProper) (hnames : names ∈ t.filesBelow q) :
    names.IsDescent := by
  obtain ⟨hne, hfile⟩ := mem_filesBelow_iff.mp hnames
  obtain ⟨f, hf, hplace⟩ := isSome_file?_iff.mp hfile
  exact isDescent_of_append (hplace ▸ h.isDescent f hf) hne

lemma IsProper.nodup_filesBelow (h : t.IsProper) (q : Place) : (t.filesBelow q).Nodup := by
  unfold filesBelow
  rw [(List.mergeSort_perm _ _).nodup_iff]
  have hsub : ((t.files.filter fun f => q.isPrefixOf f.1 && q ≠ f.1).map Prod.fst).Nodup :=
    h.nodup.sublist (List.filter_sublist.map Prod.fst)
  have hmap : ((t.files.filter fun f => q.isPrefixOf f.1 && q ≠ f.1).map fun f =>
      f.1.drop q.length) =
      ((t.files.filter fun f => q.isPrefixOf f.1 && q ≠ f.1).map Prod.fst).map
        (List.drop q.length) := by
    rw [List.map_map]
    rfl
  rw [hmap]
  apply hsub.map_on
  intro r hr s hs hdrop
  -- both places start with the place of the directory
  have hstarts : ∀ r ∈ (t.files.filter fun f => q.isPrefixOf f.1 && q ≠ f.1).map Prod.fst,
      r = q ++ r.drop q.length := by
    intro r hr
    obtain ⟨f, hf, rfl⟩ := List.mem_map.mp hr
    have hkept := (List.mem_filter.mp hf).2
    rw [Bool.and_eq_true, List.isPrefixOf_iff_prefix] at hkept
    obtain ⟨rest, hrest⟩ := hkept.1
    rw [← hrest, List.drop_left]
  rw [hstarts r hr, hstarts s hs, hdrop]

/-- Names that do not go back lead from a directory to the file that is there. -/
lemma walk_to_file (h : names.IsDescent) (hfile : ∃ f ∈ t.files, f.1 = q ++ names) :
    t.walk q names = .ok (q ++ names) := by
  -- the way is followed with the directory growing by the names that are done
  have hway : ∀ names q, ".." ∉ names → (∀ name ∈ names, name.utf8ByteSize ≤ longestName) →
      (∃ f ∈ t.files, f.1 = q ++ names) → t.walk q names = .ok (q ++ names) := by
    intro names
    induction names with
    | nil => simp [walk]
    | cons name rest ih =>
      rintro q hback hshort ⟨f, hf, hplace⟩
      rw [List.mem_cons, not_or] at hback
      have hdir : t.hasDir q = true := by
        refine hasDir_iff.mpr (.inr (.inr ⟨f, hf, ⟨name :: rest, hplace.symm⟩, ?_⟩))
        rw [hplace]
        simp
      have hname : ¬ longestName < name.utf8ByteSize :=
        Nat.not_lt.mpr (hshort name List.mem_cons_self)
      have happend : q ++ name :: rest = q ++ [name] ++ rest := by simp
      rw [walk, if_pos hdir, if_neg hname, if_neg (Ne.symm hback.1), happend]
      apply ih
      · exact hback.2
      · exact fun name hmem => hshort name (List.mem_cons_of_mem _ hmem)
      · exact ⟨f, hf, hplace.trans happend⟩
  exact hway names q h.not_back h.short hfile

lemma not_hasNull_append (hp : ¬ p.HasNull) (h : names.IsDescent) :
    ¬ (p.append names).HasNull := by
  intro hnull
  obtain ⟨name, hname, hchar⟩ := (Path.hasNull_iff _).mp hnull
  rcases List.mem_append.mp hname with hname | hname
  · exact hp ((Path.hasNull_iff _).mpr ⟨name, hname, hchar⟩)
  · exact h.not_null name hname hchar

lemma not_hasNull_of_place (h : t.place p = .ok q) : ¬ p.HasNull := by
  intro hnull
  rw [place_eq_nullCharacter_iff.mpr hnull] at h
  simp at h

/-- A path that holds no null character is followed, unless it is too long as a whole. -/
lemma place_eq_ite (h : ¬ p.HasNull) : t.place p =
    if longestPath < p.text.utf8ByteSize then .error .nameTooLong
    else t.walk (t.startOf p) p.parts := by
  unfold Path.HasNull at h
  simp only [place, List.contains_eq_mem, h, decide_false, Bool.false_eq_true, if_false, startOf]

/-- A file below a directory is found by its path, unless that is too long. -/
lemma IsProper.findFile_below (ht : t.IsProper) (hplace : t.place p = .ok q)
    (hnames : names ∈ t.filesBelow q) : t.findFile (p.append names) =
      if longestPath < (p.append names).text.utf8ByteSize then
        .error ⟨.nameTooLong, p.append names⟩
      else .ok true := by
  have hdescent := ht.isDescent_of_mem hnames
  have hfile := (mem_filesBelow_iff.mp hnames).2
  have hwalk : t.walk (t.startOf (p.append names)) (p.append names).parts = .ok (q ++ names) := by
    change t.walk (t.startOf p) (p.parts ++ names) = _
    rw [walk_append, walk_of_place hplace]
    exact walk_to_file hdescent (isSome_file?_iff.mp hfile)
  have hnull := not_hasNull_append (not_hasNull_of_place hplace) hdescent
  unfold findFile find
  rw [place_eq_ite hnull, hwalk]
  by_cases hlong : longestPath < (p.append names).text.utf8ByteSize
  · rw [if_pos hlong, if_pos hlong]
  · rw [if_neg hlong, if_neg hlong]
    exact congrArg Except.ok hfile

/-- The files below the directory that a path leads to. -/
def listed (t : Tree) (p : Path) : List Place :=
  match t.place p with
  | .ok q => t.filesBelow q
  | .error _ => []

lemma exists_of_mem_listed (h : names ∈ t.listed p) :
    ∃ q, t.place p = .ok q ∧ names ∈ t.filesBelow q := by
  unfold listed at h
  split at h
  · next q hplace => exact ⟨q, hplace, h⟩
  · simp at h

lemma IsExplorable.below_eq (h : t.IsExplorable p) : t.below p = .ok (t.listed p) := by
  unfold Tree.below listed
  split
  · next hplace => exact absurd hplace h.found
  · next hplace => rw [hplace]
  · next q hplace =>
    have hnone : ((t.dirsBelow q).map p.append).find?
        (fun dir => longestPath < dir.text.utf8ByteSize) = none := by
      rw [List.find?_eq_none]
      intro dir hdir
      obtain ⟨names, hnames, rfl⟩ := List.mem_map.mp hdir
      have hle := h.below q names hplace (.inl (mem_dirsBelow_iff.mp hnames).2)
      simpa using hle
    simp only [hnone, hplace]

/-- Why a directory cannot be explored: its own path is too long, or the path of a directory or of a
file below it. -/
lemma cases_of_not_isExplorable (h : ¬ t.IsExplorable p) : t.place p = .error .nameTooLong ∨
    ∃ q names, t.place p = .ok q ∧ (names ∈ t.dirsBelow q ∨ names ∈ t.filesBelow q) ∧
      longestPath < (p.append names).text.utf8ByteSize := by
  by_contra hnone
  rw [not_or] at hnone
  obtain ⟨hfound, hshort⟩ := hnone
  refine h ⟨hfound, fun q names hplace hthere => ?_⟩
  by_contra hlong
  rw [Nat.not_le] at hlong
  have hne : names ≠ [] := by
    rintro rfl
    rw [Path.append, List.append_nil] at hlong
    rw [place_eq_ite (not_hasNull_of_place hplace), if_pos hlong] at hplace
    simp at hplace
  refine hshort ⟨q, names, hplace, hthere.imp ?_ ?_, hlong⟩
  · exact fun hdir => mem_dirsBelow_iff.mpr ⟨hne, hdir⟩
  · exact fun hfile => mem_filesBelow_iff.mpr ⟨hne, hfile⟩

lemma isExplorable_of_lists (hplace : t.place p = .ok q)
    (hdirs : ∀ names ∈ t.dirsBelow q, (p.append names).text.utf8ByteSize ≤ longestPath)
    (hfiles : ∀ names ∈ t.filesBelow q, (p.append names).text.utf8ByteSize ≤ longestPath) :
    t.IsExplorable p := by
  by_contra hnot
  rcases cases_of_not_isExplorable hnot with hlong | ⟨q', names, hplace', hnames, hlong⟩
  · simp [hplace] at hlong
  · obtain rfl : q = q' := Except.ok.inj (hplace.symm.trans hplace')
    exact absurd hlong (Nat.not_lt.mpr (hnames.elim (hdirs names) (hfiles names)))

end Tree

/-! ### Names in reports -/

namespace Path

lemma toList_text_mk {names : Place} (h : names ≠ []) :
    (Path.mk .here names).text.toList = ['/'].intercalate (names.map String.toList) := by
  have hempty : names.isEmpty = false := by simp [h]
  rw [text, hempty]
  exact String.toList_intercalate

/-- The text of a way down tells its names. -/
lemma text_mk_injective {names names' : Place} (h : names.IsDescent) (h' : names'.IsDescent)
    (htext : (Path.mk .here names).text = (Path.mk .here names').text) : names = names' := by
  have hlists : ['/'].intercalate (names.map String.toList) =
      ['/'].intercalate (names'.map String.toList) := by
    rw [← toList_text_mk h.ne_nil, ← toList_text_mk h'.ne_nil, htext]
  have hsplit : ∀ {names : Place}, names.IsDescent →
      (['/'].intercalate (names.map String.toList)).splitOn '/' = names.map String.toList := by
    intro names h
    apply List.splitOn_intercalate
    · simpa using h.not_separator
    · simpa using h.ne_nil
  have hmap : names.map String.toList = names'.map String.toList := by
    rw [← hsplit h, ← hsplit h', hlists]
  exact List.map_injective_iff.mpr (fun _ _ => String.toList_injective) hmap

end Path

namespace Job

variable {base transformed : Path} {output : Option Path} {names names' : Place} {endings : Value}
  {suffixes : List String} {t : Tree}

/-! ### Jobs -/

lemma endsIn_texts (name : Text) (suffixes : List String) :
    endsIn name (suffixes.map .text) = .ok (suffixes.any fun s => s.toList.isSuffixOf name) := by
  induction suffixes with
  | nil => rfl
  | cons s rest ih =>
    rw [List.map_cons, endsIn, List.any_cons]
    by_cases hs : s.toList.isSuffixOf name = true
    · rw [if_pos hs, hs, Bool.true_or]
    · rw [if_neg hs, ih, Bool.eq_false_iff.mpr hs, Bool.false_or]

/-- The file has one of the endings. -/
def isChosen (suffixes : List String) (names : Place) : Bool :=
  suffixes.any fun s => s.toList.isSuffixOf (names.getLast?.getD "").toList

/-- Where all files are found, those with one of the endings are taken. -/
lemma select_texts (suffixes : List String) {places : List Place}
    (h : ∀ names ∈ places, t.findFile (base.append names) = .ok true) :
    select t base (suffixes.map .text) places = .ok (places.filter (isChosen suffixes)) := by
  induction places with
  | nil => rfl
  | cons place rest ih =>
    have hrest := ih fun names hnames => h names (List.mem_cons_of_mem place hnames)
    rw [select, h place List.mem_cons_self, hrest]
    have hends : endsIn (place.getLast?.getD "").toList (suffixes.map .text) =
        .ok (isChosen suffixes place) := endsIn_texts _ suffixes
    simp only [Except.mapError, bind, Except.bind, if_true, hends, pure, Except.pure,
      List.filter_cons]

/-- One path that is too long is enough for no files to be taken. -/
lemma select_of_long (suffixes : List String) {places : List Place}
    (h : ∀ names ∈ places, t.findFile (base.append names) =
      if Tree.longestPath < (base.append names).text.utf8ByteSize then
        .error ⟨.nameTooLong, base.append names⟩
      else .ok true)
    (hlong : ∃ names ∈ places, Tree.longestPath < (base.append names).text.utf8ByteSize) :
    ∃ e, e.fault = .nameTooLong ∧
      select t base (suffixes.map .text) places = .error (.file e) := by
  induction places with
  | nil => simp at hlong
  | cons place rest ih =>
    have hplace := h place List.mem_cons_self
    rw [select, hplace]
    by_cases hfirst : Tree.longestPath < (base.append place).text.utf8ByteSize
    · rw [if_pos hfirst]
      exact ⟨⟨.nameTooLong, base.append place⟩, rfl, rfl⟩
    · obtain ⟨names, hnames, hlong⟩ := hlong
      have hother : names ∈ rest := by
        rcases List.mem_cons.mp hnames with rfl | hother
        · exact absurd hlong hfirst
        · exact hother
      obtain ⟨e, hfault, hrest⟩ :=
        ih (fun names hmem => h names (List.mem_cons_of_mem place hmem)) ⟨names, hother, hlong⟩
      rw [if_neg hfirst, hrest]
      simp only [Except.mapError, bind, Except.bind, if_true, endsIn_texts]
      exact ⟨e, hfault, rfl⟩

/-- With texts for endings there are jobs, one for each file below the base with one of them, as
long as everything there can be asked for. -/
lemma discover_of_isExplorable (ht : t.IsProper) (hbase : t.IsExplorable base)
    (h : endings.parts? = some (suffixes.map .text)) (transformed : Path) (output : Option Path) :
    discover t base transformed output endings =
      .ok (((t.listed base).filter (isChosen suffixes)).map
        (ofPlace base transformed output)) := by
  have hfiles : ∀ names ∈ t.listed base, t.findFile (base.append names) = .ok true := by
    intro names hnames
    obtain ⟨q, hplace, hnames⟩ := Tree.exists_of_mem_listed hnames
    have hle := hbase.below q names hplace (.inr (Tree.mem_filesBelow_iff.mp hnames).2)
    rw [ht.findFile_below hplace hnames, if_neg (Nat.not_lt.mpr hle)]
  simp only [discover, h, hbase.below_eq, Except.mapError, select_texts suffixes hfiles, bind,
    Except.bind, pure, Except.pure]

/-- Otherwise the first path that is too long is all that is told. -/
lemma discover_of_not_isExplorable (ht : t.IsProper) (hbase : ¬ t.IsExplorable base)
    (h : endings.parts? = some (suffixes.map .text)) (transformed : Path) (output : Option Path) :
    ∃ e, e.fault = .nameTooLong ∧
      discover t base transformed output endings = .error (.file e) := by
  simp only [discover, h]
  unfold Tree.below
  rcases Tree.cases_of_not_isExplorable hbase with hlong | ⟨q, names, hplace, hnames, hlong⟩
  · rw [hlong]
    exact ⟨⟨.nameTooLong, base⟩, rfl, rfl⟩
  · rw [hplace]
    dsimp only
    split
    · next dir _ => exact ⟨⟨.nameTooLong, dir⟩, rfl, rfl⟩
    · next hnone =>
      -- no directory is to blame, so it is one of the files
      rw [List.find?_eq_none] at hnone
      have hfile : names ∈ t.filesBelow q := by
        refine hnames.resolve_left fun hdir => hnone _ (List.mem_map_of_mem hdir) ?_
        simpa using hlong
      obtain ⟨e, hfault, hselect⟩ := select_of_long suffixes
        (fun names hmem => ht.findFile_below hplace hmem) ⟨names, hfile, hlong⟩
      refine ⟨e, hfault, ?_⟩
      simp only [Except.mapError, bind, Except.bind, hselect]

lemma not_hasNull_output (hroot : ¬ (output.getD base).HasNull) (h : names.IsDescent) :
    ¬ (ofPlace base transformed output names).output.HasNull :=
  Tree.not_hasNull_append hroot h

lemma hasNull_parent_output (hroot : (output.getD base).HasNull) (h : names.IsDescent) :
    (ofPlace base transformed output names).output.parent.HasNull := by
  have hparent : (ofPlace base transformed output names).output.parent =
      (output.getD base).append names.dropLast := by
    simp [ofPlace, Path.parent, Path.append, List.dropLast_append_of_ne_nil h.ne_nil]
  rw [hparent]
  exact hroot.append _

lemma writesApart_ofPlace (h : names.IsDescent) (h' : names'.IsDescent) (hne : names ≠ names') :
    (ofPlace base transformed output names).WritesApart
      (ofPlace base transformed output names') := by
  intro t q hq hq'
  exact hne (Tree.append_injective_of_place h.not_back h'.not_back hq hq')

/-- What is needed of jobs to write without getting into each other's way: their names and outputs
differ, no two outputs lead to one place, and if an output is no path then none of the directories
is. -/
structure Separate (jobs : List Job) : Prop where
  relative : (jobs.map Job.relative).Nodup
  output : (jobs.map Job.output).Nodup
  writesApart : jobs.Pairwise WritesApart
  noPath : (∃ job ∈ jobs, job.output.HasNull) → ∀ job ∈ jobs, job.output.parent.HasNull

lemma separate_of_descents {places : List Place} (hnodup : places.Nodup)
    (h : ∀ names ∈ places, Place.IsDescent names) :
    Separate (places.map (ofPlace base transformed output)) where
  relative := by
    rw [List.map_map]
    apply hnodup.map_on
    intro names hnames names' hnames' htext
    exact Path.text_mk_injective (h names hnames) (h names' hnames') htext
  output := by
    rw [List.map_map]
    apply hnodup.map_on
    intro names _ names' _ houtput
    have hparts := congrArg Path.parts houtput
    exact List.append_cancel_left hparts
  writesApart := by
    rw [List.pairwise_map]
    apply hnodup.pairwise_of_forall_ne
    intro names hnames names' hnames' hne
    exact writesApart_ofPlace (h names hnames) (h names' hnames') hne
  noPath := by
    rintro ⟨job, hjob, hnull⟩
    obtain ⟨names, hnames, rfl⟩ := List.mem_map.mp hjob
    by_cases hroot : (output.getD base).HasNull
    · intro job hjob
      obtain ⟨names', hnames', rfl⟩ := List.mem_map.mp hjob
      exact hasNull_parent_output hroot (h names' hnames')
    · exact absurd hnull (not_hasNull_output hroot (h names hnames))

lemma separate_of_listed (ht : t.IsProper) (suffixes : List String) :
    Separate (((t.listed base).filter (isChosen suffixes)).map
      (ofPlace base transformed output)) := by
  apply separate_of_descents
  · apply List.Nodup.filter
    unfold Tree.listed
    split
    · exact ht.nodup_filesBelow _
    · exact List.nodup_nil
  · intro names hnames
    obtain ⟨q, -, hbelow⟩ := Tree.exists_of_mem_listed (List.mem_filter.mp hnames).1
    exact ht.isDescent_of_mem hbelow

end Job

end DocGraft
