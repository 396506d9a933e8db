import DocGraft.Files.Tree
import DocGraft.Proofs.ReformattedLines
import Mathlib.Data.List.Infix

/-!
# Places of files

Writing a file and making the directories on its way change one place at most, and nothing that was
a directory or a file becomes the other. So a path that leads somewhere leads there ever after, and
below a directory, names that do not go back lead to different places.
-/

namespace DocGraft

/-! ### Paths with null characters -/

namespace Path

/-- The path holds a null character, and so is none. -/
def HasNull (p : Path) : Prop := '\x00' ∈ p.text.toList

instance (p : Path) : Decidable p.HasNull := inferInstanceAs (Decidable ('\x00' ∈ p.text.toList))

lemma hasNull_iff (p : Path) : p.HasNull ↔ ∃ name ∈ p.parts, '\x00' ∈ name.toList := by
  have hbody : '\x00' ∈ ("/".intercalate p.parts).toList ↔
      ∃ name ∈ p.parts, '\x00' ∈ name.toList := by
    rw [String.toList_intercalate]
    constructor
    · intro h
      rcases Text.mem_of_mem_intercalate h with hsep | ⟨part, hpart, h⟩
      · exact absurd hsep (by decide)
      · obtain ⟨name, hname, rfl⟩ := List.mem_map.mp hpart
        exact ⟨name, hname, h⟩
    · rintro ⟨name, hname, h⟩
      exact Text.subset_intercalate (List.mem_map_of_mem hname) h
  unfold HasNull text
  split
  · next h =>
    simp [List.isEmpty_iff.mp h.2]
  · have hstart : '\x00' ∉ p.start.text.toList := by
      cases p.start with
      | here | root | doubleRoot => decide
    rw [String.toList_append, List.mem_append, or_iff_right hstart]
    exact hbody

/-- A path whose last name repeats another character. -/
lemma not_hasNull_of_replicate (names : List String) (h : ∀ name ∈ names, '\x00' ∉ name.toList)
    {c : Char} (hc : c ≠ '\x00') (n : Nat) :
    ¬ (Path.mk .here (names ++ [String.ofList (List.replicate n c)])).HasNull := by
  rw [hasNull_iff]
  rintro ⟨name, hname, hnull⟩
  rcases List.mem_append.mp hname with hname | hname
  · exact h name hname hnull
  · rw [List.mem_singleton.mp hname, String.toList_ofList, List.mem_replicate] at hnull
    exact hc hnull.2.symm

lemma HasNull.append {p : Path} (h : p.HasNull) (parts : List String) :
    (p.append parts).HasNull := by
  obtain ⟨name, hname, hnull⟩ := p.hasNull_iff.mp h
  exact (hasNull_iff _).mpr ⟨name, List.mem_append_left _ hname, hnull⟩

lemma HasNull.of_parent {p : Path} (h : p.parent.HasNull) : p.HasNull := by
  obtain ⟨name, hname, hnull⟩ := (hasNull_iff _).mp h
  exact (hasNull_iff _).mpr ⟨name, List.mem_of_mem_dropLast hname, hnull⟩

end Path

namespace Tree

variable {t t' : Tree} {q r : Place} {p : Path}

lemma walk_ne_nullCharacter (t : Tree) (here : Place) (names : List String) :
    t.walk here names ≠ .error .nullCharacter := by
  induction names generalizing here with
  | nil => simp [walk]
  | cons name rest ih =>
    rw [walk]
    split
    · split
      · simp
      · exact ih _
    · split
      · simp
      · simp

lemma place_eq_nullCharacter_iff : t.place p = .error .nullCharacter ↔ p.HasNull := by
  unfold place Path.HasNull
  by_cases hnull : '\x00' ∈ p.text.toList
  · simp [hnull]
  · simp only [List.contains_eq_mem, hnull, decide_false, Bool.false_eq_true, if_false, iff_false]
    split
    · simp
    · exact walk_ne_nullCharacter _ _ _

/-! ### Directories -/

lemma hasDir_iff : t.hasDir q = true ↔
    q <+: t.here ∨ (∃ d ∈ t.dirs, q <+: d) ∨ ∃ f ∈ t.files, q <+: f.1 ∧ q ≠ f.1 := by
  simp [hasDir, or_assoc]

lemma hasDir_of_isPrefix (hrq : r <+: q) (h : t.hasDir q = true) : t.hasDir r = true := by
  rw [hasDir_iff] at h ⊢
  rcases h with hq | ⟨d, hd, hq⟩ | ⟨f, hf, hq, hne⟩
  · exact .inl (hrq.trans hq)
  · exact .inr (.inl ⟨d, hd, hrq.trans hq⟩)
  · refine .inr (.inr ⟨f, hf, hrq.trans hq, ?_⟩)
    rintro rfl
    exact hne (hq.eq_of_length_le hrq.length_le)

/-- What stands before a place is the place itself, or stands before the directory that it is in. -/
lemma eq_or_prefix_dropLast (h : r <+: q) : r = q ∨ r <+: q.dropLast := by
  by_cases hq : q = []
  · subst hq
    exact .inl (List.prefix_nil.mp h)
  · rw [← List.dropLast_concat_getLast hq] at h ⊢
    rw [List.dropLast_concat]
    exact List.prefix_concat_iff.mp h

lemma hasDir_addDir (hparent : t.hasDir q.dropLast = true) :
    ({ t with dirs := t.dirs ++ [q] } : Tree).hasDir r = true ↔ t.hasDir r = true ∨ r = q := by
  constructor
  · intro h
    rcases hasDir_iff.mp h with h | ⟨d, hd, hrd⟩ | h
    · exact .inl (hasDir_iff.mpr (.inl h))
    · rcases List.mem_append.mp hd with hd | hd
      · exact .inl (hasDir_iff.mpr (.inr (.inl ⟨d, hd, hrd⟩)))
      · obtain rfl := List.mem_singleton.mp hd
        rcases eq_or_prefix_dropLast hrd with h | h
        · exact .inr h
        · exact .inl (hasDir_of_isPrefix h hparent)
    · exact .inl (hasDir_iff.mpr (.inr (.inr h)))
  · rintro (h | rfl)
    · rcases hasDir_iff.mp h with h | ⟨d, hd, h⟩ | h
      · exact hasDir_iff.mpr (.inl h)
      · exact hasDir_iff.mpr (.inr (.inl ⟨d, List.mem_append_left _ hd, h⟩))
      · exact hasDir_iff.mpr (.inr (.inr h))
    · exact hasDir_iff.mpr (.inr (.inl ⟨r, List.mem_append_right _ (List.mem_singleton_self r),
        List.prefix_refl r⟩))

/-! ### Files -/

lemma lookup_setFile (q : Place) (bytes : List UInt8) (files : List (Place × List UInt8))
    (r : Place) :
    (setFile q bytes files).lookup r = if r = q then some bytes else files.lookup r := by
  induction files with
  | nil =>
    by_cases h : r = q
    · simp [setFile, h]
    · simp [setFile, List.lookup_cons, h, beq_false_of_ne h]
  | cons f rest ih =>
    rw [setFile]
    by_cases hf : f.1 = q
    · rw [if_pos hf, List.lookup_cons, List.lookup_cons, hf]
      by_cases h : r = q
      · simp [h]
      · simp [h, beq_false_of_ne h]
    · rw [if_neg hf, List.lookup_cons, List.lookup_cons, ih]
      by_cases h : r = q
      · have hrf : r ≠ f.1 := fun h' => hf (h'.symm.trans h)
        simp only [beq_false_of_ne hrf, if_pos h]
      · simp only [if_neg h]

lemma file?_setFile (t : Tree) (q r : Place) (bytes : List UInt8) :
    ({ t with files := setFile q bytes t.files } : Tree).file? r =
      if r = q then some bytes else t.file? r :=
  lookup_setFile q bytes t.files r

lemma exists_mem_setFile_iff (q : Place) (bytes : List UInt8) (files : List (Place × List UInt8)) :
    (∃ f ∈ setFile q bytes files, f.1 = r) ↔ r = q ∨ ∃ f ∈ files, f.1 = r := by
  induction files with
  | nil => simp [setFile, eq_comm]
  | cons f rest ih =>
    rw [setFile]
    split
    · next hf =>
      simp only [List.mem_cons, exists_eq_or_imp, hf, eq_comm (a := q)]
      tauto
    · simp only [List.mem_cons, exists_eq_or_imp, ih]
      tauto

lemma hasDir_setFile {bytes : List UInt8} (hparent : t.hasDir q.dropLast = true) :
    ({ t with files := setFile q bytes t.files } : Tree).hasDir r = true ↔ t.hasDir r = true := by
  have hbelow : (∃ f ∈ setFile q bytes t.files, r <+: f.1 ∧ r ≠ f.1) ↔
      (r <+: q ∧ r ≠ q) ∨ ∃ f ∈ t.files, r <+: f.1 ∧ r ≠ f.1 := by
    constructor
    · rintro ⟨f, hf, hr⟩
      rcases (exists_mem_setFile_iff q bytes t.files).mp ⟨f, hf, rfl⟩ with hq | ⟨k, hk, hkf⟩
      · exact .inl (hq ▸ hr)
      · exact .inr ⟨k, hk, hkf ▸ hr⟩
    · rintro (hr | ⟨k, hk, hr⟩)
      · obtain ⟨f, hf, hfq⟩ := (exists_mem_setFile_iff (r := q) q bytes t.files).mpr (.inl rfl)
        exact ⟨f, hf, hfq ▸ hr⟩
      · obtain ⟨f, hf, hfk⟩ := (exists_mem_setFile_iff q bytes t.files).mpr (.inr ⟨k, hk, rfl⟩)
        exact ⟨f, hf, hfk ▸ hr⟩
  rw [hasDir_iff, hasDir_iff, hbelow]
  constructor
  · rintro (h | h | ⟨hr, hne⟩ | h)
    · exact .inl h
    · exact .inr (.inl h)
    · have hdir := hasDir_of_isPrefix ((eq_or_prefix_dropLast hr).resolve_left hne) hparent
      exact hasDir_iff.mp hdir
    · exact .inr (.inr h)
  · rintro (h | h | h)
    · exact .inl h
    · exact .inr (.inl h)
    · exact .inr (.inr (.inr h))

/-! ### Ways that stay -/

/-- All directories of the first tree are in the second, and both have one working directory. -/
structure KeepsDirs (t t' : Tree) : Prop where
  here_eq : t'.here = t.here
  hasDir : ∀ q, t.hasDir q = true → t'.hasDir q = true

lemma KeepsDirs.refl (t : Tree) : t.KeepsDirs t := ⟨rfl, fun _ hq => hq⟩

lemma KeepsDirs.trans {t'' : Tree} (h : t.KeepsDirs t') (h' : t'.KeepsDirs t'') :
    t.KeepsDirs t'' :=
  ⟨h'.here_eq.trans h.here_eq, fun q hq => h'.hasDir q (h.hasDir q hq)⟩

lemma keepsDirs_setFile {bytes : List UInt8} (hparent : t.hasDir q.dropLast = true) :
    t.KeepsDirs { t with files := setFile q bytes t.files } :=
  ⟨rfl, fun _ hr => (hasDir_setFile hparent).mpr hr⟩

lemma KeepsDirs.walk (h : t.KeepsDirs t') {here : Place} {names : List String}
    (hwalk : t.walk here names = .ok q) : t'.walk here names = .ok q := by
  induction names generalizing here with
  | nil => exact hwalk
  | cons name rest ih =>
    rw [Tree.walk] at hwalk ⊢
    by_cases hdir : t.hasDir here = true
    · rw [if_pos hdir] at hwalk
      rw [if_pos (h.hasDir here hdir)]
      split at hwalk
      · simp at hwalk
      · next hshort =>
        rw [if_neg hshort]
        exact ih hwalk
    · rw [if_neg hdir] at hwalk
      split at hwalk
      · simp at hwalk
      · simp at hwalk

/-- The place that a path starts from. -/
def startOf (t : Tree) (p : Path) : Place := if p.start = .here then t.here else []

lemma walk_of_place (h : t.place p = .ok q) : t.walk (t.startOf p) p.parts = .ok q := by
  unfold place at h
  split at h
  · simp at h
  · split at h
    · simp at h
    · exact h

lemma KeepsDirs.place (h : t.KeepsDirs t') (hplace : t.place p = .ok q) :
    t'.place p = .ok q := by
  unfold Tree.place at hplace ⊢
  split at hplace
  · simp at hplace
  · split at hplace
    · simp at hplace
    · next hnull hshort =>
      rw [if_neg hnull, if_neg hshort, h.here_eq]
      exact h.walk hplace

lemma walk_append (t : Tree) (here : Place) (first rest : List String) :
    t.walk here (first ++ rest) = (t.walk here first).bind fun there => t.walk there rest := by
  induction first generalizing here with
  | nil => rfl
  | cons name first ih =>
    rw [List.cons_append, walk, walk]
    split
    · split
      · rfl
      · exact ih _
    · split
      · rfl
      · rfl

/-- A name that is too long cannot be looked for in a directory. -/
lemma place_of_long_name (names : List String) {name : String}
    (hnull : ¬ (Path.mk .here (names ++ [name])).HasNull) (hwalk : t.walk t.here names = .ok q)
    (hdir : t.hasDir q = true) (hlong : longestName < name.utf8ByteSize) :
    t.place ⟨.here, names ++ [name]⟩ = .error .nameTooLong := by
  have hlast : t.walk t.here (names ++ [name]) = .error .nameTooLong := by
    rw [walk_append, hwalk]
    change t.walk q [name] = _
    rw [walk, if_pos hdir, if_pos hlong]
  unfold Path.HasNull at hnull
  simp only [place, List.contains_eq_mem, hnull, decide_false, Bool.false_eq_true, if_false,
    if_true, hlast]
  split
  · rfl
  · rfl

lemma eq_append_of_walk {here : Place} {names : List String} (hdown : ".." ∉ names)
    (h : t.walk here names = .ok q) : q = here ++ names := by
  induction names generalizing here with
  | nil =>
    rw [List.append_nil]
    exact (Except.ok.inj h).symm
  | cons name rest ih =>
    rw [List.mem_cons, not_or] at hdown
    obtain ⟨hname, hrest⟩ := hdown
    rw [walk] at h
    split at h
    · split at h
      · simp at h
      · rw [if_neg (Ne.symm hname)] at h
        rw [ih hrest h, List.append_assoc, List.singleton_append]
    · split at h
      · simp at h
      · simp at h

/-- What a path leads to below another one is found from the place of that one. -/
lemma exists_walk_of_place_append {names : List String} (h : t.place (p.append names) = .ok q) :
    ∃ there, t.walk (t.startOf p) p.parts = .ok there ∧ t.walk there names = .ok q := by
  have hwalk := walk_of_place h
  change t.walk (t.startOf p) (p.parts ++ names) = _ at hwalk
  rw [walk_append] at hwalk
  cases hthere : t.walk (t.startOf p) p.parts with
  | error fault => simp [hthere, Except.bind] at hwalk
  | ok there =>
    rw [hthere] at hwalk
    exact ⟨there, rfl, hwalk⟩

/-- Below a path, names that do not go back lead to different places. -/
lemma append_injective_of_place {names names' : List String} (hdown : ".." ∉ names)
    (hdown' : ".." ∉ names') (h : t.place (p.append names) = .ok q)
    (h' : t.place (p.append names') = .ok q) : names = names' := by
  obtain ⟨there, hthere, hq⟩ := exists_walk_of_place_append h
  obtain ⟨there', hthere', hq'⟩ := exists_walk_of_place_append h'
  obtain rfl : there = there' := Except.ok.inj (hthere.symm.trans hthere')
  have heq := (eq_append_of_walk hdown hq).symm.trans (eq_append_of_walk hdown' hq')
  exact List.append_cancel_left heq

/-! ### Directories that are made -/

/-- No place is a file and a directory. -/
def IsApart (t : Tree) : Prop := ∀ q, t.hasDir q = true → t.file? q = none

lemma IsApart.read_eq_ok (h : t.IsApart) {bytes : List UInt8} (hplace : t.place p = .ok q)
    (hfile : t.file? q = some bytes) : t.read p = .ok bytes := by
  have hdir : t.hasDir q ≠ true := by
    intro hdir
    have hnone := h q hdir
    rw [hfile] at hnone
    simp at hnone
  simp only [read, hplace, if_neg hdir, hfile]

lemma exists_of_read {bytes : List UInt8} (h : t.read p = .ok bytes) :
    ∃ q, t.place p = .ok q ∧ t.file? q = some bytes := by
  unfold read at h
  split at h
  · simp at h
  · next q hplace =>
    split at h
    · simp at h
    · split at h
      · next found hfile =>
        obtain rfl := Except.ok.inj h
        exact ⟨q, hplace, hfile⟩
      · simp at h

lemma findFile_of_readText {text : Text} (h : t.readText p = .ok text) :
    t.findFile p = .ok true := by
  unfold readText at h
  split at h
  · simp at h
  · next bytes hread =>
    obtain ⟨q, hplace, hfile⟩ := exists_of_read hread
    simp [findFile, find, hplace, hfile]

/-- The second tree has the files of the first and more directories, none in the place of a file. -/
structure AddsDirs (t t' : Tree) : Prop where
  files_eq : t'.files = t.files
  keepsDirs : t.KeepsDirs t'
  fresh : ∀ q, t'.hasDir q = true → t.hasDir q = true ∨ t.file? q = none

lemma AddsDirs.refl (t : Tree) : t.AddsDirs t := ⟨rfl, .refl t, fun _ h => .inl h⟩

lemma AddsDirs.file? (h : t.AddsDirs t') (q : Place) : t'.file? q = t.file? q := by
  rw [Tree.file?, Tree.file?, h.files_eq]

lemma AddsDirs.trans {t'' : Tree} (h : t.AddsDirs t') (h' : t'.AddsDirs t'') :
    t.AddsDirs t'' where
  files_eq := h'.files_eq.trans h.files_eq
  keepsDirs := h.keepsDirs.trans h'.keepsDirs
  fresh q hq := by
    rcases h'.fresh q hq with hq | hq
    · exact h.fresh q hq
    · exact .inr ((h.file? q).symm.trans hq)

lemma AddsDirs.isApart (h : t.AddsDirs t') (hapart : t.IsApart) : t'.IsApart := by
  intro q hq
  rw [h.file?]
  exact (h.fresh q hq).elim (hapart q) id

lemma addsDirs_of_makeDir (h : t.makeDir p = .ok t') : t.AddsDirs t' := by
  unfold makeDir at h
  split at h
  · simp at h
  · next q _ =>
    split at h
    · simp at h
    · next hfree =>
      split at h
      · next hparent =>
        obtain rfl := Except.ok.inj h
        rw [Bool.or_eq_true, not_or, Option.not_isSome_iff_eq_none] at hfree
        refine ⟨rfl, ⟨rfl, fun r hr => (hasDir_addDir hparent).mpr (.inl hr)⟩, fun r hr => ?_⟩
        rcases (hasDir_addDir hparent).mp hr with hr | rfl
        · exact .inl hr
        · exact .inr hfree.2
      · simp at h

lemma addsDirs_ensureDir (t : Tree) (p : Path) : t.AddsDirs (t.ensureDir p).1 := by
  unfold ensureDir
  split
  · next h => exact addsDirs_of_makeDir h
  · exact .refl t

lemma addsDirs_ensureDirs (t : Tree) (p : Path) : t.AddsDirs (t.ensureDirs p).1 := by
  fun_induction ensureDirs t p with
  | case1 p made h => exact addsDirs_of_makeDir h
  | case2 p e h hmissing made hmade ih =>
    rw [hmade] at ih
    exact ih.trans (addsDirs_ensureDir made p)
  | case3 p e h hmissing made e' hmade ih =>
    rw [hmade] at ih
    exact ih
  | case4 p e h hmissing => exact .refl t

lemma exists_of_write {bytes : List UInt8} (h : t.write p bytes = .ok t') :
    ∃ q, t.place p = .ok q ∧ t.hasDir q = false ∧ t.hasDir q.dropLast = true ∧
      t' = { t with files := setFile q bytes t.files } := by
  unfold write at h
  split at h
  · simp at h
  · next q hq =>
    split at h
    · simp at h
    · next hfree =>
      split at h
      · next hparent =>
        exact ⟨q, hq, Bool.eq_false_iff.mpr hfree, hparent, (Except.ok.inj h).symm⟩
      · simp at h

/-! ### Faults of paths that are none -/

lemma hasNull_of_makeDir {e : FileError} (h : t.makeDir p = .error e)
    (he : e.fault = .nullCharacter) : p.HasNull := by
  unfold makeDir at h
  split at h
  · next fault hplace =>
    obtain rfl := Except.error.inj h
    exact place_eq_nullCharacter_iff.mp (hplace.trans (congrArg _ he))
  · split at h
    · obtain rfl := Except.error.inj h
      simp at he
    · split at h
      · simp at h
      · obtain rfl := Except.error.inj h
        simp at he

lemma makeDir_of_hasNull (h : p.HasNull) (t : Tree) :
    t.makeDir p = .error ⟨.nullCharacter, p⟩ := by
  unfold makeDir
  rw [place_eq_nullCharacter_iff.mpr h]

lemma find_of_hasNull (h : p.HasNull) (t : Tree) (holds : Place → Bool) :
    t.find p holds = .ok false := by
  unfold find
  rw [place_eq_nullCharacter_iff.mpr h]

/-- It cannot be told what a path leads to only if the path is too long. -/
lemma find_eq_error_iff {holds : Place → Bool} {e : FileError} :
    t.find p holds = .error e ↔ t.place p = .error .nameTooLong ∧ e = ⟨.nameTooLong, p⟩ := by
  unfold find
  split
  · next hplace => simp [hplace]
  · next hplace => simp [hplace, eq_comm]
  · next fault hne hplace =>
    have hother : fault ≠ .nameTooLong := hne
    simp [hplace, hother]

/-- A fault that has to do with a null character was there before a directory was looked for. -/
lemma eq_of_unlessDir {e e' : FileError} (h : t.unlessDir p e = some e')
    (he : e'.fault = .nullCharacter) : e = e' := by
  unfold unlessDir at h
  split at h
  · simp at h
  · exact Option.some.inj h
  · next found hfind =>
    obtain rfl := Option.some.inj h
    rw [(find_eq_error_iff.mp hfind).2] at he
    simp at he

lemma hasNull_of_ensureDirs {e : FileError} (h : (t.ensureDirs p).2 = some e)
    (he : e.fault = .nullCharacter) : p.HasNull := by
  fun_induction ensureDirs t p with
  | case1 p made hmake => simp at h
  | case2 p e' hmake hmissing made hmade ih =>
    unfold ensureDir at h
    split at h
    · simp at h
    · next found hfound =>
      obtain rfl := eq_of_unlessDir h he
      exact hasNull_of_makeDir hfound he
  | case3 p e' hmake hmissing made found hmade ih =>
    rw [hmade] at ih
    exact (ih h).of_parent
  | case4 p e' hmake hmissing =>
    obtain rfl := eq_of_unlessDir h he
    exact hasNull_of_makeDir hmake he

lemma ensureDirs_of_hasNull (h : p.HasNull) (t : Tree) :
    t.ensureDirs p = (t, some ⟨.nullCharacter, p⟩) := by
  rw [ensureDirs, makeDir_of_hasNull h]
  simp [unlessDir, findDir, find_of_hasNull h]

lemma hasNull_of_write {bytes : List UInt8} {e : FileError} (h : t.write p bytes = .error e)
    (he : e.fault = .nullCharacter) : p.HasNull := by
  unfold write at h
  split at h
  · next fault hplace =>
    obtain rfl := Except.error.inj h
    exact place_eq_nullCharacter_iff.mp (hplace.trans (congrArg _ he))
  · split at h
    · obtain rfl := Except.error.inj h
      simp at he
    · split at h
      · simp at h
      · obtain rfl := Except.error.inj h
        simp at he

lemma not_hasNull_of_findFile (h : t.findFile p = .ok true) : ¬ p.HasNull := by
  intro hnull
  rw [findFile, find_of_hasNull hnull] at h
  simp at h

lemma hasNull_of_readText {e : FileError} (h : t.readText p = .error (.file e))
    (he : e.fault = .nullCharacter) : p.HasNull := by
  unfold readText at h
  split at h
  · next found hread =>
    obtain rfl : found = e := by simpa using h
    unfold read at hread
    split at hread
    · next fault hplace =>
      obtain rfl := Except.error.inj hread
      exact place_eq_nullCharacter_iff.mp (hplace.trans (congrArg _ he))
    · split at hread
      · obtain rfl := Except.error.inj hread
        simp at he
      · split at hread
        · simp at hread
        · obtain rfl := Except.error.inj hread
          simp at he
  · split at h
    · simp at h
    · simp at h

end Tree

end DocGraft
