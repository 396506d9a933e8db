import DocGraft.Proofs.SettingsLayers
import DocGraft.Proofs.TablePaths

/-!
# Checks of sections

Settings are made of a table whose sections are tables. The first key that its section does not know
refuses the whole of it, once the edition is known to be a text. No other key is looked at: one that names
no section is passed over.
-/

namespace DocGraft.Settings

variable {t fields : Table} {s : Section} {key : String} {v : Value}

/-! ### Fixed tables -/

lemma get?_fixTable (t : Table) (key : String) :
    (fixTable t).get? key = (t.get? key).map fixValue := by
  induction t with
  | nil =>
    rw [fixTable]
    rfl
  | cons entry rest ih =>
    rw [fixTable, Table.get?_cons, Table.get?_cons, ih]
    split
    · rfl
    · rfl

lemma map_fst_fixTable (t : Table) : (fixTable t).map Prod.fst = t.map Prod.fst := by
  induction t with
  | nil => rw [fixTable]
  | cons entry rest ih => rw [fixTable, List.map_cons, List.map_cons, ih]

lemma isDistinct_fixTable : (fixTable t).IsDistinct ↔ t.IsDistinct := by
  rw [Table.IsDistinct, map_fst_fixTable, Table.IsDistinct]

mutual

lemma isWritable_fixValue : (v : Value) → (fixValue v).isWritable = v.isWritable
  | .list items => by rw [fixValue, Value.isWritable, Value.isWritable]
  | .table entries => by
    rw [fixValue, Value.isWritable, Value.isWritable, haveWritable_fixTable entries]
  | .null | .bool _ | .int _ | .float _ | .text _ | .moment _ | .fixed _ => by rw [fixValue]

lemma haveWritable_fixTable : (entries : List (String × Value)) →
    Value.haveWritable (fixTable entries) = Value.haveWritable entries
  | [] => by rw [fixTable]
  | (key, value) :: rest => by
    rw [fixTable, Value.haveWritable, Value.haveWritable, isWritable_fixValue value,
      haveWritable_fixTable rest]

end

/-! ### Entries -/

/-- The entries of a table make up the table again. -/
lemma tableOf_entries {fields : Table} (h : (t ++ fields).IsDistinct) :
    tableOf t (fields.map fun e => (.text e.1, e.2)) = .ok (t ++ fields) := by
  induction fields generalizing t with
  | nil => rw [List.map_nil, tableOf, List.append_nil]
  | cons entry rest ih =>
    have hfresh := h.not_mem_of_append_cons
    rw [List.append_cons] at h ⊢
    rw [List.map_cons, tableOf, Table.set_of_not_mem hfresh]
    exact ih h

lemma text_beq_text (a b : String) : (Value.text a == Value.text b) = (a == b) := rfl

/-- The entry of a key among the entries of a table. -/
lemma filter_entries (h : fields.IsDistinct) (key : String) :
    (fields.map fun e => (Value.text e.1, e.2)).filter (fun e => e.1 == .text key) =
      (fields.get? key).toList.map fun v => (.text key, v) := by
  induction fields with
  | nil => rfl
  | cons entry rest ih =>
    obtain ⟨hfresh, hrest⟩ := List.nodup_cons.mp h
    rw [List.map_cons, List.filter_cons, text_beq_text, ih hrest, Table.get?_cons]
    by_cases hkey : entry.1 = key
    · have hnone : Table.get? rest key = none := lookup_eq_none_of_not_mem (hkey ▸ hfresh)
      simp [hkey, hnone]
    · simp [hkey]

lemma withEdition_entries (h : fields.IsDistinct) :
    withEdition (fields.map fun e => (.text e.1, e.2)) =
      if (fields.get? "edition").all Value.isWritable then
        .ok (fields.map fun e => (.text e.1, e.2))
      else .error .tooLong := by
  rw [withEdition, filter_entries h]
  cases fields.get? "edition" with
  | none => rfl
  | some v => rfl

/-! ### Unknown keys -/

/-- The refusal of a key that a section does not know. -/
def refusal (s : Section) (key : String) : Fault :=
  if key = sectionName then .ownName s else .unknownKey s key

/-- The first of the keys that the section does not know. -/
def Section.unknown? (s : Section) (keys : List String) : Option String :=
  keys.find? fun key => !s.keys.contains key

lemma Section.unknown?_eq_none_iff {keys : List String} :
    s.unknown? keys = none ↔ ∀ key ∈ keys, key ∈ s.keys := by
  simp [unknown?]

lemma Section.of_unknown?_eq_some {keys : List String} (h : s.unknown? keys = some key) :
    key ∈ keys ∧ key ∉ s.keys :=
  ⟨List.mem_of_find?_eq_some h, by simpa using List.find?_some h⟩

lemma checked_eq (s : Section) (fields : Table) :
    s.checked fields =
      match s.unknown? (fields.map Prod.fst) with
      | some key => .error (refusal s key)
      | none => .ok fields := by
  rw [Section.checked, Section.unknown?, List.find?_map]
  simp only [Function.comp_def]
  cases fields.find? fun e => !s.keys.contains e.1 with
  | none => rfl
  | some e => rfl

/-- The table has a table for each section that it has, and no key comes twice in one. -/
structure HasSections (t : Table) : Prop where
  section_eq : ∀ s : Section, t.get? s.name = none ∨ t.get? s.name = some (.table (fieldsOf t s))
  distinct : ∀ s : Section, (fieldsOf t s).IsDistinct

/-- The first unknown key of a section. -/
def unknownOf? (t : Table) (s : Section) : Option String :=
  s.unknown? ((fieldsOf t s).map Prod.fst)

/-- The settings of a table whose sections all pass their checks. -/
def ofLayer (t : Table) : Settings :=
  ⟨generalOf (fixTable (fieldsOf t .general)), formatterOf (fixTable (fieldsOf t .formatter)),
    markersOf (fixTable (fieldsOf t .markers)), mergeOf (fixTable (fieldsOf t .merge)),
    batchOf (fixTable (fieldsOf t .batch))⟩

/-- The first refusal of a key, in the order in which the sections are made. -/
def refused? (t : Table) : Option Fault :=
  [Section.general, .formatter, .markers, .merge, .batch].findSome? fun s =>
    (unknownOf? t s).map (refusal s)

lemma HasSections.getD_fixTable (h : HasSections t) (s : Section) :
    (fixTable t).getD s.name (.table []) = .table (fixTable (fieldsOf t s)) := by
  rw [Table.getD, get?_fixTable]
  rcases h.section_eq s with hnone | hsome
  · rw [hnone, fieldsOf_eq_nil_of_get? hnone, fixTable]
    rfl
  · rw [hsome, Option.map_some, fixValue]
    rfl

lemma checked_fixTable (t : Table) (s : Section) :
    s.checked (fixTable (fieldsOf t s)) =
      match unknownOf? t s with
      | some key => .error (refusal s key)
      | none => .ok (fixTable (fieldsOf t s)) := by
  rw [checked_eq, map_fst_fixTable, unknownOf?]

lemma HasSections.strict_fixTable (h : HasSections t) (s : Section) :
    strict (fixTable t) s =
      match unknownOf? t s with
      | some key => .error (refusal s key)
      | none => .ok (fixTable (fieldsOf t s)) := by
  rw [strict, h.getD_fixTable]
  exact checked_fixTable t s

/-- An edition that cannot be written comes before any unknown key. -/
lemma HasSections.ofTable_eq (h : HasSections t) :
    ofTable t =
      if (given? t .formatter "edition").all Value.isWritable then
        match refused? t with
        | some fault => .error fault
        | none => .ok (ofLayer t)
      else .error .tooLong := by
  have hdistinct : ∀ s, (fixTable (fieldsOf t s)).IsDistinct := fun s =>
    isDistinct_fixTable.mpr (h.distinct s)
  have htable : ∀ s, tableOf [] ((fixTable (fieldsOf t s)).map fun e => (.text e.1, e.2)) =
      .ok (fixTable (fieldsOf t s)) := fun s => tableOf_entries (hdistinct s)
  -- the edition is written after its list is fixed, which makes its numbers no longer
  have hedition : ((fixTable (fieldsOf t .formatter)).get? "edition").all Value.isWritable =
      (given? t .formatter "edition").all Value.isWritable := by
    rw [get?_fixTable, given?_eq_get?_fieldsOf]
    cases (fieldsOf t .formatter).get? "edition" with
    | none => rfl
    | some v => exact isWritable_fixValue v
  unfold ofTable
  simp only [h.getD_fixTable, entries, withEdition_entries (hdistinct .formatter), hedition, bind,
    Except.bind]
  cases hwritable : (given? t .formatter "edition").all Value.isWritable with
  | false => rfl
  | true =>
    simp only [if_true, htable, h.strict_fixTable, checked_fixTable, refused?, List.findSome?_cons,
      List.findSome?_nil]
    cases unknownOf? t .general with
    | some key => rfl
    | none =>
      cases unknownOf? t .formatter with
      | some key => rfl
      | none =>
        cases unknownOf? t .markers with
        | some key => rfl
        | none =>
          cases unknownOf? t .merge with
          | some key => rfl
          | none =>
            cases unknownOf? t .batch with
            | some key => rfl
            | none => rfl

/-! ### Which keys are refused -/

/-- The section has an entry for a key that it does not know. -/
def IsUnknown (t : Table) (s : Section) (key : String) : Prop :=
  (given? t s key).isSome ∧ key ∉ s.keys

lemma isUnknown_iff :
    IsUnknown t s key ↔ key ∈ (fieldsOf t s).map Prod.fst ∧ key ∉ s.keys := by
  rw [IsUnknown, given?_eq_get?_fieldsOf, Table.isSome_get?_iff]

lemma refused?_eq_none_iff : refused? t = none ↔ ¬∃ s key, IsUnknown t s key := by
  have hsection : ∀ s, (unknownOf? t s).map (refusal s) = none ↔ ∀ key, ¬IsUnknown t s key := by
    intro s
    rw [Option.map_eq_none_iff, unknownOf?, Section.unknown?_eq_none_iff]
    simp only [isUnknown_iff, not_and, not_not]
  rw [refused?, List.findSome?_eq_none_iff]
  constructor
  · rintro h ⟨s, key, hkey⟩
    exact (hsection s).mp (h s (by cases s <;> simp)) key hkey
  · intro h s _
    exact (hsection s).mpr fun key hkey => h ⟨s, key, hkey⟩

lemma exists_of_refused? {fault : Fault} (h : refused? t = some fault) :
    ∃ s key, IsUnknown t s key ∧ fault = refusal s key := by
  obtain ⟨s, -, hs⟩ := List.exists_of_findSome?_eq_some h
  obtain ⟨key, hkey, rfl⟩ := Option.map_eq_some_iff.mp hs
  exact ⟨s, key, isUnknown_iff.mpr (Section.of_unknown?_eq_some hkey), rfl⟩

lemma refusal_ne_tooLong (s : Section) (key : String) : refusal s key ≠ .tooLong := by
  unfold refusal
  split
  · simp
  · simp

lemma refusal_inj {s s' : Section} {key key' : String} (h : refusal s key = refusal s' key') :
    s = s' ∧ key = key' := by
  unfold refusal at h
  split at h
  · next hkey =>
    split at h
    · next hkey' => exact ⟨Fault.ownName.inj h, hkey.trans hkey'.symm⟩
    · exact absurd h (by simp)
  · split at h
    · exact absurd h (by simp)
    · exact Fault.unknownKey.inj h

/-- A table with sections is too long, or refused for an unknown key, or gives settings. -/
lemma HasSections.ofTable_cases (h : HasSections t) :
    (given? t .formatter "edition").all Value.isWritable = false ∧ ofTable t = .error .tooLong ∨
      (given? t .formatter "edition").all Value.isWritable = true ∧
        ((∃ s key, IsUnknown t s key ∧ ofTable t = .error (refusal s key)) ∨
          (¬∃ s key, IsUnknown t s key) ∧ ofTable t = .ok (ofLayer t)) := by
  rw [h.ofTable_eq]
  cases (given? t .formatter "edition").all Value.isWritable with
  | false => exact .inl ⟨rfl, rfl⟩
  | true =>
    refine .inr ⟨rfl, ?_⟩
    cases hrefused : refused? t with
    | none => exact .inr ⟨refused?_eq_none_iff.mp hrefused, rfl⟩
    | some fault =>
      obtain ⟨s, key, hkey, rfl⟩ := exists_of_refused? hrefused
      exact .inl ⟨s, key, hkey, rfl⟩

/-- Nothing but the sections is looked at. -/
lemma ofTable_congr {u : Table} (h : ∀ s : Section, u.get? s.name = t.get? s.name) :
    ofTable u = ofTable t := by
  have hget : ∀ s : Section, (fixTable u).getD s.name (.table []) =
      (fixTable t).getD s.name (.table []) := by
    intro s
    rw [Table.getD, Table.getD, get?_fixTable, get?_fixTable, h]
  simp only [ofTable, strict, hget]

lemma hasSections_of_isTree (htree : t.IsTree)
    (htables : ∀ (s : Section) (v : Value), t.get? s.name = some v → v.isTable = true) :
    HasSections t where
  section_eq s := by
    cases hget : t.get? s.name with
    | none => exact .inl rfl
    | some v =>
      obtain ⟨fields, rfl⟩ := Value.eq_table_of_isTable (htables s v hget)
      rw [fieldsOf_eq_of_get? hget]
      exact .inr rfl
  distinct s := (htree.below s.name).distinct

/-- Where the sections of a table are tables, the settings are refused for a key exactly if a section has
one that it does not know and the edition can be written, and it is such a key that they are refused for.
An edition that cannot be written is the only other fault. A key that names no section is never refused:
the settings are the same without it. -/
theorem unknown_keys_of_sections_are_refused (htree : t.IsTree)
    (htables : ∀ (s : Section) (v : Value), t.get? s.name = some v → v.isTable = true) :
    let writable := (given? t .formatter "edition").all Value.isWritable = true
    let unknown := ∃ s key, IsUnknown t s key
    ((∃ s key, ofTable t = .error (refusal s key)) ↔ writable ∧ unknown) ∧
    (∀ s key, ofTable t = .error (refusal s key) → IsUnknown t s key) ∧
    (ofTable t = .error .tooLong ↔ ¬writable) ∧
    ((∃ settings, ofTable t = .ok settings) ↔ writable ∧ ¬unknown) ∧
    ∀ key v, (∀ s : Section, s.name ≠ key) → ofTable (t.set key v) = ofTable t := by
  intro writable unknown
  have hother : ∀ key v, (∀ s : Section, s.name ≠ key) → ofTable (t.set key v) = ofTable t := by
    intro key v hkey
    apply ofTable_congr
    intro s
    rw [Table.get?_set, if_neg (hkey s)]
  rcases (hasSections_of_isTree htree htables).ofTable_cases with
    ⟨hlong, h⟩ | ⟨hwritable, ⟨s, key, hkey, h⟩ | ⟨hnone, h⟩⟩
  · have hnot : ¬writable := by simp [writable, hlong]
    have hrefusal : ∀ s key, ofTable t ≠ .error (refusal s key) := fun s key heq =>
      refusal_ne_tooLong s key (Except.error.inj (heq.symm.trans h))
    refine ⟨?_, fun s key heq => absurd heq (hrefusal s key), by simp [h, hnot], ?_, hother⟩
    · simp [hrefusal, hnot]
    · simp [h, hnot]
  · have hunknown : unknown := ⟨s, key, hkey⟩
    have hshort : ofTable t ≠ .error .tooLong := fun heq =>
      refusal_ne_tooLong s key (Except.error.inj (h.symm.trans heq))
    refine ⟨iff_of_true ⟨s, key, h⟩ ⟨hwritable, hunknown⟩, fun s' key' heq => ?_,
      iff_of_false hshort (not_not.mpr hwritable), ?_, hother⟩
    · obtain ⟨rfl, rfl⟩ := refusal_inj (Except.error.inj (h.symm.trans heq))
      exact hkey
    · simp [h, hunknown]
  · have hnone' : ¬unknown := hnone
    refine ⟨by simp [h, hnone'], fun s key heq => ?_, ?_, ?_, hother⟩
    · exact absurd (h.symm.trans heq) (by simp)
    · exact iff_of_false (by simp [h]) (not_not.mpr hwritable)
    · exact iff_of_true ⟨_, h⟩ ⟨hwritable, hnone'⟩

/-- One section has a key of another one, and a table of no section stands beside it. -/
theorem unknown_keys_of_sections_are_refused_beside_other_table :
    let t : Table := [("merge", .table [("split_mixed_hunks", .bool true), ("fail_fast", .bool true)]),
      ("formatter", .table [("edition", .int 2021)])]
    t.IsTree ∧ (∀ (s : Section) (v : Value), t.get? s.name = some v → v.isTable = true) ∧
      ofTable t = .error (refusal .merge "fail_fast") ∧
      ofTable (t.set "tools" (.table [("edition", .int 2018)])) =
        .error (refusal .merge "fail_fast") ∧
      (refusal .merge "fail_fast").message =
        "MergeConfig.__init__() got an unexpected keyword argument 'fail_fast'" := by
  intro t
  have htree : t.IsTree := by decide
  have htables : ∀ (s : Section) (v : Value), t.get? s.name = some v → v.isTable = true := by
    intro s v hv
    cases s with
    | general | markers | batch => exact absurd hv (by simp [t, Table.get?_cons, Section.name])
    | formatter | merge => exact Option.some.inj hv ▸ rfl
  obtain ⟨hrefused, hnames, -, -, hother⟩ := unknown_keys_of_sections_are_refused htree htables
  have hunknown : IsUnknown t .merge "fail_fast" := ⟨rfl, by decide⟩
  obtain ⟨s, key, h⟩ := hrefused.mpr ⟨by decide +kernel, .merge, "fail_fast", hunknown⟩
  have hkey : s = .merge ∧ key = "fail_fast" := by
    obtain ⟨hmem, hnot⟩ := isUnknown_iff.mp (hnames s key h)
    cases s with
    | general | markers | batch => exact absurd hmem List.not_mem_nil
    | formatter =>
      obtain rfl := List.mem_singleton.mp hmem
      exact absurd hnot (by decide)
    | merge =>
      have hkeys : key ∈ ["split_mixed_hunks", "fail_fast"] := hmem
      rcases List.mem_cons.mp hkeys with rfl | hlast
      · exact absurd hnot (by decide)
      · exact ⟨rfl, List.mem_singleton.mp hlast⟩
  obtain ⟨rfl, rfl⟩ := hkey
  have htools : ofTable (t.set "tools" (.table [("edition", .int 2018)])) = ofTable t :=
    hother _ _ fun s => by cases s <;> decide
  exact ⟨htree, htables, h, htools.trans h, rfl⟩

/-- A table whose name is no section's gives the settings that are given without it. -/
theorem misnamed_section_is_passed_over :
    ofTable [("formater", .table [("edition", .text "2018")])] = .ok {} ∧
      ∀ s : Section, s.name ≠ "formater" := by
  refine ⟨rfl, fun s => ?_⟩
  cases s with
  | general | formatter | markers | merge | batch => decide

end DocGraft.Settings
