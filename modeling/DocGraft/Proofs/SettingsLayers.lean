import DocGraft.Proofs.TableLookup
import DocGraft.Settings.Basic
import Mathlib.Tactic.Common

/-!
# Layers over layers

A layer of settings gives some of the fields of some sections. Laying one layer over another keeps
every field that the upper one does not give, and a named value replaces one field. Both are told by
what is given for a field; where in its table a field stands does not matter.
-/

namespace DocGraft.Settings

variable {t base above fields : Table} {s s' : Section} {key key' : String} {v : Value}
  {named : List (String × String)}

lemma Section.name_injective : Function.Injective Section.name := by
  intro s s' h
  cases s <;> cases s' <;> first | rfl | exact absurd h (by decide)

/-- The entries of a section in a layer: values of keys that the section knows. -/
structure IsFields (s : Section) (fields : Table) : Prop where
  distinct : fields.IsDistinct
  known : ∀ entry ∈ fields, entry.1 ∈ s.keys
  plain : ∀ entry ∈ fields, entry.2.isTable = false

instance (s : Section) (fields : Table) : Decidable (IsFields s fields) :=
  decidable_of_iff (fields.IsDistinct ∧ (∀ entry ∈ fields, entry.1 ∈ s.keys) ∧
      ∀ entry ∈ fields, entry.2.isTable = false)
    ⟨fun ⟨hdistinct, hknown, hplain⟩ => ⟨hdistinct, hknown, hplain⟩,
      fun h => ⟨h.distinct, h.known, h.plain⟩⟩

/-- The entries of a section, or none if there is no table of that name. -/
def fieldsOf (t : Table) (s : Section) : Table :=
  match t.get? s.name with
  | some (.table fields) => fields
  | _ => []

/-- The table is a layer: each section is absent or a table of known fields. What else is in the
table does not matter. -/
structure IsLayer (t : Table) : Prop where
  distinct : t.IsDistinct
  section_eq : ∀ s : Section, t.get? s.name = none ∨ t.get? s.name = some (.table (fieldsOf t s))
  isFields : ∀ s : Section, IsFields s (fieldsOf t s)

/-- What a table gives for a field. -/
def given? (t : Table) (s : Section) (key : String) : Option Value := t.at? [s.name, key]

lemma isFields_nil (s : Section) : IsFields s [] :=
  ⟨List.nodup_nil, fun _ h => absurd h List.not_mem_nil, fun _ h => absurd h List.not_mem_nil⟩

lemma IsFields.set (h : IsFields s fields) (hkey : key ∈ s.keys) (hv : v.isTable = false) :
    IsFields s (fields.set key v) where
  distinct := h.distinct.set key v
  known entry hentry := by
    rcases Table.mem_set hentry with rfl | hentry
    · exact hkey
    · exact h.known entry hentry
  plain entry hentry := by
    rcases Table.mem_set hentry with rfl | hentry
    · exact hv
    · exact h.plain entry hentry

lemma IsFields.overlay {upper : Table} (h : IsFields s fields) (hupper : IsFields s upper) :
    IsFields s (fields.overlay upper) where
  distinct := h.distinct.overlay upper
  known entry hentry := by
    rcases Table.mem_overlay_of_plain hupper.plain hentry with hentry | hentry
    · exact hupper.known entry hentry
    · exact h.known entry hentry
  plain entry hentry := by
    rcases Table.mem_overlay_of_plain hupper.plain hentry with hentry | hentry
    · exact hupper.plain entry hentry
    · exact h.plain entry hentry

lemma fieldsOf_eq_of_get? (h : t.get? s.name = some (.table fields)) : fieldsOf t s = fields := by
  rw [fieldsOf, h]

lemma fieldsOf_eq_nil_of_get? (h : t.get? s.name = none) : fieldsOf t s = [] := by
  rw [fieldsOf, h]

lemma given?_eq_get?_fieldsOf (t : Table) (s : Section) (key : String) :
    given? t s key = (fieldsOf t s).get? key := by
  unfold given? fieldsOf
  cases hsection : t.get? s.name with
  | none => simp [Table.at?, hsection]
  | some value =>
    cases value with
    | table fields => simp [Table.at?, hsection]
    | null | bool _ | int _ | float _ | text _ | moment _ | list _ | fixed _ =>
      simp [Table.at?, hsection]

/-- A section of a layer can be given by its table alone. -/
lemma isLayer_of_forall (hdistinct : t.IsDistinct)
    (h : ∀ s : Section, t.get? s.name = none ∨
      ∃ fields, t.get? s.name = some (.table fields) ∧ IsFields s fields) : IsLayer t where
  distinct := hdistinct
  section_eq s := by
    rcases h s with hnone | ⟨fields, hsome, -⟩
    · exact .inl hnone
    · rw [fieldsOf_eq_of_get? hsome]
      exact .inr hsome
  isFields s := by
    rcases h s with hnone | ⟨fields, hsome, hfields⟩
    · rw [fieldsOf_eq_nil_of_get? hnone]
      exact isFields_nil s
    · rwa [fieldsOf_eq_of_get? hsome]

lemma isLayer_nil : IsLayer [] :=
  isLayer_of_forall List.nodup_nil fun _ => .inl (Table.get?_nil _)

lemma isLayer_bundled : IsLayer bundled := by
  apply isLayer_of_forall
  · decide
  · intro s
    right
    cases s with
    | general | formatter | markers | merge | batch => exact ⟨_, rfl, by decide⟩

/-! ### One layer over another -/

/-- What laying a layer over another makes of a section. -/
lemma IsLayer.get?_overlay (hbase : IsLayer base) (habove : IsLayer above) (s : Section) :
    above.get? s.name = none ∧ (base.overlay above).get? s.name = base.get? s.name ∨
      base.get? s.name = none ∧
        (base.overlay above).get? s.name = some (.table (fieldsOf above s)) ∨
      (base.overlay above).get? s.name =
        some (.table ((fieldsOf base s).overlay (fieldsOf above s))) := by
  rw [Table.get?_overlay habove.distinct]
  rcases habove.section_eq s with hupper | hupper
  · rw [hupper]
    exact .inl ⟨rfl, rfl⟩
  · rw [hupper]
    rcases hbase.section_eq s with hlower | hlower
    · rw [hlower]
      refine .inr (.inl ⟨rfl, ?_⟩)
      simp [Table.overlayValue]
    · rw [hlower]
      refine .inr (.inr ?_)
      dsimp only
      rw [Table.overlayValue]

lemma IsLayer.overlay (hbase : IsLayer base) (habove : IsLayer above) :
    IsLayer (base.overlay above) := by
  refine isLayer_of_forall (hbase.distinct.overlay above) fun s => ?_
  rcases hbase.get?_overlay habove s with ⟨-, h⟩ | ⟨-, h⟩ | h
  · rw [h]
    exact (hbase.section_eq s).imp_right fun hlower => ⟨_, hlower, hbase.isFields s⟩
  · exact .inr ⟨_, h, habove.isFields s⟩
  · exact .inr ⟨_, h, (hbase.isFields s).overlay (habove.isFields s)⟩

/-- The upper layer decides about the fields that it gives, and about no others. -/
lemma IsLayer.given?_overlay (hbase : IsLayer base) (habove : IsLayer above) (s : Section)
    (key : String) :
    given? (base.overlay above) s key = (given? above s key).or (given? base s key) := by
  simp only [given?_eq_get?_fieldsOf]
  rcases hbase.get?_overlay habove s with ⟨hupper, h⟩ | ⟨hlower, h⟩ | h
  · have heq : fieldsOf (base.overlay above) s = fieldsOf base s := by rw [fieldsOf, h, ← fieldsOf]
    rw [heq, fieldsOf_eq_nil_of_get? hupper, Table.get?_nil, Option.none_or]
  · rw [fieldsOf_eq_of_get? h, fieldsOf_eq_nil_of_get? hlower, Table.get?_nil, Option.or_none]
  · rw [fieldsOf_eq_of_get? h, Table.get?_overlay_of_plain (habove.isFields s).distinct
      (habove.isFields s).plain]

/-! ### Named values -/

/-- The name of a field on the command line. -/
def fieldName (s : Section) (key : String) : String := s.name ++ "." ++ key

lemma path_fieldName (hkey : key ∈ s.keys) : Table.path (fieldName s key) = [s.name, key] := by
  have hall : ∀ s ∈ [Section.general, .formatter, .markers, .merge, .batch],
      ∀ key ∈ s.keys, Table.path (fieldName s key) = [s.name, key] := by decide +kernel
  exact hall s (by cases s <;> simp) key hkey

lemma fieldName_inj (hkey : key ∈ s.keys) (hkey' : key' ∈ s'.keys) :
    fieldName s key = fieldName s' key' ↔ s = s' ∧ key = key' := by
  constructor
  · intro h
    have hpath := congrArg Table.path h
    rw [path_fieldName hkey, path_fieldName hkey'] at hpath
    obtain ⟨hs, hk⟩ := List.cons.inj hpath
    exact ⟨Section.name_injective hs, (List.cons.inj hk).1⟩
  · rintro ⟨rfl, rfl⟩
    rfl

/-- Each name is that of a field, and none comes twice. -/
structure NamesFields (named : List (String × String)) : Prop where
  distinct : (named.map Prod.fst).Nodup
  known : ∀ entry ∈ named, ∃ s : Section, ∃ key ∈ s.keys, entry.1 = fieldName s key

lemma NamesFields.tail {entry : String × String} (h : NamesFields (entry :: named)) :
    NamesFields named :=
  ⟨(List.nodup_cons.mp h.distinct).2, fun e he => h.known e (List.mem_cons_of_mem _ he)⟩

/-- Where no name comes twice, the names stand as they were given. -/
lemma lastGiven_of_nodup {given : List (String × String)}
    (h : ((given ++ named).map Prod.fst).Nodup) : lastGiven given named = given ++ named := by
  induction named generalizing given with
  | nil => rw [lastGiven, List.append_nil]
  | cons entry rest ih =>
    have hfresh : given.any (·.1 == entry.1) = false := by
      rw [List.any_eq_false]
      intro g hg
      rw [List.map_append, List.map_cons, List.nodup_append] at h
      simpa using h.2.2 g.1 (List.mem_map_of_mem hg) entry.1 List.mem_cons_self
    rw [lastGiven, hfresh, if_neg Bool.false_ne_true, ih (by rwa [List.append_cons] at h),
      ← List.append_cons]

lemma IsLayer.assign (h : IsLayer t) (s : Section) (key : String) (v : Value) :
    t.assign [s.name, key] v = .ok (t.set s.name (.table ((fieldsOf t s).set key v))) := by
  rcases h.section_eq s with hnone | hsome
  · rw [Table.assign, hnone, fieldsOf_eq_nil_of_get? hnone]
    · rfl
    · simp
  · rw [Table.assign, hsome]
    · rfl
    · simp

lemma fieldsOf_set (t : Table) (s : Section) (fields : Table) (s' : Section) :
    fieldsOf (t.set s.name (.table fields)) s' = if s' = s then fields else fieldsOf t s' := by
  rw [fieldsOf, Table.get?_set]
  by_cases hs : s' = s
  · rw [if_pos (congrArg Section.name hs), if_pos hs]
  · rw [if_neg fun hname => hs (Section.name_injective hname), if_neg hs, ← fieldsOf]

lemma IsLayer.setField (h : IsLayer t) (hkey : key ∈ s.keys) (hv : v.isTable = false) :
    IsLayer (t.set s.name (.table ((fieldsOf t s).set key v))) := by
  refine isLayer_of_forall (h.distinct.set _ _) fun s' => ?_
  rw [Table.get?_set]
  by_cases hs : s'.name = s.name
  · obtain rfl := Section.name_injective hs
    rw [if_pos rfl]
    exact .inr ⟨_, rfl, (h.isFields s').set hkey hv⟩
  · rw [if_neg hs]
    exact (h.section_eq s').imp_right fun hsome => ⟨_, hsome, h.isFields s'⟩

lemma given?_setField (t : Table) (s : Section) (key : String) (v : Value) (s' : Section)
    (key' : String) :
    given? (t.set s.name (.table ((fieldsOf t s).set key v))) s' key' =
      if s' = s ∧ key' = key then some v else given? t s' key' := by
  rw [given?_eq_get?_fieldsOf, given?_eq_get?_fieldsOf, fieldsOf_set]
  by_cases hs : s' = s
  · rw [if_pos hs, Table.get?_set, hs]
    simp only [true_and]
  · rw [if_neg hs, if_neg fun h => hs h.1]

/-- Named values replace the fields that they name, and no others. -/
lemma IsLayer.overrideAll (h : IsLayer t) (hnamed : NamesFields named) :
    ∃ t', t.overrideAll named = .ok t' ∧ IsLayer t' ∧ ∀ s : Section, ∀ key ∈ s.keys,
      given? t' s key =
        ((named.lookup (fieldName s key)).map Value.ofText).or (given? t s key) := by
  induction named generalizing t with
  | nil => exact ⟨t, rfl, h, fun s key _ => by simp⟩
  | cons entry rest ih =>
    obtain ⟨s, key, hkey, hname⟩ := hnamed.known entry List.mem_cons_self
    have hlayer := h.setField (s := s) hkey (Value.isTable_ofText entry.2)
    obtain ⟨t', hall, ht', hgiven⟩ := ih hlayer hnamed.tail
    refine ⟨t', ?_, ht', fun s' key' hkey' => ?_⟩
    · rw [Table.overrideAll, Table.override, hname, path_fieldName hkey, h.assign]
      exact hall
    · rw [hgiven s' key' hkey', given?_setField, lookup_cons_eq_ite, hname]
      by_cases hfield : s' = s ∧ key' = key
      · -- the name does not come again
        obtain ⟨rfl, rfl⟩ := hfield
        have hfresh := (List.nodup_cons.mp hnamed.distinct).1
        rw [hname] at hfresh
        simp [lookup_eq_none_of_not_mem hfresh]
      · rw [if_neg hfield, if_neg fun hf => hfield ((fieldName_inj hkey' hkey).mp hf.symm)]

end DocGraft.Settings
