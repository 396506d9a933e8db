import DocGraft.Settings.Override
import Mathlib.Data.List.Nodup

/-!
# Looking up keys

What a table holds under a key, after a key was set and after another table was laid over it. A
table with distinct keys is determined by this up to the order of its entries.
-/

namespace DocGraft

namespace Value

def isTable : Value → Bool
  | .table _ => true
  | _ => false

/-- No text on the command line stands for a table. -/
lemma isTable_ofText (s : String) : (ofText s).isTable = false := by
  unfold ofText
  dsimp only
  split
  · rfl
  · split
    · rfl
    · split
      · rfl
      · rfl
      · split
        · rfl
        · rfl

end Value

/-! ### Entries by their keys -/

section Entries

variable {α : Type}

lemma lookup_cons_eq_ite (entry : String × α) (entries : List (String × α)) (key : String) :
    (entry :: entries).lookup key = if entry.1 = key then some entry.2 else entries.lookup key := by
  rw [List.lookup_cons]
  by_cases h : entry.1 = key
  · rw [if_pos h, beq_iff_eq.mpr h.symm]
  · rw [if_neg h, beq_false_of_ne (Ne.symm h)]

lemma mem_of_lookup_eq_some {entries : List (String × α)} {key : String} {a : α}
    (h : entries.lookup key = some a) : (key, a) ∈ entries := by
  induction entries with
  | nil => simp at h
  | cons entry rest ih =>
    rw [lookup_cons_eq_ite] at h
    split at h
    · next hkey =>
      rw [← hkey, ← Option.some.inj h]
      exact List.mem_cons_self
    · exact List.mem_cons_of_mem _ (ih h)

lemma lookup_eq_none_of_not_mem {entries : List (String × α)} {key : String}
    (h : key ∉ entries.map Prod.fst) : entries.lookup key = none := by
  rw [Option.eq_none_iff_forall_not_mem]
  intro a ha
  exact h (List.mem_map_of_mem (mem_of_lookup_eq_some ha))

lemma lookup_eq_some_iff {entries : List (String × α)} (h : (entries.map Prod.fst).Nodup)
    {key : String} {a : α} : entries.lookup key = some a ↔ (key, a) ∈ entries := by
  refine ⟨mem_of_lookup_eq_some, fun hmem => ?_⟩
  induction entries with
  | nil => simp at hmem
  | cons entry rest ih =>
    obtain ⟨hfresh, hrest⟩ := List.nodup_cons.mp h
    rw [lookup_cons_eq_ite]
    rcases List.mem_cons.mp hmem with rfl | hmem
    · exact if_pos rfl
    · have hne : entry.1 ≠ key := fun hkey => hfresh (hkey ▸ List.mem_map_of_mem hmem)
      rw [if_neg hne, ih hrest hmem]

/-- Where no key comes twice, the order of the entries does not matter. -/
lemma lookup_eq_of_perm {entries entries' : List (String × α)}
    (h : (entries.map Prod.fst).Nodup) (hperm : entries'.Perm entries) (key : String) :
    entries'.lookup key = entries.lookup key := by
  have h' : (entries'.map Prod.fst).Nodup := (hperm.map Prod.fst).nodup_iff.mpr h
  ext a
  rw [lookup_eq_some_iff h', lookup_eq_some_iff h, hperm.mem_iff]

end Entries

namespace Table

variable {t base : Table} {key key' : String} {v value : Value}

/-- No key comes twice. -/
def IsDistinct (t : Table) : Prop := (t.map Prod.fst).Nodup

instance : DecidablePred IsDistinct := fun t => inferInstanceAs (Decidable (t.map Prod.fst).Nodup)

@[simp] lemma get?_nil (key : String) : get? [] key = none := rfl

lemma get?_cons (entry : String × Value) (t : Table) (key : String) :
    get? (entry :: t) key = if entry.1 = key then some entry.2 else t.get? key :=
  lookup_cons_eq_ite entry t key

lemma isSome_get?_iff : (t.get? key).isSome ↔ key ∈ t.map Prod.fst := by
  induction t with
  | nil => simp
  | cons entry rest ih =>
    rw [get?_cons, List.map_cons, List.mem_cons, ← ih]
    by_cases hkey : entry.1 = key
    · simp [hkey]
    · simp [hkey, Ne.symm hkey]

/-! ### Setting a key -/

lemma get?_set (t : Table) (key : String) (value : Value) (key' : String) :
    (t.set key value).get? key' = if key' = key then some value else t.get? key' := by
  induction t with
  | nil => simp [set, get?_cons, eq_comm]
  | cons entry rest ih =>
    rw [set]
    by_cases hkey : entry.1 = key
    · rw [if_pos hkey, get?_cons, get?_cons, hkey]
      by_cases hkey' : key' = key
      · rw [if_pos hkey'.symm, if_pos hkey']
      · rw [if_neg (Ne.symm hkey'), if_neg hkey', if_neg (Ne.symm hkey')]
    · rw [if_neg hkey, get?_cons, get?_cons, ih]
      by_cases hkey' : entry.1 = key'
      · rw [if_pos hkey', if_pos hkey', if_neg (hkey' ▸ hkey)]
      · rw [if_neg hkey', if_neg hkey']

lemma mem_set {entry : String × Value} (h : entry ∈ t.set key value) :
    entry = (key, value) ∨ entry ∈ t := by
  induction t with
  | nil => exact .inl (List.mem_singleton.mp h)
  | cons first rest ih =>
    rw [set] at h
    split at h
    · exact (List.mem_cons.mp h).imp_right (List.mem_cons_of_mem _)
    · rcases List.mem_cons.mp h with rfl | h
      · exact .inr List.mem_cons_self
      · exact (ih h).imp_right (List.mem_cons_of_mem _)

lemma set_of_not_mem (h : key ∉ t.map Prod.fst) : t.set key value = t ++ [(key, value)] := by
  induction t with
  | nil => rfl
  | cons first rest ih =>
    rw [List.map_cons, List.mem_cons, not_or] at h
    rw [set, if_neg (Ne.symm h.1), ih h.2, List.cons_append]

lemma map_fst_set_of_mem (h : key ∈ t.map Prod.fst) :
    (t.set key value).map Prod.fst = t.map Prod.fst := by
  induction t with
  | nil => simp at h
  | cons first rest ih =>
    rw [set]
    by_cases hkey : first.1 = key
    · rw [if_pos hkey, List.map_cons, List.map_cons, hkey]
    · rw [List.map_cons, List.mem_cons] at h
      rw [if_neg hkey, List.map_cons, List.map_cons, ih (h.resolve_left (Ne.symm hkey))]

lemma IsDistinct.not_mem_of_append_cons {entry : String × Value} {rest : Table}
    (h : (t ++ entry :: rest).IsDistinct) : entry.1 ∉ t.map Prod.fst := by
  rw [IsDistinct, List.map_append, List.map_cons, List.nodup_append] at h
  exact fun hmem => h.2.2 _ hmem _ List.mem_cons_self rfl

lemma IsDistinct.set (h : t.IsDistinct) (key : String) (value : Value) :
    (t.set key value).IsDistinct := by
  unfold IsDistinct at h ⊢
  by_cases hkey : key ∈ t.map Prod.fst
  · rwa [map_fst_set_of_mem hkey]
  · rw [set_of_not_mem hkey, List.map_append, List.map_singleton]
    refine List.nodup_append.mpr ⟨h, List.nodup_singleton key, fun k hk l hl => ?_⟩
    obtain rfl := List.mem_singleton.mp hl
    rintro rfl
    exact hkey hk

/-! ### Laying a table over another one -/

lemma overlayValue_of_not_isTable (old : Option Value) (h : v.isTable = false) :
    overlayValue old v = v := by
  cases v with
  | table entries => simp [Value.isTable] at h
  | null | bool _ | int _ | float _ | text _ | moment _ | list _ | fixed _ => rw [overlayValue]

/-- Under each key stands what the upper table makes of the value of the lower one. -/
lemma get?_overlay {above : Table} (h : above.IsDistinct) (base : Table) (key : String) :
    (base.overlay above).get? key =
      match above.get? key with
      | some v => some (overlayValue (base.get? key) v)
      | none => base.get? key := by
  induction above generalizing base with
  | nil => rw [overlay, get?_nil]
  | cons entry rest ih =>
    obtain ⟨hfresh, hrest⟩ := List.nodup_cons.mp h
    rw [overlay, ih hrest, get?_cons, get?_set]
    by_cases hkey : entry.1 = key
    · have hnone : get? rest key = none := lookup_eq_none_of_not_mem (hkey ▸ hfresh)
      rw [if_pos hkey, hnone, if_pos hkey.symm, hkey]
    · rw [if_neg hkey, if_neg (Ne.symm hkey)]

lemma IsDistinct.overlay {base : Table} (h : base.IsDistinct) (above : List (String × Value)) :
    (base.overlay above).IsDistinct := by
  induction above generalizing base with
  | nil => rwa [Table.overlay]
  | cons entry rest ih =>
    rw [Table.overlay]
    exact ih (h.set _ _)

/-- Where no value is a table, the upper value stands. -/
lemma get?_overlay_of_plain {above : Table} (habove : above.IsDistinct)
    (hplain : ∀ entry ∈ above, entry.2.isTable = false) (base : Table) (key : String) :
    (base.overlay above).get? key = (above.get? key).or (base.get? key) := by
  rw [get?_overlay habove]
  cases hget : above.get? key with
  | none => rfl
  | some v =>
    have hv : v.isTable = false := hplain (key, v) (mem_of_lookup_eq_some hget)
    dsimp only
    rw [overlayValue_of_not_isTable _ hv]
    rfl

lemma mem_overlay_of_plain {above base : Table} (hplain : ∀ entry ∈ above, entry.2.isTable = false)
    {entry : String × Value} (h : entry ∈ base.overlay above) : entry ∈ above ∨ entry ∈ base := by
  induction above generalizing base with
  | nil =>
    rw [overlay] at h
    exact .inr h
  | cons first rest ih =>
    rw [overlay, overlayValue_of_not_isTable _ (hplain first List.mem_cons_self)] at h
    rcases ih (fun e he => hplain e (List.mem_cons_of_mem _ he)) h with h | h
    · exact .inl (List.mem_cons_of_mem _ h)
    · rcases mem_set h with h | h
      · exact .inl (List.mem_cons.mpr (.inl h))
      · exact .inr h

end Table

end DocGraft
