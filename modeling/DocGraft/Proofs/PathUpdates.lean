import DocGraft.Proofs.TablePaths

/-!
# Setting the end of a path

A named value is set at the end of a path of keys. This fails exactly if a plain value bars the path,
and then nothing has happened to the table, not even where the way was made step by step. Otherwise the
path and what lies on it changes, and no path apart from it does.
-/

namespace DocGraft

namespace Table

variable {t t' : Table} {key : String} {path path' rest q : List String} {value v : Value}

lemma below_set (t : Table) (key : String) (v : Value) (key' : String) :
    (t.set key v).below key' = if key' = key then entriesOf (some v) else t.below key' := by
  rw [below, get?_set]
  split
  · rfl
  · rfl

lemma at?_set_cons (t : Table) (key : String) (v : Value) (next : String) (q : List String) :
    (t.set key v).at? (next :: q) =
      if next = key then if q = [] then some v else (entriesOf (some v)).at? q
      else t.at? (next :: q) := by
  rcases eq_or_ne q [] with rfl | hq
  · simp [at?, get?_set]
  · rw [at?_cons hq, at?_cons hq, below_set, if_neg hq]
    split
    · rfl
    · rfl

/-! ### Success and failure -/

lemma assign_of_plain (hrest : rest ≠ []) (h : t.get? key = some v) (hv : v.isTable = false) :
    t.assign (key :: rest) value = .error ⟨v, rest⟩ := by
  rw [assign, h]
  · cases v with
    | table inner => simp [Value.isTable] at hv
    | null | bool _ | int _ | float _ | text _ | moment _ | list _ | fixed _ => rfl
  · exact hrest

lemma assign_of_open (hrest : rest ≠ []) (h : ∀ v, t.get? key = some v → v.isTable = true) :
    t.assign (key :: rest) value =
      ((t.below key).assign rest value).map fun inner => t.set key (.table inner) := by
  rw [assign, below]
  · cases hget : t.get? key with
    | none =>
      simp only [entriesOf]
      cases assign [] rest value with
      | ok inner => rfl
      | error b => rfl
    | some v =>
      obtain ⟨entries, rfl⟩ := Value.eq_table_of_isTable (h v hget)
      simp only [entriesOf]
      cases assign entries rest value with
      | ok inner => rfl
      | error b => rfl
  · exact hrest

/-- A value is set in the table below the first key, which then takes the place of the old one. -/
lemma exists_of_assign_cons (hrest : rest ≠ []) (h : t.assign (key :: rest) value = .ok t') :
    (∀ v, t.get? key = some v → v.isTable = true) ∧
      ∃ inner, (t.below key).assign rest value = .ok inner ∧ t' = t.set key (.table inner) := by
  rcases plain_or_open t key with ⟨v, hget, hv⟩ | hopen
  · rw [assign_of_plain hrest hget hv] at h
    exact absurd h (by simp)
  · rw [assign_of_open hrest hopen] at h
    refine ⟨hopen, ?_⟩
    cases hinner : (t.below key).assign rest value with
    | error b =>
      rw [hinner] at h
      exact absurd h (by simp [Except.map])
    | ok inner =>
      rw [hinner] at h
      exact ⟨inner, rfl, (Except.ok.inj h).symm⟩

/-- Where the way is blocked a plain value stands on it, and the keys behind that value are told. -/
lemma exists_of_assign_error {b : Blocked} (h : t.assign path value = .error b) :
    ∃ p, path = p ++ b.keys ∧ b.keys ≠ [] ∧ t.at? p = some b.value ∧ b.value.isTable = false := by
  induction path generalizing t with
  | nil => exact absurd h (by simp [assign])
  | cons key rest ih =>
    rcases eq_or_ne rest [] with rfl | hrest
    · exact absurd h (by simp [assign])
    · rcases plain_or_open t key with ⟨v, hget, hv⟩ | hopen
      · rw [assign_of_plain hrest hget hv] at h
        obtain rfl := Except.error.inj h
        exact ⟨[key], rfl, hrest, hget, hv⟩
      · rw [assign_of_open hrest hopen] at h
        cases hinner : (t.below key).assign rest value with
        | ok inner =>
          rw [hinner] at h
          exact absurd h (by simp [Except.map])
        | error b' =>
          rw [hinner] at h
          obtain rfl := Except.error.inj h
          obtain ⟨p, hp, hkeys, hat, hv⟩ := ih hinner
          have hp' : p ≠ [] := by
            rintro rfl
            exact absurd hat (by simp [at?])
          refine ⟨key :: p, by rw [hp, List.cons_append], hkeys, ?_, hv⟩
          rw [at?_cons hp', hat]

lemma isBarred_of_assign_error {b : Blocked} (h : t.assign path value = .error b) :
    t.IsBarred path := by
  obtain ⟨p, hp, hkeys, hat, hv⟩ := exists_of_assign_error h
  refine ⟨p, ⟨b.keys, hp.symm⟩, fun heq => hkeys ?_, b.value, hat, hv⟩
  rw [heq] at hp
  exact List.self_eq_append_right.mp hp

lemma not_isBarred_of_assign (h : t.assign path value = .ok t') : ¬t.IsBarred path := by
  induction path generalizing t t' with
  | nil => exact not_isBarred_nil t
  | cons key rest ih =>
    rcases eq_or_ne rest [] with rfl | hrest
    · exact not_isBarred_singleton t key
    · obtain ⟨hopen, inner, hinner, -⟩ := exists_of_assign_cons hrest h
      rw [isBarred_cons hrest]
      rintro (⟨v, hget, hv⟩ | hbarred)
      · exact absurd (hopen v hget) (by simp [hv])
      · exact ih hinner hbarred

lemma exists_assign_iff (t : Table) (path : List String) (value : Value) :
    (∃ t', t.assign path value = .ok t') ↔ ¬t.IsBarred path := by
  refine ⟨fun ⟨t', h⟩ => not_isBarred_of_assign h, fun hfree => ?_⟩
  cases h : t.assign path value with
  | ok t' => exact ⟨t', rfl⟩
  | error b => exact absurd (isBarred_of_assign_error h) hfree

/-! ### What changes -/

/-- At the end of the path stands the value, and behind it what the value holds. -/
lemma at?_assign_append (hpath : path ≠ []) (h : t.assign path value = .ok t') (q : List String) :
    t'.at? (path ++ q) = if q = [] then some value else (entriesOf (some value)).at? q := by
  induction path generalizing t t' with
  | nil => exact absurd rfl hpath
  | cons key rest ih =>
    rcases eq_or_ne rest [] with rfl | hrest
    · obtain rfl := Except.ok.inj h
      rw [List.cons_append, at?_set_cons, if_pos rfl, List.nil_append]
    · obtain ⟨-, inner, hinner, rfl⟩ := exists_of_assign_cons hrest h
      rw [List.cons_append, at?_set_cons, if_pos rfl, if_neg (by simp [hrest])]
      exact ih hrest hinner

/-- On the path there are tables, whether they were there before or not. -/
lemma at?_assign_of_before (h : t.assign path value = .ok t') (hq : q ≠ []) (hlead : q <+: path)
    (hne : q ≠ path) : ∃ inner, t'.at? q = some (.table inner) := by
  induction path generalizing t t' q with
  | nil => exact absurd (List.prefix_nil.mp hlead) hq
  | cons key rest ih =>
    obtain ⟨next, q, rfl⟩ := List.exists_cons_of_ne_nil hq
    obtain ⟨rfl, hbehind⟩ := List.cons_prefix_cons.mp hlead
    have hrest : rest ≠ [] := by
      rintro rfl
      exact hne (by rw [List.prefix_nil.mp hbehind])
    obtain ⟨-, inner, hinner, rfl⟩ := exists_of_assign_cons hrest h
    rw [at?_set_cons, if_pos rfl]
    split
    · exact ⟨inner, rfl⟩
    · next hq' => exact ih hinner hq' hbehind fun heq => hne (by rw [heq])

/-- A path apart from the one that is set keeps its value. -/
lemma at?_assign_of_apart (h : t.assign path value = .ok t') (hq : ¬q <+: path)
    (hpath : ¬path <+: q) : t'.at? q = t.at? q := by
  induction path generalizing t t' q with
  | nil => exact absurd List.nil_prefix hpath
  | cons key rest ih =>
    obtain ⟨next, q, rfl⟩ : ∃ next r, q = next :: r :=
      List.exists_cons_of_ne_nil fun hnil => hq (hnil ▸ List.nil_prefix)
    by_cases hkey : next = key
    · subst hkey
      have hq' : ¬q <+: rest := fun hlead => hq (List.cons_prefix_cons.mpr ⟨rfl, hlead⟩)
      have hrest' : ¬rest <+: q := fun hlead => hpath (List.cons_prefix_cons.mpr ⟨rfl, hlead⟩)
      have hrest : rest ≠ [] := fun hnil => hrest' (hnil ▸ List.nil_prefix)
      have hne : q ≠ [] := fun hnil => hq' (hnil ▸ List.nil_prefix)
      obtain ⟨-, inner, hinner, rfl⟩ := exists_of_assign_cons hrest h
      rw [at?_set_cons, if_pos rfl, if_neg hne, at?_cons hne]
      exact ih hinner hq' hrest'
    · have hset : ∃ v, t' = t.set key v := by
        rcases eq_or_ne rest [] with rfl | hrest
        · exact ⟨value, (Except.ok.inj h).symm⟩
        · obtain ⟨-, inner, -, rfl⟩ := exists_of_assign_cons hrest h
          exact ⟨_, rfl⟩
      obtain ⟨v, rfl⟩ := hset
      rw [at?_set_cons, if_neg hkey]

/-! ### Step by step -/

/-- Sets the value at the end of a path in place: a table that is missing is made before the way goes on,
and what was made stays there where the way turns out to be blocked. -/
def assignInPlace (t : Table) : List String → Value → Option Blocked × Table
  | [], _ => (none, t)
  | [key], value => (none, t.set key value)
  | key :: rest, value =>
    match t.get? key with
    | none =>
      let (blocked, inner) := assignInPlace [] rest value
      (blocked, t.set key (.table inner))
    | some (.table entries) =>
      let (blocked, inner) := assignInPlace entries rest value
      (blocked, t.set key (.table inner))
    | some other => (some ⟨other, rest⟩, t)

/-- What there is afterwards: the new table or, where the way was blocked, the old one. -/
def afterwards (t : Table) : Except Blocked Table → Option Blocked × Table
  | .ok t' => (none, t')
  | .error b => (some b, t)

lemma not_isBarred_empty (path : List String) : ¬IsBarred [] path := by
  rintro ⟨p, -, -, v, hv, -⟩
  exact absurd hv (by simp [at?_nil])

/-- Nothing is made on a way that is blocked: where a table is missing, there is nothing behind it that
could block the way. -/
lemma assignInPlace_eq (t : Table) (path : List String) (value : Value) :
    t.assignInPlace path value = t.afterwards (t.assign path value) := by
  induction path generalizing t with
  | nil => rfl
  | cons key rest ih =>
    rcases eq_or_ne rest [] with rfl | hrest
    · rfl
    · rw [assignInPlace]
      · cases hget : t.get? key with
        | none =>
          obtain ⟨inner, hinner⟩ := (exists_assign_iff [] rest value).mpr (not_isBarred_empty rest)
          have hopen : ∀ v, t.get? key = some v → v.isTable = true := by simp [hget]
          rw [assign_of_open hrest hopen, below_of_none hget, hinner, ih, hinner]
          rfl
        | some v =>
          cases hv : v.isTable with
          | false =>
            rw [assign_of_plain hrest hget hv]
            cases v with
            | table entries => simp [Value.isTable] at hv
            | null | bool _ | int _ | float _ | text _ | moment _ | list _ | fixed _ => rfl
          | true =>
            obtain ⟨entries, rfl⟩ := Value.eq_table_of_isTable hv
            have hopen : ∀ v, t.get? key = some v → v.isTable = true := by simp [hget, hv]
            rw [assign_of_open hrest hopen, below_of_table hget]
            simp only [ih]
            cases assign entries rest value with
            | ok inner => rfl
            | error b =>
              -- the table below is as it was, and it is set in its own place
              simp only [afterwards, Except.map]
              rw [set_of_get? hget]
      · exact hrest

/-! ### Two updates -/

/-- What there is at the end of a path, where a table is only known to be one: its values are at the ends
of longer paths. -/
def outlineAt (t : Table) (path : List String) : Option Value :=
  (t.at? path).map fun v => if v.isTable then .table [] else v

/-- The same at the end of each path. The order of the entries does not count, neither in the tables nor
in those below. -/
def Alike (t u : Table) : Prop := ∀ path, t.outlineAt path = u.outlineAt path

lemma outlineAt_assign (hpath : path ≠ []) (hvalue : value.isTable = false)
    (h : t.assign path value = .ok t') (q : List String) :
    t'.outlineAt q =
      if path <+: q then if q = path then some value else none
      else if q ≠ [] ∧ q <+: path then some (.table []) else t.outlineAt q := by
  by_cases hbehind : path <+: q
  · obtain ⟨r, rfl⟩ := hbehind
    rw [if_pos (List.prefix_append path r), outlineAt, at?_assign_append hpath h,
      entriesOf_of_plain hvalue, at?_nil]
    rcases eq_or_ne r [] with rfl | hr
    · simp [hvalue]
    · simp [hr]
  · rw [if_neg hbehind]
    by_cases hbefore : q ≠ [] ∧ q <+: path
    · have hne : q ≠ path := fun heq => hbehind (heq ▸ List.prefix_rfl)
      obtain ⟨inner, hinner⟩ := at?_assign_of_before h hbefore.1 hbefore.2 hne
      rw [if_pos hbefore, outlineAt, hinner]
      rfl
    · rw [if_neg hbefore, outlineAt, outlineAt]
      rcases eq_or_ne q [] with rfl | hq
      · rfl
      · rw [at?_assign_of_apart h (fun hlead => hbefore ⟨hq, hlead⟩) hbehind]

lemma at?_assign_eq_plain_iff (h : t.assign path value = .ok t') (hq : ¬path <+: q)
    (hv : v.isTable = false) : t'.at? q = some v ↔ t.at? q = some v := by
  by_cases hbefore : q <+: path
  · rcases eq_or_ne q [] with rfl | hne
    · rfl
    · have hpath : q ≠ path := fun heq => hq (heq ▸ List.prefix_rfl)
      obtain ⟨inner, hinner⟩ := at?_assign_of_before h hne hbefore hpath
      rw [hinner]
      refine ⟨fun heq => ?_, fun hat => ?_⟩
      · rw [← Option.some.inj heq] at hv
        simp [Value.isTable] at hv
      · exact absurd ⟨q, hbefore, hpath, v, hat, hv⟩ (not_isBarred_of_assign h)
  · rw [at?_assign_of_apart h hbefore hq]

/-- An update neither bars nor clears a path that it is no beginning of. -/
lemma isBarred_assign_iff (h : t.assign path value = .ok t') (hpath : ¬path <+: path') :
    t'.IsBarred path' ↔ t.IsBarred path' := by
  have hplain : ∀ p v, p <+: path' → v.isTable = false →
      (t'.at? p = some v ↔ t.at? p = some v) := by
    intro p v hp hv
    exact at?_assign_eq_plain_iff h (fun hlead => hpath (hlead.trans hp)) hv
  constructor
  · rintro ⟨p, hp, hne, v, hat, hv⟩
    exact ⟨p, hp, hne, v, (hplain p v hp hv).mp hat, hv⟩
  · rintro ⟨p, hp, hne, v, hat, hv⟩
    exact ⟨p, hp, hne, v, (hplain p v hp hv).mpr hat, hv⟩

/-- Of two paths apart from each other, each place lies behind at most one. -/
lemma alike_of_assign {value' : Value} {t₁ t₂ t₁₂ t₂₁ : Table} (hvalue : value.isTable = false)
    (hvalue' : value'.isTable = false) (hapart : ¬path <+: path') (hapart' : ¬path' <+: path)
    (h₁ : t.assign path value = .ok t₁) (h₂ : t.assign path' value' = .ok t₂)
    (h₁₂ : t₁.assign path' value' = .ok t₁₂) (h₂₁ : t₂.assign path value = .ok t₂₁) :
    t₁₂.Alike t₂₁ := by
  have hpath : path ≠ [] := fun hnil => hapart (hnil ▸ List.nil_prefix)
  have hpath' : path' ≠ [] := fun hnil => hapart' (hnil ▸ List.nil_prefix)
  intro q
  rw [outlineAt_assign hpath' hvalue' h₁₂, outlineAt_assign hpath hvalue h₁,
    outlineAt_assign hpath hvalue h₂₁, outlineAt_assign hpath' hvalue' h₂]
  -- behind the one path, behind the other one, or behind neither of them
  by_cases hq : path <+: q
  · have hnot : ¬path' <+: q := fun hq' =>
      (List.prefix_or_prefix_of_prefix hq hq').elim hapart hapart'
    have hbefore : ¬q <+: path' := fun hq' => hapart (hq.trans hq')
    simp [hq, hnot, hbefore]
  · by_cases hq' : path' <+: q
    · have hbefore : ¬q <+: path := fun hbefore => hapart' (hq'.trans hbefore)
      simp [hq, hq', hbefore]
    · by_cases hbefore : q ≠ [] ∧ q <+: path
      · simp [hq, hq', hbefore]
      · simp [hq, hq', hbefore]

/-! ### Named values -/

lemma path_ne_nil (name : String) : Table.path name ≠ [] := by
  rw [Table.path, ne_eq, List.map_eq_nil_iff]
  exact List.splitOn_ne_nil _ _

def overrideInPlace (t : Table) (name text : String) : Option Blocked × Table :=
  t.assignInPlace (Table.path name) (.ofText text)

/-- A named value is set at the end of its path, or nothing happens at all. It is refused exactly if a
plain value stands on the path before its end, and the refusal names that value. Otherwise there are
tables on the path, the value is at its end with nothing behind it, and no path apart from it changes. Two
values with paths apart from each other can be set in either order if each can be set alone, and the
order makes no difference. -/
theorem override_updates_one_path (t : Table) (name text : String) :
    let path := Table.path name
    t.overrideInPlace name text = t.afterwards (t.override name text) ∧
    ((∃ b, t.override name text = .error b) ↔ t.IsBarred path) ∧
    (∀ b, t.override name text = .error b →
      ∃ p, path = p ++ b.keys ∧ t.at? p = some b.value ∧ b.value.isTable = false) ∧
    (∀ t', t.override name text = .ok t' →
      t'.at? path = some (.ofText text) ∧
      (∀ q, q ≠ [] → q <+: path → q ≠ path → ∃ inner, t'.at? q = some (.table inner)) ∧
      (∀ q, path <+: q → q ≠ path → t'.at? q = none) ∧
      ∀ q, ¬q <+: path → ¬path <+: q → t'.at? q = t.at? q) ∧
    ∀ name' text' t₁, ¬path <+: Table.path name' → ¬Table.path name' <+: path →
      t.override name text = .ok t₁ →
      ((∃ t₁₂, t₁.override name' text' = .ok t₁₂) ↔ ∃ t₂, t.override name' text' = .ok t₂) ∧
      ∀ t₂, t.override name' text' = .ok t₂ →
        ∃ t₁₂ t₂₁, t₁.override name' text' = .ok t₁₂ ∧ t₂.override name text = .ok t₂₁ ∧
          t₁₂.Alike t₂₁ := by
  intro path
  have hpath : path ≠ [] := path_ne_nil name
  have hvalue : ∀ s, (Value.ofText s).isTable = false := Value.isTable_ofText
  refine ⟨assignInPlace_eq t path _, ⟨fun ⟨b, hb⟩ => isBarred_of_assign_error hb, fun hbarred => ?_⟩,
    fun b hb => ?_, fun t' h => ⟨?_, fun q => at?_assign_of_before h, ?_,
      fun q => at?_assign_of_apart h⟩, ?_⟩
  · cases h : t.override name text with
    | ok t' => exact absurd hbarred (not_isBarred_of_assign h)
    | error b => exact ⟨b, rfl⟩
  · obtain ⟨p, hp, -, hat⟩ := exists_of_assign_error hb
    exact ⟨p, hp, hat⟩
  · simpa using at?_assign_append hpath h []
  · rintro q ⟨r, rfl⟩ hne
    rw [at?_assign_append hpath h, if_neg (by simpa using hne), entriesOf_of_plain (hvalue text),
      at?_nil]
  · intro name' text' t₁ hapart hapart' h₁
    have hcan : ∀ u : Table, (∃ u', u.override name' text' = .ok u') ↔ ¬u.IsBarred (Table.path name') :=
      fun u => exists_assign_iff u _ _
    have hfree := isBarred_assign_iff h₁ hapart
    refine ⟨by rw [hcan, hcan, hfree], fun t₂ h₂ => ?_⟩
    obtain ⟨t₁₂, h₁₂⟩ : ∃ t₁₂, t₁.override name' text' = .ok t₁₂ := by
      rw [hcan, hfree, ← hcan]
      exact ⟨t₂, h₂⟩
    obtain ⟨t₂₁, h₂₁⟩ : ∃ t₂₁, t₂.override name text = .ok t₂₁ := by
      refine (exists_assign_iff t₂ path _).mpr ?_
      rw [isBarred_assign_iff h₂ hapart']
      exact not_isBarred_of_assign h₁
    exact ⟨t₁₂, t₂₁, h₁₂, h₂₁, alike_of_assign (hvalue text) (hvalue text') hapart hapart' h₁ h₂ h₁₂ h₂₁⟩

/-- A truth value stands in the way of one name. The two others share a table that is not there yet. -/
theorem override_updates_one_path_of_three_names :
    let t : Table := [("general", .table [("max_workers", .int 4)]), ("merge", .bool true)]
    (∃ b, t.override "merge.split_mixed_hunks" "no" = .error b) ∧
      t.overrideInPlace "merge.split_mixed_hunks" "no" = (some ⟨.bool true, ["split_mixed_hunks"]⟩, t) ∧
      ∃ t₁ t₂ t₁₂ t₂₁, t.override "batch.fail_fast" "true" = .ok t₁ ∧
        t.override "batch.extensions" ".rs,.rs.in" = .ok t₂ ∧
        t₁.override "batch.extensions" ".rs,.rs.in" = .ok t₁₂ ∧
        t₂.override "batch.fail_fast" "true" = .ok t₂₁ ∧ t₁₂.Alike t₂₁ ∧
        t₁.at? ["batch", "fail_fast"] = some (.ofText "true") ∧
        t₁.at? ["general", "max_workers"] = some (.int 4) := by
  intro t
  have hsplit : Table.path "merge.split_mixed_hunks" = ["merge", "split_mixed_hunks"] := by
    decide +kernel
  have hfast : Table.path "batch.fail_fast" = ["batch", "fail_fast"] := by decide +kernel
  have hextensions : Table.path "batch.extensions" = ["batch", "extensions"] := by decide +kernel
  obtain ⟨hinPlace, hrefused, -⟩ := override_updates_one_path t "merge.split_mixed_hunks" "no"
  obtain ⟨-, -, -, hset, htwo⟩ := override_updates_one_path t "batch.fail_fast" "true"
  have hbarred : t.IsBarred (Table.path "merge.split_mixed_hunks") := by
    rw [hsplit]
    exact ⟨["merge"], by simp, by simp, .bool true, rfl, rfl⟩
  have hfree : ∀ key, ¬t.IsBarred ["batch", key] := by
    intro key
    rw [isBarred_cons (by simp)]
    rintro (⟨v, hv, -⟩ | hbarred)
    · exact absurd hv (by simp [t, get?_cons])
    · exact not_isBarred_singleton _ _ hbarred
  obtain ⟨t₁, h₁⟩ := (exists_assign_iff t (Table.path "batch.fail_fast") (.ofText "true")).mpr
    (by rw [hfast]; exact hfree _)
  obtain ⟨t₂, h₂⟩ := (exists_assign_iff t (Table.path "batch.extensions") (.ofText ".rs,.rs.in")).mpr
    (by rw [hextensions]; exact hfree _)
  obtain ⟨hself, -, -, hapart⟩ := hset t₁ h₁
  obtain ⟨-, hcommute⟩ := htwo "batch.extensions" ".rs,.rs.in" t₁
    (by rw [hfast, hextensions]; decide) (by rw [hfast, hextensions]; decide) h₁
  obtain ⟨t₁₂, t₂₁, h₁₂, h₂₁, halike⟩ := hcommute t₂ h₂
  refine ⟨hrefused.mpr hbarred, ?_, t₁, t₂, t₁₂, t₂₁, h₁, h₂, h₁₂, h₂₁, halike, ?_, ?_⟩
  · rw [hinPlace, override, hsplit, assign_of_plain (v := .bool true) (by simp) rfl rfl, afterwards]
  · rw [← hfast, hself]
  · exact hapart ["general", "max_workers"] (by rw [hfast]; decide) (by rw [hfast]; decide)

end Table

end DocGraft
