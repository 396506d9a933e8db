import DocGraft.Proofs.TableLookup
import Mathlib.Tactic.Common

/-!
# Looking up paths

A path of keys leads through tables to a value. Laying a table over another one can be told path by
path: the upper table decides about the paths that lead to a value in it and about those that one of its
plain values bars, and leaves all others to the lower table.
-/

namespace DocGraft

namespace Value

mutual

/-- Whether no key comes twice in a table or in any table below it. Lists are not looked into: no path
leads there. -/
def isTree : Value → Bool
  | .table entries => decide (Table.IsDistinct entries) && areTrees entries
  | .null | .bool _ | .int _ | .float _ | .text _ | .moment _ | .list _ | .fixed _ => true

def areTrees : List (String × Value) → Bool
  | [] => true
  | (_, value) :: rest => isTree value && areTrees rest

end

lemma areTrees_iff {entries : List (String × Value)} :
    areTrees entries = true ↔ ∀ entry ∈ entries, entry.2.isTree = true := by
  induction entries with
  | nil => simp [areTrees]
  | cons entry rest ih =>
    rw [areTrees, Bool.and_eq_true, ih, List.forall_mem_cons]

lemma eq_table_of_isTable {v : Value} (h : v.isTable = true) : ∃ inner, v = .table inner := by
  cases v with
  | table inner => exact ⟨inner, rfl⟩
  | null | bool _ | int _ | float _ | text _ | moment _ | list _ | fixed _ => simp [isTable] at h

end Value

namespace Table

variable {t base above inner : Table} {key : String} {path rest : List String} {v : Value}

/-- No key comes twice in the table or in any table below it. -/
def IsTree (t : Table) : Prop := (Value.table t).isTree = true

instance : DecidablePred IsTree := fun t => inferInstanceAs (Decidable ((Value.table t).isTree = true))

lemma isTree_iff : t.IsTree ↔ t.IsDistinct ∧ ∀ entry ∈ t, entry.2.isTree = true := by
  rw [IsTree, Value.isTree, Bool.and_eq_true, decide_eq_true_iff, Value.areTrees_iff]

lemma IsTree.distinct (h : t.IsTree) : t.IsDistinct := (isTree_iff.mp h).1

/-! ### One step of a path -/

/-- The entries of a value that is a table. Anything else has none. -/
def entriesOf : Option Value → Table
  | some (.table entries) => entries
  | _ => []

/-- The table under a key. Where there is none, nothing is below the key. -/
def below (t : Table) (key : String) : Table := entriesOf (t.get? key)

lemma below_of_table (h : t.get? key = some (.table inner)) : t.below key = inner := by
  rw [below, h, entriesOf]

lemma below_of_none (h : t.get? key = none) : t.below key = [] := by
  rw [below, h]
  rfl

lemma entriesOf_of_plain (hv : v.isTable = false) : entriesOf (some v) = [] := by
  cases v with
  | table inner => simp [Value.isTable] at hv
  | null | bool _ | int _ | float _ | text _ | moment _ | list _ | fixed _ => rfl

lemma below_of_plain (h : t.get? key = some v) (hv : v.isTable = false) : t.below key = [] := by
  rw [below, h, entriesOf_of_plain hv]

/-- Either a plain value stands under the key, or a table if anything. -/
lemma plain_or_open (t : Table) (key : String) :
    (∃ v, t.get? key = some v ∧ v.isTable = false) ∨
      ∀ v, t.get? key = some v → v.isTable = true := by
  by_cases hplain : ∃ v, t.get? key = some v ∧ v.isTable = false
  · exact .inl hplain
  · refine .inr fun v hget => ?_
    rw [← Bool.not_eq_false]
    exact fun hv => hplain ⟨v, hget, hv⟩

lemma IsTree.below (h : t.IsTree) (key : String) : (t.below key).IsTree := by
  cases hget : t.get? key with
  | none =>
    rw [below_of_none hget]
    decide
  | some v =>
    have hv : v.isTree = true := (isTree_iff.mp h).2 (key, v) (mem_of_lookup_eq_some hget)
    cases htable : v.isTable with
    | false =>
      rw [below_of_plain hget htable]
      decide
    | true =>
      obtain ⟨inner, rfl⟩ := Value.eq_table_of_isTable htable
      rwa [below_of_table hget]

lemma at?_nil (path : List String) : at? [] path = none := by
  rcases path with _ | ⟨key, _ | ⟨next, rest⟩⟩
  · rfl
  · rfl
  · rfl

lemma at?_cons (hrest : rest ≠ []) (t : Table) (key : String) :
    t.at? (key :: rest) = (t.below key).at? rest := by
  rw [at?, below]
  · cases t.get? key with
    | none => exact (at?_nil rest).symm
    | some v =>
      cases v with
      | table inner => rfl
      | null | bool _ | int _ | float _ | text _ | moment _ | list _ | fixed _ =>
        exact (at?_nil rest).symm
  · exact hrest

/-- A value that is no table stands on the path, before its end. -/
def IsBarred (t : Table) (path : List String) : Prop :=
  ∃ p, p <+: path ∧ p ≠ path ∧ ∃ v, t.at? p = some v ∧ v.isTable = false

lemma not_isBarred_nil (t : Table) : ¬t.IsBarred [] := by
  rintro ⟨p, hp, hne, -⟩
  exact hne (List.prefix_nil.mp hp)

lemma not_isBarred_singleton (t : Table) (key : String) : ¬t.IsBarred [key] := by
  rintro ⟨p, hp, hne, v, hv, -⟩
  rcases List.prefix_cons_iff.mp hp with rfl | ⟨q, rfl, hq⟩
  · exact absurd hv (by simp [at?])
  · exact hne (by rw [List.prefix_nil.mp hq])

lemma isBarred_cons (hrest : rest ≠ []) : t.IsBarred (key :: rest) ↔
    (∃ v, t.get? key = some v ∧ v.isTable = false) ∨ (t.below key).IsBarred rest := by
  constructor
  · rintro ⟨p, hp, hne, v, hv, hplain⟩
    rcases List.prefix_cons_iff.mp hp with rfl | ⟨q, rfl, hq⟩
    · exact absurd hv (by simp [at?])
    · rcases eq_or_ne q [] with rfl | hq'
      · exact .inl ⟨v, hv, hplain⟩
      · rw [at?_cons hq'] at hv
        exact .inr ⟨q, hq, fun heq => hne (by rw [heq]), v, hv, hplain⟩
  · rintro (⟨v, hv, hplain⟩ | ⟨q, hq, hne, v, hv, hplain⟩)
    · exact ⟨[key], by simp, by simp [hrest.symm], v, hv, hplain⟩
    · have hq' : q ≠ [] := by
        rintro rfl
        exact absurd hv (by simp [at?])
      refine ⟨key :: q, List.cons_prefix_cons.mpr ⟨rfl, hq⟩, by simpa using hne, v, ?_, hplain⟩
      rw [at?_cons hq', hv]

/-! ### Laying a table over another one -/

lemma overlayValue_none (v : Value) : overlayValue none v = v := by
  cases v with
  | null | bool _ | int _ | float _ | text _ | moment _ | list _ | fixed _ => rw [overlayValue]
  | table entries => simp [overlayValue]

lemma overlay_of_fresh (h : (base ++ above).IsDistinct) : base.overlay above = base ++ above := by
  induction above generalizing base with
  | nil => rw [overlay, List.append_nil]
  | cons entry rest ih =>
    have hfresh := h.not_mem_of_append_cons
    have hnone : base.get? entry.1 = none := lookup_eq_none_of_not_mem hfresh
    rw [List.append_cons] at h ⊢
    rw [overlay, hnone, overlayValue_none, set_of_not_mem hfresh]
    exact ih h

lemma nil_overlay (h : above.IsDistinct) : overlay [] above = above := overlay_of_fresh h

lemma overlayValue_table (h : inner.IsDistinct) (old : Option Value) :
    overlayValue old (.table inner) = .table ((entriesOf old).overlay inner) := by
  have hempty : overlay [] inner = inner := nil_overlay h
  cases old with
  | none => simp [overlayValue_none, entriesOf, hempty]
  | some v =>
    cases v with
    | table base => simp [overlayValue, entriesOf]
    | null | bool _ | int _ | float _ | text _ | moment _ | list _ | fixed _ =>
      simp [overlayValue, entriesOf, hempty]

/-- What is below a key is laid over what was below it, unless the upper table has a plain value
there. -/
lemma below_overlay (habove : above.IsTree)
    (h : ∀ v, above.get? key = some v → v.isTable = true) :
    (base.overlay above).below key = (base.below key).overlay (above.below key) := by
  have hbelow := habove.below key
  rw [below, get?_overlay habove.distinct]
  cases hget : above.get? key with
  | none =>
    rw [below_of_none hget, overlay]
    rfl
  | some v =>
    obtain ⟨upper, rfl⟩ := Value.eq_table_of_isTable (h v hget)
    rw [below_of_table hget] at hbelow ⊢
    dsimp only
    rw [overlayValue_table hbelow.distinct]
    rfl

/-- What a path leads to: what the upper table makes of the value of the lower one, or nothing if a
plain value of the upper table bars it, or else the value of the lower table. -/
lemma at?_overlay_cases (habove : above.IsTree) (base : Table) (path : List String) :
    (∃ v, above.at? path = some v ∧
        (base.overlay above).at? path = some (overlayValue (base.at? path) v)) ∨
      above.at? path = none ∧ above.IsBarred path ∧ (base.overlay above).at? path = none ∨
      above.at? path = none ∧ ¬above.IsBarred path ∧
        (base.overlay above).at? path = base.at? path := by
  induction path generalizing base above with
  | nil => exact .inr (.inr ⟨rfl, not_isBarred_nil above, rfl⟩)
  | cons key rest ih =>
    rcases eq_or_ne rest [] with rfl | hrest
    · simp only [at?, get?_overlay habove.distinct]
      cases hget : above.get? key with
      | none => exact .inr (.inr ⟨rfl, not_isBarred_singleton above key, rfl⟩)
      | some v => exact .inl ⟨v, rfl, rfl⟩
    · -- a plain value of the upper table ends the way; otherwise both tables go on below the key
      rcases plain_or_open above key with hplain | hopen
      · have hbarred : above.IsBarred (key :: rest) := (isBarred_cons hrest).mpr (.inl hplain)
        obtain ⟨v, hget, hv⟩ := hplain
        have hover : (base.overlay above).get? key = some v := by
          rw [get?_overlay habove.distinct, hget]
          dsimp only
          rw [overlayValue_of_not_isTable _ hv]
        refine .inr (.inl ⟨?_, hbarred, ?_⟩)
        · rw [at?_cons hrest, below_of_plain hget hv, at?_nil]
        · rw [at?_cons hrest, below_of_plain hover hv, at?_nil]
      · have hbarred : above.IsBarred (key :: rest) ↔ (above.below key).IsBarred rest := by
          rw [isBarred_cons hrest, or_iff_right]
          rintro ⟨v, hget, hv⟩
          exact absurd (hopen v hget) (by simp [hv])
        rw [at?_cons hrest, at?_cons hrest, at?_cons hrest, below_overlay habove hopen, hbarred]
        exact ih (habove.below key) (base.below key)

/-! ### A table over itself -/

lemma set_of_get? (h : t.get? key = some v) : t.set key v = t := by
  induction t with
  | nil => exact absurd h (by simp)
  | cons entry rest ih =>
    rw [get?_cons] at h
    rw [set]
    by_cases hkey : entry.1 = key
    · rw [if_pos hkey] at h ⊢
      rw [← hkey, ← Option.some.inj h]
    · rw [if_neg hkey] at h ⊢
      rw [ih h]

lemma overlay_of_forall {entries : List (String × Value)}
    (h : ∀ entry ∈ entries, base.get? entry.1 = some entry.2 ∧
      overlayValue (some entry.2) entry.2 = entry.2) : base.overlay entries = base := by
  induction entries with
  | nil => rw [overlay]
  | cons entry rest ih =>
    obtain ⟨hget, hself⟩ := h entry List.mem_cons_self
    rw [overlay, hget, hself, set_of_get? hget]
    exact ih fun e he => h e (List.mem_cons_of_mem _ he)

mutual

lemma overlayValue_self : (v : Value) → v.isTree = true → overlayValue (some v) v = v
  | .table entries, h => by
    have hdistinct : IsDistinct entries := IsTree.distinct h
    have hself := overlayValue_self_of_mem entries (isTree_iff.mp h).2
    rw [overlayValue_table hdistinct]
    exact congrArg Value.table <| overlay_of_forall fun entry hentry =>
      ⟨(lookup_eq_some_iff hdistinct).mpr hentry, hself entry hentry⟩
  | .null, _ | .bool _, _ | .int _, _ | .float _, _ | .text _, _ | .moment _, _ | .list _, _
  | .fixed _, _ => by
    rw [overlayValue]

lemma overlayValue_self_of_mem : (entries : List (String × Value)) →
    (∀ entry ∈ entries, entry.2.isTree = true) →
    ∀ entry ∈ entries, overlayValue (some entry.2) entry.2 = entry.2
  | [], _ => by simp
  | (key, value) :: rest, h => by
    rw [List.forall_mem_cons] at h ⊢
    exact ⟨overlayValue_self value h.1, overlayValue_self_of_mem rest h.2⟩

end

lemma overlay_self (h : t.IsTree) : t.overlay t = t := by
  have hvalue := overlayValue_self (.table t) h
  rw [overlayValue_table h.distinct] at hvalue
  exact Value.table.inj hvalue

/-- What stands at the end of a path when a table is laid over another one: a plain value of the upper
table, two tables laid over each other, a table of the upper one alone, nothing where a plain value of the
upper one bars the path, and else what the lower one has. An empty table on either side changes nothing,
nor does the table itself. -/
theorem overlay_goes_path_by_path (habove : above.IsTree) (base : Table) :
    let merged := base.overlay above
    (∀ path v, above.at? path = some v → v.isTable = false → merged.at? path = some v) ∧
    (∀ path lower upper, base.at? path = some (.table lower) →
      above.at? path = some (.table upper) →
        merged.at? path = some (.table (overlay lower upper))) ∧
    (∀ path upper, above.at? path = some (.table upper) →
      (∀ lower, base.at? path ≠ some (.table lower)) → merged.at? path = some (.table upper)) ∧
    (∀ path, above.at? path = none → above.IsBarred path → merged.at? path = none) ∧
    (∀ path, above.at? path = none → ¬above.IsBarred path → merged.at? path = base.at? path) ∧
    base.overlay [] = base ∧ overlay [] above = above ∧ above.overlay above = above := by
  intro merged
  have hsome : ∀ path v, above.at? path = some v →
      merged.at? path = some (overlayValue (base.at? path) v) := by
    intro path v hv
    rcases at?_overlay_cases habove base path with ⟨w, hw, h⟩ | ⟨hnone, -⟩ | ⟨hnone, -⟩
    · rw [h, Option.some.inj (hv.symm.trans hw)]
    · exact absurd (hv.symm.trans hnone) (by simp)
    · exact absurd (hv.symm.trans hnone) (by simp)
  refine ⟨fun path v hv hplain => ?_, fun path lower upper hlower hupper => ?_,
    fun path upper hupper halone => ?_, fun path hnone hbarred => ?_, fun path hnone hfree => ?_,
    by rw [overlay], nil_overlay habove.distinct, overlay_self habove⟩
  · rw [hsome path v hv, overlayValue_of_not_isTable _ hplain]
  · rw [hsome path _ hupper, hlower, overlayValue]
  · rw [hsome path _ hupper, overlayValue]
    exact halone
  · rcases at?_overlay_cases habove base path with ⟨v, hv, -⟩ | ⟨-, -, h⟩ | ⟨-, hfree, -⟩
    · exact absurd (hv.symm.trans hnone) (by simp)
    · exact h
    · exact absurd hbarred hfree
  · rcases at?_overlay_cases habove base path with ⟨v, hv, -⟩ | ⟨-, hbarred, -⟩ | ⟨-, -, h⟩
    · exact absurd (hv.symm.trans hnone) (by simp)
    · exact absurd hbarred hfree
    · exact h

/-- Plain values and tables meet each other on both sides. -/
theorem overlay_goes_path_by_path_of_mixed_tables :
    let base : Table :=
      [("formatter", .table [("edition", .text "2018"), ("args", .list [])]), ("merge", .int 3),
        ("batch", .table [("fail_fast", .bool true)])]
    let above : Table :=
      [("formatter", .table [("edition", .table [("year", .int 2021)])]),
        ("merge", .table [("split_mixed_hunks", .bool true)]), ("batch", .null)]
    let merged := base.overlay above
    above.IsTree ∧
      merged.at? ["merge", "split_mixed_hunks"] = some (.bool true) ∧
      merged.at? ["formatter"] = some (.table (overlay [("edition", .text "2018"), ("args", .list [])]
        [("edition", .table [("year", .int 2021)])])) ∧
      merged.at? ["formatter", "edition"] = some (.table [("year", .int 2021)]) ∧
      merged.at? ["batch", "fail_fast"] = none ∧
      merged.at? ["formatter", "args"] = some (.list []) := by
  intro base above merged
  have habove : above.IsTree := by decide
  obtain ⟨hplain, htables, hupper, hbarred, hfree, -⟩ := overlay_goes_path_by_path habove base
  refine ⟨habove, hplain _ _ rfl rfl, htables _ _ _ rfl rfl, hupper _ _ rfl ?_, hbarred _ rfl ?_,
    hfree _ rfl ?_⟩
  · intro lower
    simp [base, at?, get?_cons]
  · exact ⟨["batch"], by simp, by simp, .null, rfl, rfl⟩
  · rw [isBarred_cons (by simp)]
    rintro (⟨v, hv, hplain⟩ | hbarred)
    · obtain rfl := Option.some.inj hv
      exact absurd hplain (by decide)
    · exact not_isBarred_singleton _ _ hbarred

end Table

end DocGraft
