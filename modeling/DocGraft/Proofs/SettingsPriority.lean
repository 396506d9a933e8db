import DocGraft.Proofs.SectionChecks
import DocGraft.Settings.Layers
import Mathlib.Algebra.Group.Nat.Defs

/-!
# Settings by priority

Settings are read from the bundled layer, the user's layer, the project's layer and named values,
and each field comes from the last of these that gives it. The value is taken over with its list fixed,
an edition as text, and a single text in the place of a list as a list of one. The only layers from
which no settings come are those whose edition is a number too long to be written.
-/

namespace DocGraft.Settings

variable {t fields : Table} {s : Section} {key : String} {v : Value}

/-! ### Fixed tables -/

/-- The value with its list fixed, if it is a list. -/
def fixList : Value → Value
  | .list items => .fixed items
  | v => v

lemma fixValue_of_plain (h : v.isTable = false) : fixValue v = fixList v := by
  cases v with
  | table entries => simp [Value.isTable] at h
  | null | bool _ | int _ | float _ | text _ | moment _ | list _ | fixed _ =>
    simp [fixValue, fixList]

lemma IsFields.get?_fixTable (h : IsFields s fields) (key : String) :
    (Settings.fixTable fields).get? key = (fields.get? key).map fixList := by
  rw [Settings.get?_fixTable]
  cases hget : fields.get? key with
  | none => rfl
  | some v =>
    have hplain : v.isTable = false := h.plain (key, v) (mem_of_lookup_eq_some hget)
    exact congrArg some (fixValue_of_plain hplain)

/-! ### Layers -/

lemma IsLayer.hasSections (h : IsLayer t) : HasSections t :=
  ⟨h.section_eq, fun s => (h.isFields s).distinct⟩

lemma IsLayer.refused?_eq_none (h : IsLayer t) : refused? t = none := by
  rw [refused?_eq_none_iff]
  rintro ⟨s, key, hkey⟩
  obtain ⟨hmem, hunknown⟩ := isUnknown_iff.mp hkey
  obtain ⟨entry, hentry, rfl⟩ := List.mem_map.mp hmem
  exact hunknown ((h.isFields s).known entry hentry)

/-- A layer gives settings, unless its edition cannot be written. -/
lemma IsLayer.ofTable_eq (h : IsLayer t) :
    ofTable t = if (given? t .formatter "edition").all Value.isWritable then .ok (ofLayer t)
      else .error .tooLong := by
  rw [h.hasSections.ofTable_eq, h.refused?_eq_none]

/-! ### Fields -/

def standard (s : Section) (key : String) : Value :=
  (({} : Settings).toTable.at? [s.name, key]).getD .null

/-- The value of a field as settings hold it. -/
def normalise (s : Section) (key : String) (v : Value) : Value :=
  match s, key with
  | .formatter, "edition" => .text (fixList v).asText
  | .formatter, "args" | .batch, "extensions" => asList (fixList v)
  | _, _ => fixList v

/-- The value of a field by priority: that of the last source which gives the field, or the
default. -/
def chosen (first user project : Table) (named : List (String × String)) (s : Section)
    (key : String) : Value :=
  (((named.lookup (fieldName s key)).map Value.ofText).or
    ((given? project s key).or ((given? user s key).or (given? first s key)))).getD
      (standard s key)

/-- Settings hold a value for each field. -/
def Holds (settings : Settings) (value : Section → String → Value) : Prop :=
  ∀ s : Section, ∀ key ∈ s.keys,
    settings.toTable.at? [s.name, key] = some (normalise s key (value s key))

lemma IsLayer.getD_fixTable_fieldsOf (h : IsLayer t) (s : Section) (key : String) (d : Value) :
    (Settings.fixTable (fieldsOf t s)).getD key (fixList d) =
      fixList ((given? t s key).getD d) := by
  rw [Table.getD, (h.isFields s).get?_fixTable, given?_eq_get?_fieldsOf]
  cases Table.get? (fieldsOf t s) key with
  | none => rfl
  | some v => rfl

lemma IsLayer.edition_ofLayer (h : IsLayer t) : (ofLayer t).formatter.edition =
    (fixList ((given? t .formatter "edition").getD (.text "2021"))).asText := by
  have hedition : (ofLayer t).formatter.edition =
      (((Settings.fixTable (fieldsOf t .formatter)).get? "edition").map Value.asText).getD "2021" :=
    rfl
  rw [hedition, (h.isFields .formatter).get?_fixTable, given?_eq_get?_fieldsOf]
  cases Table.get? (fieldsOf t .formatter) "edition" with
  | none => rfl
  | some v => rfl

/-- Each field of the settings of a layer holds what the layer gives, or the default. -/
lemma IsLayer.holds_ofLayer (h : IsLayer t) :
    (ofLayer t).Holds fun s key => (given? t s key).getD (standard s key) := by
  have hfield := fun s key => h.getD_fixTable_fieldsOf s key (standard s key)
  have hedition := h.edition_ofLayer
  intro s key hkey
  cases s with
  | general | markers | merge =>
    simp only [Section.keys, List.mem_cons, List.not_mem_nil, or_false] at hkey
    rcases hkey with rfl | rfl
    · exact congrArg some (hfield _ _)
    · exact congrArg some (hfield _ _)
  | formatter =>
    simp only [Section.keys, List.mem_cons, List.not_mem_nil, or_false] at hkey
    rcases hkey with rfl | rfl | rfl | rfl
    · exact congrArg some (hfield .formatter "command")
    · exact congrArg (fun v => some (asList v)) (hfield .formatter "args")
    · exact congrArg (fun text => some (Value.text text)) hedition
    · exact congrArg some (hfield .formatter "timeout_seconds")
  | batch =>
    simp only [Section.keys, List.mem_cons, List.not_mem_nil, or_false] at hkey
    rcases hkey with rfl | rfl
    · exact congrArg (fun v => some (asList v)) (hfield .batch "extensions")
    · exact congrArg some (hfield .batch "fail_fast")

lemma Holds.unique {settings settings' : Settings} {value : Section → String → Value}
    (h : settings.Holds value) (h' : settings'.Holds value) : settings = settings' := by
  have heq : ∀ (s : Section) (key : String), key ∈ s.keys →
      settings.toTable.at? [s.name, key] = settings'.toTable.at? [s.name, key] :=
    fun s key hkey => (h s key hkey).trans (h' s key hkey).symm
  have hgeneral : settings.general = settings'.general :=
    congrArg₂ GeneralSettings.mk (Option.some.inj (heq .general "log_level" (by decide)))
      (Option.some.inj (heq .general "max_workers" (by decide)))
  have hformatter : settings.formatter = settings'.formatter := by
    have hcommand : settings.formatter.command = settings'.formatter.command :=
      Option.some.inj (heq .formatter "command" (by decide))
    have hargs : settings.formatter.args = settings'.formatter.args :=
      Option.some.inj (heq .formatter "args" (by decide))
    have hedition : settings.formatter.edition = settings'.formatter.edition :=
      Value.text.inj (Option.some.inj (heq .formatter "edition" (by decide)))
    have htimeout : settings.formatter.timeout = settings'.formatter.timeout :=
      Option.some.inj (heq .formatter "timeout_seconds" (by decide))
    calc settings.formatter
        = ⟨settings.formatter.command, settings.formatter.args, settings.formatter.edition,
            settings.formatter.timeout⟩ := rfl
      _ = settings'.formatter := by rw [hcommand, hargs, hedition, htimeout]
  have hmarkers : settings.markers = settings'.markers :=
    congrArg₂ MarkerSettings.mk (Option.some.inj (heq .markers "reference_marker" (by decide)))
      (Option.some.inj (heq .markers "module_doc_macro" (by decide)))
  have hmerge : settings.merge = settings'.merge :=
    congrArg₂ MergeSettings.mk (Option.some.inj (heq .merge "split_mixed_hunks" (by decide)))
      (Option.some.inj (heq .merge "reformat_bookends" (by decide)))
  have hbatch : settings.batch = settings'.batch :=
    congrArg₂ BatchSettings.mk (Option.some.inj (heq .batch "extensions" (by decide)))
      (Option.some.inj (heq .batch "fail_fast" (by decide)))
  cases settings
  cases settings'
  simp_all only

/-! ### Layers and named values -/

section Sources

variable {first user project : Table} {named named' : List (String × String)}

lemma NamesFields.perm (h : NamesFields named) (hperm : named'.Perm named) :
    NamesFields named' where
  distinct := (hperm.map Prod.fst).nodup_iff.mpr h.distinct
  known entry hentry := h.known entry (hperm.mem_iff.mp hentry)

lemma chosen_eq_of_perm (h : NamesFields named) (hperm : named'.Perm named) :
    chosen first user project named' = chosen first user project named := by
  funext s key
  rw [chosen, chosen, lookup_eq_of_perm h.distinct hperm]

/-- Settings hold what is chosen for each field, unless the edition is too long. -/
lemma resolve_cases (hfirst : IsLayer first) (huser : IsLayer user) (hproject : IsLayer project)
    (hnamed : NamesFields named) :
    (chosen first user project named .formatter "edition").isWritable = true ∧
        (∃ s, resolve first user project named = .ok s ∧
          s.Holds (chosen first user project named)) ∨
      (chosen first user project named .formatter "edition").isWritable = false ∧
        resolve first user project named = .error .tooLong := by
  have hlayers := (hfirst.overlay huser).overlay hproject
  obtain ⟨raw, hraw, hlayer, hgiven⟩ := hlayers.overrideAll hnamed
  -- no name comes twice, so none of the values is given up for a later one
  have hlast : lastGiven [] named = named := lastGiven_of_nodup hnamed.distinct
  have hresolve : resolve first user project named = ofTable raw := by
    rw [resolve, hlast, hraw]
  have hchosen : ∀ s : Section, ∀ key ∈ s.keys,
      (given? raw s key).getD (standard s key) = chosen first user project named s key := by
    intro s key hkey
    rw [hgiven s key hkey, (hfirst.overlay huser).given?_overlay hproject,
      hfirst.given?_overlay huser, chosen]
  have hedition : (given? raw .formatter "edition").all Value.isWritable =
      (chosen first user project named .formatter "edition").isWritable := by
    rw [← hchosen .formatter "edition" (by decide)]
    cases given? raw .formatter "edition" with
    | none => rfl
    | some v => rfl
  rw [hresolve, hlayer.ofTable_eq, hedition]
  cases (chosen first user project named .formatter "edition").isWritable with
  | false => exact .inr ⟨rfl, rfl⟩
  | true =>
    refine .inl ⟨rfl, _, rfl, fun s key hkey => ?_⟩
    rw [← hchosen s key hkey]
    exact hlayer.holds_ofLayer s key hkey

/-- Each field of the settings comes from the named value for it, or else from the project's layer,
the user's layer, the first layer or the default, in this order. The order of the named values does
not matter. There are settings unless the edition is a number too long to be written. The same holds
for settings that are loaded, whose layers are the bundled one and those of two files. -/
theorem fields_resolve_by_priority (hfirst : IsLayer first) (huser : IsLayer user)
    (hproject : IsLayer project) (hnamed : NamesFields named) :
    let value := chosen first user project named
    ((value .formatter "edition").isWritable = true →
      ∃ s, resolve first user project named = .ok s ∧ s.Holds value) ∧
    ((value .formatter "edition").isWritable = false →
      resolve first user project named = .error .tooLong) ∧
    (∀ named' : List (String × String), named'.Perm named →
      resolve first user project named' = resolve first user project named) ∧
    ∀ userFile projectFile, first = bundled → layer userFile = .ok user →
      layer projectFile = .ok project →
      load userFile projectFile named = (resolve first user project named).mapError .content := by
  intro value
  have hcases := resolve_cases hfirst huser hproject hnamed
  refine ⟨fun hwritable => ?_, fun hlong => ?_, fun named' hperm => ?_, ?_⟩
  · rcases hcases with ⟨-, hok⟩ | ⟨hlong, -⟩
    · exact hok
    · exact absurd (hwritable.symm.trans hlong) (by simp)
  · rcases hcases with ⟨hwritable, -⟩ | ⟨-, herror⟩
    · exact absurd (hwritable.symm.trans hlong) (by simp)
    · exact herror
  · have hcases' := resolve_cases hfirst huser hproject (hnamed.perm hperm)
    rw [chosen_eq_of_perm hnamed hperm] at hcases'
    rcases hcases with ⟨hwritable, s, hok, hs⟩ | ⟨hlong, herror⟩
    · rcases hcases' with ⟨-, s', hok', hs'⟩ | ⟨hlong, -⟩
      · rw [hok, hok', hs.unique hs']
      · exact absurd (hwritable.symm.trans hlong) (by simp)
    · rcases hcases' with ⟨hwritable, -⟩ | ⟨-, herror'⟩
      · exact absurd (hwritable.symm.trans hlong) (by simp)
      · rw [herror, herror']
  · rintro userFile projectFile rfl hu hp
    rw [load, hu, hp]
    cases hresolve : resolve bundled user project named with
    | ok s => simp [bind, Except.bind, hresolve, Except.mapError]
    | error fault => simp [bind, Except.bind, hresolve, Except.mapError]

/-- Three layers and two named values, of which each decides about a field. -/
theorem fields_resolve_by_priority_of_three_layers :
    let user : Table :=
      [("formatter", .table [("edition", .int 2018), ("timeout_seconds", .int 60)]),
        ("batch", .table [("extensions", .text ".rs.in")])]
    let project : Table :=
      [("general", .table [("log_level", .text "info")]),
        ("formatter", .table [("timeout_seconds", .int 90)])]
    let named := [("general.log_level", "debug"), ("formatter.args", "--check,--quiet")]
    IsLayer bundled ∧ IsLayer user ∧ IsLayer project ∧ NamesFields named ∧
      ∃ s, resolve bundled user project named = .ok s ∧ s.general.logLevel = .text "debug" ∧
        s.formatter.args = .fixed [.text "--check", .text "--quiet"] ∧
        s.formatter.timeout = .int 90 ∧ s.formatter.edition = "2018" ∧
        s.batch.extensions = .fixed [.text ".rs.in"] ∧ s.general.maxWorkers = .int 4 := by
  intro user project named
  have huser : IsLayer user := by
    apply isLayer_of_forall
    · decide
    · intro s
      cases s with
      | general | markers | merge => exact .inl rfl
      | formatter | batch => exact .inr ⟨_, rfl, by decide⟩
  have hproject : IsLayer project := by
    apply isLayer_of_forall
    · decide
    · intro s
      cases s with
      | markers | merge | batch => exact .inl rfl
      | general | formatter => exact .inr ⟨_, rfl, by decide⟩
  have hnamed : NamesFields named := by
    refine ⟨by decide, fun entry hentry => ?_⟩
    simp only [named, List.mem_cons, List.not_mem_nil, or_false] at hentry
    rcases hentry with rfl | rfl
    · exact ⟨.general, "log_level", by decide, rfl⟩
    · exact ⟨.formatter, "args", by decide, rfl⟩
  obtain ⟨hok, -⟩ := fields_resolve_by_priority isLayer_bundled huser hproject hnamed
  obtain ⟨s, hs, hholds⟩ := hok (by decide +kernel)
  refine ⟨isLayer_bundled, huser, hproject, hnamed, s, hs, ?_, ?_, ?_, ?_, ?_, ?_⟩
  · exact Option.some.inj (hholds .general "log_level" (by decide))
  · exact Option.some.inj (hholds .formatter "args" (by decide))
  · exact Option.some.inj (hholds .formatter "timeout_seconds" (by decide))
  · have hedition := Option.some.inj (hholds .formatter "edition" (by decide))
    exact (Value.text.inj hedition).trans (by decide +kernel)
  · exact Option.some.inj (hholds .batch "extensions" (by decide))
  · exact Option.some.inj (hholds .general "max_workers" (by decide))

/-- A layer whose edition is a number of more than 4300 digits gives no settings. -/
theorem too_long_edition_gives_no_settings :
    let user : Table := [("formatter", .table [("edition", .int (Int.ofNat (16 ^ 3600)))])]
    IsLayer user ∧ resolve bundled user [] [] = .error .tooLong := by
  intro user
  have huser : IsLayer user := by
    apply isLayer_of_forall
    · decide
    · intro s
      cases s with
      | general | markers | merge | batch => exact .inl rfl
      | formatter =>
        refine .inr ⟨_, rfl, by decide, by decide, fun entry hentry => ?_⟩
        rw [List.mem_singleton.mp hentry]
        rfl
  have hnamed : NamesFields [] := ⟨List.nodup_nil, fun _ h => absurd h List.not_mem_nil⟩
  have hlong : (chosen bundled user [] [] .formatter "edition").isWritable = false := by
    decide +kernel
  rcases resolve_cases isLayer_bundled huser isLayer_nil hnamed with ⟨hwritable, -⟩ | ⟨-, herror⟩
  · exact absurd (hwritable.symm.trans hlong) (by simp)
  · exact ⟨huser, herror⟩

end Sources

end DocGraft.Settings
