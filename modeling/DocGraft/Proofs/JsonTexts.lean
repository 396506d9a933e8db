import DocGraft.Proofs.JsonReader
import DocGraft.Proofs.TableLookup

/-!
# JSON texts

What is written of a value is ASCII, and the reader makes the same value of it again, if that has no
floating point number, no whole number that is too long and no key twice in one of its tables. The
parts between brackets are read one by one, each up to the comma or the line behind it.
-/

namespace DocGraft

namespace Value

variable {n : Int} {items : List Value} {entries : Table}

lemma isWritable_int :
    (Value.int n).isWritable = true ↔ (Nat.toDigits 10 n.natAbs).length ≤ Number.longest := by
  have hpos : 0 < Number.longest := by decide
  rw [isWritable, decide_eq_true_iff]
  generalize Number.longest = k at hpos ⊢
  exact (Nat.length_toDigits_le_iff (by decide) hpos).symm

lemma isWritable_list :
    (Value.list items).isWritable = true ↔ ∀ v ∈ items, v.isWritable = true := by
  rw [isWritable]
  induction items with
  | nil => simp [areWritable]
  | cons item rest ih => rw [areWritable, Bool.and_eq_true, ih, List.forall_mem_cons]

lemma isWritable_table :
    (Value.table entries).isWritable = true ↔ ∀ e ∈ entries, e.2.isWritable = true := by
  rw [isWritable]
  induction entries with
  | nil => simp [haveWritable]
  | cons entry rest ih => rw [haveWritable, Bool.and_eq_true, ih, List.forall_mem_cons]

end Value

namespace Json

variable {c : Char} {t rest tail : Text} {v : Value} {level fuel : Nat}

/-! ### Parts between brackets -/

lemma skip_cons (h : isSpace c = false) (t : Text) : skip (c :: t) = c :: t :=
  List.dropWhile_cons_of_neg (by simp [h])

lemma skip_newLine (level : Nat) (t : Text) : skip (newLine level ++ t) = skip t := by
  have hspace : ∀ c ∈ newLine level, isSpace c = true := by
    intro c hc
    rcases List.mem_cons.mp hc with rfl | hc
    · rfl
    · rw [List.eq_of_mem_replicate hc]
      rfl
  exact List.dropWhile_append_of_pos hspace

lemma ends_cons (h : isNumberChar c = false) (t : Text) : Ends (c :: t) := by
  rintro d hd
  obtain rfl := Option.some.inj hd
  exact h

section Parts

variable {α : Type} {read? : Text → Option (α × Text)} {close : Char} {parts : List α}

lemma readParts?_intercalate {printed : α → Text} (hne : parts ≠ [])
    (hread : ∀ p ∈ parts, ∀ rest, Ends rest → read? (skip (printed p ++ rest)) = some (p, rest))
    (hclose : close ≠ ',') (htail : Ends tail) (hskip : skip tail = close :: rest)
    (hfuel : ([','].intercalate (parts.map printed) ++ tail).length ≤ fuel) :
    readParts? read? close fuel ([','].intercalate (parts.map printed) ++ tail) =
      some (parts, rest) := by
  induction parts generalizing fuel with
  | nil => exact absurd rfl hne
  | cons p parts ih =>
    obtain ⟨hfirst, hothers⟩ := List.forall_mem_cons.mp hread
    obtain _ | fuel := fuel
    · rw [Nat.le_zero, List.length_eq_zero_iff, List.append_eq_nil_iff] at hfuel
      rw [hfuel.2] at hskip
      exact absurd hskip (by simp [skip])
    cases parts with
    | nil =>
      rw [List.map_singleton, List.intercalate_singleton, readParts?, hfirst tail htail]
      simp only [Option.bind_eq_bind, Option.bind_some, hskip, if_neg hclose, if_true]
      rfl
    | cons q parts =>
      have hcomma : isSpace ',' = false := by decide
      have hends : ∀ t, Ends (',' :: t) := ends_cons (by decide)
      rw [List.map_cons, List.map_cons, List.intercalate_cons_cons, ← List.map_cons (f := printed),
        List.append_assoc, List.append_assoc, List.singleton_append] at hfuel ⊢
      rw [List.length_append, List.length_cons] at hfuel
      have hshort : ([','].intercalate ((q :: parts).map printed) ++ tail).length ≤ fuel := by omega
      have hrec := ih (List.cons_ne_nil q parts) hothers hshort
      rw [readParts?, hfirst _ (hends _)]
      simp only [Option.bind_eq_bind, Option.bind_some, skip_cons hcomma, hrec, if_true]
      rfl

/-- Parts that stand on lines of their own, as they are written between brackets. -/
def partLines (level : Nat) (printed : α → Text) (parts : List α) : Text :=
  [','].intercalate (parts.map fun p => newLine (level + 1) ++ printed p)

lemma partLines_singleton (level : Nat) (printed : α → Text) (p : α) :
    partLines level printed [p] = newLine (level + 1) ++ printed p := by
  simp [partLines]

lemma partLines_cons_cons (level : Nat) (printed : α → Text) (p q : α) (parts : List α) :
    partLines level printed (p :: q :: parts) =
      newLine (level + 1) ++ printed p ++ [','] ++ partLines level printed (q :: parts) := by
  simp only [partLines, List.map_cons, List.intercalate_cons_cons]

lemma length_le_partLines (level : Nat) (printed : α → Text) {p : α} (h : p ∈ parts) :
    (printed p).length ≤ (partLines level printed parts).length := by
  induction parts with
  | nil => exact absurd h List.not_mem_nil
  | cons q parts ih =>
    cases parts with
    | nil =>
      obtain rfl := List.mem_singleton.mp h
      rw [partLines_singleton, List.length_append]
      omega
    | cons r parts =>
      rw [partLines_cons_cons]
      simp only [List.length_append]
      rcases List.mem_cons.mp h with rfl | h
      · omega
      · have := ih h
        omega

lemma readBracket?_partLines {printed : α → Text} (hne : parts ≠ [])
    (hread : ∀ p ∈ parts, ∀ rest, Ends rest → read? (printed p ++ rest) = some (p, rest))
    (hprinted : ∀ p ∈ parts, ∃ c t, printed p = c :: t ∧ isSpace c = false ∧ c ≠ close)
    (hclose : close ≠ ',') (hspace : isSpace close = false) (level : Nat) (rest : Text) :
    readBracket? read? close (partLines level printed parts ++ (newLine level ++ close :: rest)) =
      some (parts, rest) := by
  have hskip : skip (newLine level ++ close :: rest) = close :: rest := by
    rw [skip_newLine, skip_cons hspace]
  have hends : Ends (newLine level ++ close :: rest) := ends_cons (by decide) _
  have hparts : ∀ p ∈ parts, ∀ rest, skip (newLine (level + 1) ++ printed p ++ rest) =
      printed p ++ rest := by
    intro p hp rest
    obtain ⟨c, t, heq, hc, -⟩ := hprinted p hp
    rw [List.append_assoc, skip_newLine, heq, List.cons_append, skip_cons hc]
  have hnone : Text.after? [close] (skip (partLines level printed parts ++
      (newLine level ++ close :: rest))) = none := by
    obtain ⟨p, more, rfl⟩ := List.exists_cons_of_ne_nil hne
    obtain ⟨c, t, heq, -, hc⟩ := hprinted p List.mem_cons_self
    have hfirst : ∃ behind, partLines level printed (p :: more) =
        newLine (level + 1) ++ printed p ++ behind := by
      cases more with
      | nil => exact ⟨[], by rw [partLines_singleton, List.append_nil]⟩
      | cons q more => exact ⟨_, by rw [partLines_cons_cons, List.append_assoc]⟩
    obtain ⟨behind, hbehind⟩ := hfirst
    rw [hbehind, List.append_assoc, hparts p List.mem_cons_self, heq]
    exact if_neg (Ne.symm hc)
  rw [readBracket?, hnone]
  refine readParts?_intercalate hne ?_ hclose hends hskip (Nat.le_refl _)
  intro p hp rest hrest
  rw [hparts p hp, hread p hp rest hrest]

end Parts

/-! ### Values that are read back -/

/-- A value without floating point numbers and fixed lists, and with no key twice in a table. -/
inductive IsPlain : Value → Prop
  | null : IsPlain .null
  | bool (b : Bool) : IsPlain (.bool b)
  | int (n : Int) : IsPlain (.int n)
  | text (s : String) : IsPlain (.text s)
  | list {items : List Value} (h : ∀ v ∈ items, IsPlain v) : IsPlain (.list items)
  | table {entries : Table} (hkeys : entries.IsDistinct) (h : ∀ e ∈ entries, IsPlain e.2) :
    IsPlain (.table entries)

/-- Such a value is refused only for a number of too many digits. -/
lemma refusal?_of_isPlain {v : Value} (h : IsPlain v) :
    refusal? v = if v.isWritable then none else some .tooLong := by
  induction h with
  | null | bool b | text s => rfl
  | int n =>
    rw [refusal?, Value.isWritable]
    simp only [decide_eq_true_eq]
  | @list items h ih =>
    rw [refusal?, Value.isWritable]
    induction items with
    | nil => rfl
    | cons item rest ihItems =>
      obtain ⟨hitem, hrest⟩ := List.forall_mem_cons.mp h
      obtain ⟨ihItem, ihRest⟩ := List.forall_mem_cons.mp ih
      rw [itemsRefusal?, Value.areWritable, ihItem, ihItems hrest ihRest]
      by_cases hwritable : item.isWritable = true
      · simp [hwritable]
      · simp [hwritable]
  | @table entries hkeys h ih =>
    rw [refusal?, Value.isWritable]
    clear hkeys
    induction entries with
    | nil => rfl
    | cons entry rest ihEntries =>
      obtain ⟨hentry, hrest⟩ := List.forall_mem_cons.mp h
      obtain ⟨ihEntry, ihRest⟩ := List.forall_mem_cons.mp ih
      rw [entriesRefusal?, Value.haveWritable, ihEntry, ihEntries hrest ihRest]
      by_cases hwritable : entry.2.isWritable = true
      · simp [hwritable]
      · simp [hwritable]

lemma encode_of_isPlain {v : Value} (h : IsPlain v) :
    encode v = if v.isWritable then .ok (text v) else .error .tooLong := by
  rw [encode, refusal?_of_isPlain h]
  split
  · next hnone => rw [if_pos (by simpa using hnone)]
  · next refusal hsome =>
    by_cases hwritable : v.isWritable = true
    · simp [hwritable] at hsome
    · rw [if_neg hwritable] at hsome ⊢
      rw [Option.some.inj hsome]

def entryText (level : Nat) (e : String × Value) : Text :=
  string e.1.toList ++ [':', ' '] ++ write level e.2

lemma writeItems_eq (level : Nat) (items : List Value) (hne : items ≠ []) :
    writeItems (level + 1) items = partLines level (write (level + 1)) items := by
  induction items with
  | nil => exact absurd rfl hne
  | cons item rest ih =>
    cases rest with
    | nil => rw [writeItems, partLines_singleton]
    | cons next rest =>
      rw [writeItems, ih (List.cons_ne_nil _ _), partLines_cons_cons]
      exact List.cons_ne_nil _ _

lemma writeEntries_eq (level : Nat) (entries : List (String × Value)) (hne : entries ≠ []) :
    writeEntries (level + 1) entries = partLines level (entryText (level + 1)) entries := by
  induction entries with
  | nil => exact absurd rfl hne
  | cons entry rest ih =>
    cases rest with
    | nil => simp [writeEntries, partLines_singleton, entryText]
    | cons next rest =>
      rw [writeEntries, ih (List.cons_ne_nil _ _), partLines_cons_cons]
      · simp [entryText]
      · exact List.cons_ne_nil _ _

lemma write_list {items : List Value} (hne : items ≠ []) : write level (.list items) =
    '[' :: (partLines level (write (level + 1)) items ++ (newLine level ++ [']'])) := by
  obtain ⟨item, rest, rfl⟩ := List.exists_cons_of_ne_nil hne
  rw [write, writeItems_eq level _ hne, List.cons_append, List.cons_append, List.append_assoc]

lemma write_table {entries : Table} (hne : entries ≠ []) : write level (.table entries) =
    '\x7b' :: (partLines level (entryText (level + 1)) entries ++ (newLine level ++ ['\x7d'])) := by
  obtain ⟨entry, rest, rfl⟩ := List.exists_cons_of_ne_nil hne
  rw [write, writeEntries_eq level _ hne, List.cons_append, List.cons_append, List.append_assoc]

lemma exists_cons_toString (n : Int) :
    ∃ c t, (toString n).toList = c :: t ∧ isNumberChar c = true := by
  have hne : (toString n).toList ≠ [] := by
    rw [Number.toList_toString]
    exact List.append_ne_nil_of_right_ne_nil _ Nat.toDigits_ne_nil
  obtain ⟨c, t, heq⟩ := List.exists_cons_of_ne_nil hne
  exact ⟨c, t, heq, isNumberChar_of_mem (n := n) (heq ▸ List.mem_cons_self)⟩

lemma ne_of_isNumberChar {d : Char} (hc : isNumberChar c = true) (hd : isNumberChar d = false) :
    c ≠ d := by
  rintro rfl
  rw [hd] at hc
  exact absurd hc (by decide)

lemma isSpace_eq_false (hc : isNumberChar c = true) : isSpace c = false := by
  have hne : ∀ d, isNumberChar d = false → c ≠ d := fun d => ne_of_isNumberChar hc
  simp [isSpace, hne ' ' (by decide), hne '\t' (by decide), hne '\n' (by decide),
    hne '\r' (by decide)]

lemma exists_cons_write (hv : IsPlain v) (level : Nat) :
    ∃ c t, write level v = c :: t ∧ isSpace c = false ∧ c ≠ ']' := by
  cases hv with
  | null => exact ⟨'n', _, by rw [write]; rfl, by decide, by decide⟩
  | bool b =>
    cases b with
    | true => exact ⟨'t', _, by rw [write]; rfl, by decide, by decide⟩
    | false => exact ⟨'f', _, by rw [write]; rfl, by decide, by decide⟩
  | int n =>
    obtain ⟨c, t, heq, hc⟩ := exists_cons_toString n
    exact ⟨c, t, by rw [write, heq], isSpace_eq_false hc, ne_of_isNumberChar hc (by decide)⟩
  | text s => exact ⟨'"', _, by rw [write]; rfl, by decide, by decide⟩
  | @list items h =>
    cases items with
    | nil => exact ⟨'[', _, by rw [write], by decide, by decide⟩
    | cons item rest => exact ⟨'[', _, write_list (List.cons_ne_nil _ _), by decide, by decide⟩
  | @table entries hkeys h =>
    cases entries with
    | nil => exact ⟨'\x7b', _, by rw [write], by decide, by decide⟩
    | cons entry rest =>
      exact ⟨'\x7b', _, write_table (List.cons_ne_nil _ _), by decide, by decide⟩

lemma foldl_set {t entries : Table} (h : (t ++ entries).IsDistinct) :
    entries.foldl (fun t e => t.set e.1 e.2) t = t ++ entries := by
  induction entries generalizing t with
  | nil => rw [List.foldl_nil, List.append_nil]
  | cons entry rest ih =>
    have hfresh := h.not_mem_of_append_cons
    rw [List.append_cons] at h ⊢
    rw [List.foldl_cons, Table.set_of_not_mem hfresh]
    exact ih h

lemma readValue?_of_isNumberChar (hc : isNumberChar c = true) (t : Text) :
    readValue? (fuel + 1) (c :: t) = readNumber? (c :: t) := by
  have hne : ∀ d, isNumberChar d = false → c ≠ d := fun d => ne_of_isNumberChar hc
  have hword : readWord? (c :: t) = none := by
    simp [readWord?, words, Text.after?, (hne 'n' (by decide)).symm, (hne 't' (by decide)).symm,
      (hne 'f' (by decide)).symm]
  rw [readValue?.eq_def]
  simp only
  split
  · next heq => exact absurd (List.cons.inj heq).1 (hne '"' (by decide))
  · next heq => exact absurd (List.cons.inj heq).1 (hne '[' (by decide))
  · next heq => exact absurd (List.cons.inj heq).1 (hne '\x7b' (by decide))
  · rw [hword, Option.none_or]

lemma readPair?_entryText {read? : Text → Option (Value × Text)} (e : String × Value)
    (hread : read? (write level e.2 ++ rest) = some (e.2, rest)) (hv : IsPlain e.2) :
    readPair? read? (entryText level e ++ rest) = some (e, rest) := by
  obtain ⟨c, t, heq, hspace, -⟩ := exists_cons_write hv level
  have hcolon : Text.after? [':'] (skip (':' :: ' ' :: (write level e.2 ++ rest))) =
      some (' ' :: (write level e.2 ++ rest)) := rfl
  have hskip : skip (' ' :: (write level e.2 ++ rest)) = write level e.2 ++ rest := by
    rw [skip, List.dropWhile_cons_of_pos rfl, heq, List.cons_append]
    exact skip_cons hspace _
  simp only [readPair?, entryText, List.append_assoc, readString?_string, Option.bind_eq_bind,
    Option.bind_some, List.cons_append, List.nil_append, hcolon, hskip, hread, Option.pure_def]

lemma readValue?_write_list {items : List Value} (hplain : ∀ v ∈ items, IsPlain v)
    (hitems : ∀ v ∈ items, ∀ rest, Ends rest →
      readValue? fuel (write (level + 1) v ++ rest) = some (v, rest)) (rest : Text) :
    readValue? (fuel + 1) (write level (.list items) ++ rest) = some (.list items, rest) := by
  by_cases hne : items = []
  · rw [hne, write]
    rfl
  · have hread := readBracket?_partLines hne hitems
      (fun v hv => exists_cons_write (hplain v hv) _) (by decide) (by decide) level rest
    rw [write_list hne, List.cons_append, List.append_assoc, List.append_assoc,
      List.singleton_append, readValue?.eq_3, hread]
    rfl

lemma readValue?_write_table {entries : Table} (hkeys : entries.IsDistinct)
    (hplain : ∀ e ∈ entries, IsPlain e.2)
    (hentries : ∀ e ∈ entries, ∀ rest, Ends rest →
      readValue? fuel (write (level + 1) e.2 ++ rest) = some (e.2, rest)) (rest : Text) :
    readValue? (fuel + 1) (write level (.table entries) ++ rest) = some (.table entries, rest) := by
  by_cases hne : entries = []
  · rw [hne, write]
    rfl
  · have hpairs : ∀ e ∈ entries, ∀ rest, Ends rest →
        readPair? (readValue? fuel) (entryText (level + 1) e ++ rest) = some (e, rest) :=
      fun e he rest hrest => readPair?_entryText e (hentries e he rest hrest) (hplain e he)
    have hquote : ∀ e ∈ entries, ∃ c t, entryText (level + 1) e = c :: t ∧ isSpace c = false ∧
        c ≠ '\x7d' := by
      intro e _
      exact ⟨'"', _, by rw [entryText, string_append]; rfl, by decide, by decide⟩
    have hread := readBracket?_partLines hne hpairs hquote (by decide) (by decide) level rest
    have htable : tableOf entries = entries := foldl_set hkeys
    rw [write_table hne, List.cons_append, List.append_assoc, List.append_assoc,
      List.singleton_append, readValue?.eq_4, hread]
    exact congrArg (fun t => some (Value.table t, rest)) htable

lemma length_write_lt_list (level : Nat) {items : List Value} (hv : v ∈ items) :
    (write (level + 1) v).length < (write level (.list items)).length := by
  have hline := length_le_partLines level (write (level + 1)) hv
  rw [write_list (List.ne_nil_of_mem hv), List.length_cons, List.length_append]
  omega

lemma length_write_lt_table (level : Nat) {entries : Table} {e : String × Value}
    (he : e ∈ entries) :
    (write (level + 1) e.2).length < (write level (.table entries)).length := by
  have hline := length_le_partLines level (entryText (level + 1)) he
  have hentry : (entryText (level + 1) e).length =
      (string e.1.toList ++ [':', ' ']).length + (write (level + 1) e.2).length :=
    List.length_append
  rw [write_table (List.ne_nil_of_mem he), List.length_cons, List.length_append]
  omega

/-- What is written of a plain value is read back, and what does not go on with a number is left. -/
theorem readValue?_write (hv : IsPlain v) (hlong : v.isWritable = true)
    (hfuel : (write level v).length ≤ fuel) (hrest : Ends rest) :
    readValue? (fuel + 1) (write level v ++ rest) = some (v, rest) := by
  induction hv generalizing level fuel rest with
  | null =>
    rw [write]
    rfl
  | bool b =>
    rw [write]
    cases b with
    | true => rfl
    | false => rfl
  | int n =>
    obtain ⟨c, t, heq, hc⟩ := exists_cons_toString n
    have hread := readNumber?_toString (Value.isWritable_int.mp hlong) hrest
    rw [heq, List.cons_append] at hread
    rw [write, heq, List.cons_append, readValue?_of_isNumberChar hc, hread]
  | text s =>
    have hread := readString?_string s rest
    rw [string_append] at hread
    rw [write, string_append, readValue?.eq_2, hread]
    rfl
  | @list items h ih =>
    refine readValue?_write_list h (fun v hv rest hrest => ?_) rest
    have hshorter := length_write_lt_list level hv
    obtain ⟨fuel, rfl⟩ := Nat.exists_eq_succ_of_ne_zero (by omega : fuel ≠ 0)
    exact ih v hv (Value.isWritable_list.mp hlong v hv) (by omega) hrest
  | @table entries hkeys h ih =>
    refine readValue?_write_table hkeys h (fun e he rest hrest => ?_) rest
    have hshorter := length_write_lt_table level he
    obtain ⟨fuel, rfl⟩ := Nat.exists_eq_succ_of_ne_zero (by omega : fuel ≠ 0)
    exact ih e he (Value.isWritable_table.mp hlong e he) (by omega) hrest

/-- What is written of a plain value is the value again. -/
theorem decode?_text (hv : IsPlain v) (hlong : v.isWritable = true) :
    decode? (text v) = some v := by
  obtain ⟨c, t, heq, hspace, -⟩ := exists_cons_write hv 0
  have hskip : skip (write 0 v) = write 0 v := by rw [heq, skip_cons hspace]
  have hends : Ends [] := by simp [Ends]
  have hread := readValue?_write hv hlong (Nat.le_refl (write 0 v).length) hends
  rw [List.append_nil] at hread
  rw [decode?, text, hskip, hread]
  rfl

/-- The reader is strict: no comma behind the last item, no zero in front, no half of a pair. -/
example : decode? "[1, ]".toList = none ∧ decode? "[01]".toList = none ∧
    decode? "[\"\\ud83d\"]".toList = none := by decide +kernel

/-! ### The characters that are written -/

def IsAscii (t : Text) : Prop := ∀ c ∈ t, c.toNat < 0x80

instance : DecidablePred IsAscii := List.decidableBAll _

lemma isAscii_append {s t : Text} : IsAscii (s ++ t) ↔ IsAscii s ∧ IsAscii t :=
  List.forall_mem_append

lemma isAscii_cons : IsAscii (c :: t) ↔ c.toNat < 0x80 ∧ IsAscii t :=
  List.forall_mem_cons

lemma isAscii_unitEscape (n : Nat) : IsAscii (unitEscape n) := by
  have hdigit : ∀ m, (Nat.digitChar (m % 16)).toNat < 0x80 := by
    intro m
    have hall : ∀ m < 16, (Nat.digitChar m).toNat < 0x80 := by decide
    exact hall _ (Nat.mod_lt m (by decide))
  rw [unitEscape, hexDigits_four, isAscii_append]
  refine ⟨by decide, ?_⟩
  simp only [isAscii_cons, hdigit, true_and]
  exact fun _ h => absurd h List.not_mem_nil

lemma isAscii_escapeChar (c : Char) : IsAscii (escapeChar c) := by
  have hnil : IsAscii [] := by decide
  dsimp only [escapeChar]
  split_ifs with hmark _ _ _ _ _ hplain _
  · simp only [Bool.or_eq_true, decide_eq_true_eq] at hmark
    rcases hmark with rfl | rfl
    · decide
    · decide
  · decide
  · decide
  · decide
  · decide
  · decide
  · simp only [Bool.and_eq_true, decide_eq_true_eq] at hplain
    exact isAscii_cons.mpr ⟨by omega, hnil⟩
  · exact isAscii_unitEscape _
  · exact isAscii_append.mpr ⟨isAscii_unitEscape _, isAscii_unitEscape _⟩

lemma isAscii_string (t : Text) : IsAscii (string t) := by
  have hbody : IsAscii (t.flatMap escapeChar) := by
    intro c hc
    obtain ⟨d, -, hd⟩ := List.mem_flatMap.mp hc
    exact isAscii_escapeChar d c hd
  exact isAscii_append.mpr ⟨isAscii_cons.mpr ⟨by decide, hbody⟩, by decide⟩

lemma isAscii_newLine (level : Nat) : IsAscii (newLine level) := by
  refine isAscii_cons.mpr ⟨by decide, fun c hc => ?_⟩
  rw [List.eq_of_mem_replicate hc]
  decide

lemma isAscii_partLines {α : Type} {printed : α → Text} {parts : List α}
    (h : ∀ p ∈ parts, IsAscii (printed p)) : IsAscii (partLines level printed parts) := by
  induction parts with
  | nil => exact fun _ hc => absurd hc List.not_mem_nil
  | cons p parts ih =>
    obtain ⟨hp, hparts⟩ := List.forall_mem_cons.mp h
    have hfirst : IsAscii (newLine (level + 1) ++ printed p) :=
      isAscii_append.mpr ⟨isAscii_newLine _, hp⟩
    cases parts with
    | nil => rwa [partLines_singleton]
    | cons q parts =>
      rw [partLines_cons_cons, isAscii_append, isAscii_append]
      exact ⟨⟨hfirst, by decide⟩, ih hparts⟩

lemma isAscii_write (hv : IsPlain v) : IsAscii (write level v) := by
  induction hv generalizing level with
  | null =>
    rw [write]
    decide
  | bool b =>
    rw [write]
    cases b with
    | true => decide
    | false => decide
  | int n =>
    rw [write]
    intro c hc
    rcases Number.eq_minus_or_isDigit hc with rfl | hdigit
    · decide
    · have := Number.toNat_bounds_of_isDigit hdigit
      omega
  | text s =>
    rw [write]
    exact isAscii_string s.toList
  | @list items h ih =>
    by_cases hne : items = []
    · rw [hne, write]
      decide
    rw [write_list hne, isAscii_cons, isAscii_append, isAscii_append]
    exact ⟨by decide, isAscii_partLines fun v hv => ih v hv, isAscii_newLine _, by decide⟩
  | @table entries hkeys h ih =>
    by_cases hne : entries = []
    · rw [hne, write]
      decide
    rw [write_table hne, isAscii_cons, isAscii_append, isAscii_append]
    refine ⟨by decide, isAscii_partLines fun e he => ?_, isAscii_newLine _, by decide⟩
    rw [entryText, isAscii_append, isAscii_append]
    exact ⟨⟨isAscii_string _, by decide⟩, ih e he⟩

end Json

end DocGraft
