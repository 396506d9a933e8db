import DocGraft.Proofs.TrimmedTexts
import DocGraft.Settings.Override

/-!
# The values that texts stand for

A setting given as text is read as a truth value, as a number, as a list or as itself, in this order.
A whole number is read back from its decimal text, and a list from its items between commas, whatever
the items look like: a comma stands in no truth value and in no number.
-/

namespace DocGraft

namespace Text

lemma mem_dropWhile {p : Char → Bool} {c : Char} {t : Text} (h : c ∈ t) (hp : p c = false) :
    c ∈ t.dropWhile p := by
  rw [← List.takeWhile_append_dropWhile (p := p) (l := t), List.mem_append] at h
  refine h.resolve_left fun htake => ?_
  rw [List.mem_takeWhile_imp htake] at hp
  exact absurd hp (by decide)

lemma eq_false_of_dropWhile {p : Char → Bool} {c : Char} {t rest : Text}
    (h : t.dropWhile p = c :: rest) : p c = false := by
  have hhead := List.head?_dropWhile_not p t
  rw [h] at hhead
  exact hhead

end Text

namespace Number

open Text (digitValue?)

variable {c : Char} {t : Text} {value? : Char → Option Nat} {ds : List Nat}

/-! ### Digits -/

lemma toNat_bounds_of_isDigit (h : c.isDigit = true) : 48 ≤ c.toNat ∧ c.toNat ≤ 57 := by
  simpa [Char.isDigit, UInt32.le_iff_toNat_le] using h

lemma digitValue?_of_isDigit (h : c.isDigit = true) :
    digitValue? c = some (c.toNat - '0'.toNat) := by
  have hbounds := toNat_bounds_of_isDigit h
  have hfound : Text.decimalDigits.find? (fun range => range.1 ≤ c.toNat && c.toNat ≤ range.2) =
      some (0x30, 0x39) := by
    rw [Text.decimalDigits, List.find?_cons_of_pos]
    simpa using hbounds
  have hzero : '0'.toNat = 48 := rfl
  rw [digitValue?, hfound, Option.map_some, hzero, Nat.mod_eq_of_lt (by omega)]

lemma digitsBy?_of_forall {digit : Char → Nat} (hne : t ≠ [])
    (h : ∀ c ∈ t, c ≠ '_' ∧ value? c = some (digit c)) :
    digitsBy? value? t = some (t.map digit) := by
  fun_induction digitsBy? value? t with
  | case1 => exact absurd rfl hne
  | case2 c => rw [(h c List.mem_cons_self).2]; rfl
  | case3 c rest => exact absurd rfl (h '_' (by simp)).1
  | case4 c rest hrest _ ih =>
    have htail := ih hrest fun d hd => h d (List.mem_cons_of_mem c hd)
    rw [(h c List.mem_cons_self).2, htail]
    rfl

lemma not_mem_of_digitsBy? (hvalue : value? c = none) (hline : c ≠ '_')
    (h : digitsBy? value? t = some ds) : c ∉ t := by
  have hne : ∀ {d n}, value? d = some n → c ≠ d := by
    rintro d n hd rfl
    rw [hvalue] at hd
    exact absurd hd (by simp)
  fun_induction digitsBy? value? t generalizing ds with
  | case1 => simp
  | case2 d =>
    obtain ⟨n, hn, -⟩ := Option.map_eq_some_iff.mp h
    simpa using hne hn
  | case3 d rest ih =>
    obtain ⟨n, hn, hrest⟩ := Option.bind_eq_some_iff.mp h
    obtain ⟨ds', hds, -⟩ := Option.bind_eq_some_iff.mp hrest
    simpa using ⟨hne hn, hline, ih hds⟩
  | case4 d rest _ _ ih =>
    obtain ⟨n, hn, hrest⟩ := Option.bind_eq_some_iff.mp h
    obtain ⟨ds', hds, -⟩ := Option.bind_eq_some_iff.mp hrest
    simpa using ⟨hne hn, ih hds⟩

lemma ofDigits_toDigits (n : Nat) :
    ofDigits 10 ((Nat.toDigits 10 n).map fun c => c.toNat - '0'.toNat) = n := by
  rw [ofDigits, List.foldl_map]
  exact Nat.ofDigitChars_ten_toDigits

lemma isDigit_of_mem_toDigits {n : Nat} (h : c ∈ Nat.toDigits 10 n) : c.isDigit = true :=
  Nat.isDigit_of_mem_toDigits (by decide) (by decide) h

lemma digits?_toDigits (n : Nat) :
    digits? (Nat.toDigits 10 n) = some ((Nat.toDigits 10 n).map fun c => c.toNat - '0'.toNat) := by
  apply digitsBy?_of_forall Nat.toDigits_ne_nil
  intro c hc
  have hdigit := isDigit_of_mem_toDigits hc
  refine ⟨?_, digitValue?_of_isDigit hdigit⟩
  rintro rfl
  exact absurd hdigit (by decide)

/-! ### Whole numbers -/

lemma isPadding_eq_false (h : 0x21 ≤ c.toNat ∧ c.toNat ≤ 0x7E) : isPadding c = false := by
  obtain ⟨hlow, hhigh⟩ := h
  have hblank : Text.isBlankChar c = false := by
    simp only [Text.isBlankChar, Text.Ranges.has, Text.blanks, List.any_cons, List.any_nil,
      Bool.or_eq_false_iff, Bool.and_eq_false_iff, decide_eq_false_iff_not, and_true]
    omega
  rw [isPadding, hblank, Bool.false_and]

lemma dropPadding_eq_self (h : ∀ c ∈ t, isPadding c = false) : dropPadding t = t := by
  have hdrop : ∀ {u : Text}, (∀ c ∈ u, isPadding c = false) → u.dropWhile isPadding = u := by
    intro u hu
    apply List.dropWhile_eq_self_iff.mpr
    intro hpos
    simp [hu _ (List.getElem_mem hpos)]
  rw [dropPadding, hdrop h, hdrop fun c hc => h c (List.mem_reverse.mp hc), List.reverse_reverse]

lemma toList_toString (n : Int) :
    (toString n).toList = (if n < 0 then ['-'] else []) ++ Nat.toDigits 10 n.natAbs := by
  rw [Int.toString_eq_repr, Int.repr_eq_if]
  by_cases hn : n < 0
  · have hnat : (-n).toNat = n.natAbs := by omega
    rw [if_neg (by omega), if_pos hn, String.toList_append, Nat.toList_repr, hnat]
    rfl
  · have hnat : n.toNat = n.natAbs := by omega
    rw [if_pos (by omega), if_neg hn, Nat.toList_repr, hnat, List.nil_append]

lemma eq_minus_or_isDigit {n : Int} (h : c ∈ (toString n).toList) :
    c = '-' ∨ c.isDigit = true := by
  rw [toList_toString, List.mem_append] at h
  rcases h with hsign | hdigit
  · split at hsign
    · exact .inl (List.mem_singleton.mp hsign)
    · exact absurd hsign List.not_mem_nil
  · exact .inr (isDigit_of_mem_toDigits hdigit)

lemma signed_toString (n : Int) :
    signed (toString n).toList = (decide (n < 0), Nat.toDigits 10 n.natAbs) := by
  rw [toList_toString]
  by_cases hn : n < 0
  · rw [if_pos hn, decide_eq_true hn]
    rfl
  · rw [if_neg hn, decide_eq_false hn, List.nil_append]
    obtain ⟨d, rest, hdigits⟩ := List.exists_cons_of_ne_nil
      (Nat.toDigits_ne_nil (n := n.natAbs) (b := 10))
    have hd := isDigit_of_mem_toDigits (hdigits ▸ List.mem_cons_self)
    rw [hdigits]
    unfold signed
    split
    · next heq => rw [(List.cons.inj heq).1] at hd; exact absurd hd (by decide)
    · next heq => rw [(List.cons.inj heq).1] at hd; exact absurd hd (by decide)
    · rfl

lemma applySign_natAbs (n : Int) : applySign (decide (n < 0)) n.natAbs = n := by
  unfold applySign
  split
  · next hn => have := of_decide_eq_true hn; omega
  · next hn => have := of_decide_eq_false (Bool.eq_false_iff.mpr hn); omega

/-- A whole number that is not too long is read back from its decimal text. -/
lemma readInt?_toString {n : Int} (h : (Nat.toDigits 10 n.natAbs).length ≤ longest) :
    readInt? (toString n).toList = some n := by
  have hpadding : ∀ c ∈ (toString n).toList, isPadding c = false := by
    intro c hc
    apply isPadding_eq_false
    rcases eq_minus_or_isDigit hc with rfl | hdigit
    · decide
    · have hbounds := toNat_bounds_of_isDigit hdigit
      omega
  rw [readInt?, dropPadding_eq_self hpadding, signed_toString]
  simp only [digits?_toDigits, Option.bind_eq_bind, Option.bind_some, List.length_map,
    ofDigits_toDigits, applySign_natAbs]
  exact if_neg (by omega)

/-! ### Characters that stand in no number -/

/-- A character that no spelling of a number has: no digit, no mark and no letter of a number. -/
structure IsStray (c : Char) : Prop where
  digit : digitValue? c = none
  padding : isPadding c = false
  mark : c ∉ "_+-.".toList
  letter : c.toLower ∉ "aefinty".toList

lemma isStray_comma : IsStray ',' := by
  constructor <;> decide

namespace IsStray

lemma not_mem_of_digits? (hc : IsStray c) (h : digits? t = some ds) : c ∉ t :=
  not_mem_of_digitsBy? hc.digit (by rintro rfl; exact hc.mark (by decide)) h

lemma mem_signed (hc : IsStray c) (h : c ∈ t) : c ∈ (signed t).2 := by
  have hmark := hc.mark
  unfold signed
  split
  · exact (List.mem_cons.mp h).resolve_left (by rintro rfl; exact hmark (by decide))
  · exact (List.mem_cons.mp h).resolve_left (by rintro rfl; exact hmark (by decide))
  · exact h

lemma mem_body (hc : IsStray c) (h : c ∈ t) : c ∈ (signed (dropPadding t)).2 := by
  have hdrop := Text.mem_dropWhile (List.mem_reverse.mpr (Text.mem_dropWhile h hc.padding))
    hc.padding
  exact hc.mem_signed (List.mem_reverse.mpr hdrop)

lemma readInt?_eq_none (hc : IsStray c) (h : c ∈ t) : readInt? t = none := by
  apply Option.eq_none_iff_forall_not_mem.mpr
  intro n hn
  obtain ⟨ds, hds, -⟩ := Option.bind_eq_some_iff.mp hn
  exact hc.not_mem_of_digits? hds (hc.mem_body h)

lemma not_mem_of_optionalDigits? (hc : IsStray c) (h : optionalDigits? t = some ds) : c ∉ t := by
  unfold optionalDigits? at h
  split at h
  · next hempty => simp [List.isEmpty_iff.mp hempty]
  · exact hc.not_mem_of_digits? h

lemma not_mem_of_exponent? {m : Char} {e : Int} (hc : IsStray c) (hm : isExponentMark m = true)
    (h : exponent? (m :: t) = some e) : c ∉ m :: t := by
  obtain ⟨ds, hds, -⟩ := Option.bind_eq_some_iff.mp h
  intro hmem
  rcases List.mem_cons.mp hmem with rfl | hrest
  · simp only [isExponentMark, Bool.or_eq_true, beq_iff_eq] at hm
    rcases hm with rfl | rfl
    · exact hc.letter (by decide)
    · exact hc.letter (by decide)
  · exact hc.not_mem_of_digits? hds (hc.mem_signed hrest)

lemma not_mem_of_decimal? {negative : Bool} {x : Binary64} (hc : IsStray c)
    (h : decimal? negative t = some x) : c ∉ t := by
  obtain ⟨e, he, h⟩ := Option.bind_eq_some_iff.mp h
  obtain ⟨whole, hwhole, h⟩ := Option.bind_eq_some_iff.mp h
  obtain ⟨places, hplaces, -⟩ := Option.bind_eq_some_iff.mp h
  have hexponent : c ∉ t.dropWhile fun c => !isExponentMark c := by
    cases hdrop : t.dropWhile fun c => !isExponentMark c with
    | nil => simp
    | cons m rest =>
      rw [hdrop] at he
      exact hc.not_mem_of_exponent? (by simpa using Text.eq_false_of_dropWhile hdrop) he
  have hright : c ∉ (t.takeWhile fun c => !isExponentMark c).dropWhile (· != '.') := by
    cases hdrop : (t.takeWhile fun c => !isExponentMark c).dropWhile (· != '.') with
    | nil => simp
    | cons point rest =>
      rw [hdrop] at hplaces
      intro hmem
      rcases List.mem_cons.mp hmem with rfl | hrest
      · have hpoint : c = '.' := by simpa using Text.eq_false_of_dropWhile hdrop
        exact hc.mark (hpoint ▸ by decide)
      · exact hc.not_mem_of_optionalDigits? hplaces hrest
  have hleft := hc.not_mem_of_optionalDigits? hwhole
  rw [← List.takeWhile_append_dropWhile (p := fun c => !isExponentMark c) (l := t),
    ← List.takeWhile_append_dropWhile (p := (· != '.')) (l := t.takeWhile fun c => !isExponentMark c)]
  simp only [List.mem_append, not_or]
  exact ⟨⟨hleft, hright⟩, hexponent⟩

lemma readFloat?_eq_none (hc : IsStray c) (h : c ∈ t) : readFloat? t = none := by
  have hbody := hc.mem_body h
  unfold readFloat?
  split
  next negative body heq =>
  rw [heq] at hbody
  have hword : ∀ {word : String}, word.toList ⊆ "aefinty".toList →
      String.ofList (body.map Char.toLower) ≠ word := by
    rintro word hletters rfl
    apply hc.letter
    apply hletters
    rw [String.toList_ofList]
    exact List.mem_map_of_mem hbody
  simp only [hword (by decide : "inf".toList ⊆ "aefinty".toList),
    hword (by decide : "infinity".toList ⊆ "aefinty".toList),
    hword (by decide : "nan".toList ⊆ "aefinty".toList)]
  apply Option.eq_none_iff_forall_not_mem.mpr
  intro x hx
  exact hc.not_mem_of_decimal? hx hbody

end IsStray

end Number

namespace Value

open Text (Blank Trimmed)

/-- An item of a list as it is written: a word without a comma and with no blank at its ends, between
any blanks. -/
structure Item where
  before : Text
  word : Text
  behind : Text
  blank : Blank before ∧ Blank behind
  ne_nil : word ≠ []
  trimmed : Trimmed word
  single : ',' ∉ word

namespace Item

def written (i : Item) : Text := i.before ++ i.word ++ i.behind

def value (i : Item) : Value := .text (String.ofList i.word)

lemma trim_written (i : Item) : Text.trim i.written = i.word :=
  i.trimmed.trim_append i.ne_nil i.blank.1 i.blank.2

lemma comma_not_mem_written (i : Item) : ',' ∉ i.written := by
  have hblank : ∀ {pad : Text}, Blank pad → ',' ∉ pad := by
    intro pad hpad hcomma
    exact absurd (hpad ',' hcomma) (by decide)
  simp only [written, List.mem_append, not_or]
  exact ⟨⟨hblank i.blank.1, i.single⟩, hblank i.blank.2⟩

end Item

/-- The text of several items has a comma. -/
lemma comma_mem_intercalate {texts : List Text} (h : 2 ≤ texts.length) :
    ',' ∈ [','].intercalate texts := by
  match texts, h with
  | first :: second :: rest, _ =>
    rw [List.intercalate_cons_cons]
    simp

/-- The truth values in lower case. -/
def truthWords : List Text := ["true".toList, "false".toList]

lemma truthWord_cases {s : String} (h : s.toList.map Char.toLower ∉ truthWords) :
    String.ofList (s.toList.map Char.toLower) ≠ "true" ∧
      String.ofList (s.toList.map Char.toLower) ≠ "false" := by
  constructor
  · intro hword
    apply h
    rw [← String.toList_ofList (l := s.toList.map Char.toLower), hword]
    exact List.mem_cons_self
  · intro hword
    apply h
    rw [← String.toList_ofList (l := s.toList.map Char.toLower), hword]
    exact List.mem_cons_of_mem _ List.mem_cons_self

/-- A text that is no truth value is a number, if it can be read as one, or a list or itself. -/
lemma ofText_of_not_truthWord {s : String} (h : s.toList.map Char.toLower ∉ truthWords) :
    ofText s = match Number.readInt? s.toList, Number.readFloat? s.toList with
      | some n, _ => .int n
      | none, some x => .float x
      | none, none =>
        if s.toList.contains ',' then
          .list ((s.toList.splitOn ',').map Text.trim |>.filter (!·.isEmpty) |>.map fun part =>
            .text (String.ofList part))
        else .text s := by
  obtain ⟨htrue, hfalse⟩ := truthWord_cases h
  exact (if_neg htrue).trans (if_neg hfalse)

/-- A character that no truth value has tells a text from both. -/
lemma not_truthWord_of_mem {s : String} {c : Char} (hc : c ∈ s.toList)
    (hletter : c.toLower ∉ "aeflrstu".toList) : s.toList.map Char.toLower ∉ truthWords := by
  intro hword
  apply hletter
  have hmem : c.toLower ∈ s.toList.map Char.toLower := List.mem_map_of_mem hc
  have hletters : ∀ word ∈ truthWords, word ⊆ "aeflrstu".toList := by decide
  exact hletters _ hword hmem

lemma not_truthWord_toString (n : Int) : (toString n).toList.map Char.toLower ∉ truthWords := by
  obtain ⟨d, rest, hdigits⟩ := List.exists_cons_of_ne_nil
    (Nat.toDigits_ne_nil (n := n.natAbs) (b := 10))
  have hmem : d ∈ Nat.toDigits 10 n.natAbs := hdigits ▸ List.mem_cons_self
  have hdigit := Number.isDigit_of_mem_toDigits hmem
  refine not_truthWord_of_mem (c := d) ?_ ?_
  · rw [Number.toList_toString]
    exact List.mem_append_right _ hmem
  · have hbounds := Number.toNat_bounds_of_isDigit hdigit
    have hlower : d.toLower = d := by
      refine dif_neg ?_
      simp only [UInt32.le_iff_toNat_le, not_and]
      intro hupper
      change 65 ≤ d.toNat at hupper
      omega
    have hlow : ("aeflrstu".toList.all fun l => 57 < l.toNat) = true := by decide
    rw [hlower]
    intro hletter
    have := of_decide_eq_true (List.all_eq_true.mp hlow d hletter)
    omega

lemma ofText_of_truthWord {s : String} (h : s.toList.map Char.toLower ∈ truthWords) :
    ∃ b, ofText s = .bool b := by
  simp only [truthWords, List.mem_cons, List.not_mem_nil, or_false] at h
  rcases h with h | h
  · exact ⟨true, by simp [ofText, h]⟩
  · exact ⟨false, by simp [ofText, h]⟩

lemma ofText_toString {n : Int} (h : (Nat.toDigits 10 n.natAbs).length ≤ Number.longest) :
    ofText (toString n) = .int n := by
  rw [ofText_of_not_truthWord (not_truthWord_toString n), Number.readInt?_toString h]

/-- A text with a comma is a list of what stands between its commas, less what is blank. -/
lemma ofText_of_comma {s : String} (h : ',' ∈ s.toList) :
    ofText s = .list ((s.toList.splitOn ',').map Text.trim |>.filter (!·.isEmpty) |>.map fun part =>
      .text (String.ofList part)) := by
  rw [ofText_of_not_truthWord (not_truthWord_of_mem h (by decide)),
    Number.isStray_comma.readInt?_eq_none h, Number.isStray_comma.readFloat?_eq_none h]
  exact if_pos (List.contains_iff_mem.mpr h)

lemma ofText_written {items : List Item} (h : 2 ≤ items.length) :
    ofText (String.ofList ([','].intercalate (items.map Item.written))) =
      .list (items.map Item.value) := by
  have hsplit : ([','].intercalate (items.map Item.written)).splitOn ',' =
      items.map Item.written := by
    apply List.splitOn_intercalate
    · intro text htext
      obtain ⟨i, -, rfl⟩ := List.mem_map.mp htext
      exact i.comma_not_mem_written
    · exact List.ne_nil_of_length_pos (by rw [List.length_map]; omega)
  have hwords : ((items.map Item.written).map Text.trim).filter (!·.isEmpty) =
      items.map Item.word := by
    rw [List.map_map, List.map_congr_left fun i _ => i.trim_written]
    apply List.filter_eq_self.mpr
    intro word hword
    obtain ⟨i, -, rfl⟩ := List.mem_map.mp hword
    simpa using i.ne_nil
  have hcomma : ',' ∈ (String.ofList ([','].intercalate (items.map Item.written))).toList := by
    rw [String.toList_ofList]
    exact comma_mem_intercalate (by rwa [List.length_map])
  rw [ofText_of_comma hcomma, String.toList_ofList, hsplit, hwords, List.map_map]
  rfl

lemma ofText_eq_text_iff {s : String} : ofText s = .text s ↔
    ',' ∉ s.toList ∧ s.toList.map Char.toLower ∉ truthWords ∧
      Number.readInt? s.toList = none ∧ Number.readFloat? s.toList = none := by
  constructor
  · intro h
    have hword : s.toList.map Char.toLower ∉ truthWords := by
      intro hword
      obtain ⟨b, hb⟩ := ofText_of_truthWord hword
      rw [hb] at h
      exact absurd h (by simp)
    refine ⟨?_, hword, ?_⟩
    · intro hcomma
      rw [ofText_of_comma hcomma] at h
      exact absurd h (by simp)
    · rw [ofText_of_not_truthWord hword] at h
      split at h
      · exact absurd h (by simp)
      · exact absurd h (by simp)
      · next hint hfloat => exact ⟨hint, hfloat⟩
  · rintro ⟨hcomma, hword, hint, hfloat⟩
    rw [ofText_of_not_truthWord hword, hint, hfloat]
    exact if_neg fun hmem => hcomma (List.contains_iff_mem.mp hmem)

/-- A whole number that is not too long is read back from its decimal text, and two or more items
from their text between commas, with any blanks around them. A text stands for itself exactly if it
has no comma, is no truth value in any case, and cannot be read as a number. -/
theorem ofText_reads_written_values :
    (∀ n : Int, (Nat.toDigits 10 n.natAbs).length ≤ Number.longest →
      ofText (toString n) = .int n) ∧
    (∀ items : List Item, 2 ≤ items.length →
      ofText (String.ofList ([','].intercalate (items.map Item.written))) =
        .list (items.map Item.value)) ∧
    ∀ s : String, ofText s = .text s ↔
      ',' ∉ s.toList ∧ s.toList.map Char.toLower ∉ truthWords ∧
        Number.readInt? s.toList = none ∧ Number.readFloat? s.toList = none :=
  ⟨fun _ => ofText_toString, fun _ => ofText_written, fun _ => ofText_eq_text_iff⟩

/-- A negative number, a list whose items look like a number, a truth value and an infinity, and a
text that is nearly a number. -/
theorem ofText_reads_written_values_of_each_kind :
    ofText "-1204" = .int (-1204) ∧
      ofText "1_0 , TRUE,\u00A0inf" = .list [.text "1_0", .text "TRUE", .text "inf"] ∧
      ofText "1__0" = .text "1__0" := by
  let items : List Item :=
    [⟨[], "1_0".toList, [' '], by decide, by decide, by decide, by decide⟩,
      ⟨[' '], "TRUE".toList, [], by decide, by decide, by decide, by decide⟩,
      ⟨['\u00A0'], "inf".toList, [], by decide, by decide, by decide, by decide⟩]
  obtain ⟨hint, hlist, htext⟩ := ofText_reads_written_values
  have hdecimal : toString (-1204 : Int) = "-1204" := by decide
  exact ⟨hdecimal ▸ hint (-1204) (by decide), hlist items (by decide),
    (htext "1__0").mpr (by decide +kernel)⟩

end Value

end DocGraft
