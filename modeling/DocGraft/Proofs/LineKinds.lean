import DocGraft.Proofs.LineClasses

/-!
# Kinds of lines

A line is of at most one of five classes: it is blank, a doc comment, an ordinary comment, or an
outer or inner attribute. The class of a line decides its kind, except that attributes are of four
kinds; a line of no class is code. What a merge keeps aside are two of the kinds, so lines of one
kind are all kept aside or all not, and attributes that differ in blanks only are of one kind.
-/

namespace DocGraft

/-- What a line can be by how it starts. -/
inductive LineClass
  | blank
  | docComment
  | ordinaryComment
  | outerAttribute
  | innerAttribute
  deriving DecidableEq, Repr

namespace LineClass

open Line

/-- Whether a line is of the class. -/
def has : LineClass → Line → Bool
  | blank => Text.isBlank
  | docComment => isDocComment
  | ordinaryComment => isOrdinaryComment
  | outerAttribute => isOuterAttribute
  | innerAttribute => isInnerAttribute

/-- The first class that has the line. -/
def of? (l : Line) : Option LineClass :=
  if Text.isBlank l then some blank
  else if isDocComment l then some docComment
  else if isOrdinaryComment l then some ordinaryComment
  else if isOuterAttribute l then some outerAttribute
  else if isInnerAttribute l then some innerAttribute
  else none

variable {l : Line} {c d : LineClass}

lemma isBlank_eq_false_of_lead {a : Char} (h : lead l = some a) : Text.isBlank l = false := by
  apply Bool.eq_false_iff.mpr
  intro hblank
  rw [lead_of_isBlank hblank] at h
  exact absurd h (by simp)

-- Each class excludes those that are asked for before it: a blank line has no first character, and
-- comments and attributes have different ones.
lemma of?_of_has (h : c.has l = true) : of? l = some c := by
  cases c with
  | blank => exact if_pos h
  | docComment =>
    have hdoc : isDocComment l = true := h
    have hblank := isBlank_eq_false_of_lead (lead_of_isDocComment hdoc)
    simp [of?, hblank, hdoc]
  | ordinaryComment =>
    have hordinary : isOrdinaryComment l = true := h
    have hblank := isBlank_eq_false_of_lead (lead_of_isOrdinaryComment hordinary)
    have hdoc : isDocComment l = false := by simpa using (Bool.and_eq_true_iff.mp hordinary).2
    simp [of?, hblank, hdoc, hordinary]
  | outerAttribute =>
    have houter : isOuterAttribute l = true := h
    obtain ⟨hslashes, hmark, hordinary, hblank⟩ :=
      no_comment_of_lead (lead_of_isOuterAttribute houter)
    simp [of?, isDocComment, hslashes, hmark, hordinary, hblank, houter]
  | innerAttribute =>
    have hinner : isInnerAttribute l = true := h
    obtain ⟨hslashes, hmark, hordinary, hblank⟩ :=
      no_comment_of_lead (lead_of_isInnerAttribute hinner)
    have houter : isOuterAttribute l = false := by
      apply Bool.eq_false_iff.mpr
      intro houter
      rw [isInnerAttribute_of_isOuterAttribute houter] at hinner
      exact absurd hinner (by decide)
    simp [of?, isDocComment, hslashes, hmark, hordinary, hblank, houter, hinner]

lemma eq_of_has (hc : c.has l = true) (hd : d.has l = true) : c = d :=
  Option.some.inj ((of?_of_has hc).symm.trans (of?_of_has hd))

lemma has_eq_false (h : c.has l = true) (hne : d ≠ c) : d.has l = false :=
  Bool.eq_false_iff.mpr fun hd => hne (eq_of_has hd h)

end LineClass

namespace Line

variable {m : Markers} {l k : Line}

/-! ### Kinds of attributes -/

/-- An attribute, of what follows it or of what encloses it. -/
def isAttribute (l : Line) : Bool := isOuterAttribute l || isInnerAttribute l

/-- The kind of an attribute. A reference marker may be named like documentation; it is a marker
then. -/
def attributeKind (m : Markers) (l : Line) : LineKind :=
  if isModuleDocMacro m l then .moduleDocMacro
  else if isReferenceMarker m l then .referenceMarker
  else if isDocAttribute l then .docAttribute
  else .otherAttribute

lemma lead_of_isAttribute (h : isAttribute l = true) : lead l = some '#' := by
  rcases Bool.or_eq_true_iff.mp h with h | h
  · exact lead_of_isOuterAttribute h
  · exact lead_of_isInnerAttribute h

lemma isAttribute_of_isDocAttribute (h : isDocAttribute l = true) : isAttribute l = true := by
  have houter : ['#', '['] <+: docOuter := by decide
  have hinner : ['#', '!', '['] <+: docInner := by decide
  apply Bool.or_eq_true_iff.mpr
  rcases Bool.or_eq_true_iff.mp h with h | h
  · exact Or.inl (List.isPrefixOf_iff_prefix.mpr (houter.trans (List.isPrefixOf_iff_prefix.mp h)))
  · exact Or.inr (List.isPrefixOf_iff_prefix.mpr (hinner.trans (List.isPrefixOf_iff_prefix.mp h)))

lemma isAttribute_of_isMarker (h : isMarker m l = true) : isAttribute l = true := by
  apply Bool.or_eq_true_iff.mpr
  rcases Bool.or_eq_true_iff.mp h with h | h
  · exact Or.inl (isOuterAttribute_of_isReferenceMarker h)
  · exact Or.inr (isInnerAttribute_of_isModuleDocMacro h)

lemma isAttribute_of_isOtherAttribute (h : isOtherAttribute m l = true) :
    isAttribute l = true := by
  apply Bool.or_eq_true_iff.mpr
  unfold isOtherAttribute at h
  split_ifs at h with hdoc houter
  · exact Or.inl houter
  · exact Or.inr (Bool.and_eq_true_iff.mp h).1

/-- The other attributes are those that are neither documentation nor a stand-in for it. -/
lemma isOtherAttribute_iff : isOtherAttribute m l = true ↔
    isAttribute l = true ∧ isDocAttribute l = false ∧ isMarker m l = false := by
  constructor
  · intro h
    refine ⟨isAttribute_of_isOtherAttribute h, Bool.eq_false_iff.mpr fun hdoc => ?_,
      Bool.eq_false_iff.mpr fun hmarker => ?_⟩
    · rw [isOtherAttribute_eq_false (Or.inl hdoc)] at h
      exact absurd h (by decide)
    · rw [isOtherAttribute_eq_false (Or.inr hmarker)] at h
      exact absurd h (by decide)
  · rintro ⟨hattribute, hdoc, hmarker⟩
    obtain ⟨href, hcalls⟩ := Bool.or_eq_false_iff.mp hmarker
    rw [isOtherAttribute, hdoc, href, hcalls]
    rcases Bool.or_eq_true_iff.mp hattribute with h | h
    · simp [h]
    · simp [h]

lemma attributeKind_ne_code : attributeKind m l ≠ .code := by
  unfold attributeKind
  split_ifs
  all_goals decide

lemma kind_eq_attributeKind (h : isAttribute l = true) : kind m l = attributeKind m l := by
  obtain ⟨hslashes, hmark, hordinary, hblank⟩ := no_comment_of_lead (lead_of_isAttribute h)
  have hdoc : isDocComment l = false := Bool.or_eq_false_iff.mpr ⟨hslashes, hmark⟩
  unfold kind attributeKind
  simp only [hblank, hdoc, hordinary, Bool.false_eq_true, if_false]
  split_ifs with hcalls href hvalue hother
  · rfl
  · rfl
  · rfl
  · rfl
  · refine absurd (isOtherAttribute_iff.mpr ⟨h, ?_, ?_⟩) hother
    · simpa using hvalue
    · simp [isMarker, href, hcalls]

end Line

/-! ### Kinds by classes -/

/-- The kind of a line of the class. -/
def LineClass.kind (m : Markers) (l : Line) : LineClass → LineKind
  | blank => .blank
  | docComment => .docComment
  | ordinaryComment => .ordinaryComment
  | outerAttribute => Line.attributeKind m l
  | innerAttribute => Line.attributeKind m l

lemma LineClass.kind_ne_code {m : Markers} {l : Line} (c : LineClass) : c.kind m l ≠ .code := by
  cases c with
  | blank => exact nofun
  | docComment => exact nofun
  | ordinaryComment => exact nofun
  | outerAttribute => exact Line.attributeKind_ne_code
  | innerAttribute => exact Line.attributeKind_ne_code

namespace Line

variable {m : Markers} {l k : Line}

lemma kind_eq_of_has {c : LineClass} (h : c.has l = true) : kind m l = c.kind m l := by
  cases c with
  | blank => exact if_pos h
  | docComment =>
    have hdoc : isDocComment l = true := h
    have hblank : Text.isBlank l = false := LineClass.has_eq_false (d := .blank) h (by decide)
    simp [kind, LineClass.kind, hblank, hdoc]
  | ordinaryComment =>
    have hordinary : isOrdinaryComment l = true := h
    have hblank : Text.isBlank l = false := LineClass.has_eq_false (d := .blank) h (by decide)
    have hdoc : isDocComment l = false := LineClass.has_eq_false (d := .docComment) h (by decide)
    simp [kind, LineClass.kind, hblank, hdoc, hordinary]
  | outerAttribute => exact kind_eq_attributeKind (Bool.or_eq_true_iff.mpr (Or.inl h))
  | innerAttribute => exact kind_eq_attributeKind (Bool.or_eq_true_iff.mpr (Or.inr h))

lemma kind_eq_docComment_iff : kind m l = .docComment ↔ isDocComment l = true := by
  constructor
  · intro h
    unfold kind at h
    split_ifs at h with hblank hdoc
    exact hdoc
  · intro h
    exact kind_eq_of_has (c := .docComment) h

lemma kind_eq_ordinaryComment_iff : kind m l = .ordinaryComment ↔ isOrdinaryComment l = true := by
  constructor
  · intro h
    unfold kind at h
    split_ifs at h with hblank hdoc hordinary
    exact hordinary
  · intro h
    exact kind_eq_of_has (c := .ordinaryComment) h

lemma kind_eq_otherAttribute_iff : kind m l = .otherAttribute ↔ isOtherAttribute m l = true := by
  constructor
  · intro h
    unfold kind at h
    split_ifs at h with hblank hdoc hordinary hcalls href hvalue hother
    exact hother
  · intro h
    obtain ⟨hattribute, hdoc, hmarker⟩ := isOtherAttribute_iff.mp h
    obtain ⟨href, hcalls⟩ := Bool.or_eq_false_iff.mp hmarker
    rw [kind_eq_attributeKind hattribute]
    simp [attributeKind, hcalls, href, hdoc]

/-- A line is code exactly if it is of no class. -/
lemma kind_eq_code_iff : kind m l = .code ↔ ∀ c : LineClass, c.has l = false := by
  constructor
  · intro h c
    apply Bool.eq_false_iff.mpr
    intro hc
    rw [kind_eq_of_has hc] at h
    exact c.kind_ne_code h
  · intro h
    have hattribute : ¬isAttribute l = true := by
      apply Bool.eq_false_iff.mp
      exact Bool.or_eq_false_iff.mpr ⟨h .outerAttribute, h .innerAttribute⟩
    unfold kind
    split_ifs with hblank hdoc hordinary hcalls href hvalue hother
    · exact absurd hblank (Bool.eq_false_iff.mp (h .blank))
    · exact absurd hdoc (Bool.eq_false_iff.mp (h .docComment))
    · exact absurd hordinary (Bool.eq_false_iff.mp (h .ordinaryComment))
    · exact absurd (isAttribute_of_isMarker (Bool.or_eq_true_iff.mpr (Or.inr hcalls))) hattribute
    · exact absurd (isAttribute_of_isMarker (Bool.or_eq_true_iff.mpr (Or.inl href))) hattribute
    · exact absurd (isAttribute_of_isDocAttribute hvalue) hattribute
    · exact absurd (isAttribute_of_isOtherAttribute hother) hattribute
    · rfl

lemma isKeptAside_iff_kind : isKeptAside m l = true ↔
    kind m l = .otherAttribute ∨ kind m l = .ordinaryComment := by
  rw [isKeptAside, Bool.or_eq_true_iff, kind_eq_otherAttribute_iff, kind_eq_ordinaryComment_iff]

lemma isKeptAside_eq_of_kind_eq (h : kind m k = kind m l) :
    isKeptAside m k = isKeptAside m l := by
  apply Bool.eq_iff_iff.mpr
  rw [isKeptAside_iff_kind, isKeptAside_iff_kind, h]

lemma sameClasses_of_isAttribute (h : Text.squash k = Text.squash l)
    (hattribute : isAttribute l = true ∨ isAttribute k = true) : SameClasses m l k := by
  have hlead : lead k = lead l := congrArg List.head? h
  rcases hattribute with hl | hk
  · exact sameClasses_of_squash_eq h (lead_of_isAttribute hl)
  · exact sameClasses_of_squash_eq h (hlead.symm.trans (lead_of_isAttribute hk))

/-- A line is of one class at most. It is a doc comment or code by its kind exactly if it is so by
its class, and its kind tells whether it is kept aside, which documentation and its markers never
are. Of attributes, no class, no kind and no choice of a merge sees the blanks. -/
theorem classes_and_kinds_agree (m : Markers) (l : Line) :
    (∀ c d : LineClass, c.has l = true → d.has l = true → c = d) ∧
    (isKeptAside m l = true ↔ kind m l = .otherAttribute ∨ kind m l = .ordinaryComment) ∧
    (isInlineDoc l = true ∨ isMarker m l = true → isKeptAside m l = false) ∧
    (kind m l = .docComment ↔ isDocComment l = true) ∧
    (kind m l = .code ↔ ∀ c : LineClass, c.has l = false) ∧
    ∀ k : Line, Text.squash k = Text.squash l → isAttribute l = true ∨ isAttribute k = true →
      SameClasses m l k ∧ isKeptAside m k = isKeptAside m l := by
  refine ⟨fun c d => LineClass.eq_of_has, isKeptAside_iff_kind, fun h => ?_,
    kind_eq_docComment_iff, kind_eq_code_iff, fun k hsquash hattribute => ?_⟩
  · rcases h with hdoc | hmarker
    · exact isKeptAside_eq_false_of_isInlineDoc hdoc
    · exact isKeptAside_eq_false_of_isMarker hmarker
  · have hsame := sameClasses_of_isAttribute (m := m) hsquash hattribute
    exact ⟨hsame, isKeptAside_eq_of_kind_eq hsame.kind⟩

/-- An attribute with gaps that is documentation and, where the reference marker is called like it,
a marker too. -/
theorem classes_and_kinds_agree_of_spaced_marker :
    let m : Markers := { reference := "doc".toList }
    let l := "\t# [doc = r#\"//! x\"# ]".toList
    let k := "#[doc=r#\"//!x\"#]".toList
    (isInlineDoc l = true ∧ isMarker m l = true ∧ isAttribute l = true ∧
      Text.squash k = Text.squash l) ∧
    (∀ c : LineClass, c.has l = true → c = .outerAttribute) ∧
    isKeptAside m l = false ∧ isKeptAside m k = false ∧
    kind m k = .referenceMarker ∧ isModuleDoc m k = true ∧ isItemDoc k = true := by
  intro m l k
  have hdoc : isInlineDoc l = true := by decide +kernel
  have hmarker : isMarker m l = true := by decide +kernel
  have hattribute : isAttribute l = true := by decide +kernel
  have hsquash : Text.squash k = Text.squash l := by decide +kernel
  have houter : LineClass.outerAttribute.has l = true := by decide +kernel
  have hkind : kind m l = .referenceMarker := by decide +kernel
  have hmodule : isModuleDoc m l = true := by decide +kernel
  have hitem : isItemDoc l = true := by decide +kernel
  obtain ⟨hunique, -, hapart, -, -, hspacing⟩ := classes_and_kinds_agree m l
  have hkept := hapart (Or.inl hdoc)
  obtain ⟨hsame, haside⟩ := hspacing k hsquash (Or.inl hattribute)
  exact ⟨⟨hdoc, hmarker, hattribute, hsquash⟩, fun c hc => hunique c .outerAttribute hc houter,
    hkept, haside.trans hkept, hsame.kind.trans hkind, hsame.isModuleDoc.trans hmodule,
    hsame.isItemDoc.trans hitem⟩

end Line

end DocGraft
