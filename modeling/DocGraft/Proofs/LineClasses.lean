import DocGraft.Hunk.Relevance
import Mathlib.Data.List.Basic
import Mathlib.Tactic.Common

/-!
# Classes of lines

The first character of a line that is no blank separates the classes: it is a slash in a comment and
a number sign in an attribute, and a blank line has none. Inside the attributes, those that are kept
aside by a merge are apart from documentation and from its markers. Of an attribute, no class sees
the blanks.
-/

namespace DocGraft

namespace Text

lemma after?_eq_some_iff {lead t rest : Text} : after? lead t = some rest ↔ t = lead ++ rest := by
  fun_induction after? lead t with
  | case1 t => simp [eq_comm]
  | case2 c lead => simp
  | case3 lead d t ih => simp [ih]
  | case4 c lead d t h => simp [Ne.symm h]

lemma squash_trimLeft (t : Text) : squash (trimLeft t) = squash t := by
  induction t with
  | nil => rfl
  | cons c t ih =>
    by_cases hc : isBlankChar c = true
    · have hs : squash (c :: t) = squash t := by simp [squash, hc]
      rw [hs, ← ih, trimLeft, List.dropWhile_cons_of_pos hc]
      rfl
    · rw [trimLeft, List.dropWhile_cons_of_neg hc]

lemma not_isBlankChar_of_trimLeft {l t : Text} {c : Char} (h : trimLeft l = c :: t) :
    isBlankChar c = false := by
  have hd := List.head?_dropWhile_not isBlankChar l
  rw [show l.dropWhile isBlankChar = c :: t from h] at hd
  simpa using hd

lemma squash_of_trimLeft {l t : Text} {c : Char} (h : trimLeft l = c :: t) :
    squash l = c :: squash t := by
  rw [← squash_trimLeft, h]
  simp [squash, not_isBlankChar_of_trimLeft h]

lemma squash_eq_nil_of_isBlank {l : Text} (h : isBlank l = true) : squash l = [] := by
  simpa [squash, isBlank] using h

end Text

namespace Line

open Text (squash trimLeft)

/-- The first character of a line that is no blank. -/
def lead (l : Line) : Option Char := (squash l).head?

lemma lead_of_trimLeft {l t : Text} {c : Char} (h : trimLeft l = c :: t) : lead l = some c := by
  rw [lead, Text.squash_of_trimLeft h, List.head?_cons]

lemma lead_of_isBlank {l : Line} (h : Text.isBlank l = true) : lead l = none := by
  rw [lead, Text.squash_eq_nil_of_isBlank h, List.head?_nil]

lemma isBlank_of_lead_eq_none {l : Line} (h : lead l = none) : Text.isBlank l = true := by
  simpa [lead, Text.squash, Text.isBlank] using h

/-! ### Comments -/

lemma lead_of_isPrefixOf_trimLeft {c : Char} {more : Text} {l : Line}
    (h : (c :: more).isPrefixOf (trimLeft l) = true) : lead l = some c := by
  obtain ⟨rest, hrest⟩ := List.isPrefixOf_iff_prefix.mp h
  exact lead_of_trimLeft hrest.symm

lemma lead_of_isDocComment {l : Line} (h : isDocComment l = true) : lead l = some '/' := by
  rcases Bool.or_eq_true_iff.mp h with h | h
  · exact lead_of_isPrefixOf_trimLeft (Bool.and_eq_true_iff.mp h).1
  · exact lead_of_isPrefixOf_trimLeft h

lemma lead_of_isOrdinaryComment {l : Line} (h : isOrdinaryComment l = true) :
    lead l = some '/' := lead_of_isPrefixOf_trimLeft (Bool.and_eq_true_iff.mp h).1

/-! ### Attributes -/

lemma lead_of_isPrefixOf_squash {c : Char} {more : Text} {l : Line}
    (h : (c :: more).isPrefixOf (squash l) = true) : lead l = some c := by
  obtain ⟨rest, hrest⟩ := List.isPrefixOf_iff_prefix.mp h
  rw [lead, ← hrest, List.cons_append, List.head?_cons]

lemma lead_of_isOuterAttribute {l : Line} (h : isOuterAttribute l = true) :
    lead l = some '#' := lead_of_isPrefixOf_squash h

lemma lead_of_isInnerAttribute {l : Line} (h : isInnerAttribute l = true) :
    lead l = some '#' := lead_of_isPrefixOf_squash h

lemma isInnerAttribute_of_isOuterAttribute {l : Line} (h : isOuterAttribute l = true) :
    isInnerAttribute l = false := by
  obtain ⟨rest, hrest⟩ := List.isPrefixOf_iff_prefix.mp h
  simp [isInnerAttribute, ← hrest, List.isPrefixOf]

lemma lead_of_isDocAttribute {l : Line} (h : isDocAttribute l = true) : lead l = some '#' := by
  rcases Bool.or_eq_true_iff.mp h with h | h
  · exact lead_of_isPrefixOf_squash h
  · exact lead_of_isPrefixOf_squash h

lemma isDocAttribute_of_isDocLiteral {l : Line} (h : isDocLiteral l = true) :
    isDocAttribute l = true := by
  obtain ⟨content, hcontent⟩ := Option.isSome_iff_exists.mp h
  obtain ⟨value, hvalue, -⟩ := Option.bind_eq_some_iff.mp hcontent
  apply Bool.or_eq_true_iff.mpr
  rcases Option.or_eq_some_iff.mp hvalue with hv | ⟨-, hv⟩
  · exact Or.inl (List.isPrefixOf_iff_prefix.mpr ⟨value, (Text.after?_eq_some_iff.mp hv).symm⟩)
  · exact Or.inr (List.isPrefixOf_iff_prefix.mpr ⟨value, (Text.after?_eq_some_iff.mp hv).symm⟩)

lemma isOuterAttribute_of_isReferenceMarker {m : Markers} {l : Line}
    (h : isReferenceMarker m l = true) : isOuterAttribute l = true := by
  unfold isReferenceMarker at h
  split at h
  · next body hbody =>
    exact List.isPrefixOf_iff_prefix.mpr ⟨body, (Text.after?_eq_some_iff.mp hbody).symm⟩
  · simp at h

lemma isInnerAttribute_of_isModuleDocMacro {m : Markers} {l : Line}
    (h : isModuleDocMacro m l = true) : isInnerAttribute l = true := (Bool.and_eq_true_iff.mp h).1

lemma lead_of_isMarker {m : Markers} {l : Line} (h : isMarker m l = true) : lead l = some '#' := by
  rcases Bool.or_eq_true_iff.mp h with h | h
  · exact lead_of_isOuterAttribute (isOuterAttribute_of_isReferenceMarker h)
  · exact lead_of_isInnerAttribute (isInnerAttribute_of_isModuleDocMacro h)

lemma lead_of_isOtherAttribute {m : Markers} {l : Line} (h : isOtherAttribute m l = true) :
    lead l = some '#' := by
  unfold isOtherAttribute at h
  split at h
  · simp at h
  · split at h
    · next ho => exact lead_of_isOuterAttribute ho
    · exact lead_of_isInnerAttribute (Bool.and_eq_true_iff.mp h).1

/-! ### Disjointness -/

lemma isOtherAttribute_eq_false {m : Markers} {l : Line}
    (h : isDocAttribute l = true ∨ isMarker m l = true) : isOtherAttribute m l = false := by
  unfold isOtherAttribute
  split
  · rfl
  · next hd =>
    rcases Bool.or_eq_true_iff.mp (h.resolve_left hd) with hr | hm
    · rw [if_pos (isOuterAttribute_of_isReferenceMarker hr), hr]
      rfl
    · have hi := isInnerAttribute_of_isModuleDocMacro hm
      have ho : ¬isOuterAttribute l = true := fun ho => by
        simp [isInnerAttribute_of_isOuterAttribute ho] at hi
      rw [if_neg ho, hm]
      simp

lemma isOrdinaryComment_eq_false_of_lead {l : Line} (h : lead l ≠ some '/') :
    isOrdinaryComment l = false :=
  Bool.eq_false_iff.mpr fun hc => h (lead_of_isOrdinaryComment hc)

lemma isMarker_eq_false_of_isDocComment {m : Markers} {l : Line} (h : isDocComment l = true) :
    isMarker m l = false := by
  apply Bool.eq_false_iff.mpr
  intro hm
  have hlead := lead_of_isMarker hm
  rw [lead_of_isDocComment h] at hlead
  exact absurd hlead (by decide)

lemma isKeptAside_eq_false_of_isMarker {m : Markers} {l : Line} (h : isMarker m l = true) :
    isKeptAside m l = false := by
  have ho := isOtherAttribute_eq_false (Or.inr h)
  have hc : isOrdinaryComment l = false :=
    isOrdinaryComment_eq_false_of_lead (by rw [lead_of_isMarker h]; decide)
  rw [isKeptAside, ho, hc]
  rfl

lemma isKeptAside_eq_false_of_isInlineDoc {m : Markers} {l : Line} (h : isInlineDoc l = true) :
    isKeptAside m l = false := by
  rcases Bool.or_eq_true_iff.mp h with hd | hd
  · have ho : isOtherAttribute m l = false := by
      apply Bool.eq_false_iff.mpr
      intro ho
      have hl := lead_of_isOtherAttribute ho
      rw [lead_of_isDocComment hd] at hl
      exact absurd hl (by decide)
    rw [isKeptAside, ho, isOrdinaryComment, hd]
    simp
  · have ha := isDocAttribute_of_isDocLiteral hd
    have ho : isOtherAttribute m l = false := isOtherAttribute_eq_false (Or.inl ha)
    have hc : isOrdinaryComment l = false :=
      isOrdinaryComment_eq_false_of_lead (by rw [lead_of_isDocAttribute ha]; decide)
    rw [isKeptAside, ho, hc]
    rfl

lemma lead_ne_none_of_isInlineDoc {l : Line} (h : isInlineDoc l = true) : lead l ≠ none := by
  rcases Bool.or_eq_true_iff.mp h with hd | hd
  · rw [lead_of_isDocComment hd]
    exact Option.some_ne_none _
  · rw [lead_of_isDocAttribute (isDocAttribute_of_isDocLiteral hd)]
    exact Option.some_ne_none _

lemma lead_ne_none_of_isKeptAside {m : Markers} {l : Line} (h : isKeptAside m l = true) :
    lead l ≠ none := by
  rcases Bool.or_eq_true_iff.mp h with ho | hc
  · rw [lead_of_isOtherAttribute ho]
    exact Option.some_ne_none _
  · rw [lead_of_isOrdinaryComment hc]
    exact Option.some_ne_none _

lemma eq_false_of_isBlank {p : Line → Bool} (hp : ∀ l, p l = true → lead l ≠ none) {l : Line}
    (h : Text.isBlank l = true) : p l = false :=
  Bool.eq_false_iff.mpr fun hl => hp l hl (lead_of_isBlank h)

/-! ### Spacing -/

/-- Two lines are of the same classes. -/
structure SameClasses (m : Markers) (l k : Line) : Prop where
  kind : kind m k = kind m l
  isOuterAttribute : isOuterAttribute k = isOuterAttribute l
  isInnerAttribute : isInnerAttribute k = isInnerAttribute l
  isDocAttribute : isDocAttribute k = isDocAttribute l
  isDocLiteral : isDocLiteral k = isDocLiteral l
  isReferenceMarker : isReferenceMarker m k = isReferenceMarker m l
  isModuleDocMacro : isModuleDocMacro m k = isModuleDocMacro m l
  isOtherAttribute : isOtherAttribute m k = isOtherAttribute m l
  isModuleDoc : isModuleDoc m k = isModuleDoc m l
  isItemDoc : isItemDoc k = isItemDoc l

lemma SameClasses.refl (m : Markers) (l : Line) : SameClasses m l l :=
  ⟨rfl, rfl, rfl, rfl, rfl, rfl, rfl, rfl, rfl, rfl⟩

lemma no_comment_of_lead {l : Line} (h : lead l = some '#') :
    isOuterDocComment l = false ∧ isInnerDocComment l = false ∧ isOrdinaryComment l = false ∧
      Text.isBlank l = false := by
  have hdoc : isDocComment l = false := Bool.eq_false_iff.mpr fun hd => by
    rw [lead_of_isDocComment hd] at h
    exact absurd h (by decide)
  have hblank : Text.isBlank l = false := Bool.eq_false_iff.mpr fun hb => by
    rw [lead_of_isBlank hb] at h
    exact absurd h (by decide)
  obtain ⟨houter, hinner⟩ := Bool.or_eq_false_iff.mp hdoc
  exact ⟨houter, hinner, isOrdinaryComment_eq_false_of_lead (by rw [h]; decide), hblank⟩

/-- The classes of an attribute do not see blanks. -/
lemma sameClasses_of_squash_eq {m : Markers} {l k : Line} (h : squash k = squash l)
    (hl : lead l = some '#') : SameClasses m l k := by
  have hk : lead k = some '#' := by rw [lead, h, ← lead, hl]
  obtain ⟨hlo, hli, hlc, hlb⟩ := no_comment_of_lead hl
  obtain ⟨hko, hki, hkc, hkb⟩ := no_comment_of_lead hk
  have houter : isOuterAttribute k = isOuterAttribute l := by
    rw [isOuterAttribute, h, ← isOuterAttribute]
  have hinner : isInnerAttribute k = isInnerAttribute l := by
    rw [isInnerAttribute, h, ← isInnerAttribute]
  have hdoc : isDocAttribute k = isDocAttribute l := by rw [isDocAttribute, h, ← isDocAttribute]
  have hliteral : isDocLiteral k = isDocLiteral l := by rw [isDocLiteral, h, ← isDocLiteral]
  have href : isReferenceMarker m k = isReferenceMarker m l := by
    rw [isReferenceMarker, h, ← isReferenceMarker]
  have hcalls : isModuleDocMacro m k = isModuleDocMacro m l := by
    rw [isModuleDocMacro, h, hinner, ← isModuleDocMacro]
  have hother : isOtherAttribute m k = isOtherAttribute m l := by
    rw [isOtherAttribute, hdoc, houter, href, hinner, hcalls, ← isOtherAttribute]
  refine ⟨?_, houter, hinner, hdoc, hliteral, href, hcalls, hother, ?_, ?_⟩
  · simp only [kind, isDocComment, hlo, hli, hlc, hlb, hko, hki, hkc, hkb, hdoc, href, hcalls,
      hother]
  · have hcarried : isCarriedInnerDoc k = isCarriedInnerDoc l := by
      rw [isCarriedInnerDoc, h, ← isCarriedInnerDoc]
    simp only [isModuleDoc, hli, hki, hinner, hdoc, hcalls, hcarried]
  · rw [isItemDoc, isItemDoc, houter, hlo, hko]

end Line

end DocGraft
