import DocGraft.Proofs.CarriedDocs

/-!
# Texts without blanks at their ends

Trimming a text leaves one with no blank at either end, and changes no text of this kind. Several of
them that are not empty can be joined by anything: the ends of the joined text are ends of parts.
-/

namespace DocGraft.Text

/-- There is no blank at either end. -/
def Trimmed (t : Text) : Prop :=
  (∀ c ∈ t.head?, isBlankChar c = false) ∧ ∀ c ∈ t.getLast?, isBlankChar c = false

-- The instances are named: a search may find the one that goes through all characters there are.
instance : DecidablePred Trimmed := fun t =>
  @instDecidableAnd _ _ (Option.decidableForallMem t.head?) (Option.decidableForallMem t.getLast?)

variable {t pad behind : Text}

lemma trimLeft_eq_self (h : ∀ c ∈ t.head?, isBlankChar c = false) : trimLeft t = t := by
  cases t with
  | nil => rfl
  | cons c t =>
    have hc := h c rfl
    exact List.dropWhile_cons_of_neg (by simp [hc])

lemma trimRight_eq_self (h : ∀ c ∈ t.getLast?, isBlankChar c = false) : trimRight t = t := by
  have hrev : t.reverse.dropWhile isBlankChar = t.reverse := by
    apply trimLeft_eq_self
    rwa [List.head?_reverse]
  rw [trimRight, hrev, List.reverse_reverse]

lemma Trimmed.trim_eq (h : Trimmed t) : trim t = t := by
  rw [trim, trimLeft_eq_self h.1, trimRight_eq_self h.2]

lemma trimmed_trim (t : Text) : Trimmed (trim t) := by
  constructor
  · intro c hc
    obtain ⟨pad, -, hpad⟩ := exists_trimRight_append (trimLeft t)
    obtain ⟨rest, hrest⟩ := List.head?_eq_some_iff.mp hc
    have hcons : trimLeft t = c :: (rest ++ pad) := by
      rw [hpad]
      exact congrArg (· ++ pad) hrest
    exact not_isBlankChar_of_trimLeft hcons
  · intro c hc
    rw [trim, trimRight, List.getLast?_reverse] at hc
    obtain ⟨rest, hrest⟩ := List.head?_eq_some_iff.mp hc
    exact not_isBlankChar_of_trimLeft hrest

lemma trim_eq_self_iff : trim t = t ↔ Trimmed t :=
  ⟨fun h => h ▸ trimmed_trim t, Trimmed.trim_eq⟩

lemma squash_trim (t : Text) : squash (trim t) = squash t := by
  obtain ⟨pad, hpad, ht⟩ := exists_trimRight_append (trimLeft t)
  have hsquash := congrArg squash ht
  rw [squash_trimLeft, squash_append, hpad.squash_eq, List.append_nil] at hsquash
  exact hsquash.symm

lemma Trimmed.trim_append (h : Trimmed t) (hne : t ≠ []) (hpad : Blank pad)
    (hbehind : Blank behind) : trim (pad ++ t ++ behind) = t := by
  obtain ⟨c, rest, rfl⟩ := List.exists_cons_of_ne_nil hne
  obtain ⟨front, d, hlast⟩ := (List.eq_nil_or_concat' (c :: rest)).resolve_left hne
  have hc := h.1 c rfl
  have hd := h.2 d (by rw [hlast, List.getLast?_concat]; rfl)
  have hright : trimRight (front ++ d :: behind) = front ++ [d] := trimRight_append hbehind hd
  rw [trim, List.append_assoc, List.cons_append, trimLeft_append hpad hc, ← List.cons_append,
    hlast, List.append_assoc, List.singleton_append, hright]

lemma ne_nil_of_intercalate {sep p : Text} {ps : List Text} (hp : p ∈ ps) (hne : p ≠ []) :
    sep.intercalate ps ≠ [] := by
  intro hnil
  have hsubset : p ⊆ sep.intercalate ps := subset_intercalate hp
  rw [hnil] at hsubset
  exact hne (List.subset_nil.mp hsubset)

lemma trimmed_intercalate {sep : Text} {ps : List Text} (h : ∀ p ∈ ps, p ≠ [] ∧ Trimmed p) :
    Trimmed (sep.intercalate ps) := by
  induction ps with
  | nil => exact ⟨by simp [List.intercalate], by simp [List.intercalate]⟩
  | cons p ps ih =>
    obtain ⟨hne, hp⟩ := h p List.mem_cons_self
    cases ps with
    | nil => rwa [List.intercalate_singleton]
    | cons q ps =>
      have hq : q ∈ q :: ps := List.mem_cons_self
      have hrest := ih fun r hr => h r (List.mem_cons_of_mem p hr)
      have hnerest : sep.intercalate (q :: ps) ≠ [] :=
        ne_nil_of_intercalate hq (h q (List.mem_cons_of_mem p hq)).1
      rw [List.intercalate_cons_cons, List.append_assoc]
      constructor
      · rw [List.head?_append_of_ne_nil _ hne]
        exact hp.1
      · rw [List.getLast?_append_of_ne_nil _ (List.append_ne_nil_of_right_ne_nil sep hnerest),
          List.getLast?_append_of_ne_nil _ hnerest]
        exact hrest.2

end DocGraft.Text
