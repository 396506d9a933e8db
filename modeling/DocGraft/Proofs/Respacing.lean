import DocGraft.Proofs.EchoFormatter
import DocGraft.Proofs.MacroSpelling

/-!
# Formatters that move blanks only

Cutting a text at line boundaries, trimming its lines, dropping the blank ones and joining the rest
by blanks moves nothing but blanks. So a formatter that moves blanks only does no more to a macro
line, bookends or not, and the line stays in all of its classes, which do not see blanks. If the
formatter changes nothing at all, a text that was reformatted once stays as it is.
-/

namespace DocGraft

namespace Text

lemma squash_cons (c : Char) (t : Text) : squash (c :: t) = squash [c] ++ squash t :=
  squash_append [c] t

lemma isBlankChar_of_isLineBreak {c : Char} (h : isLineBreak c = true) : isBlankChar c = true := by
  simp only [isLineBreak, lineBreaks, Ranges.has, List.any_cons, List.any_nil, Bool.or_eq_true,
    Bool.and_eq_true, decide_eq_true_eq, Bool.or_false] at h
  simp only [isBlankChar, blanks, Ranges.has, List.any_cons, List.any_nil, Bool.or_eq_true,
    Bool.and_eq_true, decide_eq_true_eq, Bool.or_false]
  omega

lemma flatMap_squash_consHead (c : Char) (ps : List Text) :
    (consHead c ps).flatMap squash = squash [c] ++ ps.flatMap squash := by
  cases ps with
  | nil => simp [consHead]
  | cons p ps =>
    rw [consHead, List.flatMap_cons, squash_cons, List.flatMap_cons, List.append_assoc]

/-- All that cutting a text at its line boundaries takes out are blanks. -/
lemma flatMap_squash_bareLines (t : Text) : (bareLines t).flatMap squash = squash t := by
  fun_induction bareLines t with
  | case1 => rfl
  | case2 rest ih =>
    rw [List.flatMap_cons, ih]
    rfl
  | case3 c rest _ hbreak ih =>
    have hc : Blank [c] := List.forall_mem_singleton.mpr (isBlankChar_of_isLineBreak hbreak)
    rw [List.flatMap_cons, ih, squash_cons c rest, hc.squash_eq]
    rfl
  | case4 c rest _ _ ih => rw [flatMap_squash_consHead, ih, ← squash_cons]

lemma squash_intercalate {sep : Text} (hsep : Blank sep) (ps : List Text) :
    squash (sep.intercalate ps) = ps.flatMap squash := by
  induction ps with
  | nil => rfl
  | cons p ps ih =>
    cases ps with
    | nil => simp
    | cons q ps =>
      rw [List.intercalate_cons_cons, squash_append, squash_append, hsep.squash_eq, ih,
        List.append_nil]
      rfl

end Text

/-! ### Macro lines -/

namespace Bookend

open Text (Blank indent squash)

variable {m : Markers} {format : Text → Except Formatter.Failure Text}

lemma InnerSpacing.squash_write (s : InnerSpacing) (c : Text) :
    squash (s.write c) = ['#', '!', '['] ++ squash c ++ [']'] := by
  have hblank : ∀ pad ∈ [s.indent, s.beforeMark, s.beforeBracket, s.beforeContent, s.afterContent,
      s.behind], squash pad = [] := fun pad hpad => (s.blank pad hpad).squash_eq
  simp only [List.forall_mem_cons] at hblank
  obtain ⟨h1, h2, h3, h4, h5, h6, -⟩ := hblank
  simp only [InnerSpacing.write, Text.squash_append, h1, h2, h3, h4, h5, h6, List.append_nil]
  rfl

lemma flatMap_squash_parts (t : Text) : (parts t).flatMap squash = squash t := by
  have hdrop : ∀ ps : List Text, (ps.filter (!·.isEmpty)).flatMap squash = ps.flatMap squash := by
    intro ps
    induction ps with
    | nil => rfl
    | cons p ps ih => cases p <;> simp [ih, squash]
  rw [parts, hdrop, List.flatMap_map, ← Text.flatMap_squash_bareLines t]
  exact List.flatMap_congr fun p _ => Text.squash_trim p

/-- A formatter that moves blanks only moves no more than that in a line. -/
lemma squash_of_reformatLine (hsquash : ∀ t formatted, format t = .ok formatted →
    squash formatted = squash t) {l k : Line} (h : reformatLine m format l = .ok k) :
    squash k = squash l := by
  rcases reformatLine_cases h with rfl | ⟨-, content, formatted, inner, hc, hf, hu, rfl⟩
  · rfl
  · obtain ⟨⟨s, rfl⟩, -⟩ := content?_eq_some_iff.mp hc
    obtain ⟨body, hwrapped, -, rfl⟩ := unwrap?_eq_some_iff.mp hu
    have hblank : Blank [' '] := by decide
    -- The bookends of what is sent and of what comes back are the same, so they cancel.
    have hboth : squash opening ++ squash content ++ squash closing =
        squash opening ++ squash body ++ squash closing := by
      have htrim := congrArg squash hwrapped
      rw [Text.squash_trim, hsquash _ _ hf, wrap] at htrim
      simpa only [Text.squash_append, hblank.squash_eq, List.append_nil] using htrim
    have hbody : squash content = squash body :=
      List.append_cancel_left (List.append_cancel_right hboth)
    rw [squash_innerAttribute, s.squash_write, Text.squash_intercalate hblank,
      flatMap_squash_parts, hbody]

lemma sameClasses_of_reformatLine {l k : Line} (h : reformatLine m format l = .ok k)
    (hsquash : squash k = squash l) : Line.SameClasses m l k := by
  rcases reworked_of_reformatLine h with rfl | ⟨hcalls, -⟩
  · exact Line.SameClasses.refl m k
  · have hinner := Line.isInnerAttribute_of_isModuleDocMacro hcalls
    exact Line.sameClasses_of_squash_eq hsquash (Line.lead_of_isInnerAttribute hinner)

lemma reformatText_of_reworked (h : ∀ t, format t = .ok t) {t s : Text}
    (hlength : (Text.pieces s).length = (Text.pieces t).length)
    (hlines : ∀ (i : Nat) l k, (Text.pieces t)[i]? = some l → (Text.pieces s)[i]? = some k →
      reformatLine m format l = .ok k) : reformatText m format s = .ok s := by
  apply reformatText_eq_ok
  intro k hk
  obtain ⟨i, hi, hik⟩ := List.getElem_of_mem hk
  have hl := List.getElem?_eq_getElem (hlength ▸ hi)
  exact reformatLine_of_reworked h (hlines i _ k hl (List.getElem?_eq_some_iff.mpr ⟨hi, hik⟩))

/-- With a formatter that moves blanks only, reformatting a text moves blanks only, and every line
stays in its classes. One that changes nothing closes the gaps of every inner attribute whose content
is on one line, and does nothing to a text that it was used on before. -/
theorem respacing_formatter_moves_blanks_only (m : Markers)
    (format : Text → Except Formatter.Failure Text)
    (hexpected : ∀ content failure, format (wrap content) = .error failure →
      failure.isExpected = true)
    (hsquash : ∀ t formatted, format t = .ok formatted → squash formatted = squash t) :
    (∀ t, ∃ s, reformatText m format t = .ok s ∧
      (Text.pieces s).length = (Text.pieces t).length ∧
      ∀ (i : Nat) l k, (Text.pieces t)[i]? = some l → (Text.pieces s)[i]? = some k →
        squash k = squash l ∧ Line.SameClasses m l k) ∧
    ∀ echo : Text → Except Formatter.Failure Text, (∀ t, echo t = .ok t) →
      (∀ (s : InnerSpacing) (c : Text), c ≠ [] → Text.trim c = c → Text.Unbroken c →
        reformat echo (s.write c) = .done (innerAttribute s.indent c)) ∧
      ∀ t, ∃ s, reformatText m echo t = .ok s ∧ reformatText m echo s = .ok s := by
  refine ⟨fun t => ?_, fun echo hecho => ⟨?_, fun t => ?_⟩⟩
  · obtain ⟨s, hs, hall, hlines⟩ := exists_reformatText (m := m) hexpected t
    refine ⟨s, hs, hall.length_eq.symm, fun i l k hl hk => ?_⟩
    have hline := hlines i l k hl hk
    have hkept := squash_of_reformatLine hsquash hline
    exact ⟨hkept, sameClasses_of_reformatLine hline hkept⟩
  · intro s c hne htrim hbroken
    exact reformat_write hecho s ⟨hne, Text.trim_eq_self_iff.mp htrim, hbroken⟩
  · obtain ⟨s, hs, hall, hlines⟩ := exists_reformatText (m := m) (isExpected_of_echo hecho) t
    exact ⟨s, hs, reformatText_of_reworked hecho hall.length_eq.symm hlines⟩

/-- A formatter that takes the gaps out of a call and breaks it over two lines. -/
theorem respacing_formatter_moves_blanks_only_of_broken_line :
    let content := "doc =  module_doc ! ( )".toList
    let format : Text → Except Formatter.Failure Text := fun t =>
      if t = wrap content then .ok "const _: i32 = \x7b\n  doc =\n  module_doc!()\n\x7d;\n".toList
      else .ok t
    let t := "  # ![doc =  module_doc ! ( ) ]\nfn f();\n".toList
    (∀ c failure, format (wrap c) = .error failure → failure.isExpected = true) ∧
      (∀ t formatted, format t = .ok formatted → squash formatted = squash t) ∧
      (∃ s, reformatText {} format t = .ok s ∧
        Text.pieces s = ["  #![doc = module_doc!()]".toList, "fn f();".toList, []]) ∧
      reformat (Formatter.format Formatter.echo) " #\t! [ const _: i32 = \x7b ] \x7d; ]".toList =
        .done " #![const _: i32 = \x7b ] \x7d;]".toList := by
  intro content format t
  have hexpected : ∀ c failure, format (wrap c) = .error failure → failure.isExpected = true := by
    intro c failure h
    dsimp only [format] at h
    split at h
    · exact absurd h (by simp)
    · exact absurd h (by simp)
  have hsquash : ∀ t formatted, format t = .ok formatted → squash formatted = squash t := by
    intro t formatted h
    dsimp only [format] at h
    split at h
    · next ht =>
      rw [ht, ← Except.ok.inj h]
      decide
    · rw [← Except.ok.inj h]
  obtain ⟨hlines, hecho⟩ := respacing_formatter_moves_blanks_only {} format hexpected hsquash
  obtain ⟨s, hs, -⟩ := hlines t
  let spacing : InnerSpacing :=
    ⟨" ".toList, "\t".toList, " ".toList, " ".toList, " ".toList, [], by decide, by decide⟩
  have hwrapper := (hecho _ Formatter.format_echo).1 spacing "const _: i32 = \x7b ] \x7d;".toList
    (by decide +kernel) (by decide +kernel) (by decide +kernel)
  refine ⟨hexpected, hsquash, ⟨s, hs, ?_⟩, hwrapper⟩
  have hpieces : Text.pieces t =
      ["  # ![doc =  module_doc ! ( ) ]".toList, "fn f();".toList, []] := by
    decide +kernel
  have hreworked : reformatLines {} format
      ["  # ![doc =  module_doc ! ( ) ]".toList, "fn f();".toList, []] =
        .ok ["  #![doc = module_doc!()]".toList, "fn f();".toList, []] := by
    decide +kernel
  rw [reformatText, hpieces, hreworked] at hs
  rw [← Except.ok.inj hs]
  decide +kernel

end Bookend

end DocGraft
