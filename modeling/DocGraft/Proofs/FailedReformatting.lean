import DocGraft.Proofs.ReformattedTexts

/-!
# Reformatting with a formatter that fails

Each macro line is a run of its own of the formatter process, and every run may end in another way. A
line stays if its run ends without a text. The one ending that no merge expects, a program that may not
be run, stops the whole of it: the text is lost, and so is a merge that was finished but for its macro
lines.
-/

namespace DocGraft

namespace Formatter

/-- A reply without a text is a failure that a merge expects, unless the program may not be run. -/
lemma read_error_cases {r : Reply} {failure : Failure} (h : read r = .error failure) :
    failure.isExpected = true ∧ r ≠ .denied ∨ r = .denied ∧ failure = .denied := by
  cases r with
  | denied => exact .inr ⟨rfl, (Except.error.inj h).symm⟩
  | missing | timedOut =>
    obtain rfl := Except.error.inj h
    exact .inl ⟨rfl, by simp⟩
  | finished status output errors =>
    refine .inl ⟨?_, by simp⟩
    rw [read] at h
    split at h
    · obtain rfl := Except.error.inj h
      rfl
    · split at h
      · exact absurd h (by simp)
      · obtain rfl := Except.error.inj h
        rfl

end Formatter

namespace Bookend

open Formatter (Failure)

variable {m : Markers}

/-- The formatter is run for the line, and this content is what it is given between bookends. -/
structure Asks (m : Markers) (l : Line) (content : Text) : Prop where
  calls : Line.isModuleDocMacro m l = true
  content_eq : content? l = some content

/-- The program may not be run when it is the turn of one of the lines. -/
def IsDenied (m : Markers) (process : Nat → Runner) (ls : List Line) : Prop :=
  ∃ i l content, ls[i]? = some l ∧ Asks m l content ∧ process i (wrap content) = .denied

/-! ### One line -/

lemma proceeds_of_not_denied {runner : Runner} {l : Line}
    (h : ∀ content, Asks m l content → runner (wrap content) ≠ .denied) :
    Proceeds m (Formatter.format runner) l := by
  intro content failure hcalls hcontent hformat
  rcases Formatter.read_error_cases hformat with ⟨hexpected, -⟩ | ⟨hdenied, -⟩
  · exact hexpected
  · exact absurd hdenied (h content ⟨hcalls, hcontent⟩)

lemma reformatLine_of_denied {runner : Runner} {l : Line} {content : Text} (h : Asks m l content)
    (hdenied : runner (wrap content) = .denied) :
    reformatLine m (Formatter.format runner) l = .error .denied := by
  have hformat : Formatter.format runner (wrap content) = .error .denied := by
    rw [Formatter.format, hdenied, Formatter.read]
  rw [reformatLine, if_pos h.calls, reformat, h.content_eq]
  simp only [hformat]
  rfl

/-- A line stays if its run ends without a text. -/
lemma eq_of_no_text {format : Text → Except Failure Text} {l k : Line} {content : Text}
    {failure : Failure} (h : reformatLine m format l = .ok k) (hcontent : content? l = some content)
    (hfailure : format (wrap content) = .error failure) : k = l := by
  rcases reformatLine_cases h with rfl | ⟨-, c, formatted, inner, hc, hf, -, -⟩
  · rfl
  · obtain rfl := Option.some.inj (hcontent.symm.trans hc)
    exact absurd (hfailure.symm.trans hf) (by simp)

/-! ### Whole texts -/

lemma isDenied_cons {process : Nat → Runner} {l : Line} {ls : List Line} :
    IsDenied m process (l :: ls) ↔
      (∃ content, Asks m l content ∧ process 0 (wrap content) = .denied) ∨
        IsDenied m (fun i => process (i + 1)) ls := by
  constructor
  · rintro ⟨i, k, content, hk, hasks, hdenied⟩
    cases i with
    | zero =>
      obtain rfl := Option.some.inj hk
      exact .inl ⟨content, hasks, hdenied⟩
    | succ i => exact .inr ⟨i, k, content, hk, hasks, hdenied⟩
  · rintro (⟨content, hasks, hdenied⟩ | ⟨i, k, content, hk, hasks, hdenied⟩)
    · exact ⟨0, l, content, rfl, hasks, hdenied⟩
    · exact ⟨i + 1, k, content, hk, hasks, hdenied⟩

/-- No line behind the one that is denied has its turn, and none before it stops the way. -/
lemma reformatInTurn_of_denied {process : Nat → Runner} {ls : List Line}
    (h : IsDenied m process ls) :
    reformatInTurn m (fun i => Formatter.format (process i)) ls = .error .denied := by
  induction ls generalizing process with
  | nil =>
    obtain ⟨i, l, content, hl, -⟩ := h
    exact absurd hl (by simp)
  | cons l ls ih =>
    rw [reformatInTurn]
    by_cases hfirst : ∃ content, Asks m l content ∧ process 0 (wrap content) = .denied
    · obtain ⟨content, hasks, hdenied⟩ := hfirst
      rw [reformatLine_of_denied hasks hdenied]
      rfl
    · have hproceeds : Proceeds m (Formatter.format (process 0)) l :=
        proceeds_of_not_denied fun content hasks hdenied => hfirst ⟨content, hasks, hdenied⟩
      obtain ⟨k, hk⟩ := exists_reformatLine hproceeds
      rw [hk, ih ((isDenied_cons.mp h).resolve_left hfirst)]
      rfl

lemma reformatTextInTurn_of_denied {process : Nat → Runner} {t : Text}
    (h : IsDenied m process (Text.pieces t)) :
    reformatTextInTurn m (fun i => Formatter.format (process i)) t = .error .denied := by
  rw [reformatTextInTurn, reformatInTurn_of_denied h]
  rfl

lemma exists_reformatTextInTurn_of_not_denied {process : Nat → Runner} {t : Text}
    (h : ¬IsDenied m process (Text.pieces t)) :
    ∃ s, reformatTextInTurn m (fun i => Formatter.format (process i)) t = .ok s ∧
      List.Forall₂ (Reworked m) (Text.pieces t) (Text.pieces s) ∧
      ∀ (i : Nat) l k, (Text.pieces t)[i]? = some l → (Text.pieces s)[i]? = some k →
        reformatLine m (Formatter.format (process i)) l = .ok k :=
  exists_reformatTextInTurn_of_proceeds fun i l hl =>
    proceeds_of_not_denied fun content hasks hdenied => h ⟨i, l, content, hl, hasks, hdenied⟩

end Bookend

namespace Merger

open Bookend (Asks IsDenied ReworkedBy content? reformatText reformatTextInTurn wrap)

/-- Reformatting gives a text, whatever the process writes and however its runs end, unless the program
may not be run for one of the macro lines: then there is no text at all. A line whose run ends without a
text is left as it is. A merge whose two texts could be formatted is lost in that one case too. -/
theorem reformatting_stops_only_if_denied (m : Markers) (process : Nat → Runner) (t : Text) :
    let answer := fun i => Formatter.format (process i)
    (¬IsDenied m process (Text.pieces t) →
      ∃ s, reformatTextInTurn m answer t = .ok s ∧
        (Text.pieces s).length = (Text.pieces t).length ∧
        ∀ i l k, (Text.pieces t)[i]? = some l → (Text.pieces s)[i]? = some k →
          ReworkedBy m (answer i) l k ∧
          ∀ content failure, content? l = some content →
            answer i (wrap content) = .error failure → k = l) ∧
    (IsDenied m process (Text.pieces t) → reformatTextInTurn m answer t = .error .denied) ∧
    (∀ runner, reformatTextInTurn m (fun _ => Formatter.format runner) t =
      reformatText m (Formatter.format runner) t) ∧
    ∀ (formatter : Formatter) (splitMixed : Bool) (runner : Runner)
      (original transformed fo ft : Text), Formatter.format runner original = .ok fo →
      Formatter.format runner transformed = .ok ft →
      let g : Merger := ⟨formatter, m, splitMixed, true, true⟩
      let denied := IsDenied m (fun _ => runner)
        (Text.pieces (g.planFormatted .migrate fo ft).application.text)
      (denied → g.merge runner .migrate original transformed = .error .denied) ∧
        (¬denied → ∃ merged, g.merge runner .migrate original transformed = .ok merged) := by
  intro answer
  refine ⟨fun hdenied => ?_, Bookend.reformatTextInTurn_of_denied,
    fun runner => Bookend.reformatTextInTurn_const m _ t, ?_⟩
  · obtain ⟨s, hs, hall, hturn⟩ := Bookend.exists_reformatTextInTurn_of_not_denied hdenied
    refine ⟨s, hs, hall.length_eq.symm, fun i l k hl hk => ?_⟩
    have hline := hturn i l k hl hk
    exact ⟨Bookend.reworkedBy_of_reformatLine hline,
      fun content failure => Bookend.eq_of_no_text hline⟩
  · intro formatter splitMixed runner original transformed fo ft ho ht g denied
    have hmerge : g.merge runner .migrate original transformed =
        reformatTextInTurn m (fun _ => Formatter.format runner)
          (g.planFormatted .migrate fo ft).application.text := by
      rw [merge_eq rfl ho ht, Bookend.reformatTextInTurn_const]
      rfl
    rw [hmerge]
    refine ⟨Bookend.reformatTextInTurn_of_denied, fun hdenied => ?_⟩
    obtain ⟨merged, hmerged, -⟩ := Bookend.exists_reformatTextInTurn_of_not_denied hdenied
    exact ⟨merged, hmerged⟩

/-- Two of three runs end without a text, and their lines stay. A merge is lost if the program may not
be run for its one macro line. -/
theorem reformatting_stops_only_if_denied_of_three_runs :
    let process : Nat → Runner := fun i _ =>
      match i with
      | 0 => .timedOut
      | 1 => .finished 0 [0xFF] []
      | _ => .finished 0 (Utf8.encode "const _: i32 = \x7b\n    doc = module_doc!()\n\x7d;\n".toList) []
    let t := "#![doc = module_doc!( )]\n#![doc = module_doc! ()]\n#![doc=module_doc!()]".toList
    let runner : Runner := fun t => if Bookend.opening.isPrefixOf t then .denied else Formatter.echo t
    let original := "//! Doc.\n".toList
    let transformed := "#![doc = module_doc!()]\n".toList
    ¬IsDenied {} process (Text.pieces t) ∧
      (∃ s, reformatTextInTurn {} (fun i => Formatter.format (process i)) t = .ok s ∧
        Text.pieces s = ["#![doc = module_doc!( )]".toList, "#![doc = module_doc! ()]".toList,
          "#![doc = module_doc!()]".toList]) ∧
      Formatter.format runner original = .ok original ∧
      Formatter.format runner transformed = .ok transformed ∧
      ({} : Merger).merge runner .migrate original transformed = .error .denied := by
  intro process t runner original transformed
  have hnot : ¬IsDenied {} process (Text.pieces t) := by
    rintro ⟨i, l, content, -, -, hdenied⟩
    dsimp only [process] at hdenied
    split at hdenied
    · exact absurd hdenied (by simp)
    · exact absurd hdenied (by simp)
    · exact absurd hdenied (by simp)
  have ho : Formatter.format runner original = .ok original := by decide +kernel
  have ht : Formatter.format runner transformed = .ok transformed := by decide +kernel
  obtain ⟨hlines, -⟩ := reformatting_stops_only_if_denied {} process t
  obtain ⟨-, -, -, hmerge⟩ := reformatting_stops_only_if_denied {} (fun _ => runner) []
  obtain ⟨s, hs, -⟩ := hlines hnot
  obtain ⟨hlost, -⟩ := hmerge {} true runner original transformed original transformed ho ht
  refine ⟨hnot, ⟨s, hs, ?_⟩, ho, ht, hlost ?_⟩
  · have hpieces : Text.pieces t = ["#![doc = module_doc!( )]".toList,
        "#![doc = module_doc! ()]".toList, "#![doc=module_doc!()]".toList] := by
      decide +kernel
    have hturns : Bookend.reformatInTurn {} (fun i => Formatter.format (process i))
        ["#![doc = module_doc!( )]".toList, "#![doc = module_doc! ()]".toList,
          "#![doc=module_doc!()]".toList] =
        .ok ["#![doc = module_doc!( )]".toList, "#![doc = module_doc! ()]".toList,
          "#![doc = module_doc!()]".toList] := by
      decide +kernel
    rw [reformatTextInTurn, hpieces, hturns] at hs
    rw [← Except.ok.inj hs]
    decide +kernel
  · refine ⟨0, "#![doc = module_doc!()]".toList, "doc = module_doc!()".toList, ?_, ⟨?_, ?_⟩, ?_⟩
    · decide +kernel
    · decide +kernel
    · decide +kernel
    · decide +kernel

/-- A program that may not be run stops the reformatting of one macro line. -/
theorem denied_process_stops_reformatting :
    reformatText {} (Formatter.format fun _ => .denied) "#![doc = module_doc!()]\n".toList =
      .error .denied := by
  decide +kernel

end Merger

end DocGraft
