import DocGraft.Proofs.DocTransfer
import DocGraft.Proofs.ReformattedLines

/-!
# Reformatted texts

A formatter is asked once for each macro line, and may answer or fail in another way each time. No
answer reaches another line, and none makes a text longer or shorter by a line. So a merge that takes
documentation out is closed by one line feed, as it was before its macro lines were reformatted.
-/

namespace DocGraft

namespace Bookend

open Text (indent)

variable {m : Markers} {format : Text → Except Formatter.Failure Text}

/-- Line `k` is what becomes of `l` with this formatter. -/
structure ReworkedBy (m : Markers) (format : Text → Except Formatter.Failure Text)
    (l k : Line) : Prop where
  /-- Only macro lines change. -/
  eq_of_no_macro : Line.isModuleDocMacro m l = false → k = l
  /-- Where the formatter fails, or the bookends are lost, the line stays. -/
  eq_of_not_wrapped : (∀ content formatted body, content? l = some content →
    format (wrap content) = .ok formatted → ¬IsWrapped formatted body) → k = l
  /-- Whatever the formatter makes of a line, it is an attribute with content on one line. -/
  isContent_of_ne : k ≠ l → ∃ content, IsContent content ∧ k = innerAttribute (indent l) content
  /-- What stands between the bookends is put on one line. -/
  eq_of_wrapped : ∀ content formatted body, Line.isModuleDocMacro m l = true →
    content? l = some content → format (wrap content) = .ok formatted →
      IsWrapped formatted body → parts body ≠ [] →
        k = innerAttribute (indent l) ([' '].intercalate (parts body))

lemma reformatLine_of_wrapped {l : Line} {content formatted body : Text}
    (hcalls : Line.isModuleDocMacro m l = true) (hcontent : content? l = some content)
    (hformat : format (wrap content) = .ok formatted) (hwrapped : IsWrapped formatted body)
    (hparts : parts body ≠ []) :
    reformatLine m format l =
      .ok (innerAttribute (indent l) ([' '].intercalate (parts body))) := by
  have hunwrap := unwrap?_eq_some_iff.mpr ⟨body, hwrapped, hparts, rfl⟩
  rw [reformatLine, if_pos hcalls]
  unfold reformat
  simp only [hcontent, hformat, hunwrap, Outcome.line]

lemma reworkedBy_of_reformatLine {l k : Line} (h : reformatLine m format l = .ok k) :
    ReworkedBy m format l k where
  eq_of_no_macro hcalls := by
    rcases reworked_of_reformatLine h with rfl | ⟨hnamed, -⟩
    · rfl
    · rw [hcalls] at hnamed
      exact absurd hnamed (by decide)
  eq_of_not_wrapped hlost := by
    rcases reformatLine_cases h with rfl | ⟨-, content, formatted, inner, hc, hf, hu, -⟩
    · rfl
    · obtain ⟨body, hwrapped, -⟩ := unwrap?_eq_some_iff.mp hu
      exact absurd hwrapped (hlost content formatted body hc hf)
  isContent_of_ne hne := ((reworked_of_reformatLine h).resolve_left hne).2
  eq_of_wrapped content formatted body hcalls hc hf hwrapped hparts := by
    rw [reformatLine_of_wrapped hcalls hc hf hwrapped hparts] at h
    exact (Except.ok.inj h).symm

lemma map_isEmpty_of_reworked {ls ks : List Line} (h : List.Forall₂ (Reworked m) ls ks) :
    ks.map List.isEmpty = ls.map List.isEmpty := by
  induction h with
  | nil => rfl
  | cons hk _ ih => rw [List.map_cons, List.map_cons, hk.isEmpty_eq, ih]

/-- A closed text stays closed: no line is emptied, and no empty one is filled. -/
lemma isClosed_of_reworked {t s : Text}
    (h : List.Forall₂ (Reworked m) (Text.pieces t) (Text.pieces s)) (ht : Text.IsClosed t) :
    Text.IsClosed s := by
  rw [Text.isClosed_iff, map_isEmpty_of_reworked h]
  exact Text.isClosed_iff.mp ht

end Bookend

namespace Merger

open Bookend (ReworkedBy reformatText reformatTextInTurn wrap)

/-- A merge that takes documentation out is made if both texts can be formatted. It is the
application of its plan, or this with some macro lines reworked. -/
lemma exists_merge_reworked {g : Merger} {process : Runner} {original transformed fo ft : Text}
    (hname : g.macroIsText = true) (ho : Formatter.format process original = .ok fo)
    (ht : Formatter.format process transformed = .ok ft)
    (hexpected : ∀ content failure, Formatter.format process (wrap content) = .error failure →
      failure.isExpected = true) :
    ∃ merged, g.merge process .migrate original transformed = .ok merged ∧
      List.Forall₂ (Bookend.Reworked g.markers)
        (Text.pieces (g.planFormatted .migrate fo ft).application.text) (Text.pieces merged) := by
  rw [merge_eq hname ho ht]
  by_cases hreformats : g.reformats (g.planFormatted .migrate fo ft) = true
  · obtain ⟨merged, hmerged, hall, -⟩ := Bookend.exists_reformatText (m := g.markers) hexpected
      (g.planFormatted .migrate fo ft).application.text
    refine ⟨merged, ?_, hall⟩
    simp only [if_pos hreformats]
    exact hmerged
  · refine ⟨_, ?_, List.forall₂_same.mpr fun l _ => Or.inl rfl⟩
    simp only [if_neg hreformats]

/-- Reformatting takes every text line by line, whatever the formatter answers each time it is asked,
as long as it fails only in ways that a merge expects. A merge that takes documentation out is made
then, and what it gives is empty or ends in exactly one line feed. -/
theorem reformatting_reworks_macro_lines_only (m : Markers)
    (answer : Nat → Text → Except Formatter.Failure Text)
    (hexpected : ∀ i content failure, answer i (wrap content) = .error failure →
      failure.isExpected = true) :
    (∀ t, ∃ s, reformatTextInTurn m answer t = .ok s ∧
      (Text.pieces s).length = (Text.pieces t).length ∧
      ∀ i l k, (Text.pieces t)[i]? = some l → (Text.pieces s)[i]? = some k →
        ReworkedBy m (answer i) l k) ∧
    (∀ format t, reformatTextInTurn m (fun _ => format) t = reformatText m format t) ∧
    ∀ (formatter : Formatter) (splitMixed reformatBookends : Bool) (process : Runner)
      (original transformed fo ft : Text), Formatter.format process original = .ok fo →
      Formatter.format process transformed = .ok ft →
      (∀ content failure, Formatter.format process (wrap content) = .error failure →
        failure.isExpected = true) →
      let g : Merger := ⟨formatter, m, splitMixed, reformatBookends, true⟩
      ∃ p s merged, g.plan process .migrate original transformed = .ok p ∧
        reformatTextInTurn m answer p.application.text = .ok s ∧ Text.IsClosed s ∧
        g.merge process .migrate original transformed = .ok merged ∧ Text.IsClosed merged := by
  refine ⟨fun t => ?_, Bookend.reformatTextInTurn_const m, ?_⟩
  · obtain ⟨s, hs, hall, hturn⟩ := Bookend.exists_reformatTextInTurn (m := m) hexpected t
    refine ⟨s, hs, hall.length_eq.symm, fun i l k hl hk => ?_⟩
    exact Bookend.reworkedBy_of_reformatLine (hturn i l k hl hk)
  · intro formatter splitMixed reformatBookends process original transformed fo ft ho ht hprocess g
    let p := g.planFormatted .migrate fo ft
    have hclosed : Text.IsClosed p.application.text := Text.isClosed_closed _
    obtain ⟨s, hs, hall, -⟩ :=
      Bookend.exists_reformatTextInTurn (m := m) hexpected p.application.text
    obtain ⟨merged, hmerged, hmall⟩ := exists_merge_reworked (g := g) rfl ho ht hprocess
    exact ⟨p, s, merged, plan_eq rfl ho ht, hs, Bookend.isClosed_of_reworked hall hclosed, hmerged,
      Bookend.isClosed_of_reworked hmall hclosed⟩

/-- The first answer is spread over lines that a line separator ends, and the next one never comes. -/
theorem reformatting_reworks_macro_lines_only_of_two_answers :
    let answer : Nat → Text → Except Formatter.Failure Text := fun i _ =>
      if i = 0 then .ok "const _: i32 = \x7b\n    doc =\u2028module_doc!()\n\x7d;\n".toList
      else .error .timedOut
    let t := "  #![doc = module_doc ! ()]\nfn f() \x7b\x7d\n#![doc = module_doc!( )]\n".toList
    (∀ i content failure, answer i (wrap content) = .error failure → failure.isExpected = true) ∧
      (∃ s, reformatTextInTurn {} answer t = .ok s ∧
        Text.pieces s = ["  #![doc = module_doc!()]".toList, "fn f() \x7b\x7d".toList,
          "#![doc = module_doc!( )]".toList, []]) ∧
      ∃ merged, ({} : Merger).merge Formatter.echo .migrate "//! Doc.\nfn f();\n".toList
        "#![doc = module_doc!()]\nfn f();\n".toList = .ok merged ∧ Text.IsClosed merged := by
  intro answer t
  have hexpected : ∀ i content failure, answer i (wrap content) = .error failure →
      failure.isExpected = true := by
    intro i content failure h
    dsimp only [answer] at h
    split at h
    · exact absurd h (by simp)
    · obtain rfl := Except.error.inj h
      rfl
  obtain ⟨hlines, -, hmerge⟩ := reformatting_reworks_macro_lines_only {} answer hexpected
  obtain ⟨s, hs, -⟩ := hlines t
  obtain ⟨-, -, merged, -, -, -, hmerged, hclosed⟩ := hmerge {} true true Formatter.echo
    "//! Doc.\nfn f();\n".toList "#![doc = module_doc!()]\nfn f();\n".toList _ _
    (Formatter.format_echo _) (Formatter.format_echo _)
    (Bookend.isExpected_of_echo Formatter.format_echo)
  refine ⟨hexpected, ⟨s, hs, ?_⟩, merged, hmerged, hclosed⟩
  have hpieces : Text.pieces t = ["  #![doc = module_doc ! ()]".toList, "fn f() \x7b\x7d".toList,
      "#![doc = module_doc!( )]".toList, []] := by
    decide +kernel
  have hturns : Bookend.reformatInTurn {} answer ["  #![doc = module_doc ! ()]".toList,
      "fn f() \x7b\x7d".toList, "#![doc = module_doc!( )]".toList, []] =
        .ok ["  #![doc = module_doc!()]".toList, "fn f() \x7b\x7d".toList,
          "#![doc = module_doc!( )]".toList, []] := by
    decide +kernel
  rw [reformatTextInTurn, hpieces, hturns] at hs
  rw [← Except.ok.inj hs]
  decide +kernel

end Merger

end DocGraft
