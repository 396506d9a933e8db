import DocGraft.Proofs.DocTransfer

/-!
# Ordinary comments in a restored text

A merge that brings documentation back splices its hunks without touching an ordinary comment or an
attribute that is not documentation, and then uncarries every line. A carried comment is recognised
by its first three characters, but with a fourth slash it is an ordinary one. So the lines kept aside
stay as they are, and exactly those that carry such a comment are added to them.
-/

namespace DocGraft

namespace Bookend

open Text (indent trimLeft)

/-- Four slashes, with which no doc comment starts. -/
def isBanner (t : Text) : Bool := ['/', '/', '/', '/'].isPrefixOf t

/-- The line carries a comment that is an ordinary one. -/
def carriesOrdinary (l : Line) : Bool := (carried? l).any isBanner

variable {m : Markers} {l : Line} {t content : Text}

/-! ### One line -/

/-- Taking backslashes off neither makes nor loses a slash at the start of a text. -/
lemma head?_unescape_eq_slash_iff (t : Text) :
    (unescape t).head? = some '/' ↔ t.head? = some '/' := by
  fun_cases unescape t with
  | case1 => rfl
  | case2 c rest hc =>
    have hne : c ≠ '/' := by
      rintro rfl
      exact absurd hc (by decide)
    simp [hne]
  | case3 c rest hc => simp
  | case4 c rest hc => simp

lemma isBanner_cons_cons_cons (c : Char) (rest : Text) :
    isBanner ('/' :: '/' :: c :: rest) = true ↔ c = '/' ∧ rest.head? = some '/' := by
  cases rest with
  | nil => simp [isBanner]
  | cons d rest => simp [isBanner, @eq_comm Char '/']

lemma isBanner_closeEmpty (t : Text) : isBanner (closeEmpty t) = isBanner t := by
  rw [closeEmpty_eq_ite]
  split_ifs with houter hinner
  · rw [houter]
    decide
  · rw [hinner]
    decide
  · rfl

lemma isBanner_unescape (h : isComment t = true) : isBanner (unescape t) = isBanner t := by
  obtain ⟨c, rest, hc, rfl⟩ := isComment_iff.mp h
  rw [unescape_comment hc, Bool.eq_iff_iff, isBanner_cons_cons_cons, isBanner_cons_cons_cons,
    head?_unescape_eq_slash_iff]

lemma isOrdinaryComment_indent_append (h : isComment t = true) :
    Line.isOrdinaryComment (indent l ++ t) = isBanner t := by
  obtain ⟨c, rest, hc, rfl⟩ := isComment_iff.mp h
  have htrim : trimLeft (indent l ++ '/' :: '/' :: c :: rest) = '/' :: '/' :: c :: rest :=
    Text.trimLeft_append (Text.blank_indent l) (by decide)
  unfold Line.isOrdinaryComment Line.isDocComment Line.isOuterDocComment Line.isInnerDocComment
  rw [htrim]
  rcases hc with rfl | rfl
  · simp [isBanner, List.isPrefixOf]
  · simp [isBanner, List.isPrefixOf]

lemma isOtherAttribute_indent_append (h : isComment t = true) :
    Line.isOtherAttribute m (indent l ++ t) = false := by
  apply Bool.eq_false_iff.mpr
  intro hother
  have hlead := Line.lead_of_isOtherAttribute hother
  rw [lead_indent_append h] at hlead
  exact absurd hlead (by decide)

lemma isKeptAside_eq_false_of_isDocAttribute (h : Line.isDocAttribute l = true) :
    Line.isKeptAside m l = false := by
  have hcomment : Line.isOrdinaryComment l = false :=
    Line.isOrdinaryComment_eq_false_of_lead (by rw [Line.lead_of_isDocAttribute h]; decide)
  rw [Line.isKeptAside, Line.isOtherAttribute_eq_false (Or.inl h), hcomment]
  rfl

/-- What uncarrying makes of a line is kept aside if the line is, or if it carries an ordinary
comment. -/
lemma isKeptAside_uncarry (m : Markers) (l : Line) :
    Line.isKeptAside m (uncarry l) = (Line.isKeptAside m l || carriesOrdinary l) := by
  unfold uncarry carriesOrdinary
  cases h : carried? l with
  | none => simp
  | some content =>
    have hcomment := (isComment_of_carried? h).1
    have hbare := closeEmpty_of_isComment (unescape_of_isComment hcomment)
    rw [isKeptAside_eq_false_of_isDocAttribute (isDocAttribute_of_carried? h)]
    simp only [Option.any_some, Bool.false_or]
    rw [Line.isKeptAside, isOtherAttribute_indent_append hbare, Bool.false_or,
      isOrdinaryComment_indent_append hbare, isBanner_closeEmpty, isBanner_unescape hcomment]

lemma carriesOrdinary_eq_false_of_isKeptAside (h : Line.isKeptAside m l = true) :
    carriesOrdinary l = false := by
  unfold carriesOrdinary
  cases hcarried : carried? l with
  | none => rfl
  | some content =>
    rw [isKeptAside_eq_false_of_isDocAttribute (isDocAttribute_of_carried? hcarried)] at h
    exact absurd h (by decide)

lemma uncarry_eq_self_of_isKeptAside (h : Line.isKeptAside m l = true) : uncarry l = l := by
  apply uncarry_eq_self
  apply Bool.eq_false_iff.mpr
  intro hdoc
  rw [isKeptAside_eq_false_of_isDocAttribute hdoc] at h
  exact absurd h (by decide)

/-! ### All lines -/

lemma filter_isKeptAside_sublist (m : Markers) (ls : List Line) :
    (ls.filter (Line.isKeptAside m)).Sublist ((ls.map uncarry).filter (Line.isKeptAside m)) := by
  induction ls with
  | nil => exact List.Sublist.refl _
  | cons l ls ih =>
    rw [List.map_cons, List.filter_cons]
    split
    · next h =>
      rw [uncarry_eq_self_of_isKeptAside h, List.filter_cons, if_pos h]
      exact ih.cons_cons l
    · exact ih.trans ((List.sublist_cons_self _ _).filter _)

/-- The lines kept aside that uncarrying adds are those that carry an ordinary comment. -/
lemma length_filter_isKeptAside (m : Markers) (ls : List Line) :
    ((ls.map uncarry).filter (Line.isKeptAside m)).length =
      (ls.filter (Line.isKeptAside m)).length + ls.countP carriesOrdinary := by
  simp only [← List.countP_eq_length_filter, List.countP_map]
  induction ls with
  | nil => rfl
  | cons l ls ih =>
    rw [List.countP_cons, List.countP_cons, List.countP_cons, ih, Function.comp_apply,
      isKeptAside_uncarry]
    cases haside : Line.isKeptAside m l with
    | true =>
      rw [carriesOrdinary_eq_false_of_isKeptAside haside]
      simp only [Bool.or_false, if_true, Bool.false_eq_true, if_false]
      omega
    | false =>
      simp only [Bool.false_or, Bool.false_eq_true, if_false]
      omega

lemma filter_isKeptAside_eq_iff (m : Markers) (ls : List Line) :
    (ls.map uncarry).filter (Line.isKeptAside m) = ls.filter (Line.isKeptAside m) ↔
      ∀ l ∈ ls, carriesOrdinary l = false := by
  have hsublist := filter_isKeptAside_sublist m ls
  have hlength := length_filter_isKeptAside m ls
  have hnone : ls.countP carriesOrdinary = 0 ↔ ∀ l ∈ ls, carriesOrdinary l = false := by
    simp [List.countP_eq_zero]
  rw [← hnone]
  constructor
  · intro heq
    rw [heq] at hlength
    omega
  · intro hzero
    rw [hzero, Nat.add_zero] at hlength
    exact (hsublist.eq_of_length hlength.symm).symm

end Bookend

namespace Merger

open Bookend (carriesOrdinary uncarry)

/-- A class of lines without the empty one has in a restored text what it has in the uncarried
lines. -/
lemma filter_pieces_restored (g : Merger) (fo ft : Text) {q : Line → Bool} (hq : q [] = false) :
    (Text.pieces (g.planFormatted .restore fo ft).application.text).filter q =
      ((g.planFormatted .restore fo ft).application.lines.map uncarry).filter q := by
  let a := (g.planFormatted .restore fo ft).application
  have hfeed : ∀ l ∈ a.lines, '\n' ∉ l := not_mem_of_mem_application_lines g .restore fo ft
  have htext : a.text = Text.closed (Bookend.uncarryAll (Text.unpieces a.lines)) := rfl
  rw [htext, Text.filter_pieces_closed hq, Bookend.uncarryAll_unpieces hfeed]
  apply Text.filter_pieces_unpieces hq
  intro l hl
  obtain ⟨k, hk, rfl⟩ := List.mem_map.mp hl
  exact Bookend.not_mem_uncarry (hfeed k hk)

/-- A merge that brings documentation back keeps every ordinary comment and every attribute that is
not documentation, in their order. It adds one for each merged line that carries an ordinary comment,
so it adds none exactly if there is no such line, as when neither text has one. -/
theorem restore_adds_carried_comments (formatter : Formatter) (m : Markers)
    (splitMixed reformatBookends : Bool) (process : Runner) (original transformed fo ft : Text)
    (ho : Formatter.format process original = .ok fo)
    (ht : Formatter.format process transformed = .ok ft) :
    let g : Merger := ⟨formatter, m, splitMixed, reformatBookends, true⟩
    ∃ p merged, g.plan process .restore original transformed = .ok p ∧
      g.merge process .restore original transformed = .ok merged ∧
      ((Text.lines fo).filter (Line.isKeptAside m)).Sublist
        ((Text.pieces merged).filter (Line.isKeptAside m)) ∧
      ((Text.pieces merged).filter (Line.isKeptAside m)).length =
        ((Text.lines fo).filter (Line.isKeptAside m)).length +
          p.application.lines.countP carriesOrdinary ∧
      ((Text.pieces merged).filter (Line.isKeptAside m) =
          (Text.lines fo).filter (Line.isKeptAside m) ↔
        ∀ l ∈ p.application.lines, carriesOrdinary l = false) ∧
      ((∀ l ∈ Text.lines fo ++ Text.lines ft, carriesOrdinary l = false) →
        (Text.pieces merged).filter (Line.isKeptAside m) =
          (Text.lines fo).filter (Line.isKeptAside m)) := by
  intro g
  let p := g.planFormatted .restore fo ft
  let a := p.application
  have hpieces : (Text.pieces a.text).filter (Line.isKeptAside m) =
      (a.lines.map uncarry).filter (Line.isKeptAside m) :=
    filter_pieces_restored g fo ft (Hunk.visible_isKeptAside m).nil
  have hbase : a.lines.filter (Line.isKeptAside m) = (Text.lines fo).filter (Line.isKeptAside m) :=
    Application.filter_isKeptAside_lines (a := a)
  have hiff := Bookend.filter_isKeptAside_eq_iff m a.lines
  refine ⟨p, a.text, plan_eq rfl ho ht, merge_eq rfl ho ht, ?_⟩
  rw [hpieces, ← hbase]
  refine ⟨Bookend.filter_isKeptAside_sublist m a.lines,
    Bookend.length_filter_isKeptAside m a.lines, hiff, ?_⟩
  intro hnone
  apply hiff.mpr
  intro l hl
  rcases Application.mem_lines hl with rfl | hl | hl
  · decide
  · exact hnone l (List.mem_append_left _ hl)
  · exact hnone l (List.mem_append_right _ hl)

/-- A carried doc comment takes the place of a marker between a comment and an attribute. -/
theorem restore_adds_no_comment_to_item :
    let original := "// Keep.\n#[omnidoc]\n#[derive(Debug)]\nstruct A;\n".toList
    let transformed := "#[doc = \"/// A.\"]\nstruct A;\n".toList
    Formatter.format Formatter.echo original = .ok original ∧
      Formatter.format Formatter.echo transformed = .ok transformed ∧
      (∀ l ∈ Text.lines original ++ Text.lines transformed, carriesOrdinary l = false) ∧
      ∃ merged, ({} : Merger).merge Formatter.echo .restore original transformed = .ok merged ∧
        (Text.pieces merged).filter (Line.isKeptAside {}) =
          ["// Keep.".toList, "#[derive(Debug)]".toList] := by
  intro original transformed
  obtain ⟨p, merged, -, hmerged, -, -, -, hkept⟩ := restore_adds_carried_comments {} {} true true
    Formatter.echo original transformed original transformed (Formatter.format_echo _)
    (Formatter.format_echo _)
  have hnone : ∀ l ∈ Text.lines original ++ Text.lines transformed, carriesOrdinary l = false := by
    decide +kernel +zetaReduce
  refine ⟨Formatter.format_echo _, Formatter.format_echo _, hnone, merged, hmerged, ?_⟩
  rw [hkept hnone]
  decide +kernel +zetaReduce

/-- An attribute with a banner in its literal takes the place of a marker and becomes an ordinary
comment, where there was none. -/
theorem restore_adds_banner :
    let original := "#[omnidoc]\nstruct S;\n".toList
    let transformed := "#[doc = \"//// Banner.\"]\nstruct S;\n".toList
    Formatter.format Formatter.echo original = .ok original ∧
      Formatter.format Formatter.echo transformed = .ok transformed ∧
      (Text.lines original).filter (Line.isKeptAside {}) = [] ∧
      ({} : Merger).merge Formatter.echo .restore original transformed =
        .ok "//// Banner.\nstruct S;\n".toList ∧
      (Text.pieces "//// Banner.\nstruct S;\n".toList).filter (Line.isKeptAside {}) =
        ["//// Banner.".toList] := by
  intro original transformed
  have htext : (({} : Merger).planFormatted .restore original transformed).application.text =
      "//// Banner.\nstruct S;\n".toList := by
    unfold Application.text
    rw [lines_application]
    decide +kernel +zetaReduce
  refine ⟨Formatter.format_echo _, Formatter.format_echo _, by decide +kernel +zetaReduce, ?_,
    by decide +kernel +zetaReduce⟩
  rw [merge_eq rfl (Formatter.format_echo _) (Formatter.format_echo _)]
  simp only [htext]
  rfl

end Merger

end DocGraft
