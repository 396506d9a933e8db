import DocGraft.Proofs.CarriedDocs

/-!
# Spellings of a carried comment

What a line carries is told by how it can be written: a doc attribute with any blanks between its
tokens whose literal is a doc comment, and nothing behind it. The quote that closes the literal is
the last one in the line, whatever quotes and brackets stand in the comment. A comment that was
escaped is read back from every spelling, and a line that was read once is not read again.
-/

namespace DocGraft

namespace Text

lemma length_pieces (t : Text) : (pieces t).length = t.count '\n' + 1 := by
  induction t with
  | nil => rfl
  | cons c t ih =>
    rw [pieces] at ih ⊢
    rw [List.splitOn_cons_eq_if_modifyHead, List.count_cons]
    split
    · rw [List.length_cons, ih]
    · rw [List.length_modifyHead, ih]

end Text

namespace Bookend

open Text (Blank)

variable {l : Line} {content t rest : Text} {token : Text} {tokens : List Text}

lemma exists_pad_of_afterTokens? (h : afterTokens? (token :: tokens) t = some rest) :
    ∃ pad more, Blank pad ∧ t = pad ++ (token ++ more) ∧ afterTokens? tokens more = some rest := by
  obtain ⟨more, hmore, hrest⟩ := Option.bind_eq_some_iff.mp h
  refine ⟨Text.indent t, more, Text.blank_indent t, ?_, hrest⟩
  rw [← Text.after?_eq_some_iff.mp hmore, Text.indent_append_trimLeft]

lemma exists_pad_of_beforeTokens? (h : beforeTokens? (token :: tokens) t = some rest) :
    ∃ pad more, Blank pad ∧ t = more ++ token ++ pad ∧ beforeTokens? tokens more = some rest := by
  obtain ⟨more, hmore, hrest⟩ := Option.bind_eq_some_iff.mp h
  obtain ⟨pad, hpad, ht⟩ := Text.exists_trimRight_append t
  refine ⟨pad, more, hpad, ?_, hrest⟩
  rw [← Text.eq_append_of_before? hmore, ← ht]

/-- A line carries a comment exactly if it is a doc attribute, in some spelling, with this comment in
its literal. -/
lemma carried?_eq_some_iff : carried? l = some content ↔
    (∃ s : Spacing, l = s.write content) ∧ isComment content = true ∧ '\n' ∉ content := by
  constructor
  · intro h
    refine ⟨?_, isComment_of_carried? h⟩
    obtain ⟨opened, hopened, h⟩ := Option.bind_eq_some_iff.mp h
    obtain ⟨inner, hinner, h⟩ := Option.bind_eq_some_iff.mp h
    obtain rfl : inner = content := by
      split at h
      · exact Option.some.inj h
      · exact absurd h (by simp)
    obtain ⟨indent, t, hindent, rfl, hbracket⟩ := exists_pad_of_afterTokens? hopened
    obtain ⟨bracket, t, hb, rfl, hname⟩ := exists_pad_of_afterTokens? hbracket
    obtain ⟨name, t, hn, rfl, hsign⟩ := exists_pad_of_afterTokens? hname
    obtain ⟨sign, t, hs, rfl, hquote⟩ := exists_pad_of_afterTokens? hsign
    obtain ⟨literal, t, hl, rfl, hend⟩ := exists_pad_of_afterTokens? hquote
    obtain rfl := Option.some.inj hend
    obtain ⟨behind, t, hbehind, rfl, hclose⟩ := exists_pad_of_beforeTokens? hinner
    obtain ⟨close, t, hc, rfl, hlast⟩ := exists_pad_of_beforeTokens? hclose
    obtain rfl := Option.some.inj hlast
    refine ⟨⟨indent, bracket, name, sign, literal, close, behind, ?_⟩, ?_⟩
    · simp [hindent, hb, hn, hs, hl, hc, hbehind]
    · simp [Spacing.write, Spacing.opening, Spacing.closing]
  · rintro ⟨⟨s, rfl⟩, hcomment, hfeed⟩
    exact s.carried?_write hcomment hfeed

/-- What uncarrying leaves carries nothing. -/
lemma carried?_uncarry (l : Line) : carried? (uncarry l) = none := by
  unfold uncarry
  cases h : carried? l with
  | none => exact h
  | some content =>
    have hcomment := closeEmpty_of_isComment (unescape_of_isComment (isComment_of_carried? h).1)
    apply Option.eq_none_iff_forall_not_mem.mpr
    intro inner hinner
    have hlead := Line.lead_of_isDocAttribute (isDocAttribute_of_carried? hinner)
    rw [lead_indent_append hcomment] at hlead
    exact absurd hlead (by decide)

lemma uncarry_uncarry (l : Line) : uncarry (uncarry l) = uncarry l := by
  rw [uncarry, carried?_uncarry]

lemma uncarryAll_uncarryAll (t : Text) : uncarryAll (uncarryAll t) = uncarryAll t := by
  have hpieces : ((Text.pieces t).map uncarry).map uncarry = (Text.pieces t).map uncarry := by
    rw [List.map_map]
    exact List.map_congr_left fun l _ => uncarry_uncarry l
  rw [uncarryAll, pieces_uncarryAll, hpieces, uncarryAll]

lemma count_uncarryAll (t : Text) : (uncarryAll t).count '\n' = t.count '\n' := by
  have hlength := Text.length_pieces (uncarryAll t)
  rw [pieces_uncarryAll, List.length_map, Text.length_pieces] at hlength
  exact (Nat.add_right_cancel hlength).symm

/-- An escaped doc comment is read back from every spelling of the attribute that carries it, behind
the same indentation, but an empty comment loses the blank at its end. Uncarrying a text a second
time changes nothing, and the number of its lines stays the same. -/
theorem uncarry_reads_every_spelling (s : Spacing) (c : Text) (hcomment : isComment c = true)
    (hfeed : '\n' ∉ c) :
    uncarry (s.write (escape c)) = s.indent ++
        (if c = "/// ".toList then "///".toList else if c = "//! ".toList then "//!".toList else c) ∧
      ∀ t, uncarryAll (uncarryAll t) = uncarryAll t ∧
        (uncarryAll t).count '\n' = t.count '\n' := by
  refine ⟨?_, fun t => ⟨uncarryAll_uncarryAll t, count_uncarryAll t⟩⟩
  rw [s.uncarry_write hcomment hfeed, closeEmpty_eq_ite]

/-- A comment with a quote, a bracket, a backslash and an escaped quote in it, in an attribute with
tabs between its tokens. -/
theorem uncarry_reads_every_spelling_with_brackets :
    let c := "//! a\"] \\ \\\"b".toList
    isComment c = true ∧ '\n' ∉ c ∧
      uncarry "  #\t[ doc = \t\"//! a\\\"] \\\\ \\\\\\\"b\" ] ".toList = "  ".toList ++ c := by
  intro c
  let s : Spacing := ⟨"  ".toList, "\t".toList, " ".toList, " ".toList, " \t".toList, " ".toList,
    " ".toList, by decide⟩
  have hcomment : isComment c = true := by decide
  have hfeed : '\n' ∉ c := by decide
  refine ⟨hcomment, hfeed, ?_⟩
  have hwrite : s.write (escape c) =
      "  #\t[ doc = \t\"//! a\\\"] \\\\ \\\\\\\"b\" ] ".toList := by decide
  rw [← hwrite, (uncarry_reads_every_spelling s c hcomment hfeed).1]
  decide

end Bookend

end DocGraft
