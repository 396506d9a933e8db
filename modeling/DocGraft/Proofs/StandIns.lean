import DocGraft.Proofs.Exchange
import DocGraft.Proofs.MacroSpelling

/-!
# Stand-ins for documentation

A run of doc comments is replaced by one line, for a module or for an item, or it is carried in
attributes, one for each comment. The three forms of a text differ by exchanged runs only, and a
formatter that changes nothing leaves the stand-ins as they are.
-/

namespace DocGraft

open Text (Blank indent)
open Diff (Exchanged)

namespace Line

/-- The macro line in place of module documentation that starts with `l`. -/
def moduleStandIn (l : Line) : Line := indent l ++ "#![doc = module_doc!()]".toList

/-- The reference in place of item documentation that starts with `l`. -/
def itemStandIn (l : Line) : Line := indent l ++ "#[omnidoc]".toList

/-- A line with its doc comment, if it is one, in an attribute. -/
def carryDoc (l : Line) : Line := if isDocComment l then Bookend.carry l else l

end Line

/-- The lines of a text with one stand-in for each longest run of doc comments of one level. -/
def standIns : List Line → List Line
  | [] => []
  | l :: rest =>
    if Line.isInnerDocComment l then
      Line.moduleStandIn l :: standIns (rest.dropWhile Line.isInnerDocComment)
    else if Line.isOuterDocComment l then
      Line.itemStandIn l :: standIns (rest.dropWhile Line.isOuterDocComment)
    else l :: standIns rest
  termination_by ls => ls.length
  decreasing_by
    · exact Nat.lt_succ_of_le (List.length_dropWhile_le ..)
    · exact Nat.lt_succ_of_le (List.length_dropWhile_le ..)
    · exact Nat.lt_succ_self _

/-! ### Runs and their stand-ins -/

/-- Line `s` stands for a run that starts with `l`. -/
def Line.IsStandIn (l s : Line) : Prop := s = l.moduleStandIn ∨ s = l.itemStandIn

/-- Some runs of doc comments in the first text have a stand-in in the second one; all other lines
are no doc comments, and both texts have them. -/
inductive StoodIn : List Line → List Line → Prop
  | nil : StoodIn [] []
  | keep {l : Line} {ls ts : List Line} (hl : Line.isDocComment l = false) (h : StoodIn ls ts) :
    StoodIn (l :: ls) (l :: ts)
  | run {l s : Line} {more ls ts : List Line}
    (hdoc : ∀ k ∈ l :: more, Line.isDocComment k = true) (hs : l.IsStandIn s) (h : StoodIn ls ts) :
    StoodIn (l :: more ++ ls) (s :: ts)

lemma StoodIn.run_dropWhile {p : Line → Bool} {l s : Line} {rest ts : List Line}
    (hp : ∀ k, p k = true → Line.isDocComment k = true) (hl : p l = true) (hs : l.IsStandIn s)
    (h : StoodIn (rest.dropWhile p) ts) : StoodIn (l :: rest) (s :: ts) := by
  have hdoc : ∀ k ∈ l :: rest.takeWhile p, Line.isDocComment k = true := by
    intro k hk
    rcases List.mem_cons.mp hk with rfl | hk
    · exact hp k hl
    · exact hp k (List.mem_takeWhile_imp hk)
  have hrun := run hdoc hs h
  rwa [List.cons_append, List.takeWhile_append_dropWhile] at hrun

lemma stoodIn_standIns (ls : List Line) : StoodIn ls (standIns ls) := by
  fun_induction standIns ls with
  | case1 => exact StoodIn.nil
  | case2 l rest hi ih =>
    exact ih.run_dropWhile (fun k hk => Bool.or_eq_true_iff.mpr (Or.inr hk)) hi (Or.inl rfl)
  | case3 l rest hi ho ih =>
    exact ih.run_dropWhile (fun k hk => Bool.or_eq_true_iff.mpr (Or.inl hk)) ho (Or.inr rfl)
  | case4 l rest hi ho ih =>
    refine StoodIn.keep ?_ ih
    rw [Line.isDocComment, Bool.eq_false_iff.mpr hi, Bool.eq_false_iff.mpr ho]
    rfl

/-! ### Classes of stand-ins -/

namespace Line

lemma squash_moduleStandIn (l : Line) :
    Text.squash l.moduleStandIn = "#![doc=module_doc!()]".toList := by
  rw [moduleStandIn, Text.squash_indent_append]
  decide

lemma squash_itemStandIn (l : Line) : Text.squash l.itemStandIn = "#[omnidoc]".toList := by
  rw [itemStandIn, Text.squash_indent_append]
  decide

lemma isModuleDocMacro_itemStandIn (l : Line) : isModuleDocMacro {} l.itemStandIn = false := by
  rw [isModuleDocMacro, isInnerAttribute, squash_itemStandIn]
  decide

lemma IsStandIn.isMarker {l s : Line} (h : l.IsStandIn s) : isMarker {} s = true := by
  rcases h with rfl | rfl
  · unfold Line.isMarker isReferenceMarker isModuleDocMacro isInnerAttribute
    rw [squash_moduleStandIn]
    decide
  · unfold Line.isMarker isReferenceMarker isModuleDocMacro isInnerAttribute
    rw [squash_itemStandIn]
    decide

lemma IsStandIn.isDocLiteral {l s : Line} (h : l.IsStandIn s) : isDocLiteral s = false := by
  rcases h with rfl | rfl
  · rw [Line.isDocLiteral, squash_moduleStandIn]
    decide
  · rw [Line.isDocLiteral, squash_itemStandIn]
    decide

lemma not_mem_of_lineEnd {c : Char} (hc : c = '\n' ∨ c = '\r') {t : Text} (hn : '\n' ∉ t)
    (hr : '\r' ∉ t) : c ∉ t := by
  rcases hc with rfl | rfl
  · exact hn
  · exact hr

lemma IsStandIn.not_mem {l s : Line} {c : Char} (h : l.IsStandIn s) (hc : c = '\n' ∨ c = '\r')
    (hl : c ∉ l) : c ∉ s := by
  have hpad : c ∉ indent l := fun hm => hl (List.takeWhile_subset _ hm)
  rcases h with rfl | rfl
  · rw [moduleStandIn, List.mem_append, not_or]
    exact ⟨hpad, not_mem_of_lineEnd hc (by decide) (by decide)⟩
  · rw [itemStandIn, List.mem_append, not_or]
    exact ⟨hpad, not_mem_of_lineEnd hc (by decide) (by decide)⟩

lemma not_mem_carryDoc {l : Line} {c : Char} (hc : c = '\n' ∨ c = '\r') (hl : c ∉ l) :
    c ∉ carryDoc l := by
  have hpad : c ∉ indent l := fun hm => hl (List.takeWhile_subset _ hm)
  have htrim : c ∉ Text.trimLeft l := fun hm => hl (List.dropWhile_subset _ hm)
  have hslash : c ≠ '\\' := by
    rintro rfl
    simp at hc
  unfold carryDoc
  split
  · rw [Bookend.carry]
    simp only [List.mem_append, not_or]
    exact ⟨⟨⟨hpad, not_mem_of_lineEnd hc (by decide) (by decide)⟩,
      Bookend.not_mem_escape hslash htrim⟩, not_mem_of_lineEnd hc (by decide) (by decide)⟩
  · exact hl

end Line

/-! ### The three forms of a text -/

namespace StoodIn

variable {ls ts : List Line}

lemma mem_cases {t : Line} (h : StoodIn ls ts) (ht : t ∈ ts) :
    t ∈ ls ∨ ∃ l ∈ ls, l.IsStandIn t := by
  induction h with
  | nil => simp at ht
  | @keep l ls ts _ _ ih =>
    rcases List.mem_cons.mp ht with rfl | ht
    · exact Or.inl List.mem_cons_self
    · rcases ih ht with hm | ⟨k, hk, hs⟩
      · exact Or.inl (List.mem_cons_of_mem l hm)
      · exact Or.inr ⟨k, List.mem_cons_of_mem l hk, hs⟩
  | @run l s more ls ts _ hs _ ih =>
    rcases List.mem_cons.mp ht with rfl | ht
    · exact Or.inr ⟨l, List.mem_append_left ls List.mem_cons_self, hs⟩
    · rcases ih ht with hm | ⟨k, hk, hs⟩
      · exact Or.inl (List.mem_append_right (l :: more) hm)
      · exact Or.inr ⟨k, List.mem_append_right (l :: more) hk, hs⟩

lemma exchanged (h : StoodIn ls ts) (hm : ∀ l ∈ ls, Line.isMarker {} l = false) :
    Exchanged Line.isDocComment (Line.isMarker {}) ls ts := by
  induction h with
  | nil => exact Exchanged.nil
  | @keep l ls ts hl _ ih =>
    exact Exchanged.keep hl (hm l List.mem_cons_self)
      (ih fun k hk => hm k (List.mem_cons_of_mem l hk))
  | @run l s more ls ts hdoc hs _ ih =>
    refine Exchanged.swap (s := [s]) (List.cons_ne_nil l more) (List.cons_ne_nil s []) hdoc ?_
      (ih fun k hk => hm k (List.mem_append_right (l :: more) hk))
    intro k hk
    rw [List.mem_singleton.mp hk]
    exact hs.isMarker

/-- Stand-ins are exchanged for attributes that carry the documentation. -/
lemma exchanged_carryDoc (h : StoodIn ls ts) (hm : ∀ l ∈ ls, Line.isMarker {} l = false)
    (hd : ∀ l ∈ ls, Line.isDocAttribute l = false) :
    Exchanged (fun l => Line.isMarker {} l && !Line.isDocLiteral l) Line.isDocLiteral ts
      (ls.map Line.carryDoc) := by
  induction h with
  | nil => exact Exchanged.nil
  | @keep l ls ts hl _ ih =>
    have hliteral : Line.isDocLiteral l = false := by
      apply Bool.eq_false_iff.mpr
      intro hlit
      have ha := hd l List.mem_cons_self
      rw [Line.isDocAttribute_of_isDocLiteral hlit] at ha
      exact absurd ha (by decide)
    have hcarry : Line.carryDoc l = l := by
      rw [Line.carryDoc, hl]
      rfl
    rw [List.map_cons, hcarry]
    refine Exchanged.keep ?_ hliteral (ih (fun k hk => hm k (List.mem_cons_of_mem l hk))
      fun k hk => hd k (List.mem_cons_of_mem l hk))
    rw [hm l List.mem_cons_self]
    rfl
  | @run l s more ls ts hdoc hs _ ih =>
    rw [List.map_append]
    refine Exchanged.swap (r := [s]) (List.cons_ne_nil s []) (by simp) ?_ ?_
      (ih (fun k hk => hm k (List.mem_append_right (l :: more) hk))
        fun k hk => hd k (List.mem_append_right (l :: more) hk))
    · intro k hk
      rw [List.mem_singleton.mp hk, hs.isMarker, hs.isDocLiteral]
      rfl
    · intro k hk
      obtain ⟨doc, hmem, rfl⟩ := List.mem_map.mp hk
      rw [Line.carryDoc, if_pos (hdoc doc hmem)]
      exact Bookend.isDocLiteral_carry doc

end StoodIn

lemma uncarry_carryDoc {l : Line} (hfeed : '\n' ∉ l) (hattr : Line.isDocAttribute l = false)
    (hempty : Line.isDocComment l = true →
      Text.trimLeft l ≠ ['/', '/', '/', ' '] ∧ Text.trimLeft l ≠ ['/', '/', '!', ' ']) :
    Bookend.uncarry (Line.carryDoc l) = l := by
  unfold Line.carryDoc
  split
  · next hdoc => exact Bookend.uncarry_carry hdoc hfeed (hempty hdoc)
  · exact Bookend.uncarry_eq_self hattr

/-! ### Stand-ins and the formatter -/

namespace Bookend

/-- A formatter that changes nothing leaves the stand-in for module documentation as it is. -/
lemma reformatLine_moduleStandIn {format : Text → Except Formatter.Failure Text}
    (h : ∀ t, format t = .ok t) (l : Line) :
    reformatLine {} format l.moduleStandIn = .ok l.moduleStandIn := by
  let content : Text := "doc = module_doc!()".toList
  have hcontent : IsContent content := by decide +kernel +zetaReduce
  have hline : l.moduleStandIn = innerAttribute (indent l) content := by
    rw [Line.moduleStandIn, show "#![doc = module_doc!()]".toList =
      '#' :: '!' :: '[' :: (content ++ [']']) by decide, innerAttribute]
    simp
  rw [hline]
  exact reformatLine_innerAttribute h l hcontent

end Bookend

end DocGraft
