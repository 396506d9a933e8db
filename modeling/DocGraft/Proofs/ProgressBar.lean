import DocGraft.Console
import DocGraft.Progress
import Mathlib.Tactic.Common

/-!
# Bars that follow events

Whatever screen it is on, a bar that keeps its numbers counts a file when it follows an event about
that file. So it never counts more files than there are. Only a detail that cannot be shown keeps
events from being followed. The console keeps its bars: one can always be started, since the line
that names it holds colours at most.
-/

namespace DocGraft

/-! ### Bars on any screen -/

lemma mapM_singleton {ε α β : Type} {f : α → Except ε β} {a : α} {b : β} (h : f a = .ok b) :
    [a].mapM f = .ok [b] := by
  simp [h, pure, Except.pure, bind, Except.bind]

namespace Progress

variable {screen : Screen} {o : Options} {s : State screen} {e : Event} {es : List Event}
  {size : Nat}

/-- The state after several events, whether or not their details can be shown. -/
def advanceAll (screen : Screen) (o : Options) (s : State screen) (es : List Event) :
    State screen :=
  es.foldl (fun s e => (advance screen o s e).state) s

/-- Follows several events. -/
def followAll (screen : Screen) (o : Options) (s : State screen) (es : List Event) :
    Except Fault (State screen) :=
  es.foldlM (fun s e => (follow screen o s e).map Step.state) s

/-- The bar counts some of `size` files, and no more. -/
structure Counts (screen : Screen) (size : Nat) (bar : screen.Bar) : Prop where
  nonneg : 0 ≤ screen.completed bar
  le : screen.completed bar ≤ screen.total bar
  total_eq : screen.total bar = size

lemma start_on_terminal (hkeeps : screen.KeepsBars) (hterminal : o.terminal = true)
    (hquiet : o.quiet = false) (size : Nat) : ∃ first bar, start screen o {} size = .ok first ∧
      first.state.bar = some bar ∧ Counts screen size bar := by
  obtain ⟨bar, hadd, hcompleted, htotal⟩ := hkeeps.addBar size
  have holder : ({} : State screen).older ++ ({} : State screen).bar.toList = [] := rfl
  refine ⟨{ state := { bar := some bar } }, bar, ?_, rfl, ?_⟩
  · rw [start, hquiet, hterminal, if_neg Bool.false_ne_true, if_pos rfl]
    dsimp only
    rw [holder, hadd]
    rfl
  · refine ⟨Int.le_of_eq hcompleted.symm, ?_, htotal⟩
    rw [hcompleted, htotal]
    exact Int.natCast_nonneg size

lemma bar_advance (hquiet : o.quiet = false) (s : State screen) (e : Event) :
    (advance screen o s e).state.bar = s.bar.map (barAfter screen s e) := by
  rw [advance, hquiet, if_neg Bool.false_ne_true]
  dsimp only
  split
  · split
    · rfl
    · split
      · rfl
      · rfl
  · split
    · rfl
    · rfl

lemma barAfter_of_total_ne_zero (hkeeps : screen.KeepsBars) (s : State screen) (h : e.total ≠ 0)
    (bar : screen.Bar) : screen.completed (barAfter screen s e bar) = e.index + 1 ∧
      screen.total (barAfter screen s e bar) = e.total := by
  rw [barAfter, if_pos h]
  exact hkeeps.count _ _ _

/-- A bar that follows an event about one of several files counts this file. -/
lemma counts_barAfter (hkeeps : screen.KeepsBars) (s : State screen) (bar : screen.Bar)
    (htotal : e.total = size) (hindex : 0 ≤ e.index) (hlt : e.index < size) :
    Counts screen size (barAfter screen s e bar) := by
  have hne : e.total ≠ 0 := by omega
  obtain ⟨hcompleted, htotal'⟩ := barAfter_of_total_ne_zero hkeeps s hne bar
  refine ⟨?_, ?_, htotal'.trans htotal⟩
  · omega
  · omega

lemma exists_bar_advanceAll (hkeeps : screen.KeepsBars) (hquiet : o.quiet = false)
    (hes : ∀ e ∈ es, e.total = size ∧ 0 ≤ e.index ∧ e.index < size) {bar : screen.Bar}
    (hbar : s.bar = some bar) (hcounts : Counts screen size bar) :
    ∃ bar', (advanceAll screen o s es).bar = some bar' ∧ Counts screen size bar' := by
  induction es generalizing s bar with
  | nil => exact ⟨bar, hbar, hcounts⟩
  | cons e rest ih =>
    obtain ⟨htotal, hindex, hlt⟩ := hes e List.mem_cons_self
    have hnext : (advance screen o s e).state.bar = some (barAfter screen s e bar) := by
      rw [bar_advance hquiet, hbar, Option.map_some]
    exact ih (fun e' he' => hes e' (List.mem_cons_of_mem e he')) hnext
      (counts_barAfter hkeeps s bar htotal hindex hlt)

/-- A bar has counted all files when the last event was about the last one of them. -/
lemma exists_bar_advanceAll_concat (hkeeps : screen.KeepsBars) (hquiet : o.quiet = false)
    (hes : ∀ e ∈ es, e.total = size ∧ 0 ≤ e.index ∧ e.index < size) (htotal : e.total = size)
    (hindex : e.index + 1 = size) (hpos : 0 < size) {bar : screen.Bar} (hbar : s.bar = some bar)
    (hcounts : Counts screen size bar) :
    ∃ bar', (advanceAll screen o s (es ++ [e])).bar = some bar' ∧
      screen.completed bar' = size ∧ screen.total bar' = size := by
  obtain ⟨before, hbefore, -⟩ := exists_bar_advanceAll hkeeps hquiet hes hbar hcounts
  have hne : e.total ≠ 0 := by omega
  refine ⟨barAfter screen (advanceAll screen o s es) e before, ?_, ?_⟩
  · rw [advanceAll, List.foldl_append]
    change (advance screen o (advanceAll screen o s es) e).state.bar = _
    rw [bar_advance hquiet, hbefore, Option.map_some]
  · obtain ⟨hcompleted, htotal'⟩ :=
      barAfter_of_total_ne_zero hkeeps (advanceAll screen o s es) hne before
    exact ⟨hcompleted.trans hindex, htotal'.trans htotal⟩

/-- A reporter prints nothing about an event, or its detail if it tells details on a terminal. -/
lemma printed_advance (screen : Screen) (o : Options) (s : State screen) (e : Event) :
    (advance screen o s e).printed = [] ∨
      o.verbose = true ∧ o.terminal = true ∧
        (advance screen o s e).printed = [.line (detailLine e)] := by
  unfold advance
  dsimp only
  split
  · exact .inl rfl
  · split
    · next hverbose =>
      split
      · exact .inl rfl
      · split
        · next hterminal => exact .inr ⟨hverbose, hterminal, rfl⟩
        · exact .inl rfl
    · split
      · exact .inl rfl
      · exact .inl rfl

/-- An event is followed, unless its detail is to be shown and cannot be. -/
lemma follow_cases (screen : Screen) (o : Options) (s : State screen) (e : Event) :
    follow screen o s e = .ok (advance screen o s e) ∨
      o.verbose = true ∧ o.terminal = true ∧ ∃ fault,
        screen.line (detailLine e) = .error fault ∧
        follow screen o s e = .error (.screen fault) := by
  unfold follow
  dsimp only
  rcases printed_advance screen o s e with hnone | ⟨hverbose, hterminal, hdetail⟩
  · rw [hnone]
    exact .inl rfl
  · rw [hdetail]
    cases hline : screen.line (detailLine e) with
    | ok shown =>
      have hshow : [Item.line (detailLine e)].mapM (Item.show screen) = .ok [shown] :=
        mapM_singleton hline
      rw [hshow]
      exact .inl rfl
    | error fault =>
      have hshow : [Item.line (detailLine e)].mapM (Item.show screen) = .error fault := by
        simp [Item.show, hline, bind, Except.bind]
      rw [hshow]
      exact .inr ⟨hverbose, hterminal, fault, rfl, rfl⟩

/-- Events are followed to the last one, or to one whose detail cannot be shown. -/
lemma followAll_cases (screen : Screen) (o : Options) (s : State screen) (es : List Event) :
    followAll screen o s es = .ok (advanceAll screen o s es) ∨
      o.verbose = true ∧ o.terminal = true ∧ ∃ e ∈ es, ∃ fault,
        screen.line (detailLine e) = .error fault ∧
        followAll screen o s es = .error (.screen fault) := by
  induction es generalizing s with
  | nil => exact .inl rfl
  | cons e rest ih =>
    have hcons : followAll screen o s (e :: rest) =
        (follow screen o s e).map Step.state >>= fun s => followAll screen o s rest := rfl
    rw [hcons]
    rcases follow_cases screen o s e with hok | ⟨hverbose, hterminal, fault, hline, herror⟩
    · rw [hok]
      rcases ih (advance screen o s e).state with hrest | ⟨hverbose, hterminal, e', he', hrest⟩
      · exact .inl hrest
      · exact .inr ⟨hverbose, hterminal, e', List.mem_cons_of_mem e he', hrest⟩
    · rw [herror]
      exact .inr ⟨hverbose, hterminal, e, List.mem_cons_self, fault, hline, rfl⟩

end Progress

/-! ### The bars of the console -/

namespace Markup

lemma Color.read_cases {word : Text} (h : inBrackets? "rgb" (Text.lower word) = none) :
    Color.read word = .ok (Text.lower word) ∨ Color.read word = .error .unknown := by
  rw [Color.read]
  split
  · exact .inl rfl
  · rw [h]
    exact .inr rfl

/-- The word can be nothing in a style but the name of a colour. -/
structure IsColorWord (t : Text) : Prop where
  words : Style.words t = [t]
  trim : Text.trim t = t
  lower : Text.lower t = t
  no_keyword : String.ofList t ∉ ["none", "on", "not", "link"]
  no_attribute : Attribute.ofName? (String.ofList t) = none
  no_parts : Color.inBrackets? "rgb" t = none

variable {t : Text}

lemma IsColorWord.read_cases (h : IsColorWord t) :
    Style.read t = .ok { color? := some t } ∨ Style.read t = .error .unknown := by
  have hnone : Text.trim t ≠ "none".toList := by
    rw [h.trim]
    rintro rfl
    exact h.no_keyword (by simp)
  have hread : Style.read t =
      Color.read t >>= fun color => Style.add { color? := some color } [] := by
    rw [Style.read, if_neg hnone, h.words, Style.add, h.lower]
    split
    · next heq => exact absurd (by simp [heq]) h.no_keyword
    · next heq => exact absurd (by simp [heq]) h.no_keyword
    · next heq => exact absurd (by simp [heq]) h.no_keyword
    · rw [h.no_attribute]
  rw [hread]
  -- whether the table of colours has the word does not matter
  rcases Color.read_cases (by rw [h.lower, h.no_parts]) with hok | herror
  · rw [hok, h.lower]
    exact .inl rfl
  · rw [herror]
    exact .inr rfl

lemma IsColorWord.styleName (h : IsColorWord t) : styleName t = .ok t := by
  rw [Markup.styleName]
  rcases h.read_cases with hok | herror
  · rw [hok]
    refine congrArg Except.ok ?_
    simp [Style.name, Attribute.all, List.intercalate]
  · rw [herror]
    exact congrArg Except.ok (by rw [h.trim, h.lower])

lemma IsColorWord.addTag (h : IsColorWord t) (hopen : t.head? ≠ some '/') (s : Setting) :
    s.addTag ⟨t, none⟩ = .ok { s with openTags := (⟨t, none⟩, s.text.length) :: s.openTags } := by
  rw [Setting.addTag]
  split
  · next heq =>
    dsimp only at heq
    simp [heq] at hopen
  · rw [Setting.known, h.styleName]
    rfl

end Markup

lemma Console.checkStyle_of_isColorWord {span : Markup.Span} (h : Markup.IsColorWord span.style) :
    checkStyle span = .ok () := by
  rw [checkStyle]
  rcases h.read_cases with hok | herror
  · rw [hok]
  · rw [herror]

lemma forM_eq_ok {ε α : Type} {f : α → Except ε Unit} {xs : List α} (h : ∀ x ∈ xs, f x = .ok ()) :
    xs.forM f = .ok () := by
  induction xs with
  | nil => rfl
  | cons x rest ih =>
    change (f x >>= fun _ => rest.forM f) = .ok ()
    rw [h x List.mem_cons_self]
    exact ih fun y hy => h y (List.mem_cons_of_mem x hy)

/-- A line can be shown if its tags can be read and its styles are harmless. -/
lemma Console.exists_line {markup : String} {t : Text} {spans : List Markup.Span}
    (h : Markup.typeset markup = .ok (t, spans))
    (hspans : ∀ span ∈ spans, checkStyle span = .ok ()) : ∃ shown, line markup = .ok shown := by
  refine ⟨ofLines (Text.wrap width t), ?_⟩
  have hstyles : (spans.filter (keeps t (Text.wrap width t))).forM checkStyle = .ok () :=
    forM_eq_ok fun span hspan => hspans span (List.mem_filter.mp hspan).1
  rw [line, h]
  simp only [bind, Except.bind, hstyles]
  rfl

namespace Console

open Markup (IsColorWord)

lemma isColorWord_description : IsColorWord "progress.description".toList := by
  constructor
  all_goals decide +kernel

lemma isColorWord_cyan : IsColorWord "cyan".toList := by
  constructor
  all_goals decide +kernel

section Pieces

open Markup (Setting Tag Piece)

variable {pieces : List Piece} {content t : Text}

lemma foldlM_text (s : Setting) (t : Text) (pieces : List Piece) :
    (.text t :: pieces).foldlM Setting.add s =
      pieces.foldlM Setting.add { s with text := s.text ++ Markup.printed t } := rfl

lemma foldlM_tag (h : IsColorWord t) (hcontent : Tag.ofContent content = ⟨t, none⟩)
    (hopen : t.head? ≠ some '/') (s : Setting) (pieces : List Piece) :
    (.tag content :: pieces).foldlM Setting.add s =
      pieces.foldlM Setting.add
        { s with openTags := (⟨t, none⟩, s.text.length) :: s.openTags } := by
  rw [List.foldlM_cons, Setting.add, hcontent, h.addTag hopen]
  rfl

end Pieces

lemma typeset_starting : Markup.typeset ("[progress.description]" ++ Screen.starting) =
    .ok ("STARTING".toList,
      [⟨"cyan".toList, "STARTING".toList⟩,
        ⟨"progress.description".toList, "STARTING".toList⟩]) := by
  have hpieces : Markup.pieces ("[progress.description]" ++ Screen.starting).toList =
      [.text [], .text [], .tag "progress.description".toList, .text [], .text [],
        .tag "cyan".toList, .text "STARTING".toList] := by decide +kernel
  have hempty : Markup.printed [] = [] := by decide +kernel
  have hstarting : Markup.printed "STARTING".toList = "STARTING".toList := by decide +kernel
  rw [Markup.typeset, hpieces, foldlM_text, foldlM_text,
    foldlM_tag isColorWord_description (by decide +kernel) (by decide), foldlM_text, foldlM_text,
    foldlM_tag isColorWord_cyan (by decide +kernel) (by decide), foldlM_text, hempty, hstarting]
  rfl

lemma addBar_starting (total : Int) :
    addBar [] Screen.starting total = .ok ⟨Screen.starting, 0, total⟩ := by
  have hstyles : ∀ span ∈ ([⟨"cyan".toList, "STARTING".toList⟩,
      ⟨"progress.description".toList, "STARTING".toList⟩] : List Markup.Span),
      checkStyle span = .ok () := by
    intro span hspan
    simp only [List.mem_cons, List.not_mem_nil, or_false] at hspan
    rcases hspan with rfl | rfl
    · exact checkStyle_of_isColorWord isColorWord_cyan
    · exact checkStyle_of_isColorWord isColorWord_description
  obtain ⟨shown, hshown⟩ := exists_line typeset_starting hstyles
  have hdraws : ([] ++ [(⟨Screen.starting, 0, total⟩ : Bar)]).mapM Bar.draw = .ok [shown] :=
    mapM_singleton hshown
  rw [addBar, hdraws]
  rfl

lemma keepsBars : screen.KeepsBars where
  addBar total := ⟨⟨Screen.starting, 0, total⟩, addBar_starting total, rfl, rfl⟩
  count _ _ _ := ⟨rfl, rfl⟩

end Console

end DocGraft
