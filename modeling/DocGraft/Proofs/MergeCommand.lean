import DocGraft.Cli.Run
import DocGraft.Cli.Usual
import DocGraft.Console
import Mathlib.Tactic.Common

/-!
# Merging one file

A command that merges one file reads both texts, merges them, and writes or prints the result. What
it can end with is told by where it stops: it ends with status zero, or with an error that is told
to the user, or in one of six troubles that nothing handles. Whichever it is, the files are as they
were unless the merged text was written. This holds with any shell that passes on how the program
ends, and on any screen.
-/

namespace DocGraft.Cli

open Formatter (Failure)

section Actions

variable {α β : Type} {w : World} {t t' t'' : Tree} {m : CliM α} {f : α → CliM β}

/-- From every session with the files `t` the action gives the result `r` and leaves the files
`t'`. -/
def Gives (m : CliM α) (t : Tree) (r : Except Stop α) (t' : Tree) : Prop :=
  ∀ x : Session, x.tree = t → (m.run.run x).1 = r ∧ (m.run.run x).2.tree = t'

lemma run_bind (m : CliM α) (f : α → CliM β) (x : Session) :
    (m >>= f).run.run x =
      match m.run.run x with
      | (.ok a, y) => (f a).run.run y
      | (.error s, y) => (.error s, y) := by
  change (match m.run.run x with | (r, y) => (ExceptT.bindCont f r).run y) = _
  rcases m.run.run x with ⟨r, y⟩
  cases r with
  | ok a => rfl
  | error s => rfl

lemma Gives.exists_run {r : Except Stop α} (h : Gives m t r t') {x : Session} (hx : x.tree = t) :
    ∃ y : Session, m.run.run x = (r, y) ∧ y.tree = t' := by
  obtain ⟨hresult, htree⟩ := h x hx
  exact ⟨(m.run.run x).2, Prod.ext hresult rfl, htree⟩

lemma Gives.bind {a : α} {r : Except Stop β} (hm : Gives m t (.ok a) t')
    (hf : Gives (f a) t' r t'') : Gives (m >>= f) t r t'' := by
  intro x hx
  obtain ⟨y, hplay, htree⟩ := hm.exists_run hx
  rw [run_bind, hplay]
  exact hf y htree

lemma Gives.bind_error {s : Stop} (hm : Gives m t (.error s) t') :
    Gives (m >>= f) t (.error s) t' := by
  intro x hx
  obtain ⟨y, hplay, htree⟩ := hm.exists_run hx
  rw [run_bind, hplay]
  exact ⟨rfl, htree⟩

lemma gives_pure (a : α) (t : Tree) : Gives (pure a) t (.ok a) t := fun _ hx => ⟨rfl, hx⟩

lemma gives_stop (s : Stop) (t : Tree) : Gives (stop s : CliM α) t (.error s) t :=
  fun _ hx => ⟨rfl, hx⟩

lemma gives_modify {f : Session → Session} (hf : ∀ x, (f x).tree = x.tree) (t : Tree) :
    Gives (modify f) t (.ok ()) t := fun x hx => ⟨rfl, (hf x).trans hx⟩

lemma gives_tree (t : Tree) : Gives tree t (.ok t) t := fun _ hx => ⟨congrArg Except.ok hx, hx⟩

lemma gives_orStop {ε : Type} {f : ε → Stop} {r : Except ε α} {a : α} (h : r = .ok a) (t : Tree) :
    Gives (orStop f r) t (.ok a) t := by
  rw [h]
  exact gives_pure a t

lemma gives_orStop_error {ε : Type} {f : ε → Stop} {r : Except ε α} {e : ε} (h : r = .error e)
    (t : Tree) : Gives (orStop f r) t (.error (f e)) t := by
  rw [h]
  exact gives_stop (f e) t

lemma gives_print (text : String) (t : Tree) : Gives (print text) t (.ok ()) t :=
  gives_modify (fun _ => rfl) t

lemma gives_tell (text : String) (t : Tree) : Gives (tell text) t (.ok ()) t :=
  gives_modify (fun _ => rfl) t

lemma gives_note (entries : Trace) (t : Tree) : Gives (note entries) t (.ok ()) t :=
  fun _ hx => ⟨rfl, hx⟩

lemma gives_readText {p : Path} {text : Text} (h : t.readText p = .ok text) :
    Gives (readText p) t (.ok text) t :=
  (gives_tree t).bind (gives_orStop h t)

lemma gives_readText_error {p : Path} {fault : ReadFault} (h : t.readText p = .error fault) :
    Gives (readText p) t (.error (.crash (.read fault))) t :=
  (gives_tree t).bind (gives_orStop_error h t)

lemma gives_writeText {p : Path} {text : Text} (h : t.writeText p text = .ok t') :
    Gives (writeText p text) t (.ok ()) t' := by
  refine (gives_tree t).bind ((gives_orStop h t).bind ?_)
  exact fun x hx => ⟨rfl, rfl⟩

lemma gives_writeText_error {p : Path} {text : Text} {e : FileError}
    (h : t.writeText p text = .error e) :
    Gives (writeText p text) t (.error (.crash (.write e))) t :=
  (gives_tree t).bind (gives_orStop_error h t).bind_error

lemma gives_showItem {markup line : String} (h : w.screen.line markup = .ok line) (t : Tree) :
    Gives (showItems w [.line markup]) t (.ok ()) t :=
  (gives_orStop h t).bind ((gives_tell line t).bind (gives_pure () t))

lemma gives_showItem_error {markup : String} {fault : Screen.Fault}
    (h : w.screen.line markup = .error fault) (t : Tree) :
    Gives (showItems w [.line markup]) t (.error (.crash (.screen fault))) t :=
  (gives_orStop_error h t).bind_error

end Actions

/-! ### A request and how it ends -/

namespace MergeRequest

/-- The file that the merged text goes to, if it goes to one. -/
def destination? (r : MergeRequest) : Option Path := if r.inPlace then some r.base else r.output

/-- Both a destination and the place of the base are asked for. -/
def hasTwoPlaces (r : MergeRequest) : Bool := r.inPlace && r.output.isSome

def failureWords (r : MergeRequest) : String :=
  r.direction.name ++ " failed for " ++ r.base.text ++ ": "

/-- The merged text, or why there is none. -/
def mergedText (r : MergeRequest) (w : World) (s : Settings) (form : Form) (t : Tree) :
    Except Stop Text :=
  match t.readText r.base, t.readText r.transformed, Merger.ofSettings s with
  | .error fault, _, _ => .error (.crash (.read fault))
  | .ok _, .error fault, _ => .error (.crash (.read fault))
  | .ok _, .ok _, .error fault => .error (.crash (.formatter fault))
  | .ok base, .ok transformed, .ok merger =>
    (merger.merge w.runner r.direction base transformed).mapError
      (failed form r.failureWords merger.formatter)

/-- What becomes of a merged text, and of the files. -/
def deliver (r : MergeRequest) (w : World) (g : Globals) (t : Tree) (text : Text) :
    Except Stop Unit × Tree :=
  match r.destination? with
  | none => (.ok (), t)
  | some destination =>
    match t.writeText destination text with
    | .error e => (.error (.crash (.write e)), t)
    | .ok t' =>
      if g.quiet then (.ok (), t')
      else
        (((w.screen.line ("Wrote " ++ destination.text)).mapError fun fault =>
          .crash (.screen fault)).map fun _ => (), t')

/-- How a request ends, and the files that it leaves. -/
def ending (r : MergeRequest) (w : World) (g : Globals) (s : Settings) (form : Form) (t : Tree) :
    Except Stop Unit × Tree :=
  if r.hasTwoPlaces then (.error (.complaint form twoPlaces), t)
  else
    match r.mergedText w s form t with
    | .ok text => r.deliver w g t text
    | .error stop => (.error stop, t)

/-- Both texts can be read and are merged with this outcome. -/
def Merges (r : MergeRequest) (w : World) (s : Settings) (t : Tree) (merger : Merger)
    (outcome : Except Failure Text) : Prop :=
  ∃ base transformed, t.readText r.base = .ok base ∧ t.readText r.transformed = .ok transformed ∧
    Merger.ofSettings s = .ok merger ∧
    merger.merge w.runner r.direction base transformed = outcome

/-- What goes wrong in a merge and is not told to the user. -/
inductive Trouble (w : World) (g : Globals) (s : Settings) (t : Tree) (r : MergeRequest) :
    Crash → Prop
  | base {fault} (h : t.readText r.base = .error fault) : Trouble w g s t r (.read fault)
  | transformed {base fault} (hbase : t.readText r.base = .ok base)
      (h : t.readText r.transformed = .error fault) : Trouble w g s t r (.read fault)
  | settings {base transformed fault} (hbase : t.readText r.base = .ok base)
      (htransformed : t.readText r.transformed = .ok transformed)
      (h : Merger.ofSettings s = .error fault) : Trouble w g s t r (.formatter fault)
  | merge {merger failure} (h : r.Merges w s t merger (.error failure))
      (hunexpected : failure.isExpected = false) : Trouble w g s t r (.merge failure)
  | write {merger text destination e} (h : r.Merges w s t merger (.ok text))
      (hdestination : r.destination? = some destination)
      (hwrite : t.writeText destination text = .error e) : Trouble w g s t r (.write e)
  /-- The text is written by then, but its path cannot be shown. -/
  | notice {merger text destination t' fault} (h : r.Merges w s t merger (.ok text))
      (hdestination : r.destination? = some destination)
      (hwrite : t.writeText destination text = .ok t') (hquiet : g.quiet = false)
      (hline : w.screen.line ("Wrote " ++ destination.text) = .error fault) :
      Trouble w g s t r (.screen fault)

/-- The files with the merged text at its destination, if it goes to one. -/
def Delivered (r : MergeRequest) (t : Tree) (text : Text) (t' : Tree) : Prop :=
  match r.destination? with
  | none => t' = t
  | some destination => t.writeText destination text = .ok t'

section Ending

variable {w : World} {g : Globals} {s : Settings} {form : Form} {t : Tree} {r : MergeRequest}
  {c : Crash} {merger : Merger} {text : Text} {failure : Failure}

lemma Merges.mergedText {outcome : Except Failure Text} (h : r.Merges w s t merger outcome)
    (form : Form) :
    r.mergedText w s form t = outcome.mapError (failed form r.failureWords merger.formatter) := by
  obtain ⟨base, transformed, hbase, htransformed, hmerger, hmerge⟩ := h
  rw [MergeRequest.mergedText, hbase, htransformed, hmerger]
  dsimp only
  rw [hmerge]

/-- What the user is told about a failure of the formatter. -/
def complaintOf (r : MergeRequest) (merger : Merger) (failure : Failure) : Complaint :=
  .failure (r.failureWords ++ failure.message merger.formatter)

lemma mergedText_cases (w : World) (g : Globals) (s : Settings) (form : Form) (t : Tree)
    (r : MergeRequest) :
    (∃ c, r.mergedText w s form t = .error (.crash c) ∧ Trouble w g s t r c) ∨
    (∃ merger failure, r.Merges w s t merger (.error failure) ∧ failure.isExpected = true ∧
      r.mergedText w s form t = .error (.complaint form (r.complaintOf merger failure))) ∨
    ∃ merger text, r.Merges w s t merger (.ok text) ∧ r.mergedText w s form t = .ok text := by
  cases hbase : t.readText r.base with
  | error fault =>
    refine .inl ⟨.read fault, ?_, .base hbase⟩
    rw [MergeRequest.mergedText, hbase]
  | ok base =>
  cases htransformed : t.readText r.transformed with
  | error fault =>
    refine .inl ⟨.read fault, ?_, .transformed hbase htransformed⟩
    rw [MergeRequest.mergedText, hbase, htransformed]
  | ok transformed =>
  cases hmerger : Merger.ofSettings s with
  | error fault =>
    refine .inl ⟨.formatter fault, ?_, .settings hbase htransformed hmerger⟩
    rw [MergeRequest.mergedText, hbase, htransformed, hmerger]
  | ok merger =>
  have hmerges : r.Merges w s t merger (merger.merge w.runner r.direction base transformed) :=
    ⟨base, transformed, hbase, htransformed, hmerger, rfl⟩
  have htext := hmerges.mergedText form
  cases hmerge : merger.merge w.runner r.direction base transformed with
  | ok text =>
    rw [hmerge] at hmerges htext
    exact .inr (.inr ⟨merger, text, hmerges, htext⟩)
  | error failure =>
    rw [hmerge] at hmerges htext
    rw [Except.mapError, failed] at htext
    cases hexpected : failure.isExpected with
    | true =>
      rw [if_pos hexpected] at htext
      exact .inr (.inl ⟨merger, failure, hmerges, hexpected, htext⟩)
    | false =>
      rw [if_neg (by simp [hexpected])] at htext
      exact .inl ⟨.merge failure, htext, .merge hmerges hexpected⟩

/-- A merged text is delivered, and only then something can go wrong that leaves it where it is. -/
lemma Merges.deliver_cases (g : Globals) (h : r.Merges w s t merger (.ok text)) :
    (∃ e, r.deliver w g t text = (.error (.crash (.write e)), t) ∧ Trouble w g s t r (.write e)) ∨
    ∃ t', r.Delivered t text t' ∧ (r.deliver w g t text = (.ok (), t') ∨
      ∃ fault, r.deliver w g t text = (.error (.crash (.screen fault)), t') ∧
        Trouble w g s t r (.screen fault)) := by
  unfold deliver Delivered
  cases hdestination : r.destination? with
  | none => exact .inr ⟨t, rfl, .inl rfl⟩
  | some destination =>
  dsimp only
  cases hwrite : t.writeText destination text with
  | error e => exact .inl ⟨e, rfl, .write h hdestination hwrite⟩
  | ok t' =>
  refine .inr ⟨t', rfl, ?_⟩
  dsimp only
  cases hquiet : g.quiet with
  | true => exact .inl rfl
  | false =>
    cases hline : w.screen.line ("Wrote " ++ destination.text) with
    | ok line => exact .inl rfl
    | error fault => exact .inr ⟨fault, rfl, .notice h hdestination hwrite hquiet hline⟩

lemma ending_cases (w : World) (g : Globals) (s : Settings) (form : Form) (t : Tree)
    (r : MergeRequest) :
    (r.hasTwoPlaces = true ∧
      r.ending w g s form t = (.error (.complaint form twoPlaces), t)) ∨
    r.hasTwoPlaces = false ∧
      ((∃ c, Trouble w g s t r c ∧ r.ending w g s form t = (.error (.crash c), t)) ∨
      (∃ merger failure, r.Merges w s t merger (.error failure) ∧ failure.isExpected = true ∧
        r.ending w g s form t = (.error (.complaint form (r.complaintOf merger failure)), t)) ∨
      ∃ merger text t', r.Merges w s t merger (.ok text) ∧ r.Delivered t text t' ∧
        (r.ending w g s form t = (.ok (), t') ∨
          ∃ fault, r.ending w g s form t = (.error (.crash (.screen fault)), t') ∧
            Trouble w g s t r (.screen fault))) := by
  unfold ending
  cases hplaces : r.hasTwoPlaces with
  | true => exact .inl ⟨rfl, rfl⟩
  | false =>
  refine .inr ⟨rfl, ?_⟩
  rw [if_neg Bool.false_ne_true]
  obtain ⟨c, htext, htrouble⟩ | ⟨merger, failure, hmerges, hexpected, htext⟩ |
    ⟨merger, text, hmerges, htext⟩ := mergedText_cases w g s form t r
  · rw [htext]
    exact .inl ⟨c, htrouble, rfl⟩
  · rw [htext]
    exact .inr (.inl ⟨merger, failure, hmerges, hexpected, rfl⟩)
  · rw [htext]
    obtain ⟨e, hdeliver, htrouble⟩ | ⟨t', hdelivered, hend⟩ := hmerges.deliver_cases g
    · exact .inl ⟨.write e, htrouble, hdeliver⟩
    · exact .inr (.inr ⟨merger, text, t', hmerges, hdelivered, hend⟩)

lemma Merges.ending (h : r.Merges w s t merger (.ok text)) (hplaces : r.hasTwoPlaces = false) :
    r.ending w g s form t = r.deliver w g t text := by
  rw [MergeRequest.ending, hplaces, if_neg Bool.false_ne_true, h.mergedText form]
  rfl

lemma ending_of_error {stop : Stop} (h : r.mergedText w s form t = .error stop)
    (hplaces : r.hasTwoPlaces = false) : r.ending w g s form t = (.error stop, t) := by
  rw [MergeRequest.ending, hplaces, if_neg Bool.false_ne_true, h]

lemma Trouble.ending (h : Trouble w g s t r c) (hplaces : r.hasTwoPlaces = false) :
    (r.ending w g s form t).1 = .error (.crash c) := by
  cases h with
  | base h => rw [ending_of_error (by rw [mergedText, h]) hplaces]
  | transformed hbase h => rw [ending_of_error (by rw [mergedText, hbase, h]) hplaces]
  | settings hbase htransformed h =>
    rw [ending_of_error (by rw [mergedText, hbase, htransformed, h]) hplaces]
  | @merge _ failure h hunexpected =>
    have htext : r.mergedText w s form t = .error (.crash (.merge failure)) := by
      rw [h.mergedText form, Except.mapError, failed, if_neg (by simp [hunexpected])]
    rw [ending_of_error htext hplaces]
  | write h hdestination hwrite =>
    rw [h.ending hplaces, deliver, hdestination]
    dsimp only
    rw [hwrite]
  | notice h hdestination hwrite hquiet hline =>
    rw [h.ending hplaces, deliver, hdestination]
    dsimp only
    rw [hwrite]
    dsimp only
    rw [hquiet, hline]
    rfl

end Ending

end MergeRequest

/-! ### The command and its request -/

def delivery (w : World) (g : Globals) (r : MergeRequest) (text : Text) : CliM Unit :=
  match r.destination? with
  | some destination => do
    writeText destination text
    if !g.quiet then showItems w [.line ("Wrote " ++ destination.text)] else return ()
  | none => if !r.showDiff then echo w (String.ofList text) else return ()

lemma gives_delivery (w : World) (g : Globals) (r : MergeRequest) (text : Text) (t : Tree) :
    Gives (delivery w g r text) t (r.deliver w g t text).1 (r.deliver w g t text).2 := by
  unfold delivery MergeRequest.deliver
  cases r.destination? with
  | none =>
    dsimp only
    split
    · exact gives_print _ t
    · exact gives_pure () t
  | some destination =>
    dsimp only
    cases hwrite : t.writeText destination text with
    | error e => exact (gives_writeText_error hwrite).bind_error
    | ok t' =>
      refine (gives_writeText hwrite).bind ?_
      cases g.quiet with
      | true => exact gives_pure () t'
      | false =>
        cases hline : w.screen.line ("Wrote " ++ destination.text) with
        | ok line => exact gives_showItem hline t'
        | error fault => exact gives_showItem_error hline t'

lemma gives_runMerge (w : World) (g : Globals) (s : Settings) (form : Form) (r : MergeRequest)
    (t : Tree) :
    Gives (runMerge w g s form r) t (r.ending w g s form t).1 (r.ending w g s form t).2 := by
  unfold MergeRequest.ending
  by_cases hplaces : r.hasTwoPlaces = true
  · rw [if_pos hplaces]
    unfold runMerge
    dsimp only
    rw [if_pos (show (r.inPlace && r.output.isSome) = true from hplaces)]
    exact (gives_stop _ t).bind_error
  rw [if_neg hplaces]
  unfold runMerge MergeRequest.mergedText
  dsimp only
  rw [if_neg (show ¬(r.inPlace && r.output.isSome) = true from hplaces)]
  -- up to the delivery each step stops the command or leaves the files as they are
  cases hbase : t.readText r.base with
  | error fault => exact (gives_readText_error hbase).bind_error
  | ok base =>
  refine (gives_readText hbase).bind ?_
  cases htransformed : t.readText r.transformed with
  | error fault => exact (gives_readText_error htransformed).bind_error
  | ok transformed =>
  refine (gives_readText htransformed).bind ?_
  cases hmerger : Merger.ofSettings s with
  | error fault => exact (gives_orStop_error hmerger t).bind_error
  | ok merger =>
  refine (gives_orStop hmerger t).bind ((gives_note _ t).bind ?_)
  dsimp only
  cases hplan : merger.plan w.runner r.direction base transformed with
  | error failure =>
    have hmerge : merger.merge w.runner r.direction base transformed = .error failure := by
      rw [Merger.merge, hplan]
      rfl
    rw [hmerge]
    exact (gives_orStop_error rfl t).bind_error
  | ok plan =>
  have hmerge : merger.merge w.runner r.direction base transformed =
      merger.apply w.runner plan := by
    rw [Merger.merge, hplan]
    rfl
  rw [hmerge]
  refine (gives_orStop rfl t).bind ?_
  cases happly : merger.apply w.runner plan with
  | error failure => exact (gives_orStop_error rfl t).bind_error
  | ok text =>
  refine (gives_orStop rfl t).bind ((gives_note _ t).bind ?_)
  split
  · exact (gives_print _ t).bind (gives_delivery w g r text t)
  · exact gives_delivery w g r text t

/-! ### The command line -/

/-- The shell reads the arguments as a request for a merge, and the settings can be loaded. -/
structure Reads (w : World) (t : Tree) (args : List String) (g : Globals) (s : Settings)
    (v : Verb) (r : MergeRequest) : Prop where
  arguments : ∃ group own arguments, w.shell.read t .group args = .ok group ∧
    w.shell.choose t group.rest = .ok (v, own) ∧
    w.shell.read t (.command v) own = .ok arguments ∧
    Globals.ofArguments group = g ∧ Command.ofArguments v arguments = .merge r
  settings : ∃ user project, content? t (w.home.append userPlace) = .ok user ∧
    content? t (g.config.getD projectFile) = .ok project ∧
    Settings.load user project g.named = .ok s
  rank : ∃ rank, threshold g s.general.logLevel = .ok rank

section CommandLine

variable {w : World} {g : Globals} {s : Settings} {v : Verb} {t t' : Tree} {r : MergeRequest}
  {args : List String}

lemma gives_readContent {p : Path} {content : Option (List UInt8)}
    (h : content? t p = .ok content) :
    Gives (readContent p) t (.ok content) t :=
  (gives_tree t).bind (gives_orStop h t)

lemma Reads.execute (h : Reads w t args g s v r) :
    Gives (execute w args) t (r.ending w g s (.command v) t).1
      (r.ending w g s (.command v) t).2 := by
  obtain ⟨group, own, arguments, hgroup, hverb, harguments, rfl, hcommand⟩ := h.arguments
  obtain ⟨user, project, huser, hproject, hload⟩ := h.settings
  obtain ⟨rank, hrank⟩ := h.rank
  unfold Cli.execute
  refine (gives_tree t).bind ((gives_orStop hgroup t).bind ?_)
  refine (gives_tree t).bind ((gives_orStop hverb t).bind ?_)
  have hsettings : Gives (loadSettings w (Globals.ofArguments group)) t (.ok s) t :=
    (gives_readContent huser).bind ((gives_readContent hproject).bind (gives_orStop hload t))
  refine hsettings.bind ((gives_orStop hrank t).bind ?_)
  have hmodify := gives_modify (f := fun x => { x with rank := rank }) (fun _ => rfl) t
  refine hmodify.bind ((gives_tree t).bind ((gives_orStop harguments t).bind ?_))
  rw [hcommand]
  exact gives_runMerge w _ s (.command v) r t

lemma run_of_gives_ok (hshell : w.shell.IsLawful) (h : Gives (execute w args) t (.ok ()) t') :
    (run w t args).status = 0 ∧ (run w t args).crash = none ∧ (run w t args).tree = t' := by
  obtain ⟨x, hplay, htree⟩ := h.exists_run (x := { tree := t }) rfl
  unfold run
  rw [hplay]
  exact ⟨hshell.returned, rfl, htree⟩

/-- The result has a status, and a message among its errors. -/
def Result.Tells (result : Result) (status : Nat) (message : String) : Prop :=
  result.status = status ∧ message.toList <:+: result.errors.toList

lemma run_of_gives_complaint {form : Form} {c : Complaint} {status : Nat} {message : String}
    (hshell : (w.shell.conclude (.complaint form c)).Tells status message)
    (h : Gives (execute w args) t (.error (.complaint form c)) t') :
    (run w t args).Tells status message ∧ (run w t args).crash = none ∧
      (run w t args).tree = t' := by
  obtain ⟨x, hplay, htree⟩ := h.exists_run (x := { tree := t }) rfl
  unfold run
  rw [hplay]
  refine ⟨⟨hshell.1, ?_⟩, rfl, htree⟩
  have hwords : (Result.of (w.shell.conclude (.complaint form c)) none x).errors.toList =
      x.errors.toList ++ (w.shell.conclude (.complaint form c)).errors.toList :=
    String.toList_append
  change _ <:+: (Result.of (w.shell.conclude (.complaint form c)) none x).errors.toList
  rw [hwords]
  exact hshell.2.trans (List.suffix_append _ _).isInfix

lemma run_of_gives_crash {c : Crash} (h : Gives (execute w args) t (.error (.crash c)) t') :
    (run w t args).status = 1 ∧ (run w t args).crash = some c ∧ (run w t args).tree = t' := by
  obtain ⟨x, hplay, htree⟩ := h.exists_run (x := { tree := t }) rfl
  unfold run
  rw [hplay]
  exact ⟨rfl, rfl, htree⟩

/-- With a shell that passes on how the program ends, a command that merges one file ends with
status zero or with an error that is told to the user, unless a trouble comes up that nothing
handles: a text cannot be read, the settings give no merger, the formatter may not be run or a name
is missing, the destination cannot be written, or its path cannot be shown. Unless it ends with
status zero the files are as before, but for the last of these troubles, which comes up after the
merged text is written. -/
theorem merge_fails_cleanly_unless_troubled (hshell : w.shell.IsLawful)
    (hreads : Reads w t args g s v r) :
    let result := run w t args
    ((result.status = 0 ∧ result.crash = none ∧
        ∃ merger text, r.Merges w s t merger (.ok text) ∧ r.Delivered t text result.tree) ∨
      (result.crash = none ∧ result.tree = t ∧
        (r.hasTwoPlaces = true ∧ result.Tells 2
            (w.shell.plain "--in-place and --output are mutually exclusive") ∨
          ∃ merger failure, r.Merges w s t merger (.error failure) ∧ failure.isExpected = true ∧
            result.Tells 1
              (w.shell.plain (r.failureWords ++ failure.message merger.formatter)))) ∨
      result.status = 1 ∧ ∃ c, result.crash = some c ∧ r.Trouble w g s t c ∧
        (result.tree = t ∨ ∃ fault merger text, c = .screen fault ∧
          r.Merges w s t merger (.ok text) ∧ r.Delivered t text result.tree)) ∧
    ∀ c, r.hasTwoPlaces = false → r.Trouble w g s t c → result.crash = some c := by
  intro result
  have hgives := hreads.execute
  refine ⟨?_, fun c hplaces htrouble => ?_⟩
  · obtain ⟨hplaces, hend⟩ | ⟨-, ⟨c, htrouble, hend⟩ |
      ⟨merger, failure, hmerges, hexpected, hend⟩ |
      ⟨merger, text, t', hmerges, hdelivered, hend | ⟨fault, hend, htrouble⟩⟩⟩ :=
      MergeRequest.ending_cases w g s (.command v) t r
    · rw [hend] at hgives
      obtain ⟨htells, hcrash, htree⟩ := run_of_gives_complaint (hshell.usage _ _) hgives
      exact .inr (.inl ⟨hcrash, htree, .inl ⟨hplaces, htells⟩⟩)
    · rw [hend] at hgives
      obtain ⟨hstatus, hcrash, htree⟩ := run_of_gives_crash hgives
      exact .inr (.inr ⟨hstatus, c, hcrash, htrouble, .inl htree⟩)
    · rw [hend] at hgives
      obtain ⟨htells, hcrash, htree⟩ := run_of_gives_complaint (hshell.failure _ _) hgives
      exact .inr (.inl ⟨hcrash, htree, .inr ⟨merger, failure, hmerges, hexpected, htells⟩⟩)
    · rw [hend] at hgives
      obtain ⟨hstatus, hcrash, htree⟩ := run_of_gives_ok hshell hgives
      exact .inl ⟨hstatus, hcrash, merger, text, hmerges, htree ▸ hdelivered⟩
    · rw [hend] at hgives
      obtain ⟨hstatus, hcrash, htree⟩ := run_of_gives_crash hgives
      exact .inr (.inr ⟨hstatus, .screen fault, hcrash, htrouble,
        .inr ⟨fault, merger, text, rfl, hmerges, htree ▸ hdelivered⟩⟩)
  · have hcrash : Gives (execute w args) t (.error (.crash c))
        (r.ending w g s (.command v) t).2 := by
      rw [← htrouble.ending hplaces]
      exact hgives
    exact (run_of_gives_crash hcrash).2.1

/-! ### The usual shell -/

lemma Form.infix_explain (f : Form) (shown : Bool) (message : String) :
    (unstyled message).toList <:+: (f.explain shown message).toList := by
  unfold explain
  simp only [String.toList_append]
  exact List.infix_append _ _ _

lemma Shell.isLawful_usual : Shell.usual.IsLawful where
  returned := rfl
  usage f message := ⟨rfl, f.infix_explain true message⟩
  failure f message := ⟨rfl, f.infix_explain false message⟩

lemma eq_ok_of_toOption {ε α : Type} {r : Except ε α} {a : α} (h : r.toOption = some a) :
    r = .ok a := by
  cases r with
  | ok b => exact congrArg Except.ok (Option.some.inj h)
  | error e => simp [Except.toOption] at h

/-- A formatter that exits with status one fails a merge, which is told. The destination starts from
the root. -/
theorem merge_fails_cleanly_when_formatter_exits :
    let w : World := ⟨fun _ => .finished 1 [] [], .usual, Console.screen, ⟨.root, ["home"]⟩, ""⟩
    let t : Tree :=
      { files := [(["w", "a.rs"], Utf8.encode "fn f() {}\n".toList),
          (["w", "b.rs"], Utf8.encode "#[omnidoc]\nfn f() {}\n".toList)]
        here := ["w"] }
    let args := ["migrate", "-o", "/w/c.rs", "a.rs", "b.rs"]
    let r : MergeRequest := ⟨.migrate, ⟨.here, ["a.rs"]⟩, ⟨.here, ["b.rs"]⟩,
      some ⟨.root, ["w", "c.rs"]⟩, false, false⟩
    w.shell.IsLawful ∧ Reads w t args {} {} .migrate r ∧ (run w t args).status = 1 ∧
      (run w t args).crash = none ∧ (run w t args).tree = t := by
  intro w t args r
  have hreads : Reads w t args {} {} .migrate r := by
    have hgroup : (Form.group.read t args).toOption =
        some ⟨[], [], rfl, args⟩ := by decide +kernel
    have hcommand : ((Form.command .migrate).read t ["-o", "/w/c.rs", "a.rs", "b.rs"]).toOption =
        some ⟨[⟨.output, ["/w/c.rs"]⟩], ["a.rs", "b.rs"], rfl, []⟩ := by decide +kernel
    have huser : (content? t (w.home.append userPlace)).toOption = some none := by decide +kernel
    have hproject : (content? t projectFile).toOption = some none := by decide +kernel
    refine ⟨⟨_, ["-o", "/w/c.rs", "a.rs", "b.rs"], _, eq_ok_of_toOption hgroup, rfl,
      eq_ok_of_toOption hcommand, rfl, ?_⟩, ⟨none, none, eq_ok_of_toOption huser,
      eq_ok_of_toOption hproject, rfl⟩, 30, rfl⟩
    decide +kernel
  have hstatus : (run w t args).status = 1 := by decide +kernel
  have hcrash : (run w t args).crash.isSome = false := by decide +kernel
  obtain ⟨hend, -⟩ := merge_fails_cleanly_unless_troubled Shell.isLawful_usual hreads
  obtain ⟨hzero, -⟩ | ⟨hnone, htree, -⟩ | ⟨-, c, hsome, -⟩ := hend
  · exact absurd (hzero.symm.trans hstatus) (by decide)
  · exact ⟨Shell.isLawful_usual, hreads, hstatus, hnone, htree⟩
  · rw [hsome] at hcrash
    exact absurd hcrash (by simp)

/-- An original that is no UTF-8 ends a merge without a word. -/
theorem unreadable_original_is_not_explained :
    let w : World := ⟨fun t => .finished 0 (Utf8.encode t) [], .usual, Console.screen,
      ⟨.root, ["home"]⟩, ""⟩
    let t : Tree :=
      { files := [(["a.rs"], [255]), (["b.rs"], Utf8.encode "fn f() {}\n".toList)] }
    (run w t ["migrate", "a.rs", "b.rs"]).crash.isSome = true ∧
      (run w t ["migrate", "a.rs", "b.rs"]).errors = "" := by
  decide +kernel

end CommandLine

end DocGraft.Cli
