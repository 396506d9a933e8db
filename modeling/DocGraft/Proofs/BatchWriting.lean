import DocGraft.Batch.Run
import DocGraft.Proofs.FilePlaces
import DocGraft.Proofs.JobReports

/-!
# Writing the results of a batch

When a pool is done, its jobs take turns in their order: each writes its text, if it has one, and a
fault makes its report a failure. What a run gives is told here by these turns alone. A turn changes
the file at the place its output leads to and no other one.
-/

namespace DocGraft

/-- The outputs of the two jobs never lead to one place. -/
def Job.WritesApart (j j' : Job) : Prop :=
  ∀ (t : Tree) (q : Place), t.place j.output = .ok q → t.place j'.output ≠ .ok q

lemma Job.WritesApart.symm {j j' : Job} (h : j.WritesApart j') : j'.WritesApart j :=
  fun t q hq hq' => h t q hq' hq

/-! ### Turns -/

namespace Batch

variable (b : Batch)

/-- The tree after a job had its turn, and the fault if its text could not be written. -/
def turn (t : Tree) (job : Job) (m : Job.Merged) : Tree × Option FileError :=
  match m.text, b.dryRun with
  | some text, false => writeJob t job text
  | _, _ => (t, none)

/-- The report on a job after its turn. -/
def settled (job : Job) (m : Job.Merged) : Option FileError → FileReport
  | none => m.report
  | some e => Job.failed job.name e.message

/-- The tree after several jobs had their turns. -/
def treeAfter (t : Tree) : List (Job × Job.Merged) → Tree
  | [] => t
  | (job, m) :: rest => treeAfter (b.turn t job m).1 rest

def filesAfter (t : Tree) : List (Job × Job.Merged) → List FileReport
  | [] => []
  | (job, m) :: rest =>
    settled job m (b.turn t job m).2 :: filesAfter (b.turn t job m).1 rest

/-- The faults in the turns of several jobs. -/
def faultsAfter (t : Tree) : List (Job × Job.Merged) → List FileError
  | [] => []
  | (job, m) :: rest => (b.turn t job m).2.toList ++ faultsAfter (b.turn t job m).1 rest

/-- A job by its number, with what it gives. -/
def given? (ends : Endings) (i : Nat) : Option (Job × Job.Merged) :=
  match b.jobs[i]?, b.resultAt ends i with
  | some job, some (.ok m) => some (job, m)
  | _, _ => none

variable {b} {ends : Endings} {tree t : Tree} {job : Job} {m : Job.Merged} {i : Nat}
  {given : List (Job × Job.Merged)}

lemma given?_eq_some_iff : b.given? ends i = some (job, m) ↔
    b.jobs[i]? = some job ∧ (ends i job).result = .ok m := by
  unfold given? resultAt
  cases hjob : b.jobs[i]? with
  | none => simp
  | some found =>
    cases hresult : (ends i found).result with
    | error abort =>
      simp only [Option.map_some, hresult]
      constructor
      · simp
      · rintro ⟨h, h'⟩
        obtain rfl := Option.some.inj h
        simp [hresult] at h'
    | ok found' =>
      simp only [Option.map_some, hresult, Option.some.injEq, Prod.mk.injEq]
      constructor
      · rintro ⟨rfl, rfl⟩
        exact ⟨rfl, hresult⟩
      · rintro ⟨rfl, h⟩
        exact ⟨rfl, Except.ok.inj (hresult.symm.trans h)⟩

lemma exists_of_resultAt (hjob : b.jobs[i]? = some job)
    (h : ∀ abort, b.resultAt ends i ≠ some (.error abort)) :
    ∃ m, (ends i job).result = .ok m := by
  cases hresult : (ends i job).result with
  | ok m => exact ⟨m, rfl⟩
  | error abort =>
    refine absurd ?_ (h abort)
    rw [resultAt, hjob, Option.map_some, hresult]

/-! ### A run by its turns -/

lemma tree_writeOne (b : Batch) (w : Writing) (i : Nat) (job : Job) (m : Job.Merged) :
    (b.writeOne w i job m).tree = (b.turn w.tree job m).1 := by
  unfold writeOne turn
  cases htext : m.text with
  | none => rfl
  | some text =>
    cases hdry : b.dryRun with
    | true => rfl
    | false =>
      dsimp only
      rcases hwrite : writeJob w.tree job text with ⟨t, fault⟩
      cases fault with
      | none => rfl
      | some e =>
        dsimp only
        split
        · rfl
        · rfl

/-- A turn ends the run if the path is none, and otherwise settles the report. -/
lemma writeOne_cases (b : Batch) (w : Writing) (i : Nat) (job : Job) (m : Job.Merged) :
    (∃ e, (b.turn w.tree job m).2 = some e ∧ e.fault = .nullCharacter ∧
        (b.writeOne w i job m).abort = some (.file e)) ∨
      (∀ e, (b.turn w.tree job m).2 = some e → e.fault ≠ .nullCharacter) ∧
        (b.writeOne w i job m).abort = w.abort ∧
        (b.writeOne w i job m).files = w.files ++ [settled job m (b.turn w.tree job m).2] := by
  unfold writeOne turn
  cases htext : m.text with
  | none => exact .inr ⟨by simp, rfl, rfl⟩
  | some text =>
    cases hdry : b.dryRun with
    | true => exact .inr ⟨by simp, rfl, rfl⟩
    | false =>
      dsimp only
      rcases hwrite : writeJob w.tree job text with ⟨t, fault⟩
      cases fault with
      | none => exact .inr ⟨by simp, rfl, rfl⟩
      | some e =>
        by_cases hnull : e.fault = .nullCharacter
        · exact .inl ⟨e, rfl, hnull, by simp [hnull]⟩
        · refine .inr ⟨?_, by simp [hnull], by simp [hnull, settled]⟩
          intro e' he'
          obtain rfl := Option.some.inj he'
          exact hnull

lemma writeAll_nil (w : Writing) : b.writeAll ends w [] = w := rfl

lemma writeAll_of_abort {w : Writing} (h : w.abort ≠ none) (is : List Nat) :
    b.writeAll ends w is = w := by
  cases is with
  | nil => rfl
  | cons i rest =>
    obtain ⟨abort, habort⟩ := Option.ne_none_iff_exists'.mp h
    rw [writeAll, habort]

lemma writeAll_cons {w : Writing} (h : w.abort = none) (i : Nat) (rest : List Nat) :
    b.writeAll ends w (i :: rest) =
      b.writeAll ends (match b.given? ends i with
        | some (job, m) => b.writeOne w i job m
        | none => w) rest := by
  rw [writeAll, h]
  cases hgiven : b.given? ends i with
  | some pair =>
    obtain ⟨job, m⟩ := pair
    obtain ⟨hjob, hmerge⟩ := given?_eq_some_iff.mp hgiven
    simp [resultAt, hjob, hmerge]
  | none =>
    unfold given? at hgiven
    split at hgiven
    · simp at hgiven
    · next hnone =>
      split
      · next job m _ hjob hmerge => exact absurd hmerge (hnone job m hjob)
      · next habort => simp at habort
      · rfl

/-- What every turn keeps, the writing keeps. -/
lemma writeAll_keeps {p : Writing → Prop}
    (hturn : ∀ w i job m, b.given? ends i = some (job, m) → p w → p (b.writeOne w i job m))
    {w : Writing} (hw : p w) (is : List Nat) : p (b.writeAll ends w is) := by
  induction is generalizing w with
  | nil => exact hw
  | cons i rest ih =>
    by_cases habort : w.abort = none
    · rw [writeAll_cons habort]
      apply ih
      split
      · next job m hgiven => exact hturn w i job m hgiven hw
      · exact hw
    · rw [writeAll_of_abort habort]
      exact hw

/-- Jobs write in turns, up to a fault of a path that is none. -/
lemma writeAll_eq (b : Batch) (ends : Endings) {w : Writing} (hw : w.abort = none)
    (is : List Nat) :
    let given := is.filterMap (b.given? ends)
    let after := b.writeAll ends w is
    (∃ e ∈ b.faultsAfter w.tree given, e.fault = .nullCharacter ∧ after.abort = some (.file e)) ∨
      (∀ e ∈ b.faultsAfter w.tree given, e.fault ≠ .nullCharacter) ∧ after.abort = none ∧
        after.tree = b.treeAfter w.tree given ∧
        after.files = w.files ++ b.filesAfter w.tree given := by
  induction is generalizing w with
  | nil => exact .inr ⟨by simp [faultsAfter], hw, rfl, by simp [filesAfter, writeAll_nil]⟩
  | cons i rest ih =>
    rw [writeAll_cons hw]
    cases hgiven : b.given? ends i with
    | none =>
      rw [List.filterMap_cons_none hgiven]
      exact ih hw
    | some pair =>
      obtain ⟨job, m⟩ := pair
      rw [List.filterMap_cons_some hgiven]
      simp only [faultsAfter, treeAfter, filesAfter, List.mem_append, Option.mem_toList]
      rw [← tree_writeOne b w i]
      rcases writeOne_cases b w i job m with ⟨e, he, hnull, habort⟩ | ⟨hfault, habort, hfiles⟩
      · rw [writeAll_of_abort (by simp [habort])]
        exact .inl ⟨e, .inl he, hnull, habort⟩
      · rcases ih (habort.trans hw) with ⟨e, he, hnull, hafter⟩ | ⟨hfaults, hafter, htree, hall⟩
        · exact .inl ⟨e, .inr he, hnull, hafter⟩
        · refine .inr ⟨?_, hafter, htree, ?_⟩
          · rintro e (he | he)
            · exact hfault e he
            · exact hfaults e he
          · rw [hall, hfiles, List.append_assoc, List.singleton_append]

/-! ### Results that are collected -/

/-- Collecting comes to an end, or to the first job without a report. -/
lemma collectingAll_cases (b : Batch) (ends : Endings) (pool : Pool) (done : Nat)
    (is : List Nat) :
    (∃ i ∈ is, ∃ abort, b.resultAt ends i = some (.error abort) ∧
        (b.collectingAll ends pool done is).2 = some abort) ∨
      (∀ i ∈ is, ∀ abort, b.resultAt ends i ≠ some (.error abort)) ∧
        (b.collectingAll ends pool done is).2 = none := by
  induction is generalizing done with
  | nil => exact .inr ⟨by simp, rfl⟩
  | cons i rest ih =>
    rw [collectingAll]
    split
    · next job m hjob hmerge =>
      rcases ih (done + 1) with ⟨j, hj, abort, hmergej, hall⟩ | ⟨hgood, hall⟩
      · exact .inl ⟨j, List.mem_cons_of_mem i hj, abort, hmergej, hall⟩
      · refine .inr ⟨?_, hall⟩
        intro j hj abort
        rcases List.mem_cons.mp hj with rfl | hj
        · simp [hmerge]
        · exact hgood j hj abort
    · next job abort hjob hmerge => exact .inl ⟨i, List.mem_cons_self, abort, hmerge, rfl⟩
    · next hok herror =>
      rcases ih done with ⟨j, hj, abort, hmergej, hall⟩ | ⟨hgood, hall⟩
      · exact .inl ⟨j, List.mem_cons_of_mem i hj, abort, hmergej, hall⟩
      · refine .inr ⟨?_, hall⟩
        intro j hj abort hmergej
        rcases List.mem_cons.mp hj with rfl | hj
        · cases hjob : b.jobs[j]? with
          | none => simp [resultAt, hjob] at hmergej
          | some job => exact herror job abort hjob hmergej
        · exact hgood j hj abort hmergej

/-- The jobs of a pool that were collected, in their order, with what they give. -/
def gathered (b : Batch) (ends : Endings) (pool : Pool) :
    List (Job × Job.Merged) :=
  (b.inJobOrder pool).filterMap (b.given? ends)

/-- How a run ends: with a job that gives no report and nothing written, with a path that is none,
or with the reports of all turns. -/
lemma conclude_cases (b : Batch) (ends : Endings) (tree : Tree) (pool : Pool) :
    let given := b.gathered ends pool
    let outcome := b.conclude ends tree pool
    (∃ i ∈ pool.collected, ∃ abort, b.resultAt ends i = some (.error abort) ∧
        outcome.report = .error (.job abort) ∧ outcome.tree = tree) ∨
      (∀ i ∈ pool.collected, ∀ abort, b.resultAt ends i ≠ some (.error abort)) ∧
        ((∃ e ∈ b.faultsAfter tree given, e.fault = .nullCharacter ∧
            outcome.report = .error (.job (.file e)) ∧
            outcome.tree = (b.writeAll ends { tree := tree } (b.inJobOrder pool)).tree) ∨
          (∀ e ∈ b.faultsAfter tree given, e.fault ≠ .nullCharacter) ∧
            outcome.report =
              .ok ⟨.text b.direction.name, .bool b.dryRun, b.filesAfter tree given⟩ ∧
            outcome.tree = b.treeAfter tree given) := by
  intro given outcome
  have hcollect := collectingAll_cases b ends pool 0 pool.collected
  have hwrite := writeAll_eq b ends (w := { tree := tree }) rfl (b.inJobOrder pool)
  have houtcome : outcome = b.conclude ends tree pool := rfl
  unfold conclude at houtcome
  rcases hcollect with ⟨i, hi, abort, hmerge, hall⟩ | ⟨hgood, hall⟩
  · simp only [hall] at houtcome
    exact .inl ⟨i, hi, abort, hmerge, by rw [houtcome], by rw [houtcome]⟩
  · simp only [hall] at houtcome
    refine .inr ⟨hgood, ?_⟩
    rcases hwrite with ⟨e, he, hnull, habort⟩ | ⟨hfaults, habort, htree, hfiles⟩
    · simp only [habort] at houtcome
      exact .inl ⟨e, he, hnull, by rw [houtcome], by rw [houtcome]⟩
    · simp only [habort, List.nil_append] at houtcome hfiles
      refine .inr ⟨hfaults, ?_, ?_⟩
      · rw [houtcome, hfiles]
        rfl
      · rw [houtcome]
        exact htree

/-! ### What a turn changes -/

/-- Writing makes the directories that are missing and then, unless it fails, one file. -/
lemma writeJob_cases (t : Tree) (job : Job) (text : Text) :
    ∃ made, t.AddsDirs made ∧
      ((∃ e, writeJob t job text = (made, some e)) ∨
        ∃ q, made.place job.output = .ok q ∧ made.hasDir q = false ∧
          made.hasDir q.dropLast = true ∧
          writeJob t job text =
            ({ made with files := Tree.setFile q (Utf8.encode text) made.files }, none)) := by
  have hadds := t.addsDirs_ensureDirs job.output.parent
  refine ⟨(t.ensureDirs job.output.parent).1, hadds, ?_⟩
  unfold writeJob
  rcases hensure : t.ensureDirs job.output.parent with ⟨made, fault⟩
  cases fault with
  | some e => exact .inl ⟨e, rfl⟩
  | none =>
    dsimp only
    cases hwrite : made.writeText job.output text with
    | error e => exact .inl ⟨e, rfl⟩
    | ok t' =>
      obtain ⟨q, hplace, hfree, hparent, rfl⟩ := Tree.exists_of_write hwrite
      exact .inr ⟨q, hplace, hfree, hparent, rfl⟩

lemma keepsDirs_writeJob (t : Tree) (job : Job) (text : Text) :
    t.KeepsDirs (writeJob t job text).1 := by
  obtain ⟨made, hadds, ⟨e, he⟩ | ⟨q, -, -, hparent, he⟩⟩ := writeJob_cases t job text
  · rw [he]
    exact hadds.keepsDirs
  · rw [he]
    exact hadds.keepsDirs.trans (Tree.keepsDirs_setFile hparent)

lemma isApart_writeJob (h : t.IsApart) (job : Job) (text : Text) :
    (writeJob t job text).1.IsApart := by
  obtain ⟨made, hadds, ⟨e, he⟩ | ⟨q, -, hfree, hparent, he⟩⟩ := writeJob_cases t job text
  · rw [he]
    exact hadds.isApart h
  · rw [he]
    intro r hr
    have hdir := (Tree.hasDir_setFile hparent).mp hr
    have hne : r ≠ q := by
      rintro rfl
      rw [hfree] at hdir
      exact Bool.false_ne_true hdir
    rw [Tree.file?_setFile, if_neg hne]
    exact hadds.isApart h r hdir

lemma file?_writeJob_of_fault {text : Text} {e : FileError}
    (h : (writeJob t job text).2 = some e) (r : Place) :
    (writeJob t job text).1.file? r = t.file? r := by
  obtain ⟨made, hadds, ⟨e', he⟩ | ⟨q, -, -, -, he⟩⟩ := writeJob_cases t job text
  · rw [he]
    exact hadds.file? r
  · simp [he] at h

/-- A turn that does not fail changes the file at its output. -/
lemma exists_of_writeJob {text : Text} (h : (writeJob t job text).2 = none) :
    ∃ q, (writeJob t job text).1.place job.output = .ok q ∧
      ∀ r, (writeJob t job text).1.file? r =
        if r = q then some (Utf8.encode text) else t.file? r := by
  obtain ⟨made, hadds, ⟨e', he⟩ | ⟨q, hplace, -, hparent, he⟩⟩ := writeJob_cases t job text
  · simp [he] at h
  · rw [he]
    refine ⟨q, (Tree.keepsDirs_setFile hparent).place hplace, fun r => ?_⟩
    rw [Tree.file?_setFile, hadds.file?]

/-- A path that holds no null character is written to or fails alone. -/
lemma hasNull_of_writeJob {text : Text} {e : FileError} (h : (writeJob t job text).2 = some e)
    (he : e.fault = .nullCharacter) : job.output.HasNull := by
  unfold writeJob at h
  rcases hensure : t.ensureDirs job.output.parent with ⟨made, fault⟩
  rw [hensure] at h
  cases fault with
  | some e' =>
    obtain rfl := Option.some.inj h
    have hfault : (t.ensureDirs job.output.parent).2 = some e' := by rw [hensure]
    exact (Tree.hasNull_of_ensureDirs hfault he).of_parent
  | none =>
    dsimp only at h
    split at h
    · next e' hwrite =>
      obtain rfl := Option.some.inj h
      exact Tree.hasNull_of_write hwrite he
    · simp at h

/-! ### What all turns change -/

lemma turn_of_text {text : Text} (htext : m.text = some text) (hdry : b.dryRun = false) (t : Tree)
    (job : Job) :
    b.turn t job m = writeJob t job text := by
  rw [turn, htext, hdry]

/-- A job has nothing to write, or it writes its text. -/
lemma turn_cases (b : Batch) (t : Tree) (job : Job) (m : Job.Merged) :
    b.turn t job m = (t, none) ∨
      ∃ text, m.text = some text ∧ b.dryRun = false ∧ b.turn t job m = writeJob t job text := by
  cases htext : m.text with
  | none => exact .inl (by rw [turn, htext])
  | some text =>
    cases hdry : b.dryRun with
    | true => exact .inl (by rw [turn, htext, hdry])
    | false => exact .inr ⟨text, rfl, rfl, turn_of_text htext hdry t job⟩

lemma keepsDirs_turn (b : Batch) (t : Tree) (job : Job) (m : Job.Merged) :
    t.KeepsDirs (b.turn t job m).1 := by
  rcases turn_cases b t job m with h | ⟨text, -, -, h⟩
  · rw [h]
    exact .refl t
  · rw [h]
    exact keepsDirs_writeJob t job text

lemma isApart_turn (h : t.IsApart) (job : Job) (m : Job.Merged) :
    (b.turn t job m).1.IsApart := by
  rcases turn_cases b t job m with hturn | ⟨text, -, -, hturn⟩
  · rwa [hturn]
  · rw [hturn]
    exact isApart_writeJob h job text

lemma keepsDirs_treeAfter (b : Batch) (t : Tree) (given : List (Job × Job.Merged)) :
    t.KeepsDirs (b.treeAfter t given) := by
  induction given generalizing t with
  | nil => exact .refl t
  | cons pair rest ih => exact (keepsDirs_turn b t pair.1 pair.2).trans (ih _)

lemma isApart_treeAfter (h : t.IsApart) (given : List (Job × Job.Merged)) :
    (b.treeAfter t given).IsApart := by
  induction given generalizing t with
  | nil => exact h
  | cons pair rest ih => exact ih (isApart_turn h pair.1 pair.2)

/-- A file that is not as it was is the output of a job that wrote its text and kept its report. -/
lemma exists_of_file?_ne {r : Place} (h : (b.treeAfter t given).file? r ≠ t.file? r) :
    ∃ (i : Nat) (job : Job) (m : Job.Merged) (text : Text),
      given[i]? = some (job, m) ∧ (b.filesAfter t given)[i]? = some m.report ∧
      m.text = some text ∧ b.dryRun = false ∧
      (b.treeAfter t given).place job.output = .ok r := by
  induction given generalizing t with
  | nil => exact absurd rfl h
  | cons pair rest ih =>
    obtain ⟨job, m⟩ := pair
    rw [treeAfter] at h ⊢
    -- the last turn that changed the file is this one or a later one
    by_cases hrest : (b.treeAfter (b.turn t job m).1 rest).file? r = (b.turn t job m).1.file? r
    · rw [hrest] at h
      rcases turn_cases b t job m with hturn | ⟨text, htext, hdry, hturn⟩
      · rw [hturn] at h
        exact absurd rfl h
      · cases hfault : (writeJob t job text).2 with
        | some e =>
          rw [hturn, file?_writeJob_of_fault hfault] at h
          exact absurd rfl h
        | none =>
          obtain ⟨q, hplace, hfile⟩ := exists_of_writeJob hfault
          have hrq : r = q := by
            by_contra hne
            rw [hturn, hfile, if_neg hne] at h
            exact h rfl
          refine ⟨0, job, m, text, rfl, ?_, htext, hdry, ?_⟩
          · simp [filesAfter, hturn, hfault, settled]
          · rw [hrq, hturn]
            exact (keepsDirs_treeAfter b _ rest).place hplace
    · obtain ⟨i, job', m', text, hi, hfile, hrest⟩ := ih hrest
      exact ⟨i + 1, job', m', text, hi, hfile, hrest⟩

/-- Outputs that hold no null characters let no run end early. -/
lemma fault_ne_nullCharacter (h : ∀ pair ∈ given, ¬ pair.1.output.HasNull) :
    ∀ e ∈ b.faultsAfter t given, e.fault ≠ .nullCharacter := by
  induction given generalizing t with
  | nil => simp [faultsAfter]
  | cons pair rest ih =>
    intro e he hnull
    rw [faultsAfter, List.mem_append, Option.mem_toList] at he
    rcases he with he | he
    · rcases turn_cases b t pair.1 pair.2 with hturn | ⟨text, -, -, hturn⟩
      · simp [hturn] at he
      · rw [hturn] at he
        exact h pair List.mem_cons_self (hasNull_of_writeJob he hnull)
    · exact ih (fun x hx => h x (List.mem_cons_of_mem pair hx)) e he hnull

/-- Where outputs lead to different places, a job that did not fail has its text in its output. -/
lemma read_treeAfter (hapart : t.IsApart)
    (hdiff : given.Pairwise fun x y => x.1.WritesApart y.1) {file : FileReport} {text : Text}
    (hi : given[i]? = some (job, m)) (hfile : (b.filesAfter t given)[i]? = some file)
    (hstatus : file.status ≠ .failed) (htext : m.text = some text) (hdry : b.dryRun = false) :
    (b.treeAfter t given).read job.output = .ok (Utf8.encode text) := by
  induction given generalizing t i with
  | nil => simp at hi
  | cons pair rest ih =>
    obtain ⟨hfirst, hrest⟩ := List.pairwise_cons.mp hdiff
    cases i with
    | succ i => exact ih (isApart_turn hapart pair.1 pair.2) hrest hi hfile
    | zero =>
      obtain rfl : pair = (job, m) := by simpa using hi
      have hturn := turn_of_text htext hdry t job
      obtain rfl : settled job m (writeJob t job text).2 = file := by
        simpa [filesAfter, hturn] using hfile
      have hfault : (writeJob t job text).2 = none := by
        cases hfault : (writeJob t job text).2 with
        | none => rfl
        | some e => exact absurd (by rw [hfault]; rfl) hstatus
      obtain ⟨q, hplace, hfiles⟩ := exists_of_writeJob hfault
      rw [treeAfter, hturn]
      have hkeeps := keepsDirs_treeAfter b (writeJob t job text).1 rest
      have hbytes : (b.treeAfter (writeJob t job text).1 rest).file? q =
          some (Utf8.encode text) := by
        -- a later turn that changed the file would have led to the same place
        by_contra hne
        have hchanged : (b.treeAfter (writeJob t job text).1 rest).file? q ≠
            (writeJob t job text).1.file? q := by
          rw [hfiles, if_pos rfl]
          exact hne
        obtain ⟨k, job', m', -, hk, -, -, -, hplace'⟩ := exists_of_file?_ne hchanged
        exact hfirst (job', m') (List.mem_of_getElem? hk) _ q (hkeeps.place hplace) hplace'
      have hlast := isApart_treeAfter (b := b) (isApart_writeJob hapart job text) rest
      exact hlast.read_eq_ok (hkeeps.place hplace) hbytes

/-! ### Turns by their numbers -/

lemma length_filesAfter (b : Batch) (t : Tree) (given : List (Job × Job.Merged)) :
    (b.filesAfter t given).length = given.length := by
  induction given generalizing t with
  | nil => rfl
  | cons pair rest ih => rw [filesAfter, List.length_cons, List.length_cons, ih]

lemma getElem?_filesAfter (t : Tree) (hi : given[i]? = some (job, m)) :
    (b.filesAfter t given)[i]? =
      some (settled job m (b.turn (b.treeAfter t (given.take i)) job m).2) := by
  induction given generalizing t i with
  | nil => simp at hi
  | cons pair rest ih =>
    cases i with
    | zero =>
      obtain rfl : pair = (job, m) := by simpa using hi
      rfl
    | succ i => exact ih _ hi

lemma treeAfter_append (t : Tree) (first later : List (Job × Job.Merged)) :
    b.treeAfter t (first ++ later) = b.treeAfter (b.treeAfter t first) later := by
  induction first generalizing t with
  | nil => rfl
  | cons pair rest ih => exact ih _

lemma treeAfter_take_succ (t : Tree) (hi : given[i]? = some (job, m)) :
    b.treeAfter t (given.take (i + 1)) =
      (b.turn (b.treeAfter t (given.take i)) job m).1 := by
  rw [List.take_add_one, hi, treeAfter_append]
  rfl

end Batch

end DocGraft
