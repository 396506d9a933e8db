import DocGraft.Batch.Job
import DocGraft.Proofs.DocTransfer

/-!
# Reports on merged jobs

A job that is merged gives the report on what was made of its two texts, or the report of a failure
with a reason. Both are reports that can be read back. There is no report only if the transformed
file cannot be looked for, or if the path of the base is none.
-/

namespace DocGraft

/-! ### Reasons of failures -/

lemma append_ne_empty_left {s : String} (h : s ≠ "") (t : String) : s ++ t ≠ "" :=
  fun h' => h (String.append_eq_empty_iff.mp h').1

lemma append_ne_empty_right {t : String} (s : String) (h : t ≠ "") : s ++ t ≠ "" :=
  fun h' => h (String.append_eq_empty_iff.mp h').2

lemma Formatter.Failure.message_ne_empty (f : Formatter) (failure : Failure) :
    failure.message f ≠ "" := by
  cases failure with
  | notFound => exact append_ne_empty_left (by decide) _
  | timedOut => exact append_ne_empty_left (append_ne_empty_right _ (by decide)) _
  | exited status errors => exact append_ne_empty_left (append_ne_empty_right _ (by decide)) _
  | notUtf8 fault => exact append_ne_empty_left (append_ne_empty_right _ (by decide)) _
  | denied => exact append_ne_empty_left (by decide) _
  | macroNotText => exact (by decide : "decoding to str: need a bytes-like object" ≠ "")

lemma FileError.message_ne_empty (e : FileError) : e.message ≠ "" := by
  unfold message
  split
  · next hnull =>
    rw [hnull]
    decide
  · exact append_ne_empty_left (append_ne_empty_right _ (by decide)) _

lemma ReadFault.message_ne_empty (fault : ReadFault) : fault.message ≠ "" := by
  cases fault with
  | file e => exact e.message_ne_empty
  | notUtf8 fault => exact append_ne_empty_left (append_ne_empty_right _ (by decide)) _

lemma Job.MergeFault.message_ne_empty (f : Formatter) (fault : MergeFault) :
    fault.message f ≠ "" := by
  cases fault with
  | read fault => exact fault.message_ne_empty
  | format failure => exact failure.message_ne_empty f

/-! ### Reports that can be read back -/

lemma Value.exceeds?_int_of_le {m n : Int} (h : m ≤ n) :
    (Value.int m).exceeds? (.int n) = some false := by
  have hone : 0 ≤ Binary64.one := Int.natCast_nonneg _
  have hle : m * Binary64.one ≤ n * Binary64.one := Int.mul_le_mul_of_nonneg_right h hone
  simp [exceeds?, place?, Int.not_lt.mpr hle]

lemma Job.checked_failed (name : String) {error : String} (h : error ≠ "") :
    (failed name error).checked = .ok (failed name error) := by
  have hreason : (failed name error).error.isTrue = true := by
    simp [failed, Value.isTrue, h]
  have hcount : (failed name error).applied.exceeds? (failed name error).total = some false :=
    Value.exceeds?_int_of_le (Int.le_refl 0)
  rw [FileReport.checked, hreason, hcount]
  simp

lemma Plan.appliedCount_le (p : Plan) : p.appliedCount ≤ p.split.length := by
  refine (List.count_le_length).trans ?_
  rw [relevant, List.length_map]

namespace Job

variable {g : Merger} {runner : Runner} {t : Tree} {d : Direction} {dryRun : Bool} {j : Job}

lemma Made.checked_report (j : Job) (dryRun : Bool) (made : Made) :
    (made.report j dryRun).checked = .ok (made.report j dryRun) := by
  have hstatus : (made.report j dryRun).status ≠ .failed := by
    simp only [report]
    split
    · simp
    · simp
  have hcount : (made.report j dryRun).applied.exceeds? (made.report j dryRun).total =
      some false :=
    Value.exceeds?_int_of_le (Int.ofNat_le.mpr made.plan.appliedCount_le)
  rw [FileReport.checked, hcount]
  simp [hstatus]

/-! ### What a job gives -/

/-- What a job makes is the merge of the texts that its files hold. -/
lemma exists_of_make {made : Made} (h : make g runner t d j = .ok made) :
    ∃ transformed, t.readText j.base = .ok made.base ∧
      t.readText j.transformed = .ok transformed ∧
      g.merge runner d made.base transformed = .ok made.merged := by
  unfold make texts at h
  cases hbase : t.readText j.base with
  | error fault => simp [hbase, bind, Except.bind] at h
  | ok base =>
    cases htransformed : t.readText j.transformed with
    | error fault => simp [hbase, htransformed, bind, Except.bind] at h
    | ok transformed =>
      simp only [hbase, htransformed, bind, Except.bind, pure, Except.pure] at h
      cases hplan : g.plan runner d base transformed with
      | error failure => simp [hplan] at h
      | ok plan =>
        cases happly : g.apply runner plan with
        | error failure => simp [hplan, happly] at h
        | ok merged =>
          simp only [hplan, happly, Except.ok.injEq] at h
          subst h
          refine ⟨transformed, rfl, rfl, ?_⟩
          rw [Merger.merge, hplan]
          exact happly

/-- A job gives the report on what it makes, or a failure with a reason and nothing to write. -/
lemma merge_cases {m : Merged} (h : merge g runner t d dryRun j = .ok m) :
    (∃ made, make g runner t d j = .ok made ∧ m = ⟨made.report j dryRun, made.text j⟩) ∨
      ∃ error, error ≠ "" ∧ m = ⟨failed j.name error, none⟩ := by
  unfold merge at h
  split at h
  · simp at h
  · refine .inr ⟨_, ?_, (Except.ok.inj h).symm⟩
    exact append_ne_empty_left (by decide) _
  · split at h
    · next made hmade => exact .inl ⟨made, hmade, (Except.ok.inj h).symm⟩
    · next fault _ =>
      split at h
      · simp at h
      · exact .inr ⟨_, fault.message_ne_empty _, (Except.ok.inj h).symm⟩

lemma checked_report {m : Merged} (h : merge g runner t d dryRun j = .ok m) :
    m.report.checked = .ok m.report := by
  rcases merge_cases h with ⟨made, -, rfl⟩ | ⟨error, hne, rfl⟩
  · exact made.checked_report j dryRun
  · exact checked_failed j.name hne

end Job

/-! ### Jobs without a report -/

lemma error_of_bind {ε α β : Type} {x : Except ε α} {f : α → Except ε β} {e : ε}
    (h : x >>= f = .error e) : x = .error e ∨ ∃ a, x = .ok a ∧ f a = .error e := by
  cases x with
  | error found => exact .inl (congrArg _ (Except.error.inj h))
  | ok a => exact .inr ⟨a, rfl, h⟩

lemma Formatter.format_ne_macroNotText (process : Runner) (t : Text) :
    format process t ≠ .error .macroNotText := by
  unfold format read
  cases process t with
  | missing | timedOut | denied => simp
  | finished status output errors =>
    dsimp only
    split
    · simp
    · split
      · simp
      · simp

namespace Bookend

variable {m : Markers} {format : Text → Except Formatter.Failure Text} {failure : Formatter.Failure}

/-- A failure that is passed on is one of the formatter. -/
lemma exists_of_reformatLine_error {l : Line} (h : reformatLine m format l = .error failure) :
    ∃ t, format t = .error failure := by
  unfold reformatLine at h
  split at h
  · unfold reformat at h
    split at h
    · simp [Outcome.line] at h
    · next content _ =>
      split at h
      · next found hfound =>
        simp only [Outcome.line] at h
        split at h
        · simp at h
        · exact ⟨wrap content, hfound.trans h⟩
      · split at h
        · simp [Outcome.line] at h
        · simp [Outcome.line] at h
  · simp at h

lemma exists_of_reformatLines_error {ls : List Line}
    (h : reformatLines m format ls = .error failure) : ∃ t, format t = .error failure := by
  induction ls with
  | nil => simp [reformatLines] at h
  | cons l rest ih =>
    rw [reformatLines] at h
    rcases error_of_bind h with hl | ⟨k, -, h⟩
    · exact exists_of_reformatLine_error hl
    · rcases error_of_bind h with hrest | ⟨ks, -, h⟩
      · exact ih hrest
      · simp [pure, Except.pure] at h

lemma exists_of_reformatText_error {t : Text} (h : reformatText m format t = .error failure) :
    ∃ s, format s = .error failure := by
  rcases error_of_bind h with hls | ⟨ks, -, h⟩
  · exact exists_of_reformatLines_error hls
  · simp [pure, Except.pure] at h

end Bookend

namespace Merger

variable {g : Merger} {process : Runner} {d : Direction} {failure : Formatter.Failure}

lemma exists_of_plan_error (hname : g.macroIsText = true) {base transformed : Text}
    (h : g.plan process d base transformed = .error failure) :
    ∃ t, Formatter.format process t = .error failure := by
  rcases error_of_bind h with hdraft | ⟨p, -, h⟩
  · rcases error_of_bind hdraft with hbase | ⟨fb, -, hdraft⟩
    · exact ⟨base, hbase⟩
    · rcases error_of_bind hdraft with htransformed | ⟨ft, -, hdraft⟩
      · exact ⟨transformed, htransformed⟩
      · simp [pure, Except.pure] at hdraft
  · simp [planFails, hname] at h

lemma exists_of_apply_error (hname : g.macroIsText = true) {p : Plan}
    (h : g.apply process p = .error failure) :
    ∃ t, Formatter.format process t = .error failure := by
  have happly : g.applyFails p = false := by simp [applyFails, renderFails, hname]
  rw [apply, happly, if_neg Bool.false_ne_true] at h
  split at h
  · exact Bookend.exists_of_reformatText_error h
  · simp at h

end Merger

namespace Job

variable {g : Merger} {runner : Runner} {t : Tree} {d : Direction} {dryRun : Bool} {j : Job}

/-- With a name for the macro, only a path that is none stops more than one job. -/
lemma exists_of_make_abort (hname : g.macroIsText = true) {fault : MergeFault} {abort : Abort}
    (h : make g runner t d j = .error fault) (habort : fault.abort? = some abort) :
    ∃ e, e.fault = .nullCharacter ∧ j.texts t = .error (.file e) := by
  unfold make at h
  split at h
  · next found hfound =>
    obtain rfl := Except.error.inj h
    cases found with
    | notUtf8 fault => simp [MergeFault.abort?] at habort
    | file e =>
      by_cases hnull : e.fault = .nullCharacter
      · exact ⟨e, hnull, hfound⟩
      · simp [MergeFault.abort?, hnull] at habort
  · have hformat : ∀ failure, (∃ t, Formatter.format runner t = .error failure) →
        fault = .format failure → False := by
      rintro failure ⟨s, hs⟩ rfl
      cases failure with
      | macroNotText => exact Formatter.format_ne_macroNotText runner s hs
      | notFound | timedOut | exited | notUtf8 | denied => simp [MergeFault.abort?] at habort
    split at h
    · next failure hplan =>
      exact (hformat failure (Merger.exists_of_plan_error hname hplan)
        (Except.error.inj h).symm).elim
    · split at h
      · next failure happly =>
        exact (hformat failure (Merger.exists_of_apply_error hname happly)
          (Except.error.inj h).symm).elim
      · simp at h

end Job

end DocGraft
