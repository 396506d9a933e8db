import DocGraft.Batch.Pool
import Mathlib.Data.List.Basic

/-!
# Runs of a pool

At every moment of a run each job is in exactly one place: it waits, runs, has ended, or was
collected or cancelled. A pool that is done has therefore collected all jobs but the cancelled ones,
and those were never started. Nothing is cancelled, and no question is asked, before a result stops
the batch, which happens at most once.

The invariant is carried along with the actions of the past, so that it can count them.
-/

namespace DocGraft.Pool

variable {stops : Nat → Bool} {p q : Pool} {a : Action} {actions : List Action} {i n : Nat}

/-- The steps of a pool as a relation. -/
inductive Step (stops : Nat → Bool) (p : Pool) : Action → Pool → Prop
  | start {i : Nat} (hi : i ∈ p.waiting) :
    Step stops p (.start i) { p with waiting := p.waiting.erase i, running := p.running ++ [i] }
  | finish {i : Nat} (hi : i ∈ p.running) :
    Step stops p (.finish i) { p with running := p.running.erase i, ended := p.ended ++ [i] }
  /-- A result is collected that does not stop the batch, or finds it stopped. -/
  | collect {i : Nat} (hi : i ∈ p.ended) (hidle : p.asking = [])
    (hgo : stops i = true → p.stoppedBy ≠ none) :
    Step stops p (.collect i)
      { p with ended := p.ended.erase i, collected := p.collected ++ [i] }
  | stop {i : Nat} (hi : i ∈ p.ended) (hidle : p.asking = []) (hstop : stops i = true)
    (hfirst : p.stoppedBy = none) :
    Step stops p (.collect i)
      { p with
        ended := p.ended.erase i, collected := p.collected ++ [i], stoppedBy := some i,
        asking := List.range p.size }
  | cancel {i : Nat} {rest : List Nat} (hasking : p.asking = i :: rest) (hi : i ∈ p.waiting) :
    Step stops p .ask
      { p with waiting := p.waiting.erase i, cancelled := p.cancelled ++ [i], asking := rest }
  /-- A job that was started before is not cancelled. -/
  | refuse {i : Nat} {rest : List Nat} (hasking : p.asking = i :: rest) (hi : i ∉ p.waiting) :
    Step stops p .ask { p with asking := rest }

lemma step_of_step?_eq_some (h : p.step? stops a = some q) : Step stops p a q := by
  cases a with
  | start i =>
    by_cases hi : i ∈ p.waiting
    · simp only [step?, List.contains_eq_mem, hi, decide_true, if_true, Option.some.injEq] at h
      exact h ▸ .start hi
    · simp [step?, hi] at h
  | finish i =>
    by_cases hi : i ∈ p.running
    · simp only [step?, List.contains_eq_mem, hi, decide_true, if_true, Option.some.injEq] at h
      exact h ▸ .finish hi
    · simp [step?, hi] at h
  | collect i =>
    by_cases hi : i ∈ p.ended ∧ p.asking = []
    · have hcan : (p.ended.contains i && p.asking.isEmpty) = true := by simp [hi]
      simp only [step?, hcan, if_true] at h
      by_cases hstop : stops i = true ∧ p.stoppedBy = none
      · simp only [hstop, Option.isNone_none, Bool.and_self, if_true, Option.some.injEq] at h
        exact h ▸ .stop hi.1 hi.2 hstop.1 hstop.2
      · have hgo : (stops i && p.stoppedBy.isNone) = false := by
          rw [Bool.eq_false_iff, ne_eq, Bool.and_eq_true, Option.isNone_iff_eq_none]
          exact hstop
        simp only [hgo, Bool.false_eq_true, if_false, Option.some.injEq] at h
        exact h ▸ .collect hi.1 hi.2 fun hs hn => hstop ⟨hs, hn⟩
    · simp [step?, hi] at h
  | ask =>
    cases hasking : p.asking with
    | nil => simp [step?, hasking] at h
    | cons i rest =>
      by_cases hi : i ∈ p.waiting
      · simp only [step?, hasking, List.contains_eq_mem, hi, decide_true, if_true,
          Option.some.injEq] at h
        exact h ▸ .cancel hasking hi
      · simp only [step?, hasking, List.contains_eq_mem, hi, decide_false, Bool.false_eq_true,
          if_false, Option.some.injEq] at h
        exact h ▸ .refuse hasking hi

/-- What holds at first and is kept by every step holds after a run. -/
lemma run?_induction {P : List Action → Pool → Prop} (hfirst : P [] p)
    (hstep : ∀ past p a q, P past p → Step stops p a q → P (past ++ [a]) q)
    (h : p.run? stops actions = some q) : P actions q := by
  -- the actions that were taken before are kept in view
  suffices hpast : ∀ past p, P past p → p.run? stops actions = some q → P (past ++ actions) q by
    exact hpast [] p hfirst h
  clear hfirst h
  induction actions with
  | nil =>
    intro past p hp h
    obtain rfl := Option.some.inj h
    rwa [List.append_nil]
  | cons a rest ih =>
    intro past p hp h
    obtain ⟨r, hr, h⟩ := Option.bind_eq_some_iff.mp h
    have hstepped := hstep past p a r hp (step_of_step?_eq_some hr)
    have hlast := ih (past ++ [a]) r hstepped h
    rwa [List.append_assoc] at hlast

/-! ### What a step keeps -/

/-- How often a job is in the pool, counted over all places. -/
def occurrences (p : Pool) (i : Nat) : Nat :=
  p.waiting.count i + p.running.count i + p.ended.count i + p.collected.count i +
    p.cancelled.count i

/-- How often a job is where only started jobs are. -/
def begun (p : Pool) (i : Nat) : Nat :=
  p.running.count i + p.ended.count i + p.collected.count i

/-- Moving a member from one list to another keeps the number of its occurrences in both. -/
lemma count_erase_add_count_append {xs : List Nat} (hi : i ∈ xs) (ys : List Nat) (j : Nat) :
    (xs.erase i).count j + (ys ++ [i]).count j = xs.count j + ys.count j := by
  have hpos : 0 < xs.count i := List.count_pos_iff.mpr hi
  rw [List.count_erase, List.count_append, List.count_singleton]
  by_cases hij : i = j
  · subst hij
    rw [beq_self_eq_true, if_pos rfl]
    omega
  · rw [beq_false_of_ne hij, if_neg Bool.false_ne_true]
    omega

lemma Step.size_eq (h : Step stops p a q) : q.size = p.size := by
  cases h with
  | start | finish | collect | stop | cancel | refuse => rfl

lemma Step.occurrences_eq (h : Step stops p a q) (i : Nat) : q.occurrences i = p.occurrences i := by
  unfold occurrences
  cases h with
  | start hi =>
    have hmove := count_erase_add_count_append hi p.running i
    dsimp only
    omega
  | finish hi =>
    have hmove := count_erase_add_count_append hi p.ended i
    dsimp only
    omega
  | collect hi | stop hi =>
    have hmove := count_erase_add_count_append hi p.collected i
    dsimp only
    omega
  | cancel _ hi =>
    have hmove := count_erase_add_count_append hi p.cancelled i
    dsimp only
    omega
  | refuse => rfl

lemma Step.begun_eq (h : Step stops p a q) (i : Nat) :
    q.begun i = p.begun i + [a].count (.start i) := by
  unfold begun
  cases h with
  | start =>
    simp only [List.count_append, List.count_singleton, beq_iff_eq, Action.start.injEq]
    omega
  | finish hi =>
    have hmove := count_erase_add_count_append hi p.ended i
    rw [List.count_singleton, if_neg (by simp)]
    dsimp only
    omega
  | collect hi | stop hi =>
    have hmove := count_erase_add_count_append hi p.collected i
    rw [List.count_singleton, if_neg (by simp)]
    dsimp only
    omega
  | cancel | refuse => rw [List.count_singleton, if_neg (by simp), Nat.add_zero]

/-- A step answers a question, or starts the round of questions, or does neither. -/
lemma Step.asking_cases (h : Step stops p a q) :
    q.stoppedBy = p.stoppedBy ∧ [a].count .ask + q.asking.length = p.asking.length ∨
      p.stoppedBy = none ∧ q.stoppedBy.isSome = true ∧ p.asking = [] ∧
        [a].count .ask + q.asking.length = p.size := by
  cases h with
  | start | finish | collect => exact .inl ⟨rfl, by simp⟩
  | stop _ hidle _ hfirst => exact .inr ⟨hfirst, rfl, hidle, by simp⟩
  | cancel hasking | refuse hasking =>
    refine .inl ⟨rfl, ?_⟩
    rw [hasking, List.count_singleton_self, List.length_cons]
    dsimp only
    omega

/-- The job that stopped the batch was collected. -/
lemma Step.stopped (h : Step stops p a q)
    (hp : ∀ i, p.stoppedBy = some i → stops i = true ∧ i ∈ p.collected) (i : Nat)
    (hi : q.stoppedBy = some i) : stops i = true ∧ i ∈ q.collected := by
  cases h with
  | start | finish | cancel | refuse => exact hp i hi
  | collect =>
    obtain ⟨hstops, hmem⟩ := hp i hi
    exact ⟨hstops, List.mem_append_left _ hmem⟩
  | stop _ _ hstop =>
    obtain rfl := Option.some.inj hi
    exact ⟨hstop, List.mem_append_right _ (List.mem_singleton_self _)⟩

/-- While no job has stopped the batch, none is cancelled and no collected result stops it. -/
lemma Step.unstopped (h : Step stops p a q) (hidle : p.stoppedBy = none → p.asking = [])
    (hp : p.stoppedBy = none → p.cancelled = [] ∧ ∀ i ∈ p.collected, stops i = false)
    (hq : q.stoppedBy = none) : q.cancelled = [] ∧ ∀ i ∈ q.collected, stops i = false := by
  cases h with
  | start | finish | refuse => exact hp hq
  | collect hi _ hgo =>
    obtain ⟨hcancelled, hgone⟩ := hp hq
    refine ⟨hcancelled, fun j hj => ?_⟩
    rcases List.mem_append.mp hj with hj | hj
    · exact hgone j hj
    · obtain rfl := List.mem_singleton.mp hj
      exact Bool.eq_false_iff.mpr fun hs => hgo hs hq
  | stop => simp at hq
  | cancel hasking =>
    -- a question is left only where a result stopped the batch
    rw [hidle hq] at hasking
    simp at hasking

/-! ### What a run keeps -/

/-- The state of a pool of `n` jobs after the actions of the past. -/
structure Sound (stops : Nat → Bool) (n : Nat) (past : List Action) (p : Pool) : Prop where
  size_eq : p.size = n
  /-- Each job is in exactly one place. -/
  placed : ∀ i, p.occurrences i = (List.range n).count i
  started : ∀ i, past.count (.start i) = p.begun i
  stopped : ∀ i, p.stoppedBy = some i → stops i = true ∧ i ∈ p.collected
  unstopped : p.stoppedBy = none → p.cancelled = [] ∧ ∀ i ∈ p.collected, stops i = false
  /-- The questions that were asked and those that are left are one for each job. -/
  asked : past.count .ask + p.asking.length = if p.stoppedBy.isSome then n else 0

lemma sound_ofSize (stops : Nat → Bool) (n : Nat) : Sound stops n [] (ofSize n) where
  size_eq := rfl
  placed i := by simp [occurrences, ofSize]
  started i := by simp [begun, ofSize]
  stopped i h := by simp [ofSize] at h
  unstopped _ := by simp [ofSize]
  asked := by simp [ofSize]

lemma Sound.asking_eq_nil {past : List Action} (h : Sound stops n past p)
    (hnone : p.stoppedBy = none) : p.asking = [] := by
  have hasked := h.asked
  rw [hnone, Option.isSome_none, if_neg Bool.false_ne_true] at hasked
  exact List.length_eq_zero_iff.mp (by omega)

lemma Sound.step {past : List Action} (h : Sound stops n past p) (hstep : Step stops p a q) :
    Sound stops n (past ++ [a]) q where
  size_eq := hstep.size_eq.trans h.size_eq
  placed i := (hstep.occurrences_eq i).trans (h.placed i)
  started i := by rw [List.count_append, h.started, hstep.begun_eq]
  stopped := hstep.stopped h.stopped
  unstopped := hstep.unstopped h.asking_eq_nil h.unstopped
  asked := by
    have hasked := h.asked
    rw [List.count_append]
    rcases hstep.asking_cases with ⟨hstopped, hasking⟩ | ⟨hnone, hsome, hidle, hround⟩
    · rw [hstopped]
      omega
    · rw [hnone, hidle, Option.isSome_none, if_neg Bool.false_ne_true, List.length_nil] at hasked
      rw [hsome, if_pos rfl, ← h.size_eq]
      omega

/-- A run of a pool with `n` jobs leaves it in a sound state. -/
lemma sound_of_run? (h : (ofSize n).run? stops actions = some q) : Sound stops n actions q :=
  run?_induction (sound_ofSize stops n) (fun _ _ _ _ hp hstep => hp.step hstep) h

/-! ### Pools that are done -/

namespace Sound

lemma lists_eq_nil (hdone : q.isDone = true) :
    q.waiting = [] ∧ q.running = [] ∧ q.ended = [] ∧ q.asking = [] := by
  simpa [isDone, and_assoc] using hdone

variable (h : Sound stops n actions q) (hdone : q.isDone = true)

include h hdone

lemma perm_range : (q.collected ++ q.cancelled).Perm (List.range n) := by
  obtain ⟨hwaiting, hrunning, hended, -⟩ := lists_eq_nil hdone
  apply List.perm_iff_count.mpr
  intro i
  have hplaced := h.placed i
  rw [occurrences, hwaiting, hrunning, hended] at hplaced
  rw [List.count_append]
  simpa using hplaced

/-- Exactly the collected jobs were started, each one once. -/
lemma count_start (i : Nat) : actions.count (.start i) = q.collected.count i := by
  obtain ⟨-, hrunning, hended, -⟩ := lists_eq_nil hdone
  have hstarted := h.started i
  rw [begun, hrunning, hended] at hstarted
  simpa using hstarted

lemma count_ask : actions.count .ask = if q.stoppedBy.isSome then n else 0 := by
  obtain ⟨-, -, -, hasking⟩ := lists_eq_nil hdone
  have hasked := h.asked
  rwa [hasking, List.length_nil, Nat.add_zero] at hasked

lemma nodup_collected : q.collected.Nodup := by
  have hnodup := (h.perm_range hdone).nodup_iff.mpr List.nodup_range
  exact (List.nodup_append.mp hnodup).1

lemma length_collected : q.collected.length + q.cancelled.length = n := by
  have hlength := (h.perm_range hdone).length_eq
  rwa [List.length_append, List.length_range] at hlength

lemma lt_of_mem_collected (hi : i ∈ q.collected) : i < n :=
  List.mem_range.mp ((h.perm_range hdone).subset (List.mem_append_left _ hi))

lemma not_mem_collected (hi : i ∈ q.cancelled) : i ∉ q.collected := by
  have hnodup := (h.perm_range hdone).nodup_iff.mpr List.nodup_range
  intro hc
  exact (List.nodup_append.mp hnodup).2.2 i hc i hi rfl

/-- Where nothing stops the batch, all jobs are collected. -/
lemma mem_collected_of_never (hnever : ∀ i, stops i = false) (hi : i < n) : i ∈ q.collected := by
  have hunstopped : q.stoppedBy = none := by
    rw [Option.eq_none_iff_forall_not_mem]
    intro j hj
    have hstops := (h.stopped j hj).1
    rw [hnever j] at hstops
    exact Bool.false_ne_true hstops
  have hmem := (h.perm_range hdone).mem_iff.mpr (List.mem_range.mpr hi)
  rwa [(h.unstopped hunstopped).1, List.append_nil] at hmem

end Sound

/-! ### One job after the other -/

lemma advance_cons (p : Pool) (a : Action) (rest : List Action) :
    p.advance stops (a :: rest) = ((p.step? stops a).getD p).advance stops rest := rfl

lemma advance_append (p : Pool) (first rest : List Action) :
    p.advance stops (first ++ rest) = (p.advance stops first).advance stops rest :=
  List.foldl_append

/-- The possible ones of several actions are a run. -/
lemma exists_run?_advance (p : Pool) (actions : List Action) :
    ∃ possible, p.run? stops possible = some (p.advance stops actions) := by
  induction actions generalizing p with
  | nil => exact ⟨[], rfl⟩
  | cons a rest ih =>
    rw [advance_cons]
    cases ha : p.step? stops a with
    | none => exact ih p
    | some r =>
      obtain ⟨possible, h⟩ := ih r
      refine ⟨a :: possible, ?_⟩
      rw [run?, ha]
      exact h

/-- No job runs or has a result to be collected, and no question is left. -/
structure Idle (p : Pool) : Prop where
  running : p.running = []
  ended : p.ended = []
  asking : p.asking = []

lemma Idle.advance_ask (h : p.Idle) (m : Nat) :
    p.advance stops (List.replicate m .ask) = p := by
  induction m with
  | zero => rfl
  | succ m ih =>
    rw [List.replicate_succ, advance_cons]
    have hstep : p.step? stops .ask = none := by simp [step?, h.asking]
    rw [hstep]
    exact ih

/-- When all questions are asked, no job waits that was to be asked. -/
lemma advance_ask_of_le (stops : Nat → Bool) {m : Nat} (hm : p.asking.length ≤ m)
    (hnodup : p.waiting.Nodup) (hsub : p.waiting ⊆ p.asking) (hrunning : p.running = [])
    (hended : p.ended = []) :
    (p.advance stops (List.replicate m .ask)).Idle ∧
      (p.advance stops (List.replicate m .ask)).waiting = [] := by
  induction m generalizing p with
  | zero =>
    have hasking : p.asking = [] := List.length_eq_zero_iff.mp (by omega)
    rw [hasking] at hsub
    exact ⟨⟨hrunning, hended, hasking⟩, List.subset_nil.mp hsub⟩
  | succ m ih =>
    rw [List.replicate_succ, advance_cons]
    cases hasking : p.asking with
    | nil =>
      rw [hasking] at hsub
      have hstep : p.step? stops .ask = none := by simp [step?, hasking]
      have hidle : p.Idle := ⟨hrunning, hended, hasking⟩
      rw [hstep, Option.getD_none, hidle.advance_ask]
      exact ⟨hidle, List.subset_nil.mp hsub⟩
    | cons i rest =>
      rw [hasking, List.length_cons] at hm
      rw [hasking] at hsub
      by_cases hi : i ∈ p.waiting
      · have hstep : p.step? stops .ask = some { p with
            waiting := p.waiting.erase i, cancelled := p.cancelled ++ [i], asking := rest } := by
          simp [step?, hasking, hi]
        rw [hstep, Option.getD_some]
        refine ih (by dsimp only; omega) (hnodup.erase i) ?_ hrunning hended
        intro j hj
        obtain ⟨hne, hj⟩ := hnodup.mem_erase_iff.mp hj
        exact (List.mem_cons.mp (hsub hj)).resolve_left hne
      · have hstep : p.step? stops .ask = some { p with asking := rest } := by
          simp [step?, hasking, hi]
        rw [hstep, Option.getD_some]
        refine ih (by dsimp only; omega) hnodup ?_ hrunning hended
        intro j hj
        refine (List.mem_cons.mp (hsub hj)).resolve_left ?_
        rintro rfl
        exact hi hj

/-- The pool when the jobs before the `k`-th were run one by one: the others wait, unless the batch
was stopped. -/
structure Reached (n k : Nat) (p : Pool) : Prop where
  size_eq : p.size = n
  idle : p.Idle
  waiting : p.waiting = List.range' k (n - k) ∧ p.stoppedBy = none ∨ p.waiting = []

lemma size_advance (stops : Nat → Bool) (p : Pool) (actions : List Action) :
    (p.advance stops actions).size = p.size := by
  induction actions generalizing p with
  | nil => rfl
  | cons a rest ih =>
    rw [advance_cons, ih]
    cases ha : p.step? stops a with
    | none => rfl
    | some r => exact (step_of_step?_eq_some ha).size_eq

lemma Reached.round {k : Nat} (h : p.Reached n k) (hk : k < n) :
    (p.advance stops ([.start k, .finish k, .collect k] ++ List.replicate n .ask)).Reached n
      (k + 1) := by
  have hsize := (size_advance stops p
    ([.start k, .finish k, .collect k] ++ List.replicate n .ask)).trans h.size_eq
  obtain ⟨hn, ⟨hrunning, hended, hasking⟩, hwaiting⟩ := h
  rcases hwaiting with ⟨hwaiting, hunstopped⟩ | hwaiting
  · have hrange : List.range' k (n - k) = k :: List.range' (k + 1) (n - (k + 1)) := by
      rw [show n - k = n - (k + 1) + 1 by omega, List.range'_succ]
    rw [hrange] at hwaiting
    rw [advance_append] at hsize ⊢
    by_cases hstop : stops k = true
    · have hthree : p.advance stops [.start k, .finish k, .collect k] = { p with
          waiting := List.range' (k + 1) (n - (k + 1)), collected := p.collected ++ [k],
          stoppedBy := some k, asking := List.range p.size } := by
        simp [advance, step?, hwaiting, hrunning, hended, hasking, hunstopped, hstop]
      rw [hthree] at hsize ⊢
      -- the questions reach all jobs that wait, so none of them waits afterwards
      obtain ⟨hidle, hempty⟩ := advance_ask_of_le stops (m := n) (p := { p with
          waiting := List.range' (k + 1) (n - (k + 1)), collected := p.collected ++ [k],
          stoppedBy := some k, asking := List.range p.size })
        (by simp [hn]) List.nodup_range' (by intro j hj; simp at hj ⊢; omega) hrunning hended
      exact ⟨hsize, hidle, .inr hempty⟩
    · have hthree : p.advance stops [.start k, .finish k, .collect k] = { p with
          waiting := List.range' (k + 1) (n - (k + 1)), collected := p.collected ++ [k] } := by
        simp [advance, step?, hwaiting, hrunning, hended, hasking, hstop]
      have hidle : Idle { p with
          waiting := List.range' (k + 1) (n - (k + 1)), collected := p.collected ++ [k] } :=
        ⟨hrunning, hended, hasking⟩
      rw [hthree, hidle.advance_ask] at hsize ⊢
      exact ⟨hsize, hidle, .inl ⟨rfl, hunstopped⟩⟩
  · have hnone : p.advance stops [.start k, .finish k, .collect k] = p := by
      simp [advance, step?, hwaiting, hrunning, hended]
    rw [advance_append, hnone, (Idle.mk hrunning hended hasking).advance_ask] at hsize ⊢
    exact ⟨hsize, ⟨hrunning, hended, hasking⟩, .inr hwaiting⟩

lemma reached_oneByOne (stops : Nat → Bool) {k : Nat} (hk : k ≤ n) :
    ((ofSize n).advance stops ((List.range k).flatMap fun i =>
      [.start i, .finish i, .collect i] ++ List.replicate n .ask)).Reached n k := by
  induction k with
  | zero =>
    refine ⟨rfl, ⟨rfl, rfl, rfl⟩, .inl ⟨?_, rfl⟩⟩
    exact List.range_eq_range'
  | succ k ih =>
    rw [List.range_succ, List.flatMap_append, advance_append, List.flatMap_singleton]
    exact (ih (by omega)).round (by omega)

/-- Running the jobs one by one is one of the ways to run them all. -/
lemma sequential_isRun (stops : Nat → Bool) (n : Nat) :
    (∃ actions, (ofSize n).run? stops actions = some (sequential stops n)) ∧
      (sequential stops n).isDone = true := by
  refine ⟨exists_run?_advance _ _, ?_⟩
  obtain ⟨-, ⟨hrunning, hended, hasking⟩, hwaiting⟩ := reached_oneByOne stops (Nat.le_refl n)
  have hempty : (sequential stops n).waiting = [] := by
    rcases hwaiting with ⟨hwaiting, -⟩ | hwaiting
    · rw [Nat.sub_self] at hwaiting
      exact hwaiting
    · exact hwaiting
  simp only [isDone, Bool.and_eq_true, List.isEmpty_iff]
  exact ⟨⟨⟨hempty, hrunning⟩, hended⟩, hasking⟩

end DocGraft.Pool
