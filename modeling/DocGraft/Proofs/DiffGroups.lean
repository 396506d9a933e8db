import DocGraft.Proofs.EditScript
import DocGraft.Proofs.UnifiedDiff

/-!
# Groups of a unified diff

The groups of an alignment show what stands in two lists at their places, and all that is left out
between them, before the first and behind the last is the same in both. So their ranges are an edit
script, as the ranges of the changes are, with unchanged lines around these.
-/

namespace DocGraft.Diff

namespace Group

variable {α : Type} {i j : Nat} {a b : List α} {g : Group α} {gs : List (Group α)}

/-- The ranges of a group. -/
def hunk (g : Group α) : Hunk := ⟨g.beforeStart, g.before.length, g.afterStart, g.after.length⟩

lemma before_mk_cons (i j : Nat) (s : Segment α) (g : Group α) :
    (Group.mk i j (s :: g.segments)).before = s.before ++ g.before := List.flatMap_cons

lemma after_mk_cons (i j : Nat) (s : Segment α) (g : Group α) :
    (Group.mk i j (s :: g.segments)).after = s.after ++ g.after := List.flatMap_cons

/-- From `i` and `j` on, two lists are what the groups show, in this order, with runs between them
that both lists have. Only the run before the first group and the one behind the last may be empty. -/
inductive Interleaved : (i j : Nat) → (a b : List α) → List (Group α) → Prop
  | nil {i j : Nat} (rest : List α) : Interleaved i j rest rest []
  | cons {i j : Nat} {a b : List α} {g : Group α} {gs : List (Group α)} (gap : List α)
    (hbefore : g.beforeStart = i + gap.length) (hafter : g.afterStart = j + gap.length)
    (hlater : ∀ k ∈ gs, g.hunk.beforeEnd < k.beforeStart)
    (h : Interleaved g.hunk.beforeEnd g.hunk.afterEnd a b gs) :
    Interleaved i j (gap ++ (g.before ++ a)) (gap ++ (g.after ++ b)) (g :: gs)

namespace Interleaved

lemma le_beforeStart (h : Interleaved i j a b gs) : ∀ g ∈ gs, i ≤ g.beforeStart := by
  cases h with
  | nil => simp
  | @cons _ _ _ _ first rest gap hbefore _ hlater _ =>
    intro g hg
    rcases List.mem_cons.mp hg with rfl | hg
    · omega
    · have hlt := hlater g hg
      have hle : first.beforeStart ≤ first.hunk.beforeEnd := Nat.le_add_right ..
      omega

/-- A run that both lists have goes before the first group. -/
lemma prepend (run : List α) (h : Interleaved (i + run.length) (j + run.length) a b gs) :
    Interleaved i j (run ++ a) (run ++ b) gs := by
  cases h with
  | nil => exact .nil _
  | cons gap hbefore hafter hlater h =>
    rw [← List.append_assoc run, ← List.append_assoc run]
    exact .cons (run ++ gap) (by rw [hbefore, List.length_append, Nat.add_assoc])
      (by rw [hafter, List.length_append, Nat.add_assoc]) hlater h

/-- A segment becomes part of the group that starts right behind it, or a group of its own. -/
lemma cons_segment (s : Segment α)
    (h : Interleaved (i + s.before.length) (j + s.after.length) a b gs)
    (hhead : ∀ g ∈ gs.head?, g.beforeStart = i + s.before.length) :
    Interleaved i j (s.before ++ a) (s.after ++ b) (Group.cons i j s gs) := by
  cases h with
  | nil =>
    have hone := Interleaved.cons (g := ⟨i, j, [s]⟩) [] rfl rfl (by simp) (.nil a)
    simpa [before, after, Group.cons] using hone
  | @cons _ _ a b first later gap hfirst hafter hlater h =>
    have hgap : gap = [] := by
      have := hhead first rfl
      exact List.length_eq_zero_iff.mp (by omega)
    subst hgap
    obtain ⟨hends, hends'⟩ : (Group.mk i j (s :: first.segments)).hunk.beforeEnd =
        first.hunk.beforeEnd ∧
        (Group.mk i j (s :: first.segments)).hunk.afterEnd = first.hunk.afterEnd := by
      simp only [hunk, Hunk.beforeEnd, Hunk.afterEnd, before_mk_cons, after_mk_cons, hfirst, hafter,
        List.length_append, List.length_nil]
      exact ⟨by omega, by omega⟩
    have hone := Interleaved.cons (g := ⟨i, j, s :: first.segments⟩) [] rfl rfl (hends ▸ hlater)
      (by rwa [hends, hends'])
    rw [before_mk_cons, after_mk_cons, List.append_assoc, List.append_assoc] at hone
    exact hone

/-- The two ends of a long run, and what is between them. -/
lemma exists_parts {run : List α} (hlong : 2 * context < run.length) :
    ∃ first middle last, run = first ++ middle ++ last ∧ first.length = context ∧
      last.length = context := by
  refine ⟨run.take context, (run.drop context).take (run.length - 2 * context),
    (run.drop context).drop (run.length - 2 * context), ?_, ?_, ?_⟩
  · rw [List.append_assoc, List.take_append_drop, List.take_append_drop]
  · exact List.length_take_of_le (by omega)
  · rw [List.length_drop, List.length_drop]
    omega

/-- A long run ends one group and starts another. -/
lemma cons_long_run {run : List α} (hlong : 2 * context < run.length)
    (h : Interleaved (i + run.length) (j + run.length) a b gs)
    (hhead : ∀ g ∈ gs.head?, g.beforeStart = i + run.length) :
    Interleaved i j (run ++ a) (run ++ b) (⟨i, j, [.same (run.take context)]⟩ ::
      Group.cons (i + (run.length - context)) (j + (run.length - context))
        (.same (run.drop (run.length - context))) gs) := by
  obtain ⟨first, middle, last, rfl, hfirst, hlast⟩ := exists_parts hlong
  simp only [List.length_append] at hlong
  have hmiddle : 0 < middle.length := by omega
  have hskipped : (first ++ middle ++ last).length - context = context + middle.length := by
    simp only [List.length_append]
    omega
  have hdrop : (first ++ middle ++ last).drop (context + middle.length) = last :=
    List.drop_left' (by rw [List.length_append, hfirst])
  have htake : (first ++ middle ++ last).take context = first := by
    rw [List.append_assoc, List.take_left' hfirst]
  rw [hskipped, hdrop, htake]
  have hpositions : ∀ n, n + (first ++ middle ++ last).length =
      n + (context + middle.length) + (Segment.same last).before.length := by
    intro n
    simp only [Segment.before, List.length_append]
    omega
  have hlater : Interleaved (i + (context + middle.length)) (j + (context + middle.length))
      (last ++ a) (last ++ b)
      (Group.cons (i + (context + middle.length)) (j + (context + middle.length)) (.same last) gs) :=
    cons_segment (.same last) (hpositions i ▸ hpositions j ▸ h) (hpositions i ▸ hhead)
  have hbetween := prepend (i := i + context) (j := j + context) middle
    (by rwa [Nat.add_assoc, Nat.add_assoc])
  have hbefore : (Group.mk i j [.same first]).before = first := List.append_nil first
  have hafter : (Group.mk i j [.same first]).after = first := List.append_nil first
  have hends : (Group.mk i j [.same first]).hunk.beforeEnd = i + context ∧
      (Group.mk i j [.same first]).hunk.afterEnd = j + context := by
    simp [hunk, Hunk.beforeEnd, Hunk.afterEnd, hbefore, hafter, hfirst]
  have hone := Interleaved.cons (g := ⟨i, j, [.same first]⟩) [] rfl rfl
    (fun k hk => by have := hlater.le_beforeStart k hk; omega)
    (by rwa [hends.1, hends.2])
  rw [hbefore, hafter] at hone
  simpa only [List.nil_append, List.append_assoc] using hone

/-- Groups that show the same lines on both sides can be left out. -/
lemma filter (shown : Group α → Bool) (h : Interleaved i j a b gs)
    (hsame : ∀ g ∈ gs, shown g = false → g.before = g.after) :
    Interleaved i j a b (gs.filter shown) := by
  induction h with
  | nil rest => exact .nil rest
  | @cons i j a b g gs gap hbefore hafter hlater h ih =>
    have hrest := ih fun k hk => hsame k (List.mem_cons_of_mem g hk)
    rw [List.filter_cons]
    split
    · exact .cons gap hbefore hafter (fun k hk => hlater k (List.mem_filter.mp hk).1) hrest
    · next hg =>
      have heq := hsame g List.mem_cons_self (by simpa using hg)
      have hends : g.hunk.beforeEnd = i + gap.length + g.before.length ∧
          g.hunk.afterEnd = j + gap.length + g.before.length := by
        simp [hunk, Hunk.beforeEnd, Hunk.afterEnd, hbefore, hafter, heq]
      rw [hends.1, hends.2] at hrest
      rw [← heq]
      exact (hrest.prepend g.before).prepend gap

end Interleaved

/-- The first group of a cut starts where the segments do. -/
lemma beforeStart_of_mem_head?_cut {segments : List (Segment α)}
    (h : g ∈ (cut i j segments).head?) : g.beforeStart = i := by
  have hcons : ∀ {s : Segment α} {gs : List (Group α)}, g ∈ (cons i j s gs).head? →
      g.beforeStart = i := by
    intro s gs hg
    cases gs with
    | nil => obtain rfl := Option.mem_some_iff.mp hg; rfl
    | cons => obtain rfl := Option.mem_some_iff.mp hg; rfl
  revert h
  fun_cases cut i j segments with
  | case1 => simp
  | case2 =>
    intro h
    obtain rfl := Option.mem_some_iff.mp h
    rfl
  | case3 => exact hcons
  | case4 => exact hcons

lemma interleaved_cut (i j : Nat) (segments : List (Segment α)) (rest : List α) :
    Interleaved i j (segments.flatMap Segment.before ++ rest)
      (segments.flatMap Segment.after ++ rest) (cut i j segments) := by
  fun_induction cut i j segments with
  | case1 => exact .nil rest
  | case2 i j run later _ hlong skipped ih =>
    rw [List.flatMap_cons, List.flatMap_cons, List.append_assoc, List.append_assoc]
    exact ih.cons_long_run hlong fun g => beforeStart_of_mem_head?_cut
  | case3 i j run later _ hshort ih =>
    rw [List.flatMap_cons, List.flatMap_cons, List.append_assoc, List.append_assoc]
    exact ih.cons_segment (.same run) fun g => beforeStart_of_mem_head?_cut
  | case4 i j removed added later ih =>
    rw [List.flatMap_cons, List.flatMap_cons, List.append_assoc, List.append_assoc]
    exact ih.cons_segment (.change removed added) fun g => beforeStart_of_mem_head?_cut

/-- Trimming drops lines that both lists end in. -/
lemma exists_trimTail (segments : List (Segment α)) : ∃ rest,
    segments.flatMap Segment.before = (trimTail segments).flatMap Segment.before ++ rest ∧
      segments.flatMap Segment.after = (trimTail segments).flatMap Segment.after ++ rest := by
  fun_induction trimTail segments with
  | case1 => exact ⟨[], rfl, rfl⟩
  | case2 run =>
    refine ⟨run.drop context, ?_⟩
    simp [Segment.before, Segment.after]
  | case3 s rest _ ih =>
    obtain ⟨more, hbefore, hafter⟩ := ih
    refine ⟨more, ?_, ?_⟩
    · rw [List.flatMap_cons, List.flatMap_cons, hbefore, List.append_assoc]
    · rw [List.flatMap_cons, List.flatMap_cons, hafter, List.append_assoc]

lemma before_eq_after_of_no_change (h : g.segments.any Segment.isChange = false) :
    g.before = g.after := by
  apply List.flatMap_congr
  intro s hs
  exact Segment.before_eq_after (by simpa using List.any_eq_false.mp h s hs)

/-- The groups of segments show what stands in the two lists of the segments, and leave out shared
runs only. -/
lemma interleaved_ofSegments (segments : List (Segment α)) :
    Interleaved 0 0 (segments.flatMap Segment.before) (segments.flatMap Segment.after)
      (ofSegments segments) := by
  obtain ⟨rest, hbefore, hafter⟩ := exists_trimTail segments
  rw [hbefore, hafter]
  refine Interleaved.filter _ ?_ fun g _ hg => before_eq_after_of_no_change hg
  split
  · next run later heq =>
    have hcut := interleaved_cut (run.length - context) (run.length - context)
      (.same (run.drop (run.length - context)) :: later) rest
    have hlength : (run.take (run.length - context)).length = run.length - context :=
      List.length_take_of_le (Nat.sub_le ..)
    have hwhole := Interleaved.prepend (i := 0) (j := 0) (run.take (run.length - context))
      (by rwa [hlength, Nat.zero_add])
    simpa only [heq, List.flatMap_cons, Segment.before, Segment.after, ← List.append_assoc,
      List.take_append_drop] using hwhole
  · exact interleaved_cut 0 0 _ rest

/-! ### Places of the groups -/

variable {before after : List Line} {u v : List Line} {shown : List (Group Line)} {k : Group Line}

namespace Interleaved

/-- A group stands inside both lists and shows what they have at its places. -/
lemma window_of_mem (h : Interleaved i j u v shown) (hi : i ≤ before.length)
    (hj : j ≤ after.length) (hu : before.drop i = u) (hv : after.drop j = v) (hk : k ∈ shown) :
    (k.hunk.beforeEnd ≤ before.length ∧ k.hunk.afterEnd ≤ after.length) ∧
      k.hunk.removed before = k.before ∧ k.hunk.added after = k.after := by
  induction h with
  | nil => simp at hk
  | @cons i j u v g gs gap hbefore hafter hlater h ih =>
    have hlen := add_length_le_of_drop hi hu
    have hlen' := add_length_le_of_drop hj hv
    have hdrop := drop_add_length_of_drop hu
    have hdrop' := drop_add_length_of_drop hv
    rw [← hbefore] at hlen hdrop
    rw [← hafter] at hlen' hdrop'
    rcases List.mem_cons.mp hk with rfl | hk
    · refine ⟨⟨add_length_le_of_drop hlen hdrop, add_length_le_of_drop hlen' hdrop'⟩, ?_, ?_⟩
      · exact (congrArg (List.take _) hdrop).trans List.take_left
      · exact (congrArg (List.take _) hdrop').trans List.take_left
    · exact ih (add_length_le_of_drop hlen hdrop) (add_length_le_of_drop hlen' hdrop')
        (drop_add_length_of_drop hdrop) (drop_add_length_of_drop hdrop') hk

lemma gaps_eq (h : Interleaved i j u v shown) (hu : before.drop i = u) (hv : after.drop j = v) :
    Hunk.gaps before i ((shown.map hunk).map Hunk.beforeRange) =
      Hunk.gaps after j ((shown.map hunk).map Hunk.afterRange) := by
  induction h with
  | nil rest => exact congrArg ([·]) (hu.trans hv.symm)
  | @cons i j u v g gs gap hbefore hafter hlater h ih =>
    have hdrop := drop_add_length_of_drop hu
    have hdrop' := drop_add_length_of_drop hv
    refine congrArg₂ List.cons ?_ (ih ?_ ?_)
    · change Hunk.window before i (g.beforeStart - i) = Hunk.window after j (g.afterStart - j)
      rw [hbefore, hafter, window_of_drop hu, window_of_drop hv]
    · rw [← hbefore] at hdrop
      exact drop_add_length_of_drop hdrop
    · rw [← hafter] at hdrop'
      exact drop_add_length_of_drop hdrop'

/-- The ranges of the groups follow each other in the second list. -/
lemma laid (h : Interleaved i j u v shown) (hj : j ≤ after.length) (hv : after.drop j = v)
    {d : Nat} (hd : d ≤ j) :
    Hunk.Laid after.length d ((shown.map hunk).map Hunk.afterRange) := by
  induction h generalizing d with
  | nil => exact Nat.le_trans hd hj
  | @cons i j u v g gs gap hbefore hafter hlater h ih =>
    have hlen := add_length_le_of_drop hj hv
    have hdrop := drop_add_length_of_drop hv
    rw [← hafter] at hlen hdrop
    refine ⟨?_, Nat.le_add_right .., ih (add_length_le_of_drop hlen hdrop)
      (drop_add_length_of_drop hdrop) (Nat.le_refl _)⟩
    change d ≤ g.afterStart
    omega

lemma isChain_parted (h : Interleaved i j a b gs) : (gs.map hunk).IsChain Hunk.Parted := by
  induction h with
  | nil => exact List.IsChain.nil
  | @cons i j a b g gs gap hbefore hafter hlater h ih =>
    refine List.isChain_cons.mpr ⟨?_, ih⟩
    intro next hnext
    cases h with
    | nil => simp at hnext
    | @cons _ _ _ _ k _ gap' hbefore' hafter' _ _ =>
      obtain rfl := Option.mem_some_iff.mp hnext
      have hlt := hlater k List.mem_cons_self
      exact ⟨gap'.length, by omega, hbefore', hafter'⟩

end Interleaved

/-! ### Changes that groups show -/

variable {s r : Segment α} {segments : List (Segment α)}

lemma mem_of_mem_cons (hg : g ∈ cons i j r gs) (hs : s ∈ g.segments) :
    s = r ∨ ∃ g ∈ gs, s ∈ g.segments := by
  cases gs with
  | nil =>
    obtain rfl := List.mem_singleton.mp hg
    exact .inl (List.mem_singleton.mp hs)
  | cons first rest =>
    rcases List.mem_cons.mp hg with rfl | hg
    · exact (List.mem_cons.mp hs).imp_right fun hs => ⟨first, List.mem_cons_self, hs⟩
    · exact .inr ⟨g, List.mem_cons_of_mem _ hg, hs⟩

lemma mem_of_mem_cut (hchange : s.isChange = true) (i j : Nat) (segments : List (Segment α)) :
    ∀ g ∈ cut i j segments, s ∈ g.segments → s ∈ segments := by
  have hsame : ∀ run, s ≠ .same run := by
    rintro run rfl
    simp [Segment.isChange] at hchange
  fun_induction cut i j segments with
  | case1 => simp
  | case2 i j run rest later hlong skipped ih =>
    intro g hg hs
    rcases List.mem_cons.mp hg with rfl | hg
    · exact absurd (List.mem_singleton.mp hs) (hsame _)
    · rcases mem_of_mem_cons hg hs with heq | ⟨k, hk, hs⟩
      · exact absurd heq (hsame _)
      · exact List.mem_cons_of_mem _ (ih k hk hs)
  | case3 i j run rest later hshort ih =>
    intro g hg hs
    rcases mem_of_mem_cons hg hs with heq | ⟨k, hk, hs⟩
    · exact absurd heq (hsame _)
    · exact List.mem_cons_of_mem _ (ih k hk hs)
  | case4 i j removed added rest ih =>
    intro g hg hs
    rcases mem_of_mem_cons hg hs with rfl | ⟨k, hk, hs⟩
    · exact List.mem_cons_self
    · exact List.mem_cons_of_mem _ (ih k hk hs)

/-- A group shows a change of the alignment. -/
lemma exists_change_of_mem_ofSegments (hg : g ∈ ofSegments segments) :
    ∃ s ∈ g.segments, s.isChange = true ∧ s ∈ segments := by
  unfold ofSegments at hg
  obtain ⟨hg, hany⟩ := List.mem_filter.mp hg
  obtain ⟨s, hs, hchange⟩ := List.any_eq_true.mp hany
  refine ⟨s, hs, hchange, (mem_trimTail_iff hchange).mp ?_⟩
  split at hg
  · next run rest heq =>
    rw [heq]
    refine (List.mem_cons.mp (mem_of_mem_cut hchange _ _ _ g hg hs)).elim ?_ (List.mem_cons_of_mem _)
    rintro rfl
    simp [Segment.isChange] at hchange
  · exact mem_of_mem_cut hchange _ _ _ g hg hs

/-- Groups of proper segments remove or add lines. -/
lemma length_pos_of_mem_ofSegments (hproper : ∀ s ∈ segments, s.IsProper)
    (hg : g ∈ ofSegments segments) : 0 < g.before.length ∨ 0 < g.after.length := by
  obtain ⟨s, hs, -, hmem⟩ := exists_change_of_mem_ofSegments hg
  have hbefore : s.before ≠ [] → 0 < g.before.length := fun hne =>
    List.length_pos_of_ne_nil fun hnil => hne (List.flatMap_eq_nil_iff.mp hnil s hs)
  have hafter : s.after ≠ [] → 0 < g.after.length := fun hne =>
    List.length_pos_of_ne_nil fun hnil => hne (List.flatMap_eq_nil_iff.mp hnil s hs)
  have hs := hproper s hmem
  cases s with
  | same run => exact .inl (hbefore hs)
  | change removed added => exact hs.imp hbefore hafter

lemma ofSegments_same (run : List α) : ofSegments [.same run] = [] := by
  apply List.eq_nil_iff_forall_not_mem.mpr
  intro g hg
  obtain ⟨s, -, hchange, hs⟩ := exists_change_of_mem_ofSegments hg
  obtain rfl := List.mem_singleton.mp hs
  simp [Segment.isChange] at hchange

end Group

end DocGraft.Diff
