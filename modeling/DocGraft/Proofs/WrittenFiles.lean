import DocGraft.Proofs.DiscoveredJobs
import DocGraft.Proofs.DryRun

/-!
# Files that a batch writes

A batch on the jobs of a directory leaves the merged texts at the outputs of the jobs that did not
fail, unless a text is unchanged and stands there already. No other file is changed. All texts are
read before the first one is written, so the output directory may be one of those that are read.
-/

namespace DocGraft

/-- The report says that the merged text of the job is written to its output. -/
structure Job.IsDue (job : Job) (file : FileReport) : Prop where
  succeeded : file.status ≠ .failed
  needed : job.output ≠ job.base ∨ file.status = .changed

namespace Batch

variable {b : Batch} {runner : Runner} {tree t : Tree} {outcome : Outcome}

/-- The tree after a batch, by the reports on its jobs: the outputs that are due hold the texts that
were merged from the first tree, and all other files are as they were. -/
structure Leaves (b : Batch) (runner : Runner) (tree : Tree) (files : List FileReport)
    (last : Tree) : Prop where
  length_eq : files.length = b.size
  written : ∀ (i : Nat) job file, b.jobs[i]? = some job → files[i]? = some file → job.IsDue file →
    ∃ base transformed merged, tree.readText job.base = .ok base ∧
      tree.readText job.transformed = .ok transformed ∧
      b.merger.merge runner b.direction base transformed = .ok merged ∧
      last.read job.output = .ok (Utf8.encode merged)
  /-- A job that failed, or leaves a file in its place unchanged, keeps what is at its output. -/
  kept : ∀ (i : Nat) job file, b.jobs[i]? = some job → files[i]? = some file → ¬ job.IsDue file →
    ∀ q, last.place job.output = .ok q → last.file? q = tree.file? q
  /-- Only the outputs that are due are changed. -/
  frame : ∀ q, last.file? q ≠ tree.file? q → ∃ (i : Nat) (job : Job) (file : FileReport),
    b.jobs[i]? = some job ∧ files[i]? = some file ∧ job.IsDue file ∧ last.place job.output = .ok q

/-! ### Texts and reports -/

lemma text_of_isDue {job : Job} {m : Job.Merged}
    (h : Job.merge b.merger runner tree b.direction b.dryRun job = .ok m)
    (hdue : job.IsDue m.report) :
    ∃ base transformed merged, tree.readText job.base = .ok base ∧
      tree.readText job.transformed = .ok transformed ∧
      b.merger.merge runner b.direction base transformed = .ok merged ∧ m.text = some merged := by
  rcases Job.merge_cases h with ⟨made, hmake, rfl⟩ | ⟨error, -, rfl⟩
  · obtain ⟨transformed, hbase, htransformed, hmerge⟩ := Job.exists_of_make hmake
    refine ⟨made.base, transformed, made.merged, hbase, htransformed, hmerge, ?_⟩
    have hwrite : (!made.isChanged && decide (job.output = job.base)) = false := by
      rcases hdue.needed with hne | hchanged
      · simp [hne]
      · have hne := (made.status_report job b.dryRun).mp hchanged
        simp [Job.Made.isChanged, hne]
    simp [Job.Made.text, hwrite]
  · exact absurd rfl hdue.succeeded

lemma isDue_of_text {job : Job} {m : Job.Merged} {text : Text}
    (h : Job.merge b.merger runner tree b.direction b.dryRun job = .ok m)
    (htext : m.text = some text) : job.IsDue m.report := by
  rcases Job.merge_cases h with ⟨made, -, rfl⟩ | ⟨error, -, rfl⟩
  · have hsucceeded : (made.report job b.dryRun).status ≠ .failed := by
      unfold Job.Made.report
      split
      · simp
      · simp
    refine ⟨hsucceeded, ?_⟩
    by_contra hnot
    push Not at hnot
    obtain ⟨hsame, hstatus⟩ := hnot
    rw [ne_eq, made.status_report, not_not] at hstatus
    simp [Job.Made.text, Job.Made.isChanged, hstatus, hsame] at htext
  · simp at htext

/-! ### The tree after all turns -/

lemma AllReport.map_fst_given {ends : Endings} (hall : b.AllReport ends) :
    (b.given ends).map Prod.fst = b.jobs := by
  apply List.ext_getElem?
  intro i
  cases hjob : b.jobs[i]? with
  | some job =>
    obtain ⟨m, -, hgiven⟩ := hall.exists_given hjob
    rw [List.getElem?_map, hgiven, Option.map_some]
  | none =>
    have hlength := hall.length_given
    have hsize := List.getElem?_eq_none_iff.mp hjob
    rw [List.getElem?_eq_none_iff, List.length_map, hlength]
    exact hsize

lemma AllReport.frame (hall : b.AllReport (b.endings runner tree)) {q : Place} :
    let given := b.given (b.endings runner tree)
    (b.treeAfter tree given).file? q ≠ tree.file? q →
      ∃ (i : Nat) (job : Job) (file : FileReport), b.jobs[i]? = some job ∧
        (b.filesAfter tree given)[i]? = some file ∧ job.IsDue file ∧
        (b.treeAfter tree given).place job.output = .ok q := by
  intro given hq
  obtain ⟨i, job, m, text, hgiven, hfile, htext, -, hplace⟩ := exists_of_file?_ne hq
  have hlt : i < b.size := by
    obtain ⟨hi, -⟩ := List.getElem?_eq_some_iff.mp hgiven
    rwa [hall.length_given] at hi
  rw [hall.getElem?_given hlt, given?_eq_some_iff] at hgiven
  exact ⟨i, job, m.report, hgiven.1, hfile, isDue_of_text hgiven.2 htext, hplace⟩

/-- Jobs that write apart leave their texts, and nothing else. -/
lemma AllReport.leaves (hall : b.AllReport (b.endings runner tree)) (hwet : b.dryRun = false)
    (hapart : tree.IsApart) (hjobs : b.jobs.Pairwise Job.WritesApart) :
    let given := b.given (b.endings runner tree)
    b.Leaves runner tree (b.filesAfter tree given) (b.treeAfter tree given) where
  length_eq := (length_filesAfter b tree _).trans hall.length_given
  written i job file hjob hfile hdue := by
    obtain ⟨m, hm, hgiven⟩ := hall.exists_given hjob
    have hsettled := Option.some.inj ((getElem?_filesAfter tree hgiven).symm.trans hfile)
    have hreport : file = m.report := by
      cases hfault : (b.turn (b.treeAfter tree
          ((b.given (b.endings runner tree)).take i)) job m).2 with
      | none => rw [← hsettled, hfault, settled]
      | some e =>
        rw [hfault, settled] at hsettled
        exact absurd (by rw [← hsettled]; rfl) hdue.succeeded
    obtain ⟨base, transformed, merged, hbase, htransformed, hmerge, htext⟩ :=
      text_of_isDue hm (hreport ▸ hdue)
    have hdiff : (b.given (b.endings runner tree)).Pairwise fun x y => x.1.WritesApart y.1 := by
      rw [← List.pairwise_map, hall.map_fst_given]
      exact hjobs
    exact ⟨base, transformed, merged, hbase, htransformed, hmerge,
      read_treeAfter hapart hdiff hgiven hfile hdue.succeeded htext hwet⟩
  kept i job file hjob hfile hnot q hplace := by
    by_contra hne
    -- the change is due to another job, which writes elsewhere
    obtain ⟨k, job', file', hjob', hfile', hdue, hplace'⟩ := hall.frame hne
    by_cases hik : i = k
    · subst hik
      obtain rfl := Option.some.inj (hjob.symm.trans hjob')
      obtain rfl := Option.some.inj (hfile.symm.trans hfile')
      exact hnot hdue
    · obtain ⟨hi, rfl⟩ := List.getElem?_eq_some_iff.mp hjob
      obtain ⟨hk, rfl⟩ := List.getElem?_eq_some_iff.mp hjob'
      have hpairs := List.pairwise_iff_getElem.mp hjobs
      have happart : b.jobs[i].WritesApart b.jobs[k] := by
        rcases Nat.lt_or_gt_of_ne hik with hlt | hgt
        · exact hpairs i k hi hk hlt
        · exact (hpairs k i hk hi hgt).symm
      exact happart _ q hplace hplace'
  frame q hq := hall.frame hq

/-! ### Outputs that are no paths -/

lemma tree_turn_of_hasNull {job : Job} (h : job.output.parent.HasNull) (t : Tree)
    (m : Job.Merged) : (b.turn t job m).1 = t := by
  rcases turn_cases b t job m with hturn | ⟨text, -, -, hturn⟩
  · rw [hturn]
  · rw [hturn, writeJob, Tree.ensureDirs_of_hasNull h]

lemma tree_writeAll_of_hasNull (h : ∀ job ∈ b.jobs, job.output.parent.HasNull) (ends : Endings)
    (w : Writing) (is : List Nat) : (b.writeAll ends w is).tree = w.tree := by
  refine writeAll_keeps (p := fun later => later.tree = w.tree) ?_ rfl is
  intro later i job m hgiven hlater
  have hjob := List.mem_of_getElem? (given?_eq_some_iff.mp hgiven).1
  rw [tree_writeOne, tree_turn_of_hasNull (h job hjob), hlater]

/-! ### Whole runs -/

lemma CanEndIn.tree_of_dry {ends : Endings} (h : b.CanEndIn ends tree outcome)
    (hslow : b.failFast = false) (hdry : b.dryRun = true) : outcome.tree = tree := by
  rcases h.cases_of_slow hslow with
    ⟨-, -, -, -, -, -, htree⟩ | ⟨-, ⟨e, he, -⟩ | ⟨-, -, htree⟩⟩
  · exact htree
  · rw [faultsAfter_of_dry hdry] at he
    simp at he
  · rw [htree, treeAfter_of_dry hdry]

/-- A run on jobs that are separate leaves their texts, or ends without reports and without a
change. -/
lemma CanEndIn.leaves (h : b.CanEndIn (b.endings runner tree) tree outcome)
    (hslow : b.failFast = false) (hwet : b.dryRun = false) (hapart : tree.IsApart)
    (hjobs : Job.Separate b.jobs) :
    (∃ files, outcome.report = .ok ⟨.text b.direction.name, .bool false, files⟩ ∧
        b.Leaves runner tree files outcome.tree) ∨
      (b.merger.macroIsText = true → ∃ job ∈ b.jobs, ¬ job.IsAddressable tree) ∧
        (∃ fault, outcome.report = .error fault) ∧ outcome.tree = tree := by
  rcases h.cases_of_slow hslow with
    ⟨i, job, abort, hjob, hresult, hreport, htree⟩ |
    ⟨hall, ⟨e, he, hnull, hreport, htree⟩ | ⟨-, hreport, htree⟩⟩
  · refine .inr ⟨fun hname => ?_, ⟨_, hreport⟩, htree⟩
    refine ⟨job, List.mem_of_getElem? hjob, fun haddress => ?_⟩
    obtain ⟨m, hm⟩ := haddress.exists_merge hname runner b.direction b.dryRun
    have hboth := hm.symm.trans hresult
    simp at hboth
  · -- all outputs lie below one directory, and it is the path of that directory that is none
    have hsome : ∃ job ∈ b.jobs, job.output.HasNull := by
      by_contra hnone
      push Not at hnone
      refine fault_ne_nullCharacter (fun pair hpair => ?_) e he hnull
      exact hnone pair.1 (job_mem_of_mem_given hpair)
    obtain ⟨job, hjob, houtput⟩ := hsome
    refine .inr ⟨fun _ => ⟨job, hjob, fun haddress => haddress.output houtput⟩, ⟨_, hreport⟩, ?_⟩
    rw [htree, tree_writeAll_of_hasNull (hjobs.noPath ⟨job, hjob, houtput⟩)]
  · rw [hwet] at hreport
    rw [htree]
    exact .inl ⟨_, hreport, hall.leaves hwet hapart hjobs.writesApart⟩

/-- A batch on the jobs of a directory writes the merged texts to their outputs, and changes no
other file. It makes no difference where the output directory is. A run that ends without reports,
as only a job does that cannot be asked for, changes nothing, and neither does a dry run. Where
something below the directory has a path that is too long, there are no jobs to run. -/
theorem batch_writes_merged_texts_only (tree : Tree) (base transformed : Path)
    (output : Option Path) (endings : Value) (suffixes : List String) (merger : Merger)
    (runner : Runner) (direction : Direction) (hproper : tree.IsProper)
    (hendings : endings.parts? = some (suffixes.map .text)) :
    (tree.IsExplorable base →
      ∃ jobs, Job.discover tree base transformed output endings = .ok jobs ∧
        let dry : Batch := ⟨jobs, merger, direction, true, false⟩
        let real : Batch := ⟨jobs, merger, direction, false, false⟩
        (jobs.map Job.relative).Nodup ∧ (jobs.map Job.output).Nodup ∧
        (∀ outcome, dry.CanEndIn (dry.endings runner tree) tree outcome → outcome.tree = tree) ∧
        ∀ outcome, real.CanEndIn (real.endings runner tree) tree outcome →
          (∃ files, outcome.report = .ok ⟨.text direction.name, .bool false, files⟩ ∧
            real.Leaves runner tree files outcome.tree) ∨
          (merger.macroIsText = true → ∃ job ∈ jobs, ¬ job.IsAddressable tree) ∧
            (∃ fault, outcome.report = .error fault) ∧ outcome.tree = tree) ∧
    (¬ tree.IsExplorable base → ∃ e, e.fault = .nameTooLong ∧
      Job.discover tree base transformed output endings = .error (.file e)) := by
  refine ⟨fun hbase => ?_, fun hbase => ?_⟩
  · have hjobs := Job.discover_of_isExplorable hproper hbase hendings transformed output
    have hseparate : Job.Separate (((tree.listed base).filter (Job.isChosen suffixes)).map
        (Job.ofPlace base transformed output)) := Job.separate_of_listed hproper suffixes
    refine ⟨_, hjobs, hseparate.relative, hseparate.output, ?_, ?_⟩
    · intro outcome houtcome
      exact houtcome.tree_of_dry rfl rfl
    · intro outcome houtcome
      exact houtcome.leaves rfl rfl hproper.isApart hseparate
  · exact Job.discover_of_not_isExplorable hproper hbase hendings transformed output

/-- The output directory is the transformed one and lies in the base, so that the output of the
first job is the base of the second. The path of the base starts from the root, the others from the
working directory, which is the base. -/
theorem batch_writes_merged_texts_only_within_base :
    let tree : Tree :=
      { files := [(["o", "a.rs"], Utf8.encode "/// A.\r\nfn a() {}\r\n".toList),
          (["o", "t", "a.rs"], Utf8.encode "#[omnidoc]\nfn a() {}\n".toList),
          (["o", "t", "t", "a.rs"], Utf8.encode "fn a() {}\n".toList)]
        here := ["o"] }
    let base : Path := ⟨.root, ["o"]⟩
    let within : Path := ⟨.here, ["t"]⟩
    let first : Job := ⟨⟨.root, ["o", "a.rs"]⟩, ⟨.here, ["t", "a.rs"]⟩, ⟨.here, ["t", "a.rs"]⟩,
      "a.rs"⟩
    let second : Job := ⟨⟨.root, ["o", "t", "a.rs"]⟩, ⟨.here, ["t", "t", "a.rs"]⟩,
      ⟨.here, ["t", "t", "a.rs"]⟩, "t/a.rs"⟩
    let third : Job := ⟨⟨.root, ["o", "t", "t", "a.rs"]⟩, ⟨.here, ["t", "t", "t", "a.rs"]⟩,
      ⟨.here, ["t", "t", "t", "a.rs"]⟩, "t/t/a.rs"⟩
    let b : Batch := ⟨[first, second, third], {}, .migrate, false, false⟩
    tree.IsProper ∧ tree.IsExplorable base ∧
      Job.discover tree base within (some within) (.fixed [.text ".rs"]) = .ok b.jobs ∧
      (b.jobs.map Job.output).Nodup ∧
      ∃ files, (b.run Formatter.echo tree (.int 4)).report =
          .ok ⟨.text "migrate", .bool false, files⟩ ∧
        b.Leaves Formatter.echo tree files (b.run Formatter.echo tree (.int 4)).tree := by
  intro tree base within first second third b
  have hproper : tree.IsProper := by decide +kernel
  have haddress : ∀ job ∈ b.jobs, job.IsAddressable tree := by decide +kernel
  have hplace : tree.place base = .ok ["o"] := by decide +kernel
  have hfiles : tree.filesBelow ["o"] = [["a.rs"], ["t", "a.rs"], ["t", "t", "a.rs"]] :=
    -- the files are listed in their order
    List.mergeSort_of_pairwise (by decide +kernel)
  have hbase : tree.IsExplorable base := by
    apply Tree.isExplorable_of_lists hplace
    · decide +kernel
    · rw [hfiles]
      decide +kernel
  have hfound : Job.discover tree base within (some within) (.fixed [.text ".rs"]) =
      .ok b.jobs := by
    have hparts : (Value.fixed [.text ".rs"]).parts? = some ([".rs"].map .text) := rfl
    rw [Job.discover_of_isExplorable hproper hbase hparts, Tree.listed, hplace]
    dsimp only
    rw [hfiles]
    exact congrArg Except.ok (by decide +kernel)
  obtain ⟨jobs, hjobs, -, houtput, -, hleaves⟩ := (batch_writes_merged_texts_only tree
    base within (some within) (.fixed [.text ".rs"]) [".rs"] {} Formatter.echo .migrate
    hproper rfl).1 hbase
  obtain rfl : b.jobs = jobs := Except.ok.inj (hfound.symm.trans hjobs)
  refine ⟨hproper, hbase, hfound, houtput, ?_⟩
  rcases hleaves _ (canEndIn_run b Formatter.echo tree (.int 4) rfl) with
    hreport | ⟨hnone, -⟩
  · exact hreport
  · obtain ⟨job, hjob, hnot⟩ := hnone rfl
    exact absurd (haddress job hjob) hnot

end Batch

end DocGraft
