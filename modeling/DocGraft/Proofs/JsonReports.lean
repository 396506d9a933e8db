import DocGraft.Proofs.JobReports
import DocGraft.Proofs.JsonTexts
import DocGraft.Report.Batch
import Mathlib.Algebra.Ring.Int.Defs

/-!
# Reports as JSON

The JSON report on a batch loses nothing. It is ASCII, the reader makes the document of it again, and
its entries on files give the reports that the batch has, in their order. There is such a text
exactly if no number in the report has too many digits.
-/

namespace DocGraft

/-! ### Reports that are read from their entries -/

lemma Status.ofName?_name (s : Status) : ofName? s.name = some s := by
  cases s with
  | changed => rfl
  | unchanged => rfl
  | failed => rfl

namespace FileReport

/-- The entry of a report gives the report again, if that is in order. -/
lemma ofTable_toTable (r : FileReport) : ofTable r.toTable = r.checked := by
  have hstatus : asStatus (.text r.status.name) = .ok r.status := by
    rw [asStatus, Status.ofName?_name]
  have hfound : needed r.toTable "status" = .ok (.text r.status.name) := rfl
  have hpath : needed r.toTable "path" = .ok r.path := rfl
  rw [ofTable, hpath, hfound]
  simp only [bind, Except.bind, hstatus]
  rfl

end FileReport

/-! ### Accounts of files -/

/-- What a merge did with a file, with every value of its kind. A failure has a reason, and no more
hunks were applied than there are. -/
structure FileAccount where
  path : String
  status : Status
  total : Int
  applied : Int
  outputPath : Option String
  diff : String
  error : Option String
  explained : status = .failed → ∃ reason, error = some reason ∧ reason ≠ ""
  covered : applied ≤ total

namespace FileAccount

def textOrNull : Option String → Value
  | some s => .text s
  | none => .null

def report (a : FileAccount) : FileReport :=
  ⟨.text a.path, a.status, .int a.total, .int a.applied, textOrNull a.outputPath, .text a.diff,
    textOrNull a.error⟩

lemma report_checked (a : FileAccount) : a.report.checked = .ok a.report := by
  have hreason : ¬(a.report.status = .failed ∧ !a.report.error.isTrue) := by
    rintro ⟨hfailed, hfalse⟩
    obtain ⟨reason, heq, hne⟩ := a.explained hfailed
    have htrue : a.report.error.isTrue = true := by
      simp [report, heq, textOrNull, Value.isTrue, hne]
    rw [htrue] at hfalse
    exact absurd hfalse (by decide)
  have hcount : a.report.applied.exceeds? a.report.total = some false :=
    Value.exceeds?_int_of_le a.covered
  rw [FileReport.checked, if_neg hreason, hcount]

lemma isPlain_textOrNull (s? : Option String) : Json.IsPlain (textOrNull s?) := by
  cases s? with
  | none => exact .null
  | some s => exact .text s

lemma isPlain_toTable (a : FileAccount) : Json.IsPlain (.table a.report.toTable) := by
  refine .table (by simp [Table.IsDistinct, FileReport.toTable]) fun e he => ?_
  simp only [FileReport.toTable, report, List.mem_cons, List.not_mem_nil, or_false] at he
  rcases he with rfl | rfl | rfl | rfl | rfl | rfl | rfl
  · exact .text _
  · exact .text _
  · exact .int _
  · exact .int _
  · exact isPlain_textOrNull _
  · exact .text _
  · exact isPlain_textOrNull _

lemma isWritable_textOrNull (s? : Option String) : (textOrNull s?).isWritable = true := by
  cases s? with
  | none => rfl
  | some s => rfl

lemma isWritable_toTable (a : FileAccount) : (Value.table a.report.toTable).isWritable = true ↔
    ∀ n ∈ [a.total, a.applied], (Value.int n).isWritable = true := by
  have htext : ∀ s, (Value.text s).isWritable = true := fun s => rfl
  simp only [Value.isWritable_table, FileReport.toTable, report, List.forall_mem_cons, htext,
    isWritable_textOrNull, List.not_mem_nil, false_imp_iff, implies_true, and_true, true_and]

end FileAccount

/-! ### Reports on batches -/

namespace BatchReport

/-- Every file is changed, unchanged or failed. -/
lemma length_files (r : BatchReport) : r.changed + r.unchanged + r.failed = r.files.length := by
  obtain ⟨direction, dryRun, files⟩ := r
  simp only [changed, unchanged, failed, count, withStatus]
  induction files with
  | nil => rfl
  | cons f files ih =>
    cases hstatus : f.status with
    | changed | unchanged | failed =>
      simp only [List.filter_cons, hstatus, decide_true, decide_false, reduceCtorEq, if_true,
        Bool.false_eq_true, if_false, List.length_cons]
      omega

/-- A document from which the reports on all files can be rebuilt, and that has the summary. -/
structure StandsIn (r : BatchReport) (document : Table) : Prop where
  summary : ∃ summary, document.get? "summary" = some (.table summary) ∧ r.summary = .ok summary
  files : ∃ items, document.get? "files" = some (.list items) ∧
    items.mapM FileReport.ofValue = .ok r.files

end BatchReport

/-- What a batch did, with every value of its kind. -/
structure BatchAccount where
  direction : String
  dryRun : Bool
  files : List FileAccount

namespace BatchAccount

def report (a : BatchAccount) : BatchReport :=
  ⟨.text a.direction, .bool a.dryRun, a.files.map FileAccount.report⟩

def applied (a : BatchAccount) : Int := (a.files.map FileAccount.applied).sum

/-- The whole numbers in the report: those of its summary, and those of each file. -/
def numbers (a : BatchAccount) : List Int :=
  [(a.report.processed : Int), a.report.changed, a.report.unchanged, a.report.failed, a.applied] ++
    a.files.flatMap fun f => [f.total, f.applied]

lemma foldlM_add? (files : List FileAccount) (n : Int) :
    (files.map FileAccount.report).foldlM (fun sum f =>
      match sum.add? f.applied with
      | some sum => .ok sum
      | none => .error (.noNumber f.applied)) (.int n) =
      (.ok (.int (n + (files.map FileAccount.applied).sum)) : Except ReportFault Value) := by
  induction files generalizing n with
  | nil => simp [pure, Except.pure]
  | cons f files ih =>
    have hadd : (Value.int n).add? f.report.applied = some (.int (n + f.applied)) := rfl
    rw [List.map_cons, List.foldlM_cons, hadd, List.map_cons, List.sum_cons, ← Int.add_assoc]
    exact ih (n + f.applied)

lemma report_applied (a : BatchAccount) : a.report.applied = .ok (.int a.applied) := by
  have hsum := foldlM_add? a.files 0
  rw [Int.zero_add] at hsum
  exact hsum

/-- The summary as a table. -/
def summary (a : BatchAccount) : Table :=
  [("processed", .int a.report.processed), ("rewritten", .int a.report.changed),
    ("unchanged", .int a.report.unchanged), ("failed", .int a.report.failed),
    ("hunks_applied", .int a.applied)]

lemma report_summary (a : BatchAccount) : a.report.summary = .ok a.summary := by
  rw [BatchReport.summary, report_applied]
  rfl

/-- The report as a table, under the name of a formatter and a time. -/
def document (a : BatchAccount) (command timestamp : String) : Table :=
  [("syncdoc_version", .text BatchReport.version), ("direction", .text a.direction),
    ("dry_run", .bool a.dryRun), ("formatter", .text command), ("timestamp", .text timestamp),
    ("summary", .table a.summary),
    ("files", .list (a.files.map fun f => .table f.report.toTable))]

variable {s : Settings} {command : String}

lemma report_document (a : BatchAccount) (hcommand : s.formatter.command = .text command)
    (timestamp : String) :
    a.report.document s timestamp = .ok (.table (a.document command timestamp)) := by
  have hfiles : a.report.fileTables = .list (a.files.map fun f => .table f.report.toTable) := by
    rw [BatchReport.fileTables, report, List.map_map]
    rfl
  rw [BatchReport.document, report_summary, hcommand, hfiles]
  rfl

lemma isPlain_document (a : BatchAccount) (command timestamp : String) :
    Json.IsPlain (.table (a.document command timestamp)) := by
  have hsummary : Json.IsPlain (.table a.summary) := by
    refine .table (by simp [Table.IsDistinct, summary]) fun e he => ?_
    simp only [summary, List.mem_cons, List.not_mem_nil, or_false] at he
    rcases he with rfl | rfl | rfl | rfl | rfl
    all_goals exact .int _
  have hfiles : Json.IsPlain (.list (a.files.map fun f => .table f.report.toTable)) := by
    refine .list fun v hv => ?_
    obtain ⟨f, -, rfl⟩ := List.mem_map.mp hv
    exact f.isPlain_toTable
  refine .table (by simp [Table.IsDistinct, document]) fun e he => ?_
  simp only [document, List.mem_cons, List.not_mem_nil, or_false] at he
  rcases he with rfl | rfl | rfl | rfl | rfl | rfl | rfl
  · exact .text _
  · exact .text _
  · exact .bool _
  · exact .text _
  · exact .text _
  · exact hsummary
  · exact hfiles

lemma isWritable_summary (a : BatchAccount) : (Value.table a.summary).isWritable = true ↔
    ∀ n ∈ [(a.report.processed : Int), a.report.changed, a.report.unchanged, a.report.failed,
      a.applied], (Value.int n).isWritable = true := by
  simp only [Value.isWritable_table, summary, List.forall_mem_cons]
  simp

lemma isWritable_document (a : BatchAccount) (command timestamp : String) :
    (Value.table (a.document command timestamp)).isWritable = true ↔
      ∀ n ∈ a.numbers, (Value.int n).isWritable = true := by
  have htext : ∀ s, (Value.text s).isWritable = true := fun s => rfl
  have hbool : ∀ b, (Value.bool b).isWritable = true := fun b => rfl
  have hfiles : (∀ v ∈ a.files.map fun f => Value.table f.report.toTable, v.isWritable = true) ↔
      ∀ n ∈ a.files.flatMap fun f => [f.total, f.applied], (Value.int n).isWritable = true := by
    rw [List.forall_mem_map, List.forall_mem_flatMap]
    exact forall₂_congr fun f _ => f.isWritable_toTable
  rw [Value.isWritable_table, numbers, List.forall_mem_append, ← isWritable_summary, ← hfiles,
    ← Value.isWritable_list]
  simp only [document, List.forall_mem_cons, htext, hbool, List.not_mem_nil, false_imp_iff,
    implies_true, and_true, true_and]

lemma report_json (a : BatchAccount) (hcommand : s.formatter.command = .text command)
    (timestamp : String) : a.report.json s timestamp =
      if (Value.table (a.document command timestamp)).isWritable then
        .ok (String.ofList (Json.text (.table (a.document command timestamp))))
      else .error (.unwritable .tooLong) := by
  rw [BatchReport.json, report_document a hcommand]
  simp only [bind, Except.bind, Json.encode_of_isPlain (a.isPlain_document command timestamp)]
  by_cases hwritable : (Value.table (a.document command timestamp)).isWritable = true
  · rw [if_pos hwritable, if_pos hwritable]
    rfl
  · rw [if_neg hwritable, if_neg hwritable]
    rfl

/-- A number with too many digits anywhere in the report leaves it unwritten. -/
lemma report_json_of_long (a : BatchAccount) (hcommand : s.formatter.command = .text command)
    (timestamp : String) {n : Int} (hn : n ∈ a.numbers)
    (hlong : Number.longest < (Nat.toDigits 10 n.natAbs).length) :
    a.report.json s timestamp = .error (.unwritable .tooLong) := by
  rw [report_json a hcommand, if_neg]
  intro hwritable
  have hshort := (isWritable_document a command timestamp).mp hwritable n hn
  exact absurd (Value.isWritable_int.mp hshort) (by omega)

lemma mapM_ofValue (files : List FileAccount) :
    (files.map fun f => Value.table f.report.toTable).mapM FileReport.ofValue =
      .ok (files.map FileAccount.report) := by
  induction files with
  | nil => rfl
  | cons f files ih =>
    have hfirst : FileReport.ofValue (.table f.report.toTable) = .ok f.report := by
      rw [FileReport.ofValue, FileReport.ofTable_toTable, f.report_checked]
    rw [List.map_cons, List.mapM_cons, hfirst, ih]
    rfl

lemma standsIn_document (a : BatchAccount) (command timestamp : String) :
    a.report.StandsIn (a.document command timestamp) where
  summary := ⟨a.summary, rfl, a.report_summary⟩
  files := ⟨a.files.map fun f => .table f.report.toTable, rfl, mapM_ofValue a.files⟩

/-- If no number in the report on a batch has too many digits, there is a text of it: ASCII that the
reader makes the document of again, from which the reports on all files can be rebuilt and that has
the summary. Otherwise there is none. The files that were processed are those that were changed and
those that were not, and with the failed ones they are all files. -/
theorem json_restores_report (a : BatchAccount) (timestamp : String)
    (hcommand : s.formatter.command = .text command) :
    ((∀ n ∈ a.numbers, (Nat.toDigits 10 n.natAbs).length ≤ Number.longest) →
      ∃ text document, a.report.json s timestamp = .ok text ∧
        a.report.document s timestamp = .ok (.table document) ∧
        Json.IsAscii text.toList ∧ Json.decode? text.toList = some (.table document) ∧
        a.report.StandsIn document) ∧
      ((∃ n ∈ a.numbers, Number.longest < (Nat.toDigits 10 n.natAbs).length) →
        a.report.json s timestamp = .error (.unwritable .tooLong)) ∧
      a.report.processed = a.report.changed + a.report.unchanged ∧
      a.report.processed + a.report.failed = a.report.files.length := by
  have hcounts := a.report.length_files
  have hprocessed : a.report.processed = a.report.files.length - a.report.failed := rfl
  refine ⟨fun hshort => ?_, ?_, by omega, by omega⟩
  · have hplain := a.isPlain_document command timestamp
    have hwritable := (isWritable_document a command timestamp).mpr fun n hn =>
      Value.isWritable_int.mpr (hshort n hn)
    refine ⟨_, _, (report_json a hcommand timestamp).trans (if_pos hwritable),
      report_document a hcommand timestamp, ?_, ?_, standsIn_document a command timestamp⟩
    · rw [String.toList_ofList]
      exact Json.isAscii_write hplain
    · rw [String.toList_ofList]
      exact Json.decode?_text hplain hwritable
  · rintro ⟨n, hn, hlong⟩
    exact report_json_of_long a hcommand timestamp hn hlong

/-- Quotes, a backslash, controls and a character above U+FFFF come back, and so does a failure. -/
theorem json_restores_report_of_escaped_texts :
    let a : BatchAccount := ⟨"migrate", true,
      [⟨"src/\"ä\"\\😀.rs", .changed, 3, 2, some "out/😀.rs", "-a\n+b\t\x07\n", none, nofun,
        by decide⟩,
      ⟨"b.rs", .failed, 0, 0, none, "", some "no line \x7f", fun _ => ⟨_, rfl, by decide⟩,
        by decide⟩]⟩
    let s : Settings := {}
    s.formatter.command = .text "rustfmt" ∧
      (∀ n ∈ a.numbers, (Nat.toDigits 10 n.natAbs).length ≤ Number.longest) ∧
      ∃ text document, a.report.json s "2024-01-02" = .ok text ∧
        a.report.document s "2024-01-02" = .ok (.table document) ∧
        Json.IsAscii text.toList ∧ Json.decode? text.toList = some (.table document) ∧
        a.report.StandsIn document := by
  intro a s
  have hcommand : s.formatter.command = .text "rustfmt" := rfl
  have hshort : ∀ n ∈ a.numbers, (Nat.toDigits 10 n.natAbs).length ≤ Number.longest := by
    decide
  exact ⟨hcommand, hshort, (a.json_restores_report "2024-01-02" hcommand).1 hshort⟩

/-- Two numbers of hunks that can be written need not have a sum that can. -/
theorem json_of_long_sum_is_refused :
    let widest : Int := 10 ^ Number.longest - 1
    let a : BatchAccount := ⟨"migrate", false,
      [⟨"a.rs", .changed, widest, widest, none, "", none, nofun, Int.le_refl widest⟩,
        ⟨"b.rs", .changed, 1, 1, none, "", none, nofun, by decide⟩]⟩
    a.report.json {} "2024-01-02T03:04:05.678901+00:00" =
      .error (.unwritable .tooLong) := by
  intro widest a
  have hsum : a.applied = 10 ^ Number.longest := by
    simp [a, applied, widest]
  have hmem : a.applied ∈ a.numbers := by
    simp [numbers]
  refine a.report_json_of_long rfl _ hmem ?_
  have hpos : 0 < Number.longest := by decide
  rw [hsum, Int.natAbs_pow]
  generalize Number.longest = k at hpos ⊢
  refine Nat.lt_of_not_le fun hle => ?_
  exact absurd ((Nat.length_toDigits_le_iff (by decide) hpos).mp hle) (Nat.lt_irrefl _)

end BatchAccount

end DocGraft
