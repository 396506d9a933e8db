import DocGraft.Hunk.Relevance
import DocGraft.Json
import DocGraft.Report.File
import DocGraft.Settings.Basic

/-!
# Reports on batches

What a batch did with all its files, and the two forms in which it is written down.
-/

namespace DocGraft

structure BatchReport where
  direction : Value
  dryRun : Value := .bool false
  files : List FileReport := []
  deriving Repr, BEq

namespace BatchReport

def withStatus (r : BatchReport) (s : Status) : List FileReport :=
  r.files.filter fun f => f.status = s

def count (r : BatchReport) (s : Status) : Nat := (r.withStatus s).length

def changed (r : BatchReport) : Nat := r.count .changed

def unchanged (r : BatchReport) : Nat := r.count .unchanged

def failed (r : BatchReport) : Nat := r.count .failed

def processed (r : BatchReport) : Nat := r.files.length - r.failed

/-- The sum of the numbers of applied hunks. -/
def applied (r : BatchReport) : Except ReportFault Value :=
  r.files.foldlM (fun sum f =>
    match sum.add? f.applied with
    | some sum => .ok sum
    | none => .error (.noNumber f.applied)) (.int 0)

/-- One line for each file that failed. -/
def errors (r : BatchReport) : List String := (r.withStatus .failed).map FileReport.failure

def summary (r : BatchReport) : Except ReportFault Table := do
  return [("processed", .int r.processed), ("rewritten", .int r.changed),
    ("unchanged", .int r.unchanged), ("failed", .int r.failed), ("hunks_applied", ← r.applied)]

def fileTables (r : BatchReport) : Value := .list (r.files.map fun f => .table f.toTable)

def toTable (r : BatchReport) : Except ReportFault Table := do
  return [("direction", r.direction), ("dry_run", r.dryRun),
    ("summary_stats", .table (← r.summary)), ("files", r.fileTables)]

def ofTable (t : Table) : Except ReportFault BatchReport := do
  let direction ← FileReport.needed t "direction"
  let files := t.getD "files" (.list [])
  match files.parts? with
  | some items =>
    return ⟨direction, t.getD "dry_run" (.bool false), ← items.mapM FileReport.ofValue⟩
  | none => .error (.notSeveral files)

/-- The report that a value holds, which has to be a table. -/
def ofValue : Value → Except ReportFault BatchReport
  | .table t => ofTable t
  | value => .error (.notATable value)

def isDryRun (r : BatchReport) : Bool := r.dryRun.isTrue

def isRestore (r : BatchReport) : Bool := r.direction == .text Direction.restore.name

def summaryTitle (r : BatchReport) : String :=
  if r.isDryRun then "Dry Run Summary"
  else if r.isRestore then "Restore Summary"
  else "Migration Summary"

def rule (c : Char) (n : Nat) : String := String.ofList (List.replicate n c)

def summaryLines (r : BatchReport) : Except ReportFault (List String) := do
  return ["Summary", rule '-' 30, "  Processed:        " ++ toString r.processed,
    "  Rewritten:        " ++ toString r.changed, "  Unchanged:        " ++ toString r.unchanged,
    "  Failed:           " ++ toString r.failed,
    "  Hunks applied:    " ++ (← r.applied).asText, ""]

/-- What became of a file: its error, or its numbers of hunks. -/
def detail (f : FileReport) : String :=
  if f.error.isTrue then " (" ++ f.error.asText ++ ")"
  else " " ++ f.applied.asText ++ "/" ++ f.total.asText ++ " hunks"

def fileLines (r : BatchReport) : List String :=
  if r.files.isEmpty then []
  else
    ["Files", rule '-' 30] ++
      r.files.map (fun f => "  [" ++ f.status.name ++ "] " ++ f.path.asText ++ detail f) ++ [""]

def diffLines (r : BatchReport) : Except ReportFault (List String) := do
  let diffs ← r.files.mapM FileReport.diffLines
  if diffs.flatten.isEmpty then return []
  else return ["Diffs", rule '-' 30] ++ diffs.flatten ++ [""]

def plainText (r : BatchReport) : Except ReportFault String := do
  let title := if r.isRestore then "Restore" else "Migration"
  return "\n".intercalate (["syncdoc " ++ title ++ " Report" ++
    (if r.isDryRun then " (dry run)" else ""), rule '=' 50] ++ (← r.summaryLines) ++
    r.fileLines ++ (← r.diffLines))

def version : String := "0.1.0"

/-- The report for programs, as a value; `timestamp` is the time of writing. -/
def document (r : BatchReport) (s : Settings) (timestamp : String) : Except ReportFault Value := do
  return .table [("syncdoc_version", .text version), ("direction", r.direction),
    ("dry_run", r.dryRun), ("formatter", s.formatter.command), ("timestamp", .text timestamp),
    ("summary", .table (← r.summary)), ("files", r.fileTables)]

def json (r : BatchReport) (s : Settings) (timestamp : String) : Except ReportFault String := do
  let text ← (Json.encode (← r.document s timestamp)).mapError .unwritable
  return String.ofList text

inductive FormatFault
  | noSettings
  | unknown (format : Value)
  | report (fault : ReportFault)
  deriving Repr, BEq

def FormatFault.message : FormatFault → String
  | .noSettings => "config is required for JSON output format"
  | .unknown format => "Unknown output format: " ++ format.shown
  | .report fault => fault.message

def render (r : BatchReport) (format : Value) (settings : Option Settings) (timestamp : String) :
    Except FormatFault String :=
  match format, settings with
  | .text "json", some s => (r.json s timestamp).mapError .report
  | .text "json", none => .error .noSettings
  | .text "text", _ => r.plainText.mapError .report
  | _, _ => .error (.unknown format)

end BatchReport

end DocGraft
