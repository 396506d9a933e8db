import DocGraft.Json
import DocGraft.Value.Amount

/-!
# Reports on files

What a merge did with one file, as it goes into reports and comes back from them. Of the values that
come back only the status has to be of its kind: the others are kept as they are.
-/

namespace DocGraft

inductive Status
  | changed
  | unchanged
  | failed
  deriving DecidableEq, Repr

def Status.name : Status → String
  | .changed => "rewritten"
  | .unchanged => "unchanged"
  | .failed => "failed"

def Status.ofName? : String → Option Status
  | "rewritten" => some .changed
  | "unchanged" => some .unchanged
  | "failed" => some .failed
  | _ => none

structure FileReport where
  path : Value
  status : Status
  total : Value := .int 0
  applied : Value := .int 0
  /-- Where the merged text goes. -/
  outputPath : Value := .null
  /-- The unified diff, if it is recorded. -/
  diff : Value := .text ""
  error : Value := .null
  deriving Repr, BEq

/-- Why data are no report, or a report cannot be written down. -/
inductive ReportFault
  | notATable (value : Value)
  /-- Where several reports are wanted there is a value without parts. -/
  | notSeveral (value : Value)
  | missing (key : String)
  | status (value : Value)
  /-- A failure without a reason. -/
  | unexplained
  /-- More hunks were applied than there are. -/
  | excess (applied total : Value)
  /-- Numbers of hunks that cannot be compared. -/
  | unordered (applied total : Value)
  /-- A number of hunks that cannot be added to others. -/
  | noNumber (value : Value)
  /-- A diff that is no text. -/
  | noText (diff : Value)
  /-- A value cannot be written. -/
  | unwritable (refusal : Json.Refusal)
  deriving Repr, BEq

def ReportFault.message : ReportFault → String
  | .notATable value => value.shown ++ " is no table"
  | .notSeveral value => value.shown ++ " is no list"
  | .missing key => quoted key
  | .status value => value.shown ++ " is not a valid FileStatus"
  | .unexplained => "error is required when status is FAILED"
  | .excess applied total =>
    "hunks_applied (" ++ applied.asText ++ ") exceeds hunks_total (" ++ total.asText ++ ")"
  | .unordered applied total =>
    applied.shown ++ " and " ++ total.shown ++ " cannot be compared"
  | .noNumber value => value.shown ++ " is no number"
  | .noText diff => diff.shown ++ " is no text"
  | .unwritable refusal => refusal.message

namespace FileReport

/-- The report itself, unless a failure has no reason or more hunks were applied than there are. -/
def checked (r : FileReport) : Except ReportFault FileReport :=
  if r.status = .failed ∧ !r.error.isTrue then .error .unexplained
  else
    match r.applied.exceeds? r.total with
    | none => .error (.unordered r.applied r.total)
    | some true => .error (.excess r.applied r.total)
    | some false => .ok r

def toTable (r : FileReport) : Table :=
  [("path", r.path), ("status", .text r.status.name), ("hunks_total", r.total),
    ("hunks_applied", r.applied), ("output_path", r.outputPath), ("diff", r.diff),
    ("error", r.error)]

def needed (t : Table) (key : String) : Except ReportFault Value :=
  match t.get? key with
  | some v => .ok v
  | none => .error (.missing key)

def asStatus (v : Value) : Except ReportFault Status :=
  match v with
  | .text s =>
    match Status.ofName? s with
    | some status => .ok status
    | none => .error (.status v)
  | _ => .error (.status v)

def ofTable (t : Table) : Except ReportFault FileReport := do
  let path ← needed t "path"
  let status ← asStatus (← needed t "status")
  checked ⟨path, status, t.getD "hunks_total" (.int 0), t.getD "hunks_applied" (.int 0),
    t.getD "output_path" .null, t.getD "diff" (.text ""), t.getD "error" .null⟩

/-- The report that a value holds, which has to be a table. -/
def ofValue : Value → Except ReportFault FileReport
  | .table t => ofTable t
  | value => .error (.notATable value)

def failure (r : FileReport) : String := r.path.asText ++ ": " ++ r.error.asText

/-- The diff as it is printed, if there is one. -/
def diffText? (r : FileReport) : Option String :=
  match r.diff with
  | .text "" => none
  | .text s => some s
  | _ => none

/-- The lines of the diff, if there is one. -/
def diffLines (r : FileReport) : Except ReportFault (List String) :=
  match r.diff with
  | .text "" => .ok []
  | .text s => .ok [String.ofList (Text.dropFinalFeeds s.toList)]
  | value => if value.isTrue then .error (.noText value) else .ok []

end FileReport

end DocGraft
