import DocGraft.Cli.Session

/-!
# Running commands

The settings are loaded and the log level is set before the arguments of a command are read, so that
a fault in the settings is reported first. The channels are taken to be no terminals.
-/

namespace DocGraft.Cli

structure Result where
  status : Nat
  crash : Option Crash
  out : String
  errors : String
  tree : Tree

def Result.of (c : Conclusion) (crash : Option Crash) (s : Session) : Result :=
  ⟨c.status, crash, s.out ++ c.out, s.errors ++ c.errors, s.tree⟩

/-- The user's settings below the home directory. -/
def userPlace : Place := [".config", "syncdoc", "config.toml"]

/-- The settings of a project in the working directory. -/
def projectFile : Path := ⟨.here, ["syncdoc.toml"]⟩

/-- Whether a user is told about a fault of the settings. -/
def isExplained : Settings.LoadFault → Bool
  | .file .malformed => true
  | .file (.notUtf8 _) | .file (.tooLong _) => false
  | .content (.notTwo _ _) | .content .tooLong => false
  | .content _ => true

/-- The content of a file, or nothing if there is none. -/
def content? (t : Tree) (p : Path) : Except FileError (Option (List UInt8)) := do
  if ← t.findFile p then return some (← t.read p) else return none

def readContent (p : Path) : CliM (Option (List UInt8)) := do
  orStop (fun e => .crash (.read (.file e))) (content? (← tree) p)

def loadSettings (w : World) (g : Globals) : CliM Settings := do
  let user ← readContent (w.home.append userPlace)
  let project ← readContent (g.config.getD projectFile)
  orStop (fun fault =>
    if isExplained fault then
      .complaint .group (.failure ("Invalid configuration: " ++ fault.message))
    else .crash (.settings fault)) (Settings.load user project g.named)

/-- A letter as a capital, if its capital is a letter of the names of levels. Outside ASCII there
are two such letters. -/
def capital (c : Char) : Char :=
  if c = 'ı' then 'I' else if c = 'ſ' then 'S' else c.toUpper

/-- The rank of a level by its name, in which case does not matter. -/
def rankOf? (name : String) : Option Nat :=
  match String.ofList (name.toList.map capital) with
  | "CRITICAL" | "FATAL" => some 50
  | "ERROR" => some 40
  | "WARNING" | "WARN" => some 30
  | "INFO" => some 20
  | "DEBUG" => some 10
  | "NOTSET" => some 0
  | _ => none

/-- The rank from which entries are shown: the one in the settings, unless options say otherwise. -/
def threshold (g : Globals) (level : Value) : Except Stop Nat :=
  match level with
  | .text name =>
    match rankOf? name with
    | none =>
      .error (.complaint .group (.value "general.log_level" ("Unknown log level " ++ quoted name)))
    | some rank => .ok (if g.quiet then 50 else if g.verbose then Level.debug.rank else rank)
  | value => .error (.crash (.logLevel value))

def mergerOf (s : Settings) : CliM Merger :=
  orStop (fun fault => .crash (.formatter fault)) (Merger.ofSettings s)

/-- A failure that a merge expects is told to the user after these words. -/
def failed (form : Form) (words : String) (f : Formatter) (failure : Formatter.Failure) : Stop :=
  if failure.isExpected then .complaint form (.failure (words ++ failure.message f))
  else .crash (.merge failure)

def twoPlaces : Complaint := .usage "--in-place and --output are mutually exclusive"

def runMerge (w : World) (g : Globals) (s : Settings) (form : Form) (r : MergeRequest) :
    CliM Unit := do
  if r.inPlace && r.output.isSome then stop (.complaint form twoPlaces)
  let base ← readText r.base
  let transformed ← readText r.transformed
  let merger ← mergerOf s
  note (merger.trace w.runner r.direction base transformed)
  let explain := failed form (r.direction.name ++ " failed for " ++ r.base.text ++ ": ")
    merger.formatter
  let plan ← orStop explain (merger.plan w.runner r.direction base transformed)
  let merged ← orStop explain (merger.apply w.runner plan)
  note [⟨.info, .program, r.base.text ++ ": " ++ toString plan.appliedCount ++ " of " ++
    toString plan.split.length ++ " hunk(s) applied"⟩]
  if r.showDiff then
    echo w (String.ofList (Diff.Unified.diff base merged r.base.text.toList))
  match if r.inPlace then some r.base else r.output with
  | some destination =>
    writeText destination merged
    if !g.quiet then showItems w [.line ("Wrote " ++ destination.text)]
  | none => if !r.showDiff then echo w (String.ofList merged)

/-- One row for each hunk to choose from. -/
def hunksGrid (p : Plan) : Grid where
  title := "Hunks (" ++ p.direction.name ++ ")"
  columns := [⟨"#", "dim"⟩, ⟨"Range", "cyan"⟩, ⟨"Level", "blue"⟩, ⟨"Applied", "green"⟩]
  rows := (p.split.zip (p.relevant.zip p.moduleLevel)).zipIdx.map fun ((h, relevant, level), i) =>
    [toString i, h.describe, if level then "module" else "item",
      if relevant then "yes" else "[red]no[/red]"]

def hunksLine (p : Plan) : String :=
  toString p.hunks.length ++ " raw hunk(s), " ++ toString p.split.length ++
    " after splitting, " ++ toString p.appliedCount ++ " applied"

def runHunks (w : World) (g : Globals) (s : Settings) (form : Form) (d : Direction)
    (base transformed : Path) : CliM Unit := do
  let merger ← mergerOf s
  let base ← readText base
  let transformed ← readText transformed
  note (merger.planTrace w.runner d base transformed)
  let plan ← orStop (failed form "" merger.formatter) (merger.plan w.runner d base transformed)
  let grid ← orScreenFault (w.screen.grid (hunksGrid plan))
  if !g.quiet then print grid
  let line ← orScreenFault (w.screen.line (hunksLine plan))
  if !g.quiet then print line

/-- The texts of file name endings, which all have to be texts. -/
def endingTexts : List Value → Except Job.Fault (List String)
  | [] => .ok []
  | .text s :: rest => do return s :: (← endingTexts rest)
  | v :: _ => .error (.ending v)

/-- What is said if there is nothing to merge. -/
def noFiles (endings : List String) (directory : Path) : Complaint :=
  .value "ORIGINAL_DIR" ("No files matching " ++ ", ".intercalate endings ++ " in " ++
    directory.text)

/-- The jobs of a batch, of which there has to be one. -/
def findJobs (s : Settings) (form : Form) (r : BatchRequest) : CliM (List Job) := do
  let crash (fault : Job.Fault) : Stop := .crash (.jobs fault)
  let endings := s.batch.extensions
  let jobs ← orStop crash (Job.discover (← tree) r.base r.transformed r.output endings)
  note (Job.discoverTrace r.base jobs)
  if jobs.isEmpty then
    let endings ← orStop crash (endingTexts (endings.parts?.getD []))
    stop (.complaint form (noFiles endings r.base))
  else return jobs

def progressCrash : Progress.Fault → Stop
  | .screen fault => .crash (.screen fault)
  | .report fault => .crash (.report (.report fault))

def follow (w : World) (o : Progress.Options) :
    Progress.State w.screen → List Happening → CliM (Progress.State w.screen)
  | state, [] => return state
  | state, .entry e :: rest => do
    note [e]
    follow w o state rest
  | state, .event e :: rest => do
    let step ← orStop progressCrash (Progress.follow w.screen o state e)
    note step.trace
    follow w o step.state rest

def writeReport (w : World) (s : Settings) (r : BatchRequest) (report : BatchReport) :
    CliM Unit := do
  match r.report with
  | some path =>
    let text ← orStop (fun fault => .crash (.report fault))
      (report.render (.text r.format) (some s) w.timestamp)
    writeText path text.toList
    echo w ("Report: " ++ path.text ++ "\n")
  | none => return ()

def runBatch (w : World) (g : Globals) (s : Settings) (form : Form) (r : BatchRequest) :
    CliM Unit := do
  let jobs ← findJobs s form r
  let merger ← mergerOf s
  let o : Progress.Options := ⟨g.verbose, g.quiet, false⟩
  let first ← orStop progressCrash (Progress.start w.screen o {} jobs.length)
  note first.trace
  let b : Batch := ⟨jobs, merger, r.direction, r.dryRun, s.batch.failFast.isTrue⟩
  let outcome := b.run w.runner (← tree) s.general.maxWorkers
  modify fun x => { x with tree := outcome.tree }
  let state ← follow w o first.state outcome.course
  let report ← orStop (fun fault => .crash (.batch fault)) outcome.report
  let last ← orStop progressCrash (Progress.finish w.screen o state report)
  showItems w last.printed
  if r.dryRun then (report.files.filterMap FileReport.diffText?).forM (echo w)
  writeReport w s r report
  if report.failed ≠ 0 then stop (.ending (.exit 1))

def showSettings (w : World) (g : Globals) (s : Settings) : CliM Unit := do
  let text ← orStop (fun refusal => .crash (.unwritable refusal)) (Json.encode (.table s.toTable))
  if !g.quiet then print (w.screen.block text)

def Command.run (w : World) (g : Globals) (s : Settings) (form : Form) : Command → CliM Unit
  | .merge r => runMerge w g s form r
  | .batch r => runBatch w g s form r
  | .hunks d base transformed => runHunks w g s form d base transformed
  | .config => showSettings w g s

def execute (w : World) (args : List String) : CliM Unit := do
  let group ← orStop .ofHalt (w.shell.read (← tree) .group args)
  let (verb, own) ← orStop .ofHalt (w.shell.choose (← tree) group.rest)
  let globals := Globals.ofArguments group
  let settings ← loadSettings w globals
  let rank ← orStop id (threshold globals settings.general.logLevel)
  modify fun x => { x with rank := rank }
  let arguments ← orStop .ofHalt (w.shell.read (← tree) (.command verb) own)
  (Command.ofArguments verb arguments).run w globals settings (.command verb)

def run (w : World) (t : Tree) (args : List String) : Result :=
  match (execute w args).run.run { tree := t } with
  | (.ok (), s) => Result.of (w.shell.conclude .returned) none s
  | (.error stop, s) => Result.of (stop.conclusion w.shell) stop.crash? s

end DocGraft.Cli
