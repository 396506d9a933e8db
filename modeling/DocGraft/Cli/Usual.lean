import DocGraft.Batch.Run
import DocGraft.Cli.Misuse
import DocGraft.Text.ControlSequence

/-!
# The usual shell

Options are checked in the order in which they were given, then operands in the order of the form. A
request for help or for the version counts before anything else, and a wrong call is answered with
the form that it should have had.
-/

namespace DocGraft.Cli

/-- A text without the sequences that control a terminal. -/
def unstyled (s : String) : String := String.ofList (Text.withoutSequences s.toList)

/-- An option with all its names, as it stands in messages. -/
def Key.label (k : Key) : String := " / ".intercalate (k.names.map fun n => "'" ++ n ++ "'")

namespace Form

def usage (f : Form) : String :=
  let operands := if f.leads then ["COMMAND", "[ARGS]..."] else f.operands.map Operand.name
  "Usage: " ++ " ".intercalate (f.words :: "[OPTIONS]" :: operands) ++ "\n"

/-- What is said about a fault, and the form before it if that is to be shown. -/
def explain (f : Form) (shown : Bool) (message : String) : String :=
  (if shown then f.usage ++ "Try '" ++ f.words ++ " --help' for help.\n\n" else "") ++
    "Error: " ++ unstyled message ++ "\n"

def misuse (f : Form) (reason : Misuse) : Halt :=
  .ended ⟨2, "", f.explain reason.showsUsage reason.message⟩

/-- Checks that a path is as it should be. -/
def checkPath (f : Form) (t : Tree) (parameter : String) (e : Expectation) (arg : String) :
    Except Halt Unit :=
  if arg.toList.contains '\x00' then .error (.nullCharacter arg)
  else
    match e.fault? t arg with
    | some fault => .error (f.misuse (.wrongPath parameter e arg fault))
    | none => .ok ()

/-- Checks the value that an option was given. -/
def checkValue (f : Form) (t : Tree) (k : Key) (value : String) : Except Halt Unit :=
  match k.expectation?, k.choices? with
  | some e, _ => f.checkPath t k.label e value
  | none, some choices =>
    if choices.contains value then .ok () else .error (f.misuse (.choice k.label value choices))
  | none, none => .ok ()

def check (f : Form) (t : Tree) (s : Scanned) : List Key → Except Halt Unit
  | [] => .ok ()
  | k :: rest => do
    match s.last? k with
    | some value => f.checkValue t k value
    | none => .ok ()
    check f t s rest

/-- One argument for each operand. -/
def fill (f : Form) (t : Tree) : (operands : List Operand) → List String →
    Except Halt { args : List String // args.length = operands.length }
  | [], [] => .ok ⟨[], rfl⟩
  | [], extra => .error (f.misuse (.extra extra))
  | o :: _, [] => .error (f.misuse (.missing o.name))
  | o :: operands, arg :: rest => do
    f.checkPath t ("'" ++ o.name ++ "'") o.expectation arg
    let ⟨args, h⟩ ← fill f t operands rest
    return ⟨arg :: args, congrArg (· + 1) h⟩

/-- Reads arguments by a form. A request for help or for the version stops here. -/
def read (t : Tree) (f : Form) (args : List String) : Except Halt (Arguments f) := do
  if f.leads && args.isEmpty then .error (.ended ⟨0, f.usage, ""⟩)
  let s ← (f.scan args).mapError fun fault => f.misuse (.scan fault)
  match s.keys.find? fun k => k = .version || k = .help with
  | some .version => .error (.ended ⟨0, program ++ ", version " ++ BatchReport.version ++ "\n", ""⟩)
  | some _ => .error (.ended ⟨0, f.usage, ""⟩)
  | none =>
    f.check t s s.keys
    let ⟨operands, h⟩ ← f.fill t f.operands (if f.leads then [] else s.operands)
    return ⟨s.given, operands, h, if f.leads then s.operands else []⟩

end Form

/-- The command that words name, and the words behind it. A word with a dash that names none is read
as an option once more. -/
def Verb.choose (t : Tree) : List String → Except Halt (Verb × List String)
  | [] => .error (Form.group.misuse .noCommand)
  | name :: rest =>
    match Verb.ofName? name with
    | some v => .ok (v, rest)
    | none => do
      if name.toList.head? = some '-' then let _ ← Form.group.read t (name :: rest)
      .error (Form.group.misuse (.unknownCommand name (nearest name (Verb.all.map Verb.name))))

def Complaint.conclusion (f : Form) : Complaint → Conclusion
  | .usage message => ⟨2, "", f.explain true message⟩
  | .value hint message => ⟨2, "", f.explain true (Misuse.invalid hint message)⟩
  | .failure message => ⟨1, "", f.explain false message⟩

def Ending.conclusion : Ending → Conclusion
  | .returned => ⟨0, "", ""⟩
  | .exit status => ⟨status, "", ""⟩
  | .complaint f c => c.conclusion f

/-- The usual shell. -/
def Shell.usual : Shell := ⟨fun t f => f.read t, Verb.choose, Ending.conclusion, unstyled⟩

end DocGraft.Cli
