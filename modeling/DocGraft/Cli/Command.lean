import DocGraft.Cli.Shell
import DocGraft.Hunk.Relevance

/-!
# Commands

What the arguments of the program ask for, as data.
-/

namespace DocGraft.Cli

structure Globals where
  config : Option Path := none
  /-- Named settings, in the order in which they were given. -/
  named : List (String × String) := []
  verbose : Bool := false
  quiet : Bool := false
  deriving DecidableEq, Repr

structure MergeRequest where
  direction : Direction
  base : Path
  transformed : Path
  output : Option Path := none
  inPlace : Bool := false
  showDiff : Bool := false
  deriving DecidableEq, Repr

structure BatchRequest where
  direction : Direction
  base : Path
  transformed : Path
  output : Option Path := none
  dryRun : Bool := false
  report : Option Path := none
  format : String := "json"
  deriving DecidableEq, Repr

inductive Command
  | merge (request : MergeRequest)
  | batch (request : BatchRequest)
  | hunks (direction : Direction) (base transformed : Path)
  | config
  deriving DecidableEq, Repr

def Globals.ofArguments (a : Arguments .group) : Globals where
  config := a.path? .config
  named := (a.valuesOf .set).filterMap fun
    | [name, value] => some (name, value)
    | _ => none
  verbose := a.has .verbose
  quiet := a.has .quiet

section Requests

variable {f : Form} (a : Arguments f)

def Arguments.direction : Direction := if a.has .restore then .restore else .migrate

def MergeRequest.ofArguments (d : Direction) (h : 1 < f.operands.length) : MergeRequest where
  direction := d
  base := a.operand ⟨0, by omega⟩
  transformed := a.operand ⟨1, h⟩
  output := a.path? .output
  inPlace := a.has .inPlace
  showDiff := a.has .diff

def BatchRequest.ofArguments (h : 1 < f.operands.length) : BatchRequest where
  direction := a.direction
  base := a.operand ⟨0, by omega⟩
  transformed := a.operand ⟨1, h⟩
  output := a.path? .outputDir
  dryRun := a.has .dryRun
  report := a.path? .report
  format := (a.last? .outputFormat).getD "json"

end Requests

def Command.ofArguments : (v : Verb) → Arguments (.command v) → Command
  | .migrate, a => .merge (.ofArguments a .migrate (by decide))
  | .restore, a => .merge (.ofArguments a .restore (by decide))
  | .batch, a => .batch (.ofArguments a (by decide))
  | .hunks, a => .hunks a.direction (a.operand ⟨0, by decide⟩) (a.operand ⟨1, by decide⟩)
  | .config, _ => .config

end DocGraft.Cli
