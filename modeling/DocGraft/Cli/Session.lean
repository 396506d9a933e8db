import DocGraft.Batch.Run
import DocGraft.Cli.Command
import DocGraft.Settings.Layers

/-!
# Sessions

While a command runs it prints, makes entries and changes files. A session is what has come of that
so far; an action changes it and may stop early, and what was done before it stops stays done.
-/

namespace DocGraft.Cli

open Formatter (Failure)

/-- What a command is run with besides its arguments and the files. -/
structure World where
  runner : Runner
  shell : Shell
  screen : Screen
  /-- The directory with the user's own files. -/
  home : Path
  /-- The time that reports carry. -/
  timestamp : String

structure Session where
  tree : Tree
  out : String := ""
  errors : String := ""
  /-- Entries of a lower rank are not shown. -/
  rank : Nat := Level.warning.rank

/-- Something that no command explains to its user. -/
inductive Crash
  | settings (fault : Settings.LoadFault)
  /-- The log level is no text. -/
  | logLevel (value : Value)
  | formatter (fault : Settings.Fault)
  | read (fault : ReadFault)
  | write (error : FileError)
  | merge (failure : Failure)
  | jobs (fault : Job.Fault)
  | batch (fault : Batch.Fault)
  | report (fault : BatchReport.FormatFault)
  /-- A setting cannot be written. -/
  | unwritable (refusal : Json.Refusal)
  | screen (fault : Screen.Fault)
  /-- An argument that should be a path holds a null character. -/
  | nullCharacter (argument : String)
  deriving Repr, BEq

/-- Why a command does not come to its end. -/
inductive Stop
  /-- The shell has ended the program. -/
  | ended (c : Conclusion)
  /-- The program ends itself. -/
  | ending (e : Ending)
  | crash (cause : Crash)
  deriving Repr, BEq

namespace Stop

def ofHalt : Halt → Stop
  | .ended c => .ended c
  | .nullCharacter argument => .crash (.nullCharacter argument)

def complaint (form : Form) (c : Complaint) : Stop := .ending (.complaint form c)

/-- How the program is seen to end. A crash has a status of its own. -/
def conclusion (shell : Shell) : Stop → Conclusion
  | .ended c => c
  | .ending e => shell.conclude e
  | .crash _ => ⟨1, "", ""⟩

def crash? : Stop → Option Crash
  | .crash cause => some cause
  | _ => none

end Stop

abbrev CliM := ExceptT Stop (StateM Session)

def stop {α : Type} (s : Stop) : CliM α := throw s

/-- Goes on with a result, or stops with its error. -/
def orStop {ε α : Type} (f : ε → Stop) : Except ε α → CliM α
  | .ok a => pure a
  | .error e => stop (f e)

def tree : CliM Tree := do return (← get).tree

def print (s : String) : CliM Unit := modify fun x => { x with out := x.out ++ s }

/-- Prints a text that may hold sequences for a terminal. -/
def echo (w : World) (s : String) : CliM Unit := print (w.shell.plain s)

/-- Prints to the second channel, which is kept apart from results. -/
def tell (s : String) : CliM Unit := modify fun x => { x with errors := x.errors ++ s }

/-- An entry as it is shown. -/
def entryLine (e : Entry) : String := e.source.name ++ ": " ++ e.message ++ "\n"

def note (t : Trace) : CliM Unit := do
  tell (String.join ((t.from (← get).rank).map entryLine))

/-- Goes on with what is shown, if it can be shown. -/
def orScreenFault {α : Type} (shown : Except Screen.Fault α) : CliM α :=
  orStop (fun fault => .crash (.screen fault)) shown

/-- Shows items on the second channel, up to one that cannot be shown. -/
def showItems (w : World) : List Item → CliM Unit
  | [] => return ()
  | item :: rest => do
    tell (← orScreenFault (item.show w.screen))
    showItems w rest

def readText (p : Path) : CliM Text := do
  orStop (fun fault => .crash (.read fault)) ((← tree).readText p)

def writeText (p : Path) (text : Text) : CliM Unit := do
  let t ← orStop (fun e => .crash (.write e)) ((← tree).writeText p text)
  modify fun x => { x with tree := t }

end DocGraft.Cli
