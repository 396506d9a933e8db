import DocGraft.Cli.Scan

/-!
# Misuse of the command line

What the arguments of a command can be wrong about, and what has to be at the paths among them.
-/

namespace DocGraft.Cli

def Expectation.noun : Expectation → String
  | .file => "File"
  | .anything => "Path"
  | .directory | .newDirectory => "Directory"

inductive PathFault
  | absent
  | isADirectory
  | isAFile
  deriving DecidableEq, Repr

def PathFault.describe : PathFault → String
  | .absent => "does not exist"
  | .isADirectory => "is a directory"
  | .isAFile => "is a file"

/-- Whether a path as it is written can only be that of a directory. -/
def endsAsDirectory (path : String) : Bool :=
  match (path.toList.splitOn '/').reverse with
  | last :: _ :: _ => last.isEmpty || last = ['.']
  | _ => false

/-- What is wrong about a path. Where it cannot be told what is there, nothing is. -/
def Expectation.fault? (e : Expectation) (t : Tree) (path : String) : Option PathFault :=
  let p := Path.ofString path
  let isDir := !path.isEmpty && (t.findDir p).toOption = some true
  let isFile := !path.isEmpty && (t.findFile p).toOption = some true && !endsAsDirectory path
  match e with
  | .file => if isDir then some .isADirectory else if isFile then none else some .absent
  | .directory => if isFile then some .isAFile else if isDir then none else some .absent
  | .newDirectory => if isFile then some .isAFile else none
  | .anything => none

inductive Misuse
  | scan (fault : ScanFault)
  | noCommand
  | unknownCommand (name : String) (near : List String)
  | missing (operand : String)
  | extra (arguments : List String)
  | wrongPath (parameter : String) (expectation : Expectation) (path : String) (fault : PathFault)
  | choice (parameter value : String) (choices : List String)
  deriving DecidableEq, Repr

namespace Misuse

/-- Whether the form of the command is shown with the reason: not if an option is there but has not
the values that it takes. -/
def showsUsage : Misuse → Bool
  | .scan (.tooFew _ _) | .scan (.noValue _) => false
  | _ => true

def invalid (parameter reason : String) : String :=
  "Invalid value for " ++ parameter ++ ": " ++ reason

def message : Misuse → String
  | .scan fault => fault.message
  | .noCommand => "Missing command."
  | .unknownCommand name near => "No such command " ++ quoted name ++ "." ++ suggestion near
  | .missing operand => "Missing argument '" ++ operand ++ "'."
  | .extra arguments =>
    "Got unexpected extra argument" ++ (if arguments.length = 1 then "" else "s") ++ " (" ++
      " ".intercalate arguments ++ ")"
  | .wrongPath parameter expectation path fault =>
    invalid parameter (expectation.noun ++ " " ++ quoted path ++ " " ++ fault.describe ++ ".")
  | .choice parameter value choices =>
    invalid parameter (quoted value ++ " is not one of " ++
      ", ".intercalate (choices.map quoted) ++ ".")

end Misuse

end DocGraft.Cli
