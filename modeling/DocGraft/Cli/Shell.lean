import DocGraft.Cli.Form
import DocGraft.Files.Tree

/-!
# Shells

A shell stands between the program and the one who calls it: it reads the arguments by the forms of
the program, finds the command that they name, and tells how the program ended. How it does this is
left open. The program calls its operations, and relies on what it is told about them here.
-/

namespace DocGraft.Cli

/-- An option that was given, with its values. -/
structure Given where
  key : Key
  values : List String := []
  deriving DecidableEq, Repr

/-- What a form was filled in with: options in the order in which they were given, one path for each
operand, and for a form that leads to a command the words from its name on. -/
structure Arguments (f : Form) where
  given : List Given
  operands : List String
  complete : operands.length = f.operands.length
  rest : List String := []
  deriving DecidableEq, Repr

namespace Arguments

variable {f : Form} (a : Arguments f)

def has (k : Key) : Bool := a.given.any fun g => g.key = k

/-- The values of an option, one list for each time that it was given. -/
def valuesOf (k : Key) : List (List String) :=
  (a.given.filter fun g => g.key = k).map Given.values

/-- The value that an option was given last. -/
def last? (k : Key) : Option String := ((a.valuesOf k).getLast?).bind List.head?

def path? (k : Key) : Option Path := (a.last? k).map Path.ofString

def operand (i : Fin f.operands.length) : Path :=
  .ofString (a.operands.get (i.cast a.complete.symm))

end Arguments

/-- What the program complains about. -/
inductive Complaint
  /-- The options do not go together. -/
  | usage (message : String)
  /-- A value, by a hint at where it was given. -/
  | value (hint message : String)
  | failure (message : String)
  deriving DecidableEq, Repr

/-- How the program ends: it comes to its end, asks for a status, or complains while the form of
the program or of a command is filled in. -/
inductive Ending
  | returned
  | exit (status : Nat)
  | complaint (form : Form) (c : Complaint)
  deriving DecidableEq, Repr

/-- The status of a program that has ended, and what is printed on its two channels. -/
structure Conclusion where
  status : Nat
  out : String := ""
  errors : String := ""
  deriving DecidableEq, Repr

/-- Why arguments are not read. -/
inductive Halt
  /-- The shell has ended the program. -/
  | ended (c : Conclusion)
  /-- An argument that should be a path holds a null character. -/
  | nullCharacter (argument : String)
  deriving DecidableEq, Repr

structure Shell where
  read : Tree → (f : Form) → List String → Except Halt (Arguments f)
  /-- The command that words name, and the words behind its name. -/
  choose : Tree → List String → Except Halt (Verb × List String)
  conclude : Ending → Conclusion
  /-- A text as it is printed where there is no terminal. -/
  plain : String → String

/-- The conclusion has a status, and its errors hold a message. -/
def Conclusion.Tells (c : Conclusion) (status : Nat) (message : String) : Prop :=
  c.status = status ∧ message.toList <:+: c.errors.toList

/-- The status tells a program that came to its end from one that was called in the wrong way and
from one that failed, and the user is told why. -/
structure Shell.IsLawful (shell : Shell) : Prop where
  returned : (shell.conclude .returned).status = 0
  usage (f : Form) (message : String) :
    (shell.conclude (.complaint f (.usage message))).Tells 2 (shell.plain message)
  failure (f : Form) (message : String) :
    (shell.conclude (.complaint f (.failure message))).Tells 1 (shell.plain message)

end DocGraft.Cli
