import DocGraft.Settings.Basic
import DocGraft.Text.Utf8
import DocGraft.Trace

/-!
# The formatter process

Both sides of a merge are brought into one layout by an external process that reads a text and
writes it back formatted. Here a process is a function from what it reads to what becomes of it, so
that everything around it can be run and reasoned about without one.
-/

namespace DocGraft

/-- What became of one run of a process. -/
inductive Reply
  /-- There is no such program. -/
  | missing
  /-- The process was stopped at its time limit. -/
  | timedOut
  /-- The program may not be run. -/
  | denied
  | finished (status : Int) (output errors : List UInt8)
  deriving DecidableEq, Repr

/-- How a formatter process answers each input. -/
abbrev Runner := Text → Reply

structure Formatter where
  command : Value := .text "rustfmt"
  args : List Value := [.text "--emit=stdout"]
  edition : Value := .text "2021"
  timeout : Value := .float (.ofInt 30)
  deriving Repr, BEq

namespace Formatter

/-- The formatter of the settings; its arguments have to be several values. -/
def ofSettings (s : FormatterSettings) : Except Settings.Fault Formatter :=
  match s.args.parts? with
  | some args => .ok ⟨s.command, args, .text s.edition, s.timeout⟩
  | none => .error (.notSeveral s.args)

/-- The command, its arguments, and the edition if there is one. -/
def commandLine (f : Formatter) : List Value :=
  f.command :: f.args ++ if f.edition.isTrue then [.text "--edition", f.edition] else []

inductive Failure
  | notFound
  | timedOut
  | exited (status : Int) (errors : Text)
  | notUtf8 (fault : Utf8.Fault)
  | denied
  /-- The name of the macro for module documentation is no text, and a line asks for it. -/
  | macroNotText
  deriving DecidableEq, Repr

/-- Whether the failure is one that a merge expects of a formatter. -/
def Failure.isExpected : Failure → Bool
  | .denied | .macroNotText => false
  | _ => true

def Failure.message (f : Formatter) : Failure → String
  | .notFound => "Formatter not found: " ++ f.command.asText
  | .timedOut => "Formatter timed out after " ++ f.timeout.asText ++ "s: " ++ f.command.asText
  | .exited status _ => f.command.asText ++ " exited with status " ++ toString status
  | .notUtf8 fault => f.command.asText ++ " produced non-UTF-8 output: " ++ fault.message
  | .denied =>
    "[Errno 13] Permission denied" ++
      match f.command with
      | .null => ""
      | command => ": " ++ command.shown
  | .macroNotText => "decoding to str: need a bytes-like object"

/-- The text that a reply holds: the output of a process that ended with status zero. -/
def read : Reply → Except Failure Text
  | .missing => .error .notFound
  | .timedOut => .error .timedOut
  | .denied => .error .denied
  | .finished status output errors =>
    if status ≠ 0 then .error (.exited status (Utf8.decodeLossy errors))
    else
      match Utf8.decode output with
      | .ok t => .ok t
      | .error fault => .error (.notUtf8 fault)

def format (process : Runner) (t : Text) : Except Failure Text := read (process t)

/-- The entry about a process that ended with another status than zero. -/
def trace (f : Formatter) : Except Failure Text → Trace
  | .error (.exited status errors) =>
    [⟨.debug, .formatter, f.command.asText ++ " exited with " ++ toString status ++ ": " ++
      String.ofList errors⟩]
  | _ => []

end Formatter

end DocGraft
