import DocGraft.Bookend.Macro
import DocGraft.Formatter

/-!
# Reformatting macro lines

Each line that calls the macro for module documentation is sent through the formatter between
bookends. A line for which any step fails stays as it is.
-/

namespace DocGraft.Bookend

open Formatter (Failure)

/-- What became of one macro line. -/
inductive Outcome
  /-- The line is no inner attribute with something in it. -/
  | noContent
  | failed (failure : Failure)
  /-- The formatted text is not between bookends. -/
  | lost (formatted : Text)
  | done (line : Line)
  deriving DecidableEq, Repr

def reformat (format : Text → Except Failure Text) (l : Line) : Outcome :=
  match content? l with
  | none => .noContent
  | some content =>
    match format (wrap content) with
    | .error failure => .failed failure
    | .ok formatted =>
      match unwrap? formatted with
      | none => .lost formatted
      | some inner => .done (innerAttribute (Text.indent l) inner)

/-- The line that takes the place of `l`; only a failure that no merge expects is passed on. -/
def Outcome.line (l : Line) : Outcome → Except Failure Line
  | .done fresh => .ok fresh
  | .failed failure => if failure.isExpected then .ok l else .error failure
  | _ => .ok l

def reformatLine (m : Markers) (format : Text → Except Failure Text) (l : Line) :
    Except Failure Line :=
  if Line.isModuleDocMacro m l then (reformat format l).line l else .ok l

/-- Every line between line feeds, one after the other. -/
def reformatLines (m : Markers) (format : Text → Except Failure Text) :
    List Line → Except Failure (List Line)
  | [] => .ok []
  | l :: rest => do
    let first ← reformatLine m format l
    return first :: (← reformatLines m format rest)

def reformatText (m : Markers) (format : Text → Except Failure Text) (t : Text) :
    Except Failure Text := do
  return Text.unpieces (← reformatLines m format (Text.pieces t))

structure Attempt where
  line : Line
  outcome : Outcome
  deriving DecidableEq, Repr

namespace Attempt

/-- The attempts on the lines of a text, up to the first failure that is passed on. -/
def all (m : Markers) (format : Text → Except Failure Text) : List Line → List Attempt
  | [] => []
  | l :: rest =>
    if Line.isModuleDocMacro m l then
      let a : Attempt := ⟨l, reformat format l⟩
      match a.outcome.line l with
      | .ok _ => a :: all m format rest
      | .error _ => [a]
    else all m format rest

/-- What the formatter was given, if it was run. -/
def input? (a : Attempt) : Option Text := (content? a.line).map wrap

def trace (f : Formatter) (source : Source) (a : Attempt) : Trace :=
  let line := String.ofList (Text.quoted a.line)
  match a.outcome with
  | .noContent => [⟨.debug, source, "No bookend content in " ++ line⟩]
  | .failed failure =>
    f.trace (.error failure) ++
      if failure.isExpected then
        [⟨.debug, source, "Bookend formatting failed for " ++ line ++ ": " ++ failure.message f⟩]
      else []
  | .lost formatted =>
    [⟨.debug, source, "Formatter output lost the bookend wrapper: " ++
      String.ofList (Text.quoted formatted)⟩]
  | .done _ => []

end Attempt

end DocGraft.Bookend
