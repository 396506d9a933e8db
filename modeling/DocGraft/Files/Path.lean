/-!
# Paths

A path is a sequence of names, from the root or from the working directory. The name of the
directory itself and empty names are left out; the name of the parent directory is kept, because
what it means depends on the files.
-/

namespace DocGraft

/-- Where a path starts. Two slashes lead to the root as one does, but are written as they were
given; more than two are one. -/
inductive Path.Start
  | here
  | root
  | doubleRoot
  deriving DecidableEq, Repr

structure Path where
  start : Path.Start := .here
  parts : List String
  deriving DecidableEq, Repr

namespace Path

def Start.ofChars : List Char → Start
  | '/' :: '/' :: '/' :: _ => .root
  | '/' :: '/' :: _ => .doubleRoot
  | '/' :: _ => .root
  | _ => .here

def Start.text : Start → String
  | .here => ""
  | .root => "/"
  | .doubleRoot => "//"

def ofString (s : String) : Path :=
  let cs := s.toList
  ⟨Start.ofChars cs,
    ((cs.splitOn '/').map String.ofList).filter fun part => part ≠ "" ∧ part ≠ "."⟩

def text (p : Path) : String :=
  if p.start = .here ∧ p.parts.isEmpty then "." else p.start.text ++ "/".intercalate p.parts

def append (p : Path) (parts : List String) : Path := { p with parts := p.parts ++ parts }

def parent (p : Path) : Path := { p with parts := p.parts.dropLast }

end Path

end DocGraft
