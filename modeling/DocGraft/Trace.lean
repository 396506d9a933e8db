import DocGraft.Hunk
import DocGraft.Text.Quoted

/-!
# Traces

What the program says about its own work, besides its result: a list of entries, each with a
severity and the part of the program that it comes from. The functions that do the work return their
results alone; the entries are read off those results.
-/

namespace DocGraft

inductive Level
  | debug
  | info
  | warning
  | error
  deriving DecidableEq, Repr

def Level.rank : Level → Nat
  | .debug => 10
  | .info => 20
  | .warning => 30
  | .error => 40

def Level.name : Level → String
  | .debug => "DEBUG"
  | .info => "INFO"
  | .warning => "WARNING"
  | .error => "ERROR"

inductive Source
  | program
  | differ
  | splitter
  | applier
  | merger
  | bookends
  | formatter
  | batch
  | progress
  deriving DecidableEq, Repr

def Source.name : Source → String
  | .program => "syncdoc"
  | .differ => "syncdoc.diff.differ"
  | .splitter => "syncdoc.diff.split"
  | .applier => "syncdoc.diff.apply"
  | .merger => "syncdoc.merge"
  | .bookends => "syncdoc.reformat.bookend"
  | .formatter => "syncdoc.formatter.rustfmt"
  | .batch => "syncdoc.pipeline"
  | .progress => "syncdoc.progress"

structure Entry where
  level : Level
  source : Source
  message : String
  deriving DecidableEq, Repr

abbrev Trace := List Entry

def Trace.from (trace : Trace) (rank : Nat) : Trace := trace.filter fun e => rank ≤ e.level.rank

namespace Trace

/-- One message per line of a run, with a sign, its position and the line in quotes. -/
def listing (sign : String) : (position : Nat) → List Line → List String
  | _, [] => []
  | position, l :: rest =>
    ("    " ++ sign ++ " [" ++ toString position ++ "] " ++ String.ofList (Text.quoted l)) ::
      listing sign (position + 1) rest

/-- The messages about hunks from the `i`-th on, each with the lines that it covers. -/
def hunkListing (before after : List Line) : (i : Nat) → List Hunk → List String
  | _, [] => []
  | i, h :: rest =>
    ("  hunk " ++ toString i ++ ": " ++ h.describe) ::
      listing "-" h.beforeStart (h.removed before) ++ listing "+" h.afterStart (h.added after) ++
        hunkListing before after (i + 1) rest

/-- A list of hunks and the lines that they cover. -/
def ofHunks (source : Source) (label : String) (before after : List Line) (hunks : List Hunk) :
    Trace :=
  let head := label ++ ": " ++ toString hunks.length ++ " hunk(s), " ++ toString before.length ++
    " before line(s), " ++ toString after.length ++ " after line(s)"
  (head :: hunkListing before after 0 hunks).map fun message => ⟨.debug, source, message⟩

end Trace

end DocGraft
