/-!
# Forms of the command line

The program takes options and the name of a command; a command takes options and operands of its
own. A form says which, and what the paths among them have to be.
-/

namespace DocGraft.Cli

/-- What a path of the command line has to be. -/
inductive Expectation
  | file
  | directory
  /-- A directory, or nothing yet. -/
  | newDirectory
  /-- Whatever there is, or nothing yet. -/
  | anything
  deriving DecidableEq, Repr

inductive Key
  | version
  | help
  | config
  | set
  | verbose
  | quiet
  | output
  | outputDir
  | inPlace
  | diff
  | restore
  | dryRun
  | report
  | outputFormat
  deriving DecidableEq, Repr

namespace Key

def names : Key → List String
  | .version => ["--version"]
  | .help => ["--help"]
  | .config => ["--config"]
  | .set => ["--set"]
  | .verbose => ["-v", "--verbose"]
  | .quiet => ["-q", "--quiet"]
  | .output | .outputDir => ["-o", "--output"]
  | .inPlace => ["--in-place"]
  | .diff => ["--diff"]
  | .restore => ["--restore"]
  | .dryRun => ["-n", "--dry-run"]
  | .report => ["--report"]
  | .outputFormat => ["--output-format"]

def arity : Key → Nat
  | .set => 2
  | .config | .output | .outputDir | .report | .outputFormat => 1
  | _ => 0

/-- What the value of an option has to be if it is a path. -/
def expectation? : Key → Option Expectation
  | .config => some .file
  | .outputDir => some .newDirectory
  | .output | .report => some .anything
  | _ => none

/-- The values that an option can have if it has not any. -/
def choices? : Key → Option (List String)
  | .outputFormat => some ["json", "text"]
  | _ => none

end Key

inductive Verb
  | migrate
  | restore
  | batch
  | hunks
  | config
  deriving DecidableEq, Repr

namespace Verb

def name : Verb → String
  | .migrate => "migrate"
  | .restore => "restore"
  | .batch => "batch"
  | .hunks => "hunks"
  | .config => "config"

def all : List Verb := [.migrate, .restore, .batch, .hunks, .config]

def ofName? (s : String) : Option Verb := all.find? fun v => v.name == s

end Verb

/-- A path that has to be given, by its name in messages. -/
structure Operand where
  name : String
  expectation : Expectation
  deriving DecidableEq, Repr

/-- What may be written after the name of the program or of a command. -/
structure Form where
  /-- The words before it. -/
  words : String
  keys : List Key
  operands : List Operand := []
  /-- The name of a command follows, with the arguments of its own form. -/
  leads : Bool := false
  deriving DecidableEq, Repr

def program : String := "syncdoc"

namespace Form

def group : Form where
  words := program
  keys := [.version, .config, .set, .verbose, .quiet, .help]
  leads := true

def keysOf : Verb → List Key
  | .migrate | .restore => [.output, .inPlace, .diff, .help]
  | .batch => [.restore, .outputDir, .dryRun, .report, .outputFormat, .help]
  | .hunks => [.restore, .help]
  | .config => [.help]

def operandsOf : Verb → List Operand
  | .migrate | .restore | .hunks => [⟨"ORIGINAL", .file⟩, ⟨"TRANSFORMED", .file⟩]
  | .batch => [⟨"ORIGINAL_DIR", .directory⟩, ⟨"TRANSFORMED_DIR", .directory⟩]
  | .config => []

def command (v : Verb) : Form where
  words := program ++ " " ++ v.name
  keys := keysOf v
  operands := operandsOf v

end Form

end DocGraft.Cli
