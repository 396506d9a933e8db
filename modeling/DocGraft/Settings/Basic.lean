import DocGraft.Settings.Override

/-!
# Settings

The settings of the program in five sections. They are read from a table with one table per section.
A key that a section does not know is refused; the values of known keys are taken as they are, but
an edition is text and a text in the place of a list is a list of one.
-/

namespace DocGraft

structure GeneralSettings where
  logLevel : Value := .text "warning"
  maxWorkers : Value := .int 4
  deriving Repr, BEq

structure FormatterSettings where
  command : Value := .text "rustfmt"
  args : Value := .fixed [.text "--emit=stdout"]
  edition : String := "2021"
  timeout : Value := .float (.ofInt 30)
  deriving Repr, BEq

structure MarkerSettings where
  reference : Value := .text "omnidoc"
  moduleMacro : Value := .text "module_doc"
  deriving Repr, BEq

structure MergeSettings where
  splitMixed : Value := .bool true
  reformatBookends : Value := .bool true
  deriving Repr, BEq

structure BatchSettings where
  extensions : Value := .fixed [.text ".rs"]
  failFast : Value := .bool false
  deriving Repr, BEq

structure Settings where
  general : GeneralSettings := {}
  formatter : FormatterSettings := {}
  markers : MarkerSettings := {}
  merge : MergeSettings := {}
  batch : BatchSettings := {}
  deriving Repr, BEq

namespace Settings

inductive Section
  | general
  | formatter
  | markers
  | merge
  | batch
  deriving DecidableEq, Repr

namespace Section

def name : Section → String
  | .general => "general"
  | .formatter => "formatter"
  | .markers => "markers"
  | .merge => "merge"
  | .batch => "batch"

def label : Section → String
  | .general => "GeneralConfig"
  | .formatter => "FormatterConfig"
  | .markers => "MarkersConfig"
  | .merge => "MergeConfig"
  | .batch => "BatchConfig"

def keys : Section → List String
  | .general => ["log_level", "max_workers"]
  | .formatter => ["command", "args", "edition", "timeout_seconds"]
  | .markers => ["reference_marker", "module_doc_macro"]
  | .merge => ["split_mixed_hunks", "reformat_bookends"]
  | .batch => ["extensions", "fail_fast"]

end Section

/-- The name of a section for itself, which is no key. -/
def sectionName : String := "self"

inductive Fault
  /-- A named value lies behind a value that is no table. -/
  | blocked (b : Blocked)
  | unknownKey (s : Section) (key : String)
  /-- The key is the name that a section has for itself. -/
  | ownName (s : Section)
  | notATable (s : Section) (value : Value)
  /-- Where several values are wanted there is one without parts. -/
  | notSeveral (value : Value)
  /-- An entry of a section that is written as a list has no parts. -/
  | noPair (position : Nat)
  /-- An entry of a section that is written as a list has not two parts. -/
  | notTwo (position length : Nat)
  /-- A list or a table is used as a key. -/
  | compoundKey (key : Value)
  | keyNotText
  /-- The edition has too many digits to be a text. -/
  | tooLong
  deriving Repr, BEq

def Fault.message : Fault → String
  | .blocked b => b.message
  | .unknownKey s key =>
    s.label ++ ".__init__() got an unexpected keyword argument '" ++ key ++ "'"
  | .ownName s =>
    s.label ++ ".__init__() got multiple values for argument '" ++ sectionName ++ "'"
  | .notATable s value =>
    "syncdoc.config." ++ s.label ++ "() argument after ** must be a mapping, not " ++
      value.kindName
  | .notSeveral value => "'" ++ value.kindName ++ "' object is not iterable"
  | .noPair position =>
    "cannot convert dictionary update sequence element #" ++ toString position ++ " to a sequence"
  | .notTwo position length =>
    "dictionary update sequence element #" ++ toString position ++ " has length " ++
      toString length ++ "; 2 is required"
  | .compoundKey key => "unhashable type: '" ++ key.kindName ++ "'"
  | .keyNotText => "keywords must be strings"
  | .tooLong => Number.tooLong none

/-- An entry of a section that is written as a list of pairs. -/
def pair (position : Nat) (item : Value) : Except Fault (Value × Value) :=
  match item.parts? with
  | none => .error (.noPair position)
  | some [.list items, _] => .error (.compoundKey (.list items))
  | some [.table entries, _] => .error (.compoundKey (.table entries))
  | some [key, value] => .ok (key, value)
  | some parts => .error (.notTwo position parts.length)

def pairs : (position : Nat) → List Value → Except Fault (List (Value × Value))
  | _, [] => .ok []
  | position, item :: rest => do
    let p ← pair position item
    return p :: (← pairs (position + 1) rest)

/-- The entries of a section that is a table or a list of pairs. -/
def entries : Value → Except Fault (List (Value × Value))
  | .table t => .ok (t.map fun e => (.text e.1, e.2))
  | value =>
    match value.parts? with
    | some items => pairs 0 items
    | none => .error (.notSeveral value)

/-- A table from entries; a key that comes again keeps its place and takes the later value. -/
def tableOf (t : Table) : List (Value × Value) → Except Fault Table
  | [] => .ok t
  | (.text key, value) :: rest => tableOf (t.set key value) rest
  | _ :: _ => .error .keyNotText

/-- The table of a section, if all its keys are known. -/
def Section.checked (s : Section) (t : Table) : Except Fault Table :=
  match t.find? fun e => !s.keys.contains e.1 with
  | some e => .error (if e.1 = sectionName then .ownName s else .unknownKey s e.1)
  | none => .ok t

/-- The entries of the formatter, if the edition among them can be written. -/
def withEdition (entries : List (Value × Value)) : Except Fault (List (Value × Value)) :=
  match (entries.filter fun e => e.1 == .text "edition").getLast? with
  | some (_, edition) => if edition.isWritable then .ok entries else .error .tooLong
  | none => .ok entries

/-- A section that has to be a table. -/
def strict (raw : Table) (s : Section) : Except Fault Table :=
  match raw.getD s.name (.table []) with
  | .table t => s.checked t
  | value => .error (.notATable s value)

/-- A text is a list of one. -/
def asList : Value → Value
  | .text s => .fixed [.text s]
  | v => v

def generalOf (t : Table) : GeneralSettings :=
  let d : GeneralSettings := {}
  ⟨t.getD "log_level" d.logLevel, t.getD "max_workers" d.maxWorkers⟩

def formatterOf (t : Table) : FormatterSettings :=
  let d : FormatterSettings := {}
  ⟨t.getD "command" d.command, asList (t.getD "args" d.args),
    ((t.get? "edition").map Value.asText).getD d.edition, t.getD "timeout_seconds" d.timeout⟩

def markersOf (t : Table) : MarkerSettings :=
  let d : MarkerSettings := {}
  ⟨t.getD "reference_marker" d.reference, t.getD "module_doc_macro" d.moduleMacro⟩

def mergeOf (t : Table) : MergeSettings :=
  let d : MergeSettings := {}
  ⟨t.getD "split_mixed_hunks" d.splitMixed, t.getD "reformat_bookends" d.reformatBookends⟩

def batchOf (t : Table) : BatchSettings :=
  let d : BatchSettings := {}
  ⟨asList (t.getD "extensions" d.extensions), t.getD "fail_fast" d.failFast⟩

mutual

/-- The value of a key: a list is fixed from here on, while the lists in it stay as they are. -/
def fixValue : Value → Value
  | .list items => .fixed items
  | .table entries => .table (fixTable entries)
  | .null => .null
  | .bool b => .bool b
  | .int n => .int n
  | .float x => .float x
  | .text s => .text s
  | .moment m => .moment m
  | .fixed items => .fixed items

def fixTable : List (String × Value) → Table
  | [] => []
  | (key, value) :: rest => (key, fixValue value) :: fixTable rest

end

/-- The settings that a table gives; what it leaves out has its default. -/
def ofTable (table : Table) : Except Fault Settings := do
  let raw := fixTable table
  let formatterEntries ← withEdition (← entries (raw.getD Section.formatter.name (.table [])))
  let batchEntries ← entries (raw.getD Section.batch.name (.table []))
  let generalTable ← strict raw .general
  let formatterTable ← Section.formatter.checked (← tableOf [] formatterEntries)
  let markersTable ← strict raw .markers
  let mergeTable ← strict raw .merge
  let batchTable ← Section.batch.checked (← tableOf [] batchEntries)
  return ⟨generalOf generalTable, formatterOf formatterTable, markersOf markersTable,
    mergeOf mergeTable, batchOf batchTable⟩

def toTable (s : Settings) : Table :=
  [("general", .table [("log_level", s.general.logLevel), ("max_workers", s.general.maxWorkers)]),
    ("formatter", .table [("command", s.formatter.command), ("args", s.formatter.args),
      ("edition", .text s.formatter.edition), ("timeout_seconds", s.formatter.timeout)]),
    ("markers", .table [("reference_marker", s.markers.reference),
      ("module_doc_macro", s.markers.moduleMacro)]),
    ("merge", .table [("split_mixed_hunks", s.merge.splitMixed),
      ("reformat_bookends", s.merge.reformatBookends)]),
    ("batch", .table [("extensions", s.batch.extensions), ("fail_fast", s.batch.failFast)])]

/-- The layer that is always there. -/
def bundled : Table :=
  [("general", .table [("log_level", .text "warning"), ("max_workers", .int 4)]),
    ("formatter", .table [("command", .text "rustfmt"), ("args", .list [.text "--emit=stdout"]),
      ("edition", .text "2021"), ("timeout_seconds", .float (.ofInt 30))]),
    ("markers", .table [("reference_marker", .text "omnidoc"),
      ("module_doc_macro", .text "module_doc")]),
    ("merge", .table [("split_mixed_hunks", .bool true), ("reformat_bookends", .bool true)]),
    ("batch", .table [("extensions", .list [.text ".rs"]), ("fail_fast", .bool false)])]

/-- One value for each name: the last one given, in the place of the first. -/
def lastGiven : List (String × String) → List (String × String) → List (String × String)
  | given, [] => given
  | given, (name, text) :: rest =>
    let next :=
      if given.any (·.1 == name) then given.map fun g => if g.1 = name then (name, text) else g
      else given ++ [(name, text)]
    lastGiven next rest

/-- The settings from three layers of tables, each laid over the one before, and named values. -/
def resolve (first user project : Table) (named : List (String × String)) :
    Except Fault Settings := do
  match ((first.overlay user).overlay project).overrideAll (lastGiven [] named) with
  | .ok raw => ofTable raw
  | .error b => .error (.blocked b)

end Settings

end DocGraft
