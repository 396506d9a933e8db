import DocGraft.Files.Path
import DocGraft.Text.LineBreak
import DocGraft.Text.Quoted
import DocGraft.Text.Utf8

/-!
# File trees

The files and directories below the root, and the working directory among them. Operations fail as
those of an operating system do, with the path as it was given. A directory is there if it was made
or if something is in it. A name has at most 255 bytes and a path fewer than 4096, and no path holds
a null character. There are no links, everything may be read and written, and a file is written
whole or not at all.
-/

namespace DocGraft

inductive FileFault
  | notFound
  | exists
  | notADirectory
  | isADirectory
  | nameTooLong
  /-- The path holds a null character, and so is none. -/
  | nullCharacter
  deriving DecidableEq, Repr

def FileFault.number : FileFault → Nat
  | .notFound => 2
  | .exists => 17
  | .notADirectory => 20
  | .isADirectory => 21
  | .nullCharacter => 22
  | .nameTooLong => 36

def FileFault.describe : FileFault → String
  | .notFound => "No such file or directory"
  | .exists => "File exists"
  | .notADirectory => "Not a directory"
  | .isADirectory => "Is a directory"
  | .nullCharacter => "embedded null byte"
  | .nameTooLong => "File name too long"

/-- A fault and the path that was asked for. -/
structure FileError where
  fault : FileFault
  path : Path
  deriving DecidableEq, Repr

def FileError.message (e : FileError) : String :=
  if e.fault = .nullCharacter then e.fault.describe
  else
    "[Errno " ++ toString e.fault.number ++ "] " ++ e.fault.describe ++ ": " ++ quoted e.path.text

/-- A place below the root, without parent names. -/
abbrev Place := List String

structure Tree where
  files : List (Place × List UInt8) := []
  dirs : List Place := []
  /-- The working directory. -/
  here : Place := []
  deriving DecidableEq, Repr

namespace Tree

def file? (t : Tree) (place : Place) : Option (List UInt8) := List.lookup place t.files

/-- Whether there is a directory at a place; the working directory is always there. -/
def hasDir (t : Tree) (place : Place) : Bool :=
  place.isPrefixOf t.here || t.dirs.any (place.isPrefixOf ·) ||
    t.files.any fun f => place.isPrefixOf f.1 && place ≠ f.1

def longestName : Nat := 255

def longestPath : Nat := 4095

/-- Follows names from a directory; all but the last name have to lead to directories. -/
def walk (t : Tree) : Place → List String → Except FileFault Place
  | here, [] => .ok here
  | here, name :: rest =>
    if t.hasDir here then
      if longestName < name.utf8ByteSize then .error .nameTooLong
      else walk t (if name = ".." then here.dropLast else here ++ [name]) rest
    else if (t.file? here).isSome then .error .notADirectory
    else .error .notFound

/-- The place that a path leads to; it may be empty. -/
def place (t : Tree) (p : Path) : Except FileFault Place :=
  if p.text.toList.contains '\x00' then .error .nullCharacter
  else if longestPath < p.text.utf8ByteSize then .error .nameTooLong
  else t.walk (if p.start = .here then t.here else []) p.parts

/-- Whether something holds of the place that a path leads to, or why that cannot be told. A path
that is none leads nowhere. -/
def find (t : Tree) (p : Path) (holds : Place → Bool) : Except FileError Bool :=
  match t.place p with
  | .ok place => .ok (holds place)
  | .error .nameTooLong => .error ⟨.nameTooLong, p⟩
  | .error _ => .ok false

def findFile (t : Tree) (p : Path) : Except FileError Bool :=
  t.find p fun place => (t.file? place).isSome

def findDir (t : Tree) (p : Path) : Except FileError Bool := t.find p t.hasDir

def read (t : Tree) (p : Path) : Except FileError (List UInt8) :=
  match t.place p with
  | .error fault => .error ⟨fault, p⟩
  | .ok place =>
    if t.hasDir place then .error ⟨.isADirectory, p⟩
    else
      match t.file? place with
      | some bytes => .ok bytes
      | none => .error ⟨.notFound, p⟩

/-- The files with this content at a place. -/
def setFile (place : Place) (bytes : List UInt8) : List (Place × List UInt8) →
    List (Place × List UInt8)
  | [] => [(place, bytes)]
  | f :: rest => if f.1 = place then (place, bytes) :: rest else f :: setFile place bytes rest

/-- Replaces the content of a file, or makes it in a directory that is there. -/
def write (t : Tree) (p : Path) (bytes : List UInt8) : Except FileError Tree :=
  match t.place p with
  | .error fault => .error ⟨fault, p⟩
  | .ok place =>
    if t.hasDir place then .error ⟨.isADirectory, p⟩
    else if t.hasDir place.dropLast then .ok { t with files := setFile place bytes t.files }
    else .error ⟨.notFound, p⟩

def makeDir (t : Tree) (p : Path) : Except FileError Tree :=
  match t.place p with
  | .error fault => .error ⟨fault, p⟩
  | .ok place =>
    if t.hasDir place || (t.file? place).isSome then .error ⟨.exists, p⟩
    else if t.hasDir place.dropLast then .ok { t with dirs := t.dirs ++ [place] }
    else .error ⟨.notFound, p⟩

/-- What remains of a fault when a directory was to be made: nothing if there is one already. -/
def unlessDir (t : Tree) (p : Path) (e : FileError) : Option FileError :=
  match t.findDir p with
  | .ok true => none
  | .ok false => some e
  | .error e => some e

def ensureDir (t : Tree) (p : Path) : Tree × Option FileError :=
  match t.makeDir p with
  | .ok made => (made, none)
  | .error e => (t, t.unlessDir p e)

/-- Makes the directories of a path that are missing, the outermost first. Those that are made
before one that cannot be made stay. -/
def ensureDirs (t : Tree) (p : Path) : Tree × Option FileError :=
  match t.makeDir p with
  | .ok made => (made, none)
  | .error e =>
    if _h : e.fault = .notFound ∧ p.parts ≠ [] then
      match ensureDirs t p.parent with
      | (t, none) => t.ensureDir p
      | (t, some e) => (t, some e)
    else (t, t.unlessDir p e)
  termination_by p.parts.length
  decreasing_by
    simp only [Path.parent, List.length_dropLast]
    have := List.length_pos_iff.mpr _h.2
    omega

/-- The order of places: by the first name in which they differ, and a directory before what is in
it. -/
def inOrder : Place → Place → Bool
  | [], _ => true
  | _ :: _, [] => false
  | a :: as, b :: bs => if a = b then inOrder as bs else a ≤ b

/-- The files below a place by their names from there, in the order of the names. -/
def filesBelow (t : Tree) (place : Place) : List Place :=
  ((t.files.filter fun f => place.isPrefixOf f.1 && place ≠ f.1).map fun f =>
    f.1.drop place.length).mergeSort inOrder

/-- The names from a place to the directories below it, the outermost first. -/
def dirsBelow (t : Tree) (place : Place) : List Place :=
  ((t.here :: t.dirs ++ t.files.map fun f => f.1.dropLast).filter place.isPrefixOf).flatMap
    fun dir => (List.range (dir.length - place.length)).map fun n =>
      (dir.drop place.length).take (n + 1)

/-- The files below a directory, each directory of which is opened by its path. There are none below
what is no directory. -/
def below (t : Tree) (p : Path) : Except FileError (List Place) :=
  match t.place p with
  | .error .nameTooLong => .error ⟨.nameTooLong, p⟩
  | .error _ => .ok []
  | .ok place =>
    match ((t.dirsBelow place).map p.append).find? fun dir =>
      longestPath < dir.text.utf8ByteSize with
    | some dir => .error ⟨.nameTooLong, dir⟩
    | none => .ok (t.filesBelow place)

end Tree

inductive ReadFault
  | file (e : FileError)
  | notUtf8 (fault : Utf8.Fault)
  deriving DecidableEq, Repr

def ReadFault.message : ReadFault → String
  | .file e => e.message
  | .notUtf8 fault => fault.message

/-- The text of a file, with one kind of line end. -/
def Tree.readText (t : Tree) (p : Path) : Except ReadFault Text :=
  match t.read p with
  | .error e => .error (.file e)
  | .ok bytes =>
    match Utf8.decode bytes with
    | .ok text => .ok (Text.normalizeEnds text)
    | .error fault => .error (.notUtf8 fault)

def Tree.writeText (t : Tree) (p : Path) (text : Text) : Except FileError Tree :=
  t.write p (Utf8.encode text)

end DocGraft
