import DocGraft.Cli.Run
import DocGraft.Cli.Usual
import DocGraft.Console
import Std.Time.DateTime

/-!
# The program

Brings the files that a command names into a tree, runs the command on it, and writes back what has
changed. The names of the files of a batch are read from standard input, one a line. No other
program is started: both texts of a merge are taken to be formatted already.
-/

namespace DocGraft.Program

/-- A formatter that leaves every text as it is. -/
def runner : Runner := fun t => .finished 0 (Utf8.encode t) []

/-- The parts of an argument that may be paths: all of it, what follows an equals sign, and what
follows the letter of a short option. -/
def pathsIn (arg : String) : List Path :=
  let cs := arg.toList
  let candidates :=
    [cs, (cs.dropWhile (· ≠ '=')).drop 1, if cs.head? = some '-' then cs.drop 2 else []]
  (candidates.map fun c => Path.ofString (String.ofList c)).filter (!·.parts.isEmpty)

/-- The place that a path leads to where no name is a link. -/
def placeOf (here : Place) (p : Path) : Place :=
  p.parts.foldl (fun place name => if name = ".." then place.dropLast else place ++ [name])
    (if p.start = .here then here else [])

def nameOf (place : Place) : String := (Path.mk .root place).text

/-- The tree with what is on the disk at a place: a file, or a directory without what is in it. -/
def load (place : Place) (t : Tree) : IO Tree := do
  if ← ((← IO.currentDir) / nameOf place).isDir then
    return { t with dirs := t.dirs ++ [place] }
  try
    let bytes ← IO.FS.readBinFile (nameOf place)
    return { t with files := Tree.setFile place bytes.toList t.files }
  catch _ => return t

/-- The tree with every file that the arguments or standard input name, and with the directories
that these are in. -/
def gather (home : Path) (args : List String) : IO Tree := do
  let here := (Path.ofString (← IO.currentDir).toString).parts
  let listed ← if args.contains Cli.Verb.batch.name then
      pure ((← (← IO.getStdin).lines).toList.map Path.ofString)
    else pure []
  let named := args.flatMap pathsIn ++ listed ++ [Cli.projectFile, home.append Cli.userPlace]
  let places := named.map (placeOf here)
  places.foldlM (fun t place => do load place (← load place.dropLast t)) { here }

/-- Writes the files that are new or have another content. -/
def store (before after : Tree) : IO Unit := do
  for (place, bytes) in after.files do
    if before.file? place ≠ some bytes then
      IO.FS.createDirAll (nameOf place.dropLast)
      IO.FS.writeBinFile (nameOf place) ⟨bytes.toArray⟩

/-- A time, given in microseconds of the Unix epoch, in the form that reports carry. Whole seconds
have no fraction. -/
def timeText (micros : Int) : String :=
  let date := Std.Time.PlainDate.ofEpochDay (.ofInt (micros / 86400000000))
  let second := micros % 86400000000 / 1000000
  padded 4 date.year.toInt.toNat ++ "-" ++ padded 2 date.month.val.toNat ++ "-" ++
    padded 2 date.day.val.toNat ++ "T" ++ padded 2 (second / 3600).toNat ++ ":" ++ padded 2 (second / 60 % 60).toNat ++ ":" ++
    padded 2 (second % 60).toNat ++
    (if micros % 1000000 = 0 then "" else "." ++ padded 6 (micros % 1000000).toNat) ++ "+00:00"

def timestamp : IO String := do
  return timeText ((← Std.Time.Timestamp.now).toNanosecondsSinceUnixEpoch.val / 1000)

end DocGraft.Program

open DocGraft in
def main (args : List String) : IO UInt32 := do
  let home := Path.ofString ((← IO.getEnv "HOME").getD "/")
  let t ← Program.gather home args
  let w : Cli.World := ⟨Program.runner, .usual, Console.screen, home, ← Program.timestamp⟩
  let r := Cli.run w t args
  IO.print r.out
  IO.eprint r.errors
  Program.store t r.tree
  return r.status.toUInt32
