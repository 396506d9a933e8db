import DocGraft.Value

/-!
# Building a TOML document

A document is built statement by statement. A value is never written twice, a table that was opened
by its header is not opened again, and what was written inline is closed to additions.
-/

namespace DocGraft.Toml

abbrev Path := List String

structure Store where
  data : Table := []
  /-- Tables that have been opened, by a header or on the way of a dotted key. -/
  opened : List Path := []
  /-- Inline tables and lists. -/
  closed : List Path := []
  /-- Tables on the way of dotted keys since the last header. -/
  pending : List Path := []

/-- Changes the table at the end of a path, where tables that are missing are made and a list stands
for the last table in it. -/
def within (f : Table → Option Table) : Path → Table → Option Table
  | [], t => f t
  | key :: rest, t =>
    match t.get? key with
    | none => (within f rest []).map fun inner => t.set key (.table inner)
    | some (.table inner) => (within f rest inner).map fun inner => t.set key (.table inner)
    | some (.list items) =>
      match items.getLast? with
      | some (.table inner) =>
        (within f rest inner).map fun inner => t.set key (.list (items.dropLast ++ [.table inner]))
      | _ => none
    | some _ => none

namespace Store

/-- Whether the path leads into something written inline. -/
def isClosed (s : Store) (path : Path) : Bool := s.closed.any (·.isPrefixOf path)

/-- The tables on the way of a dotted key below a header. -/
def stations (header key : Path) : List Path :=
  (List.range key.length).drop 1 |>.map fun n => header ++ key.take n

def isCompound : Value → Bool
  | .list _ | .table _ => true
  | _ => false

/-- Writes a value under a key below a header. -/
def write (s : Store) (header key : Path) (value : Value) : Option Store := do
  let stem ← key.getLast?
  let parent := header ++ key.dropLast
  if (stations header key).any s.opened.contains || s.isClosed parent then none
  else
    let data ← within (fun t => if (t.get? stem).isSome then none else some (t.set stem value))
      parent s.data
    return { s with
      data := data
      pending := s.pending ++ stations header key
      closed := if isCompound value then (header ++ key) :: s.closed else s.closed }

/-- Writes a value under a key of an inline table. -/
def writeInline (s : Store) (key : Path) (value : Value) : Option Store :=
  if s.isClosed key then none
  else (({ s with opened := [] } : Store).write [] key value)

/-- Ends the statements below a header. -/
def settle (s : Store) : Store := { s with opened := s.opened ++ s.pending, pending := [] }

/-- Opens a table by its header. -/
def openTable (s : Store) (path : Path) : Option Store := do
  if s.opened.contains path || s.isClosed path then none
  else return { s with data := ← within some path s.data, opened := path :: s.opened }

/-- Appends an empty table to a list of tables. -/
def append (key : String) (t : Table) : Option Table :=
  match t.get? key with
  | none => some (t.set key (.list [.table []]))
  | some (.list items) => some (t.set key (.list (items ++ [.table []])))
  | some _ => none

/-- Opens a further table of a list by its header; what was known about the one before is over. -/
def openItem (s : Store) (path : Path) : Option Store := do
  let stem ← path.getLast?
  if s.isClosed path then none
  else
    return { s with
      data := ← within (append stem) path.dropLast s.data
      opened := path :: s.opened.filter fun p => !path.isPrefixOf p
      closed := s.closed.filter fun p => !path.isPrefixOf p }

end Store

end DocGraft.Toml
