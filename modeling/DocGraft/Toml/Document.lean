import DocGraft.Toml.Scan
import DocGraft.Toml.Store

/-!
# TOML documents

A document is a sequence of lines: headers of tables, pairs of a key and a value, and comments.
-/

namespace DocGraft.Toml

mutual

def value : (fuel : Nat) → Text → Except Fault (Value × Text)
  | 0, _ => .error .malformed
  | fuel + 1, t =>
    match t with
    | '"' :: _ | '\'' :: _ => (orMalformed (string? t)).map fun p => (.text p.1, p.2)
    | '[' :: rest => do
      let (items, rest) ← items fuel (← orMalformed (skipGaps false rest))
      return (.list items, rest)
    | '\x7b' :: rest =>
      match skipSpaces rest with
      | '\x7d' :: rest => .ok (.table [], rest)
      | rest => do
        let (store, rest) ← fields fuel {} rest
        return (.table store.data, rest)
    | _ =>
      match moment? t with
      | some (m, rest) => .ok (.moment m, rest)
      | none => (scalar (t.takeWhile fun c => !isWordEnd c)).map fun v =>
        (v, t.dropWhile fun c => !isWordEnd c)

/-- The items of a list from here to its closing bracket; a comma may stand before the bracket. -/
def items : (fuel : Nat) → Text → Except Fault (List Value × Text)
  | 0, _ => .error .malformed
  | fuel + 1, t =>
    match t with
    | ']' :: rest => .ok ([], rest)
    | _ => do
      let (v, rest) ← value fuel t
      match ← orMalformed (skipGaps false rest) with
      | ']' :: rest => return ([v], rest)
      | ',' :: rest => do
        let (vs, rest) ← items fuel (← orMalformed (skipGaps false rest))
        return (v :: vs, rest)
      | _ => .error .malformed

/-- The pairs of an inline table from here to its closing brace. -/
def fields : (fuel : Nat) → Store → Text → Except Fault (Store × Text)
  | 0, _, _ => .error .malformed
  | fuel + 1, store, t => do
    let (name, rest) ← orMalformed (key? t)
    let rest ← orMalformed (Text.after? ['='] rest)
    let (v, rest) ← value fuel (skipSpaces rest)
    let store ← orMalformed (store.writeInline name v)
    match skipSpaces rest with
    | '\x7d' :: rest => return (store, rest)
    | ',' :: rest => fields fuel store rest
    | _ => .error .malformed

end

/-- A document while it is read: the path of the current table, and what was read. -/
structure State where
  header : Path := []
  store : Store := {}

/-- One statement; the text starts with it. -/
def statement (s : State) (t : Text) : Except Fault (State × Text) :=
  match t with
  | '#' :: _ => .ok (s, t)
  | '[' :: '[' :: rest => orMalformed do
    let (path, rest) ← key? rest
    let rest ← Text.after? [']', ']'] rest
    return (⟨path, ← s.store.settle.openItem path⟩, rest)
  | '[' :: rest => orMalformed do
    let (path, rest) ← key? rest
    let rest ← Text.after? [']'] rest
    return (⟨path, ← s.store.settle.openTable path⟩, rest)
  | _ => do
    let (name, rest) ← orMalformed (key? t)
    let rest ← orMalformed (Text.after? ['='] rest)
    let (v, rest) ← value (rest.length + 1) (skipSpaces rest)
    let store ← orMalformed (s.store.write s.header name v)
    return (⟨s.header, store⟩, rest)

/-- All statements; each ends with its line. -/
def statements : (fuel : Nat) → State → Text → Except Fault Table
  | 0, _, _ => .error .malformed
  | fuel + 1, s, t =>
    match skipSpaces t with
    | [] => .ok s.store.data
    | '\n' :: rest => statements fuel s rest
    | t => do
      let (s, rest) ← statement s t
      match ← orMalformed (skipComment (skipSpaces rest)) with
      | [] => return s.store.data
      | '\n' :: rest => statements fuel s rest
      | _ => .error .malformed

/-- A carriage return and a line feed are one line end. -/
def joinEnds : Text → Text
  | [] => []
  | '\r' :: '\n' :: rest => '\n' :: joinEnds rest
  | c :: rest => c :: joinEnds rest

def read (t : Text) : Except Fault Table :=
  let t := joinEnds t
  statements (t.length + 1) {} t

def readBytes (bytes : List UInt8) : Except Fault Table :=
  match Utf8.decode bytes with
  | .error fault => .error (.notUtf8 fault)
  | .ok t => read t

end DocGraft.Toml
