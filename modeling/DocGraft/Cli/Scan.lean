import DocGraft.Cli.Shell
import DocGraft.Cli.Suggestion

/-!
# Options among arguments

Arguments are divided into options with their values and operands. A long option has its value after
an equals sign or in the next argument. Short options may stand together in one argument, and what
follows one that takes a value is that value. Two dashes alone end the options.
-/

namespace DocGraft.Cli

inductive ScanFault
  /-- There is no such option; some that there are have names like it. -/
  | unknown (name : String) (near : List String)
  | tooFew (name : String) (arity : Nat)
  | noValue (name : String)
  deriving DecidableEq, Repr

def ScanFault.message : ScanFault → String
  | .unknown name near => "No such option " ++ quoted name ++ "." ++ suggestion near
  | .tooFew name arity =>
    "Option " ++ quoted name ++ " requires " ++
      if arity = 1 then "an argument." else toString arity ++ " arguments."
  | .noValue name => "Option " ++ quoted name ++ " does not take a value."

structure Scanned where
  given : List Given := []
  operands : List String := []
  deriving DecidableEq, Repr

/-- The options in the order in which each was given first. -/
def Scanned.keys (s : Scanned) : List Key := (s.given.map Given.key).eraseDups

/-- The value that an option was given last. -/
def Scanned.last? (s : Scanned) (k : Key) : Option String :=
  ((s.given.filter fun g => g.key = k).getLast?).bind fun g => g.values.head?

namespace Form

def key? (f : Form) (name : String) : Option Key := f.keys.find? fun k => k.names.contains name

def longNames (f : Form) : List String :=
  (f.keys.flatMap Key.names).filter fun n => "--".toList.isPrefixOf n.toList

/-- An option whose values are the one attached to it, if any, and then arguments of `rest`; with
it comes the number of those arguments. -/
def take (name : String) (k : Key) (attached rest : List String) :
    Except ScanFault (Given × Nat) :=
  let wanted := k.arity - attached.length
  if rest.length < wanted then .error (.tooFew name k.arity)
  else .ok (⟨k, attached ++ rest.take wanted⟩, wanted)

/-- Reads short options that stand together. -/
def short (f : Form) (rest : List String) : List Char → Except ScanFault (List Given × Nat)
  | [] => .ok ([], 0)
  | c :: more =>
    let name := String.ofList ['-', c]
    match f.key? name with
    | none => .error (.unknown name [])
    | some k =>
      if k.arity = 0 then do
        let (given, taken) ← short f rest more
        return (⟨k, []⟩ :: given, taken)
      else do
        let (given, taken) ← take name k (if more.isEmpty then [] else [String.ofList more]) rest
        return ([given], taken)

def long (f : Form) (rest : List String) (arg : List Char) :
    Except ScanFault (List Given × Nat) :=
  let name := String.ofList (arg.takeWhile (· ≠ '='))
  let value := (arg.dropWhile (· ≠ '=')).drop 1
  let attached := if arg.contains '=' then [String.ofList value] else []
  match f.key? name with
  | none => .error (.unknown name (nearest name f.longNames))
  | some k =>
    if k.arity = 0 then
      if attached.isEmpty then .ok ([⟨k, []⟩], 0) else .error (.noValue name)
    else do
      let (given, taken) ← take name k attached rest
      return ([given], taken)

def scan (f : Form) : List String → Except ScanFault Scanned
  | [] => .ok {}
  | arg :: rest =>
    let text := arg.toList
    if text = ['-', '-'] then .ok ⟨[], rest⟩
    else if text.head? = some '-' && 1 < text.length then do
      let (given, taken) ←
        if text.take 2 = ['-', '-'] then f.long rest text else f.short rest (text.drop 1)
      let later ← scan f (rest.drop taken)
      return ⟨given ++ later.given, later.operands⟩
    else if !f.leads then do
      let later ← scan f rest
      return { later with operands := arg :: later.operands }
    else .ok ⟨[], arg :: rest⟩
  termination_by args => args.length
  decreasing_by all_goals simp only [List.length_cons, List.length_drop]; omega

end Form

end DocGraft.Cli
