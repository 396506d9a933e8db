import DocGraft.Settings.Basic
import DocGraft.Toml.Document

/-!
# Layers of settings

Settings come from the bundled layer, the user's file, the project's file and the command line, each
of which goes over the ones before it. A file that is not there is an empty layer.
-/

namespace DocGraft.Settings

inductive LoadFault
  | file (fault : Toml.Fault)
  | content (fault : Fault)
  deriving Repr, BEq

def LoadFault.message : LoadFault → String
  | .file fault => fault.message
  | .content fault => fault.message

def layer : Option (List UInt8) → Except LoadFault Table
  | none => .ok []
  | some bytes =>
    match Toml.readBytes bytes with
    | .ok t => .ok t
    | .error fault => .error (.file fault)

/-- The settings from the two files and the named values of the command line. -/
def load (user project : Option (List UInt8)) (named : List (String × String)) :
    Except LoadFault Settings := do
  match resolve bundled (← layer user) (← layer project) named with
  | .ok s => .ok s
  | .error fault => .error (.content fault)

end DocGraft.Settings
