import DocGraft.Text.Basic

/-!
# Control sequences

An escape character and a bracket start a sequence that controls a terminal: parameters, then
intermediate characters, then one that ends it. Where there is no terminal such sequences are left
out.
-/

namespace DocGraft.Text

def isParameter (c : Char) : Bool := '0' ≤ c && c ≤ '?'

def isIntermediate (c : Char) : Bool := ' ' ≤ c && c ≤ '/'

def isFinal (c : Char) : Bool := '@' ≤ c && c ≤ '~'

/-- The number of characters of the sequence behind an escape character, or zero if there is no
sequence. -/
def sequenceSize : Text → Nat
  | '[' :: rest =>
    let parameters := rest.takeWhile isParameter
    let intermediates := (rest.drop parameters.length).takeWhile isIntermediate
    let size := parameters.length + intermediates.length
    if (rest.drop size).head?.any isFinal then size + 2 else 0
  | _ => 0

def withoutSequences : Text → Text
  | [] => []
  | c :: rest =>
    let size := if c = '\x1b' then sequenceSize rest else 0
    if size = 0 then c :: withoutSequences rest else withoutSequences (rest.drop size)
  termination_by t => t.length
  decreasing_by all_goals simp only [List.length_cons, List.length_drop]; omega

end DocGraft.Text
