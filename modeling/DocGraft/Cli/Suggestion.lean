import DocGraft.Diff.Alignment
import DocGraft.Text.Quoted

/-!
# Suggestions

For a name that is not known, the known names that are most like it.
-/

namespace DocGraft.Cli

/-- The number of characters that an alignment of two names leaves in place. -/
def likeness (a b : String) : Nat :=
  (Diff.align (fun _ => false) a.toList b.toList).foldl (fun
    | n, .same run => n + run.length
    | n, .change _ _ => n) 0

/-- Two names are alike if at least three fifths of their characters stay in place. -/
def isNear (name known : String) : Bool :=
  3 * (name.length + known.length) ≤ 10 * likeness known name

/-- Whether `a` is at least as much like the name as `b`. -/
def isNearer (name a b : String) : Bool :=
  let x := likeness a name * (name.length + b.length)
  let y := likeness b name * (name.length + a.length)
  y < x || (x = y && b ≤ a)

/-- At most three of the known names, in alphabetical order. -/
def nearest (name : String) (known : List String) : List String :=
  (((known.filter (isNear name)).mergeSort (isNearer name)).take 3).mergeSort fun a b => a ≤ b

def suggestion : List String → String
  | [] => ""
  | [name] => " Did you mean " ++ quoted name ++ "?"
  | names => " (Did you mean one of: " ++ ", ".intercalate (names.map quoted) ++ "?)"

end DocGraft.Cli
