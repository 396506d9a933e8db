import DocGraft.Hunk.Relevance

/-!
# What a hunk leaves in the merged text

The lines that replace a hunk's before range are: the lines of that range that are not the business
of documentation, as many empty lines as it had blank ones, and the new lines, without those that
the range itself keeps.
-/

namespace DocGraft.Hunk

/-- The lines of a before range that stay: attributes that are not documentation, ordinary comments,
and the one blank line directly behind such a comment. The flag tells whether an ordinary comment
stands before the list. -/
def keptLines (m : Markers) : (afterComment : Bool) → List Line → List Line
  | _, [] => []
  | afterComment, l :: rest =>
    if Line.isOrdinaryComment l then l :: keptLines m true rest
    else if Line.isOtherAttribute m l || (Text.isBlank l && afterComment) then
      l :: keptLines m false rest
    else keptLines m false rest

/-- The number of blank lines that do not directly follow an ordinary comment. -/
def freeBlanks : (afterComment : Bool) → List Line → Nat
  | _, [] => 0
  | afterComment, l :: rest =>
    (if Text.isBlank l && !afterComment then 1 else 0) + freeBlanks (Line.isOrdinaryComment l) rest

/-- The new content starts with module documentation, blank lines apart. -/
def opensWithModuleDoc (m : Markers) (added : List Line) : Bool :=
  match added.dropWhile Text.isBlank with
  | [] => false
  | l :: _ => Line.isModuleDoc m l

/-- The lines that take the place of the hunk's before range. Blank lines go before the new content,
and behind it where that is documentation of a module. -/
def render (m : Markers) (before after : List Line) (h : Hunk) : List Line :=
  let kept := keptLines m false (h.removed before)
  let gap := List.replicate (freeBlanks false (h.removed before)) []
  let fresh := (h.added after).filter fun l => !Line.isKeptAside m l
  if opensWithModuleDoc m (h.added after) then kept ++ fresh ++ gap else kept ++ gap ++ fresh

end DocGraft.Hunk
