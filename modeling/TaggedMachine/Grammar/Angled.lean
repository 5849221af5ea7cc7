import TaggedMachine.Grammar.Nested

/-!
Entries in angle brackets, with commas between them. The lifetimes are written first, each
with the comma that it has; a comma is put between them and the others where there is none.
-/
namespace TaggedMachine.Grammar.Angled

open Reader

structure Entry where
  isLifetime : Bool
  pieces : List Piece
  hasComma : Bool

def Entry.written (entry : Entry) : List Piece :=
  entry.pieces ++ if entry.hasComma then [.ofText ","] else []

/-- The comma between lifetimes and other entries, where the last lifetime has none. -/
def between (lifetimes others : List Entry) : List Piece :=
  if !others.isEmpty && lifetimes.getLast?.any (!·.hasComma) then [.ofText ","] else []

def written (entries : List Entry) : List Piece :=
  let lifetimes := entries.filter (·.isLifetime)
  let others := entries.filter (!·.isLifetime)
  lifetimes.flatMap Entry.written ++ between lifetimes others ++ others.flatMap Entry.written

/-- Reads entries up to the closing bracket; a reader of an entry tells whether it is a
lifetime, and one of commas takes the comma that must follow. -/
def entries (comma : Reader Unit) (entry : Reader Bool) : Nat → Reader (List Entry)
  | 0 => return []
  | steps + 1 => do
    if ← atMark ">" then return []
    let (isLifetime, pieces) ← aside entry
    if ← atMark ">" then return [⟨isLifetime, pieces, false⟩]
    let _ ← aside comma
    return ⟨isLifetime, pieces, true⟩ :: (← entries comma entry steps)

/-- Reads entries in angle brackets and gives their pieces, of which there may be none. -/
def contents (nested : Nested) (comma : Reader Unit) (entry : Reader Bool) :
    Reader (List Piece) := do
  let (entries, _) ← aside do
    mark "<"
    let entries ← entries comma entry nested.steps
    mark ">"
    return entries
  return written entries

def enclosed (pieces : List Piece) : List Piece := .ofText "<" :: pieces ++ [.ofText ">"]

end TaggedMachine.Grammar.Angled
