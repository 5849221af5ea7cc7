import TaggedMachine.Grammar.Nested

/-!
Imports: paths of names, of which the last may be renamed, be all names, or be several paths
in braces. An import in braces may start from the root, and then the whole import stands as
it is written.
-/
namespace TaggedMachine.Grammar.Declaration.Import

open Reader

def pathWords : List String := ["self", "super", "crate", "try"]

def beginnings : List String :=
  identifierText :: pathWords.map codeText ++ [codeText "*", delimiterDescription .brace]

def newName : Reader Unit := do
  if ← at? fun tokens => Front.isName tokens || Front.isWord ["_"] tokens then anyWord
  else expected ["identifier or underscore"]

/-- One of the imports in braces; tells whether it starts from the root, or one in it. -/
def entry (nested : Nested) (mayStartAtRoot : Bool) : Reader Bool := do
  let rooted ← if mayStartAtRoot then optionalMark "::" else pure false
  let inner ← nested.imported (mayStartAtRoot && !rooted)
  return rooted || inner

def entries (nested : Nested) (mayStartAtRoot : Bool) : Nat → Reader Bool
  | 0 => return false
  | steps + 1 => do
    if ← atEnd then return false
    let first ← entry nested mayStartAtRoot
    if ← atEnd then return first
    mark ","
    let others ← entries nested mayStartAtRoot steps
    return first || others

def read (nested : Nested) (mayStartAtRoot : Bool) : Reader Bool := do
  let tokens ← rest
  if Front.isName tokens || Front.isWord pathWords tokens then
    anyWord
    if ← optionalMark "::" then
      let _ ← nested.imported false
    else if ← optionalKeyword "as" then newName
    return false
  else if ← optionalMark "*" then return false
  else if Front.isGroup .brace tokens then
    within .brace (entries nested mayStartAtRoot nested.steps)
  else expected beginnings

end TaggedMachine.Grammar.Declaration.Import
