import TaggedMachine.Grammar.Attribute

/-!
Visibility of declarations: a keyword, and perhaps in parentheses the place from which they
are seen. Reading one tells whether it was there.
-/
namespace TaggedMachine.Grammar.Declaration.Visibility

open Reader

def isPlace : List Token → Bool
  | [token] => Front.isWord ["crate", "self", "super"] [token]
  | _ => false

/-- The place in parentheses. Parentheses that hold anything else are part of a type. -/
def place (nested : Nested) : Reader Unit := do
  match ← rest with
  | .group .parenthesis content :: _ =>
    if isPlace content then within .parenthesis anyWord
    else if Front.isWord ["in"] content then
      within .parenthesis do
        keyword "in"
        Path.plain nested
  | _ => return

def read (nested : Nested) : Reader Bool := do
  let found ← optionalKeyword "pub"
  if found then place nested
  return found

end TaggedMachine.Grammar.Declaration.Visibility
