import TaggedMachine.Token.Number

/-!
Literals at the start of a text, by their opening.
-/
namespace TaggedMachine.Token.Literal

open Quoted

/-- What follows the literal at the start of a text. -/
def after? : List Char → Option (List Char)
  | '\x22' :: rest => afterString? .characters rest
  | 'r' :: rest => afterRawString? .characters rest
  | 'b' :: '\x22' :: rest => afterString? .bytes rest
  | 'b' :: 'r' :: rest => afterRawString? .bytes rest
  | 'c' :: '\x22' :: rest => afterString? .nonzero rest
  | 'c' :: 'r' :: rest => afterRawString? .nonzero rest
  | 'b' :: '\x27' :: rest => afterCharacter? .bytes rest
  | '\x27' :: rest => afterCharacter? .characters rest
  | text => Number.after? text

/-- Openings of literals: where the literal is malformed, no word begins there. -/
def openings : List (List Char) :=
  [['r', '\x22'], ['r', '#', '\x22'], ['r', '#', '#'], ['b', '\x22'], ['b', '\x27'],
   ['b', 'r', '\x22'], ['b', 'r', '#'], ['c', '\x22'], ['c', 'r', '\x22'], ['c', 'r', '#']]

def opens (text : List Char) : Bool := openings.any (·.isPrefixOf text)

end TaggedMachine.Token.Literal
