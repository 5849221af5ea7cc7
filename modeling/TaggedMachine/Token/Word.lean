import TaggedMachine.Character.Word

/-!
Words at the start of a text: each function takes the text and gives what follows the
word, or nothing where the text begins with no word. A raw word stands after `r#`.
-/
namespace TaggedMachine.Token

/-- What was read of a text where `rest` is left over. -/
def taken (text rest : List Char) : List Char := text.take (text.length - rest.length)

def afterWord? : List Char → Option (List Char)
  | c :: rest =>
    if Character.isWordStart c then some (rest.dropWhile Character.isWordChar) else none
  | [] => none

/-- Words that cannot be raw. -/
def neverRaw : List String := ["_", "super", "self", "Self", "crate"]

def afterRawWord? (text : List Char) : Option (List Char) :=
  (afterWord? text).filter fun rest => !neverRaw.contains (String.ofList (taken text rest))

/-- A plain word or a raw one. -/
def afterName? : List Char → Option (List Char)
  | 'r' :: '#' :: rest => afterRawWord? rest
  | text => afterWord? text

end TaggedMachine.Token
