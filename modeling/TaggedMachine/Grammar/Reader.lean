import TaggedMachine.Grammar.Front
import TaggedMachine.Grammar.Piece
import TaggedMachine.Grammar.Unmet

/-!
Readers of tokens. A reader takes tokens from the front and notes the pieces of text that
they stand for, or stops at an expectation that is not met. Tokens that are left in
brackets do not stop it; the first brackets with such tokens are remembered.
-/
namespace TaggedMachine.Grammar

structure Progress where
  tokens : List Token
  pieces : List Piece
  unread : Option Delimiter

abbrev Reader := StateT Progress (Except Unmet)

namespace Reader

def rest : Reader (List Token) := do return (← get).tokens

/-- Whether the tokens at hand have a property. -/
def at? (holds : List Token → Bool) : Reader Bool := do return holds (← rest)

def atEnd : Reader Bool := at? List.isEmpty

def expected (descriptions : List String) : Reader α := do
  throw (.oneOf descriptions (← atEnd))

def write (pieces : List Piece) : Reader Unit :=
  modify fun progress => { progress with pieces := progress.pieces ++ pieces }

def goTo (rest : List Token) : Reader Unit :=
  modify fun progress => { progress with tokens := rest }

/-- Takes the tokens up to `rest`, which stand for one piece. -/
def take (text : String) (rest : List Token) : Reader Unit := do
  write [.ofText text]
  goTo rest

/-- Runs a reader and keeps its pieces apart. -/
def aside (reader : Reader α) : Reader (α × List Piece) := do
  let before := (← get).pieces
  modify fun progress => { progress with pieces := [] }
  let value ← reader
  let pieces := (← get).pieces
  modify fun progress => { progress with pieces := before }
  return (value, pieces)

/-- Runs a reader and tells whether it succeeds; where it does not, nothing is taken. -/
def attempted (reader : Reader Unit) : Reader Bool := fun progress =>
  match reader.run progress with
  | .ok (_, after) => return (true, after)
  | .error _ => return (false, progress)

/-- What a reader gave, the tokens that it took, and their pieces. -/
structure Taken (α : Type) where
  value : α
  tokens : List Token
  pieces : List Piece

def taken (reader : Reader α) : Reader (Taken α) := do
  let before ← rest
  let (value, pieces) ← aside reader
  let after ← rest
  return ⟨value, before.take (before.length - after.length), pieces⟩

/-- Runs a reader whose value tells whether its tokens stand as they are written. -/
def writtenIf (asWritten : α → Bool) (reader : Reader α) : Reader α := do
  let taken ← taken reader
  write (if asWritten taken.value then Piece.ofTokens taken.tokens else taken.pieces)
  return taken.value

/-- Runs a reader, of which the tokens stand as they are written. -/
def asWritten (reader : Reader Unit) : Reader Unit := writtenIf (fun _ => true) reader

def atMark (text : String) : Reader Bool := at? (Front.isMark text)

def mark (text : String) : Reader Unit := do
  match Front.afterMarks? text.toList (← rest) with
  | some rest => take text rest
  | none => throw (.mark text)

def optionalMark (text : String) : Reader Bool := do
  let found ← atMark text
  if found then mark text
  return found

def atWord (words : List String) : Reader Bool := at? (Front.isWord words)

/-- Takes a word that is accepted. -/
def wordWhere (accepts : String → Bool) (description : String) : Reader Unit := do
  match ← rest with
  | .word text :: rest => if accepts text then take text rest else expected [description]
  | _ => expected [description]

def keyword (word : String) : Reader Unit := wordWhere (· = word) (codeText word)

def optionalKeyword (word : String) : Reader Bool := do
  let found ← atWord [word]
  if found then keyword word
  return found

def identifierText : String := "identifier"

/-- Takes a word, though it may be a keyword. -/
def anyWord : Reader Unit := wordWhere (fun _ => true) identifierText

def identifier : Reader Unit := do
  match Front.word? (← rest) with
  | some word => if isKeyword word then throw (.nameNotKeyword word) else anyWord
  | none => expected [identifierText]

/-- A name, or one of some keywords in its place. -/
def identifierOr (keywords : List String) : Reader Unit := do
  if ← atWord keywords then anyWord else identifier

def lifetimeText : String := "lifetime"

def atLifetime : Reader Bool := at? Front.isLifetime

def lifetime : Reader Unit := do
  match ← rest with
  | .mark '\x27' _ :: .word name :: rest => take ("\x27" ++ name) rest
  | _ => expected [lifetimeText]

def literalText : String := "literal"

def atLiteral : Reader Bool := at? Front.isLiteral

def literal : Reader Unit := do
  match Front.literal? (← rest) with
  | some (texts, rest) =>
    write (texts.map .ofText)
    goTo rest
  | none => expected [literalText]

/-- Takes a string literal, if there is one. -/
def optionalString : Reader Unit := do
  match ← rest with
  | .literal text :: rest => if Front.isString text then take text rest
  | _ => return

def delimiterDescription : Delimiter → String
  | .parenthesis => "parentheses"
  | .bracket => "square brackets"
  | .brace => "curly braces"

def atGroup (delimiter : Delimiter) : Reader Bool := at? (Front.isGroup delimiter)

/-- Whether brackets follow a double colon. -/
def atQualifiedGroup (delimiter : Delimiter) : Reader Bool :=
  at? fun tokens => (Front.afterMarks? [':', ':'] tokens).any (Front.isGroup delimiter)

/-- What was read in brackets. -/
structure Content (α : Type) where
  delimiter : Delimiter
  value : α
  pieces : List Piece
  complete : Bool

/-- Reads what stands in brackets and keeps it apart. -/
def contentOf (delimiter : Delimiter) (reader : Reader α) : Reader (Content α) := do
  match ← rest with
  | .group opened content :: rest =>
    if opened = delimiter then
      goTo content
      let (value, pieces) ← aside reader
      let complete ← atEnd
      goTo rest
      return ⟨delimiter, value, pieces, complete⟩
    else expected [delimiterDescription delimiter]
  | _ => expected [delimiterDescription delimiter]

def writeIn (delimiter : Delimiter) (pieces : List Piece) : Reader Unit :=
  write [.enclosed delimiter pieces]

/-- Remembers brackets with tokens left in them, unless others were found before. -/
def close (content : Content α) : Reader Unit :=
  modify fun progress =>
    { progress with
      unread := progress.unread.or (if content.complete then none else some content.delimiter) }

/-- Reads brackets and what belongs to them after their end, and closes them only then. -/
def withinThen (delimiter : Delimiter) (reader : Reader α) (after : Reader Unit) : Reader α := do
  let content ← contentOf delimiter reader
  writeIn delimiter content.pieces
  after
  close content
  return content.value

/-- Reads brackets and what stands in them. -/
def within (delimiter : Delimiter) (reader : Reader α) : Reader α :=
  withinThen delimiter reader (return)

/-- Takes all tokens as they are written. -/
def verbatimRest : Reader Unit := do
  write (Piece.ofTokens (← rest))
  goTo []

/-- Takes any brackets as they are written. -/
def verbatimGroup : Reader Unit := do
  match ← rest with
  | .group delimiter content :: rest => take (Token.group delimiter content).text rest
  | _ => expected ["delimiter"]

/-- Repeats a reader while it tells to go on, at most so many times. -/
def repeated : Nat → Reader Bool → Reader Unit
  | 0, _ => return
  | steps + 1, reader => do if ← reader then repeated steps reader

/-- Items up to an end, with a mark between them and perhaps one after the last. -/
def separated (steps : Nat) (separator : String) (ended : Reader Bool) (item : Reader Unit) :
    Reader Unit :=
  repeated steps do
    if ← ended then return false
    item
    if ← ended then return false
    mark separator
    return true

/-- Items with commas up to the end of the tokens. -/
def commaSeparated (steps : Nat) (item : Reader Unit) : Reader Unit :=
  separated steps "," atEnd item

/-- Items up to an end, with plus signs between them; nothing need follow a plus sign. -/
def summed (steps : Nat) (ended : Reader Bool) (item : Reader Unit) : Reader Unit :=
  repeated steps do
    if ← ended then return false
    item
    optionalMark "+"

end Reader

end TaggedMachine.Grammar
