import TaggedMachine.Token.Comment
import TaggedMachine.Token.Literal

/-!
Source text as tokens. Blanks and comments separate tokens. A text that cannot be divided
into tokens, or whose brackets do not match, has none.
-/
namespace TaggedMachine.Token

def delimiterPiece? (c : Char) : Option Piece :=
  match c with
  | '(' => some (.opening .parenthesis)
  | ')' => some (.closing .parenthesis)
  | '[' => some (.opening .bracket)
  | ']' => some (.closing .bracket)
  | '\x7b' => some (.opening .brace)
  | '\x7d' => some (.closing .brace)
  | _ => none

def markChars : List Char :=
  ['~', '!', '@', '#', '$', '%', '^', '&', '*', '-', '=', '+', '|', ';', ':', ',', '<', '.', '>',
   '/', '?', '\x27']

def isMark (c : Char) : Bool := markChars.contains c

/-- An apostrophe is a mark only before a name that neither an apostrophe nor, after a
plain word, a hash follows. -/
def opensLifetime (text : List Char) : Bool :=
  (afterName? text).any fun rest =>
    rest.head? ≠ some '\x27' && (rest.head? ≠ some '#' || ['r', '#'].isPrefixOf text)

/-- A mark is joint with the mark after it. -/
def mark? : List Char → Option (Token × List Char)
  | '\x27' :: rest => if opensLifetime rest then some (.mark '\x27' true, rest) else none
  | c :: rest =>
    if isMark c then some (.mark c (rest.head?.any isMark && !Comment.opens rest), rest)
    else none
  | [] => none

def word? (text : List Char) : Option (Token × List Char) :=
  if Literal.opens text then none
  else (afterName? text).map fun rest => (.word (String.ofList (taken text rest)), rest)

def literal? (text : List Char) : Option (Token × List Char) :=
  (Literal.after? text).map fun rest => (.literal (String.ofList (taken text rest)), rest)

def leaf? (text : List Char) : Option (Token × List Char) :=
  (literal? text).or ((mark? text).or (word? text))

/-- The one comment in parentheses that is a literal: it marks an error. -/
def errorMark : List Char := ['(', '/', '*', 'E', 'R', 'R', 'O', 'R', '*', '/', ')']

/-- The pieces that the start of a text stands for, and the text after them. -/
def next? : List Char → Option (List Piece × List Char)
  | [] => none
  | c :: rest =>
    if Character.isBlank c then some ([], rest)
    else if Comment.opens (c :: rest) then Comment.read? (c :: rest)
    else if errorMark.isPrefixOf (c :: rest) then
      some ([.leaf (.literal (String.ofList errorMark))], (c :: rest).drop errorMark.length)
    else match delimiterPiece? c with
      | some piece => some ([piece], rest)
      | none => (leaf? (c :: rest)).map fun (token, rest) => ([.leaf token], rest)

/-- Every step takes at least one character, so a text is read within as many steps as
it has characters. -/
def piecesWithin : Nat → List Char → Option (List Piece)
  | _, [] => some []
  | 0, _ => none
  | steps + 1, text =>
    (next? text).bind fun (pieces, rest) => (piecesWithin steps rest).map (pieces ++ ·)

def byteOrderMark : Char := '\ufeff'

/-- A byte order mark may stand before the text. -/
def withoutByteOrderMark : List Char → List Char
  | c :: rest => if c = byteOrderMark then rest else c :: rest
  | [] => []

/-- The tokens of a text. -/
def lex? (text : String) : Option (List Token) :=
  let text := withoutByteOrderMark text.toList
  (piecesWithin text.length text).bind nest

end TaggedMachine.Token
