import TaggedMachine.Token

/-!
Pieces of text. A piece is set off from the next by one space, unless it ends in a mark
that is joint with what follows it.
-/
namespace TaggedMachine.Grammar

structure Piece where
  text : String
  joint : Bool
deriving DecidableEq

namespace Piece

def ofText (text : String) : Piece := ⟨text, false⟩

/-- Tokens as they are written. -/
def ofTokens : List Token → List Piece
  | [] => []
  | tokens => [⟨Token.textOf tokens, tokens.getLast?.any Token.isJoint⟩]

def textOf : List Piece → String
  | [] => ""
  | [piece] => piece.text
  | piece :: rest => piece.text ++ (if piece.joint then "" else " ") ++ textOf rest

/-- Pieces in brackets are one piece. -/
def enclosed (delimiter : Delimiter) (pieces : List Piece) : Piece :=
  ofText (delimiter.enclose (textOf pieces))

end Piece

end TaggedMachine.Grammar
