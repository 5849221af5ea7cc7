import TaggedMachine.Grammar.Declaration.Form
import TaggedMachine.Grammar.Statement

/-!
Types as they are written. A type is kept as its pieces: marks that belong together are one
piece, brackets with what they hold are one piece, and a piece is set off from the next by
one space.
-/
namespace TaggedMachine.Grammar

/-- No reader of parts at all. -/
def Nested.none : Nested where
  type := fun _ => Reader.expected TypeForm.beginnings
  bound := fun _ => Reader.expected [Reader.identifierText]
  expression := fun _ => Reader.expected [Expression.Operand.expressionText]
  standing := Reader.expected [Expression.Operand.expressionText]
  pattern := Reader.expected Pattern.beginnings
  statements := return
  body := return
  declaration := Reader.expected []
  imported := fun _ => Reader.expected Declaration.Import.beginnings
  steps := 0

/-- The readers of parts that hold parts at most so many levels deep. -/
def Nested.within : Nat → Nested
  | 0 => .none
  | depth + 1 =>
    let nested := Nested.within depth
    { type := TypeForm.read nested
      bound := Bound.read nested
      expression := Expression.read nested
      standing := Expression.standing nested
      pattern := Pattern.read nested
      statements := Statement.list nested
      body := Statement.body nested
      declaration := Declaration.Form.read nested
      imported := Declaration.Import.read nested
      steps := depth }

structure TypeExpression where
  pieces : List Piece
deriving DecidableEq

namespace TypeExpression

def text (type : TypeExpression) : String := Piece.textOf type.pieces

/-- A type, the tokens after it, and the first brackets in it that were not read to their
end. -/
structure Reading where
  type : TypeExpression
  rest : List Token
  unread : Option Delimiter

/-- Of a part and the parts in it at most so many take up no token of their own. -/
def levelsPerToken : Nat := 4

/-- Reads the longest type at the start of the tokens, the number of which bounds how deep
parts are nested in it. -/
def read (tokens : List Token) : Except Unmet Reading := do
  let depth := levelsPerToken * (Token.countAll tokens + 1)
  let (_, progress) ← ((Nested.within depth).type true).run ⟨tokens, [], none⟩
  return ⟨⟨progress.pieces⟩, progress.tokens, progress.unread⟩

end TypeExpression

end TaggedMachine.Grammar
