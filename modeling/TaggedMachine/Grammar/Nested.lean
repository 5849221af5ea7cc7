import TaggedMachine.Grammar.Expression.Precedence
import TaggedMachine.Grammar.Reader

/-!
How the parts of a type are read. Types, bounds, expressions, patterns and declarations hold
one another, so the readers of each of them are given those for the parts one level further
down.
-/
namespace TaggedMachine.Grammar

/-- What a type turned out to be: a single name with or without arguments, another path, one
bound, of which the pieces are kept without parentheses, or anything else. -/
inductive Shape
  | name
  | path
  | bound (pieces : List Piece)
  | other

/-- Whether a type could also be read as a single bound. -/
def Shape.isBound : Shape → Bool
  | .other => false
  | _ => true

/-- Whether a type could also name a trait. -/
def Shape.isPath : Shape → Bool
  | .name | .path => true
  | _ => false

def Shape.boundPieces (pieces : List Piece) : Shape → List Piece
  | .bound pieces => pieces
  | _ => pieces

/-- Where a bound stands: in an object type, after the colon of a constraint, or in a type
of which only its traits are known. -/
inductive BoundPlace
  | object | constraint | anonymous
deriving DecidableEq

namespace Expression

/-- What an expression turned out to be, where that matters: a range, a comparison, a form
with a block that may stand as a statement of its own, a macro with braces, or else. -/
inductive Kind
  | range | comparison | block | macroBlock | other
deriving DecidableEq

/-- `fixedStart` tells that the first operand stands as it is written, and takes no
attributes. -/
structure Form where
  kind : Kind
  fixedStart : Bool

namespace Form

def other : Form := ⟨.other, false⟩

def block : Form := ⟨.block, false⟩

def range : Form := ⟨.range, false⟩

def fixed : Form := ⟨.other, true⟩

/-- Whether a comma may be missing between the expression and the next arm. -/
def endsArm (form : Form) : Bool := form.kind = .block

/-- Whether the expression is a statement without a semicolon. -/
def endsStatement (form : Form) : Bool := form.kind = .block || form.kind = .macroBlock

end Form

/-- How an expression is read: up to operators that bind less closely than `least`, and
with the braces of a structure only where `braces` tells so. -/
structure Extent where
  braces : Bool
  least : Precedence

def Extent.whole : Extent := ⟨true, .lowest⟩

def Extent.beforeBlock : Extent := ⟨false, .lowest⟩

end Expression

/-- What a pattern turned out to be: the rest of a list, a range without one of its ends, a
form that stands as it is written, or anything else. -/
inductive PatternShape
  | rest | openRange | fixed | other
deriving DecidableEq

/-- The readers of parts, and the greatest number of parts in a row. A type is told whether
bounds may be added to it; a bound tells whether it names a trait, a declaration whether it
stands as it is written, and an import whether it starts from the root inside. A standing
expression is one that may be a statement, and a body is statements, perhaps with attributes
before the first. -/
structure Nested where
  type : Bool → Reader Shape
  bound : BoundPlace → Reader Bool
  expression : Expression.Extent → Reader Expression.Form
  standing : Reader Expression.Form
  pattern : Reader PatternShape
  statements : Reader Unit
  body : Reader Unit
  declaration : Reader Bool
  imported : Bool → Reader Bool
  steps : Nat

namespace Nested

def anyType (nested : Nested) : Reader Unit := do
  let _ ← nested.type true

/-- Reads a type to which no bounds may be added. -/
def singleType (nested : Nested) : Reader Unit := do
  let _ ← nested.type false

def anyExpression (nested : Nested) : Reader Unit := do
  let _ ← nested.expression .whole

def constraint (nested : Nested) (ended : Reader Bool) : Reader Unit :=
  Reader.summed nested.steps ended do
    let _ ← nested.bound .constraint

def block (nested : Nested) : Reader Unit := Reader.within .brace nested.statements

def bodyBlock (nested : Nested) : Reader Unit := Reader.within .brace nested.body

def expressionsIn (nested : Nested) (delimiter : Delimiter) : Reader Unit :=
  Reader.within delimiter (Reader.commaSeparated nested.steps nested.anyExpression)

end Nested

end TaggedMachine.Grammar
