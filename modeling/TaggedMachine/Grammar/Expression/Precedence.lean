import TaggedMachine.Grammar.Front

/-!
Operators between the operands of an expression, and how closely they bind.
-/
namespace TaggedMachine.Grammar.Expression

/-- How closely operators bind, from the loosest on. -/
inductive Precedence
  | lowest | assignment | range | disjunction | conjunction | condition | comparison | bitOr
  | bitXor | bitAnd | shift | sum | product | conversion
deriving DecidableEq

def Precedence.rank : Precedence → Nat
  | .lowest => 0
  | .assignment => 1
  | .range => 2
  | .disjunction => 3
  | .conjunction => 4
  | .condition => 5
  | .comparison => 6
  | .bitOr => 7
  | .bitXor => 8
  | .bitAnd => 9
  | .shift => 10
  | .sum => 11
  | .product => 12
  | .conversion => 13

/-- The loosest operators that the right operand of an operator takes: those that bind more
closely, and an assignment the assignments. -/
def Precedence.right : Precedence → Precedence
  | .lowest | .assignment => .assignment
  | .range => .disjunction
  | .disjunction => .conjunction
  | .conjunction => .condition
  | .condition => .comparison
  | .comparison => .bitOr
  | .bitOr => .bitXor
  | .bitXor => .bitAnd
  | .bitAnd => .shift
  | .shift => .sum
  | .sum => .product
  | .product | .conversion => .conversion

structure Operator where
  text : String
  precedence : Precedence

/-- Operators that take two operands; those that are part of longer ones come later. -/
def operators : List Operator :=
  [⟨"<<=", .assignment⟩, ⟨">>=", .assignment⟩, ⟨"+=", .assignment⟩, ⟨"-=", .assignment⟩,
   ⟨"*=", .assignment⟩, ⟨"/=", .assignment⟩, ⟨"%=", .assignment⟩, ⟨"^=", .assignment⟩,
   ⟨"&=", .assignment⟩, ⟨"|=", .assignment⟩, ⟨"&&", .conjunction⟩, ⟨"||", .disjunction⟩,
   ⟨"<<", .shift⟩, ⟨">>", .shift⟩, ⟨"==", .comparison⟩, ⟨"<=", .comparison⟩,
   ⟨"!=", .comparison⟩, ⟨">=", .comparison⟩, ⟨"+", .sum⟩, ⟨"-", .sum⟩, ⟨"*", .product⟩,
   ⟨"/", .product⟩, ⟨"%", .product⟩, ⟨"^", .bitXor⟩, ⟨"&", .bitAnd⟩, ⟨"|", .bitOr⟩,
   ⟨"<", .comparison⟩, ⟨">", .comparison⟩]

def operator? (tokens : List Token) : Option Operator :=
  operators.find? fun operator => Front.isMark operator.text tokens

/-- What follows an operand. -/
inductive Continuation
  | operation (operator : Operator)
  | assignment
  | range
  | conversion

def Continuation.precedence : Continuation → Precedence
  | .operation operator => operator.precedence
  | .assignment => .assignment
  | .range => .range
  | .conversion => .conversion

def continuation? (tokens : List Token) : Option Continuation :=
  match operator? tokens with
  | some operator => some (.operation operator)
  | none =>
    if Front.isMarkOnly "=" ["=>"] tokens then some .assignment
    else if Front.isMark ".." tokens then some .range
    else if Front.isWord ["as"] tokens then some .conversion
    else none

/-- The continuation that binds at least as closely as `least`. -/
def continuationFrom? (least : Precedence) (tokens : List Token) : Option Continuation :=
  (continuation? tokens).filter fun continuation =>
    least.rank ≤ continuation.precedence.rank

/-- Whether a half-open range has no end, as nothing follows that could be one. Where
braces cannot belong to the range, they end it as well. -/
def isOpenRange (braces : Bool) (tokens : List Token) : Bool :=
  tokens.isEmpty || Front.isPoint tokens || Front.isWord ["as"] tokens ||
    (!braces && Front.isGroup .brace tokens) ||
    [",", ";", "?", "=>", "=", "+", "/", "%", "^", ">", "<=", "!=", "-=", "*=", "&=", "|=",
      "<<="].any fun text => Front.isMark text tokens

end TaggedMachine.Grammar.Expression
