import TaggedMachine.Grammar.Keyword
import TaggedMachine.Token

/-!
What stands at the front of tokens. Several marks that belong together are joint, but the
last of them may be joint with more. A lifetime counts as one token.
-/
namespace TaggedMachine.Grammar.Front

/-- The tokens after a mark. -/
def afterMarks? : List Char → List Token → Option (List Token)
  | [c], .mark char _ :: rest => if c = char then some rest else none
  | c :: more, .mark char true :: rest => if c = char then afterMarks? more rest else none
  | _, _ => none

def isMark (text : String) (tokens : List Token) : Bool :=
  (afterMarks? text.toList tokens).isSome

/-- A mark that is not the beginning of any of some longer ones. -/
def isMarkOnly (text : String) (longer : List String) (tokens : List Token) : Bool :=
  isMark text tokens && !longer.any fun text => isMark text tokens

/-- A point that is no range. -/
def isPoint : List Token → Bool := isMarkOnly "." [".."]

/-- A colon that is not doubled. -/
def isColon : List Token → Bool := isMarkOnly ":" ["::"]

def word? : List Token → Option String
  | .word text :: _ => some text
  | _ => none

def isWord (words : List String) (tokens : List Token) : Bool :=
  (word? tokens).any words.contains

def isName (tokens : List Token) : Bool := (word? tokens).any fun word => !isKeyword word

def isLifetime : List Token → Bool
  | .mark '\x27' _ :: .word _ :: _ => true
  | _ => false

def isGroup (delimiter : Delimiter) : List Token → Bool
  | .group opened _ :: _ => opened = delimiter
  | _ => false

def isNumber (literal : String) : Bool := literal.toList.head?.any Char.isDigit

def isString (literal : String) : Bool :=
  literal.toList.head?.any fun c => c = '\x22' || c = 'r'

def isStringLiteral : List Token → Bool
  | .literal text :: _ => isString text
  | _ => false

/-- A literal, with the tokens after it: a truth value is one, and a number may be
negative. -/
def literal? : List Token → Option (List String × List Token)
  | .literal text :: rest => some ([text], rest)
  | .word text :: rest => if text = "true" ∨ text = "false" then some ([text], rest) else none
  | .mark '-' _ :: .literal text :: rest =>
    if isNumber text then some (["-", text], rest) else none
  | _ => none

def isLiteral (tokens : List Token) : Bool := (literal? tokens).isSome

/-- The tokens after the first. -/
def next : List Token → List Token
  | .mark '\x27' _ :: .word _ :: rest => rest
  | tokens => tokens.tail

/-- The tokens after a word, if it stands there. -/
def past (word : String) (tokens : List Token) : List Token :=
  if isWord [word] tokens then tokens.tail else tokens

/-- Whether an expression may begin. -/
def beginsExpression (tokens : List Token) : Bool :=
  (word? tokens).any (· ≠ "as") || isGroup .parenthesis tokens || isGroup .bracket tokens ||
    isGroup .brace tokens || isLiteral tokens || isMarkOnly "!" ["!="] tokens ||
    isMarkOnly "-" ["-=", "->"] tokens || isMarkOnly "*" ["*="] tokens ||
    isMarkOnly "|" ["|="] tokens || isMarkOnly "&" ["&="] tokens || isMark ".." tokens ||
    isMarkOnly "<" ["<=", "<<="] tokens || isMark "::" tokens || isLifetime tokens ||
    isMark "#" tokens

/-- Whether parameters in angle brackets begin and not a path from a type. -/
def beginsParameters (tokens : List Token) : Bool :=
  isMark "<" tokens &&
    let inner := next tokens
    isMark ">" inner || isMark "#" inner || isWord ["const"] inner ||
      (isLifetime inner || isName inner) &&
        let after := next inner
        isMark ">" after || isMark "," after || isColon after || isMark "=" after

/-- Whether a binder stands before a function and not a loop over a pattern. -/
def beginsBinder (tokens : List Token) : Bool :=
  isWord ["for"] tokens && beginsParameters tokens.tail

end TaggedMachine.Grammar.Front
