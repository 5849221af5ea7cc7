import TaggedMachine.Grammar.TypeExpression
import TaggedMachine.Token.Lexer

/-!
The arguments of the tag attribute: a visibility, a comma, the word `repr`, and in
parentheses one type, with nothing after it. Reading stops at the first expectation
that is not met. A missing comma or `repr` is reported twice, the second time with the
visibility that was given.
-/
namespace TaggedMachine.Enumeration

open Grammar

/-- Who may use the generated items: every module or the module of the enumeration. -/
inductive Visibility
  | exported | internal
deriving DecidableEq

def Visibility.word : Visibility → String
  | .exported => "public"
  | .internal => "private"

/-- What stands before a generated item. -/
def Visibility.modifier : Visibility → String
  | .exported => "pub"
  | .internal => ""

/-- The first expectation that is not met. Where the wording depends on it, `atEnd` tells
that there were no more tokens. -/
inductive ArgumentError
  | unreadable
  | visibilityMissing (unmet : Unmet)
  | visibilityUnknown
  | commaMissing (visibility : Visibility)
  | reprMissing (visibility : Visibility) (atEnd : Bool)
  | parenthesesMissing (atEnd : Bool)
  | typeMissing (unmet : Unmet)
  | notClosed (delimiter : Delimiter)
  | notAlone
deriving DecidableEq

def ArgumentError.messages : ArgumentError → List String
  | .unreadable => ["cannot parse string into token stream"]
  | .visibilityMissing unmet => [unmet.message]
  | .visibilityUnknown => ["Unexpected visibility: expected `public` or `private`"]
  | .commaMissing visibility =>
    ["expected `,`", "Missing comma after `" ++ visibility.word ++ "` visibility"]
  | .reprMissing visibility atEnd =>
    [expectation atEnd "expected `repr`", "Missing `repr` after `" ++ visibility.word ++ ",`"]
  | .parenthesesMissing atEnd => [expectation atEnd "expected parentheses"]
  | .typeMissing unmet => [unmet.message]
  | .notClosed delimiter => ["unexpected token, expected " ++ codeText delimiter.closingText]
  | .notAlone => ["unexpected token"]

structure Arguments where
  visibility : Visibility
  repr : TypeExpression
deriving DecidableEq

namespace Arguments

def readVisibility : List Token → Except ArgumentError (Visibility × List Token)
  | .word text :: rest =>
    if text = Visibility.exported.word then .ok (.exported, rest)
    else if text = Visibility.internal.word then .ok (.internal, rest)
    else if isKeyword text then .error (.visibilityMissing (.nameNotKeyword text))
    else .error .visibilityUnknown
  | tokens => .error (.visibilityMissing (.oneOf [Reader.identifierText] tokens.isEmpty))

def readComma (visibility : Visibility) : List Token → Except ArgumentError (List Token)
  | .mark ',' _ :: rest => .ok rest
  | _ => .error (.commaMissing visibility)

def readRepr (visibility : Visibility) : List Token → Except ArgumentError (List Token)
  | .word "repr" :: rest => .ok rest
  | tokens => .error (.reprMissing visibility tokens.isEmpty)

def readParentheses : List Token → Except ArgumentError (List Token × List Token)
  | .group .parenthesis content :: rest => .ok (content, rest)
  | tokens => .error (.parenthesesMissing tokens.isEmpty)

/-- The type must take up the parentheses, and what it holds its own brackets. -/
def readType (content : List Token) : Except ArgumentError TypeExpression :=
  match TypeExpression.read content with
  | .error unmet => .error (.typeMissing unmet)
  | .ok ⟨type, [], none⟩ => .ok type
  | .ok ⟨_, _, unread⟩ => .error (.notClosed (unread.getD .parenthesis))

def readEnd : List Token → Except ArgumentError Unit
  | [] => .ok ()
  | _ => .error .notAlone

def read (tokens : List Token) : Except ArgumentError Arguments := do
  let (visibility, tokens) ← readVisibility tokens
  let tokens ← readComma visibility tokens
  let tokens ← readRepr visibility tokens
  let (content, tokens) ← readParentheses tokens
  let repr ← readType content
  readEnd tokens
  return ⟨visibility, repr⟩

def parse (text : String) : Except ArgumentError Arguments :=
  match Token.lex? text with
  | some tokens => read tokens
  | none => .error .unreadable

end Arguments

end TaggedMachine.Enumeration
