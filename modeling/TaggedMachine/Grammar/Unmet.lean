/-!
Expectations that tokens do not meet. Most are worded by what may stand at a place; only
the expectation of a mark is worded alike at the end of the tokens and before them.
-/
namespace TaggedMachine.Grammar

/-- Why a literal is no number of a field. -/
inductive IndexFault
  | noToken | noInteger | suffix | negative | tooLarge
deriving DecidableEq

/-- What may not follow a conversion. -/
inductive CastTrailer
  | await | method | field | question | indexing | call
deriving DecidableEq

/-- An expectation that is not met. Where the wording depends on it, `atEnd` tells that
there were no more tokens. -/
inductive Unmet
  | mark (text : String)
  | oneOf (descriptions : List String) (atEnd : Bool)
  | nameNotKeyword (keyword : String)
  | traitOfObject
  | traitOfImpl
  | captureElsewhere
  | constElsewhere (conditional : Bool)
  | relaxedBinder
  | whereParameters
  | attributeValue
  | attributeOfRange
  | fieldIndex (fault : IndexFault)
  | castThen (trailer : CastTrailer)
  | comparisonChain
  | labelledBreak
  | openRangeInSlice
  | statementEnd
  | receiverAfterOthers
  | secondReceiver
deriving DecidableEq

def codeText (text : String) : String := "`" ++ text ++ "`"

def expectation (atEnd : Bool) (text : String) : String :=
  if atEnd then "unexpected end of input, " ++ text else text

def alternativesText : List String → String
  | [description] => description
  | [first, second] => first ++ " or " ++ second
  | descriptions => "one of: " ++ ", ".intercalate descriptions

/-- Where nothing in particular was expected, it is the token that is wrong. -/
def alternativesMessage (atEnd : Bool) : List String → String
  | [] => if atEnd then "unexpected end of input" else "unexpected token"
  | descriptions => expectation atEnd ("expected " ++ alternativesText descriptions)

def IndexFault.message : IndexFault → String
  | .noToken => "cannot parse string into token stream"
  | .noInteger => "expected integer literal"
  | .suffix => "expected unsuffixed integer"
  | .negative => "invalid digit found in string"
  | .tooLarge => "number too large to fit in target type"

def CastTrailer.text : CastTrailer → String
  | .await => codeText ".await"
  | .method => "a method call"
  | .field => "a field access"
  | .question => codeText "?"
  | .indexing => "indexing"
  | .call => "a function call"

def Unmet.message : Unmet → String
  | .mark text => "expected " ++ codeText text
  | .oneOf descriptions atEnd => alternativesMessage atEnd descriptions
  | .nameNotKeyword keyword => "expected identifier, found keyword " ++ codeText keyword
  | .traitOfObject => "at least one trait is required for an object type"
  | .traitOfImpl => "at least one trait must be specified"
  | .captureElsewhere => "`use<...>` precise capturing syntax is not allowed here"
  | .constElsewhere conditional =>
    codeText (if conditional then "[const]" else "const") ++ " is not allowed here"
  | .relaxedBinder => "`for<...>` binder not allowed with `?` trait polarity modifier"
  | .whereParameters =>
    "generic parameters on `where` clauses are reserved for future use"
  | .attributeValue => "unexpected attribute inside of attribute"
  | .attributeOfRange =>
    "attributes are not allowed on range expressions starting with `..`"
  | .fieldIndex fault => fault.message
  | .castThen trailer => "casts cannot be followed by " ++ trailer.text
  | .comparisonChain => "comparison operators cannot be chained"
  | .labelledBreak => "parentheses required"
  | .openRangeInSlice =>
    "range pattern is not allowed unparenthesized inside slice pattern"
  | .statementEnd => "unexpected token, expected `;`"
  | .receiverAfterOthers => "unexpected method receiver"
  | .secondReceiver => "unexpected second method receiver"

end TaggedMachine.Grammar
