import TaggedMachine.Token.Integer
import TaggedMachine.Token.Lexer

/-!
The tags of the variants of an enumeration. An integer literal sets the tag of its
variant, and a variant without one takes the tag after the one before it, the first
variant zero. No two variants share a tag. The first variant that breaks a rule decides
the error.

Tags are 64-bit numbers, and the tag after the last of these leaves them. It is worked out as
soon as that tag is assigned, even behind the last variant, and the way the assignment was built
decides what becomes of it: it is trapped, or wraps around to zero. `assign` counts on without
bounds, which is the same for all variants up to one that is assigned the last 64-bit number.
-/
namespace TaggedMachine.Enumeration

inductive Fields
  | unit | unnamed | named
deriving DecidableEq

/-- A variant as it is declared; the discriminant is the text of its expression. -/
structure Variant where
  name : String
  fields : Fields
  discriminant : Option String
deriving DecidableEq

structure TaggedVariant where
  name : String
  fields : Fields
  tag : Nat
deriving DecidableEq

inductive AssignmentError
  | notLiteral
  | tooLarge
  | taken (tag : Nat) (holder : String)
  | overflow
deriving DecidableEq

def AssignmentError.message : AssignmentError → String
  | .notLiteral => "Only literal discriminants are allowed"
  | .tooLarge => "number too large to fit in target type"
  | .taken tag holder => "Tag " ++ tag.repr ++ " is already used by `" ++ holder ++ "`"
  | .overflow => "attempt to add with overflow"

/-- Tags are 64-bit numbers. -/
def tagLimit : Nat := UInt64.size

/-- How the tag after one is worked out. -/
inductive Counting
  | unbounded | trapped | wrapping
deriving DecidableEq

def Counting.after (counting : Counting) (tag : Nat) : Except AssignmentError Nat :=
  match counting with
  | .unbounded => .ok (tag + 1)
  | .trapped => if tag + 1 < tagLimit then .ok (tag + 1) else .error .overflow
  | .wrapping => .ok ((tag + 1) % tagLimit)

/-- What follows the attributes at the start of an expression. -/
def withoutAttributes : List Token → List Token
  | .mark '#' _ :: .group .bracket _ :: rest => withoutAttributes rest
  | tokens => tokens

/-- The tag that a discriminant sets: attributes apart, it must be one literal and that
an integer. -/
def discriminantTag (text : String) : Except AssignmentError Nat :=
  match (Token.lex? text).map withoutAttributes with
  | some [.literal text] =>
    match Token.Integer.ofLiteral? text with
    | some integer =>
      if integer.value < tagLimit then .ok integer.value else .error .tooLarge
    | none => .error .notLiteral
  | _ => .error .notLiteral

/-- The tag of a variant where `next` is the tag after the one before it. -/
def Variant.tag (variant : Variant) (next : Nat) : Except AssignmentError Nat :=
  match variant.discriminant with
  | some text => discriminantTag text
  | none => .ok next

def holder? (tagged : List TaggedVariant) (tag : Nat) : Option TaggedVariant :=
  tagged.find? fun variant => variant.tag = tag

def assignFrom (counting : Counting) (earlier : List TaggedVariant) (next : Nat) :
    List Variant → Except AssignmentError (List TaggedVariant)
  | [] => .ok []
  | variant :: rest =>
    match variant.tag next with
    | .error error => .error error
    | .ok tag =>
      match holder? earlier tag with
      | some holder => .error (.taken tag holder.name)
      | none =>
        let tagged : TaggedVariant := ⟨variant.name, variant.fields, tag⟩
        match counting.after tag with
        | .error error => .error error
        | .ok next => (assignFrom counting (tagged :: earlier) next rest).map (tagged :: ·)

def assignBy (counting : Counting) (variants : List Variant) :
    Except AssignmentError (List TaggedVariant) :=
  assignFrom counting [] 0 variants

def assign (variants : List Variant) : Except AssignmentError (List TaggedVariant) :=
  assignBy .unbounded variants

end TaggedMachine.Enumeration
