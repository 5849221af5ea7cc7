import TaggedMachine.Enumeration.Arguments
import TaggedMachine.Enumeration.Assignment

/-!
The generated items of an enumeration: one constant per variant, the list of all tags in
the order of declaration, and the function from a value to the tag of its variant. The
list and the function refer to the constants by name.
-/
namespace TaggedMachine.Enumeration

/-- A constant, whose value is a tag cast to the type of the table. -/
structure Constant where
  name : String
  tag : Nat
deriving DecidableEq

/-- The case of one variant: its values have the tag that the constant holds. -/
structure Arm where
  variant : String
  fields : Fields
  constant : String
deriving DecidableEq

structure TagTable where
  owner : String
  visibility : Visibility
  repr : Grammar.TypeExpression
  constants : List Constant
  tags : List String
  arms : List Arm
deriving DecidableEq

/-- Letters beyond ASCII keep their case. -/
def constantName (variant : String) : String := variant.map Char.toUpper ++ "_TAG"

def TagTable.ofVariants (owner : String) (arguments : Arguments)
    (variants : List TaggedVariant) : TagTable where
  owner := owner
  visibility := arguments.visibility
  repr := arguments.repr
  constants := variants.map fun variant => ⟨constantName variant.name, variant.tag⟩
  tags := variants.map fun variant => constantName variant.name
  arms := variants.map fun variant =>
    ⟨variant.name, variant.fields, constantName variant.name⟩

def memberText (name : String) : String := "Self :: " ++ name

def Constant.valueText (constant : Constant) : String := constant.tag.repr ++ "usize as _"

def Arm.patternText (arm : Arm) : String :=
  memberText arm.variant ++ match arm.fields with
    | .unit => ""
    | .unnamed => " (..)"
    | .named => " \x7b .. \x7d"

def Arm.bodyText (arm : Arm) : String := memberText arm.constant

def tagListName : String := "TAGS"

def tagFunctionName : String := "tag"

def TagTable.listTypeText (table : TagTable) : String :=
  "[" ++ table.repr.text ++ " ; " ++ table.tags.length.repr ++ "usize]"

def TagTable.listText (table : TagTable) : String :=
  "[" ++ " , ".intercalate (table.tags.map memberText) ++ "]"

def TagTable.returnText (table : TagTable) : String := "-> " ++ table.repr.text

end TaggedMachine.Enumeration
