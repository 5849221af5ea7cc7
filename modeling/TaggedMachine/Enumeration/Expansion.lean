import TaggedMachine.Enumeration.TagTable

/-!
The tag attribute on an item: the item itself, unchanged, then its tag table. The
arguments are checked first, then that the item is an enumeration, then its tags. The table is
for the item by its name alone, whatever generic parameters it has, and for all variants that
are written down, also those that conditional attributes take out again. Other attributes, the
visibility of the item and the constraints on its parameters are left out: the table has none of
them.
-/
namespace TaggedMachine.Enumeration

inductive ItemKind
  | enumeration | record | union
deriving DecidableEq

/-- A generic parameter, and whether one that is no lifetime has a default. -/
inductive Parameter
  | lifetime
  | type (hasDefault : Bool)
  | constant (hasDefault : Bool)
deriving DecidableEq

/-- What an item declares apart from its variants: its name, its generic parameters, and which
variants, by their names, conditional attributes take out of it. -/
structure Head where
  name : String
  parameters : List Parameter := []
  omitted : List String := []
deriving DecidableEq

instance : Coe String Head := ⟨fun name => { name }⟩

structure Item where
  kind : ItemKind
  head : Head
  variants : List Variant
deriving DecidableEq

inductive ExpansionError
  | arguments (error : ArgumentError)
  | noEnumeration
  | assignment (error : AssignmentError)
deriving DecidableEq

def ExpansionError.messages : ExpansionError → List String
  | .arguments error => error.messages
  | .noEnumeration => ["Item must be an `enum`"]
  | .assignment error => [error.message]

structure Expansion where
  item : Item
  table : TagTable
deriving DecidableEq

def expandBy (counting : Counting) (arguments : String) (item : Item) :
    Except ExpansionError Expansion := do
  let arguments ← (Arguments.parse arguments).mapError .arguments
  if item.kind ≠ .enumeration then throw .noEnumeration
  let variants ← (assignBy counting item.variants).mapError .assignment
  return ⟨item, .ofVariants item.head.name arguments variants⟩

def expand (arguments : String) (item : Item) : Except ExpansionError Expansion :=
  expandBy .unbounded arguments item

end TaggedMachine.Enumeration
