import TaggedMachine.Proofs.ConstantNames

/-!
What the generated items mean, where they compile. They stand in a block for the type that the
name of the enumeration is without arguments. The block compiles if there is such a type, no two
constants have one name, all references denote constants, and the cases of the tag function are
patterns of variants and cover all of them. The function matches on a reference, so it needs a
case even where the enumeration has no values. Main statements: which enumerations the block
compiles for, and that the list of tags and the tag function then give the values of the
constants in the order of declaration.

A constant holds its assigned tag cast to an unsigned type, which keeps as many low bits as the
type has. Values are those of the type that the block is for: with generic parameters, only of
the type with all defaults.
-/
namespace TaggedMachine.Enumeration

/-- What a value of a variant carries. -/
inductive Payload (α : Type)
  | unit
  | unnamed (values : List α)
  | named (values : List (String × α))

def Payload.fields {α : Type} : Payload α → Fields
  | .unit => .unit
  | .unnamed _ => .unnamed
  | .named _ => .named

structure Value (α : Type) where
  variant : String
  payload : Payload α

def Value.IsOf {α : Type} (value : Value α) (variant : Variant) : Prop :=
  value.variant = variant.name ∧ value.payload.fields = variant.fields

/-- A bare name fits unit variants and parentheses fit tuple variants, whatever their number of
fields is; braces fit all. -/
def Fields.fits : Fields → Fields → Bool
  | .unit, fields => fields = .unit
  | .unnamed, fields => fields = .unnamed
  | .named, _ => true

def Arm.covers (arm : Arm) (variant : String) (fields : Fields) : Bool :=
  arm.variant = variant && arm.fields.fits fields

def Arm.accepts {α : Type} (arm : Arm) (value : Value α) : Bool :=
  arm.covers value.variant value.payload.fields

/-- The value of a constant in an unsigned type with so many bits. -/
def Constant.value (width : Nat) (constant : Constant) : BitVec width :=
  BitVec.ofNat width constant.tag

/-- The values of the constants, in the order of declaration. -/
def TagTable.values (table : TagTable) (width : Nat) : List (BitVec width) :=
  table.constants.map (Constant.value width)

namespace Expansion

/-- The generated items compile next to the item. -/
structure Compiles (expansion : Expansion) : Prop where
  owner : expansion.table.owner = expansion.item.head.name
  standsAlone : expansion.item.head.standsAlone = true
  names : expansion.table.constantNames.Nodup
  list : ∀ name ∈ expansion.table.tags, (expansion.constant? name).isSome = true
  bodies : ∀ arm ∈ expansion.table.arms, (expansion.constant? arm.constant).isSome = true
  patterns : ∀ arm ∈ expansion.table.arms,
    ∃ variant ∈ expansion.item.kept, arm.covers variant.name variant.fields = true
  cases : ∀ variant ∈ expansion.item.kept,
    ∃ arm ∈ expansion.table.arms, arm.covers variant.name variant.fields = true
  someCase : expansion.table.arms ≠ []

instance (expansion : Expansion) : Decidable expansion.Compiles :=
  decidable_of_iff
    (expansion.table.owner = expansion.item.head.name ∧
      expansion.item.head.standsAlone = true ∧
      expansion.table.constantNames.Nodup ∧
      (∀ name ∈ expansion.table.tags, (expansion.constant? name).isSome = true) ∧
      (∀ arm ∈ expansion.table.arms, (expansion.constant? arm.constant).isSome = true) ∧
      (∀ arm ∈ expansion.table.arms,
        ∃ variant ∈ expansion.item.kept, arm.covers variant.name variant.fields = true) ∧
      (∀ variant ∈ expansion.item.kept,
        ∃ arm ∈ expansion.table.arms, arm.covers variant.name variant.fields = true) ∧
      expansion.table.arms ≠ [])
    ⟨fun ⟨howner, halone, hnames, hlist, hbodies, hpatterns, hcases, hsome⟩ =>
      ⟨howner, halone, hnames, hlist, hbodies, hpatterns, hcases, hsome⟩,
    fun h => ⟨h.owner, h.standsAlone, h.names, h.list, h.bodies, h.patterns, h.cases,
      h.someCase⟩⟩

def valueOf? (expansion : Expansion) (width : Nat) (name : String) : Option (BitVec width) :=
  (expansion.constant? name).map (Constant.value width)

/-- The list of tags, unless a constructor hides it. -/
def tagList? (expansion : Expansion) (width : Nat) : Option (List (BitVec width)) :=
  if expansion.Compiles ∧ expansion.item.shows tagListName = true then
    expansion.table.tags.mapM (expansion.valueOf? width)
  else none

/-- What the tag function gives for a value: the first case that accepts it decides. -/
def tagOf? {α : Type} (expansion : Expansion) (width : Nat) (value : Value α) :
    Option (BitVec width) :=
  if expansion.Compiles then
    (expansion.table.arms.find? fun arm => arm.accepts value).bind fun arm =>
      expansion.valueOf? width arm.constant
  else none

end Expansion

theorem mapM_of_map_eq {α β : Type} {list : List α} {f : α → Option β} {values : List β}
    (h : list.map f = values.map some) : list.mapM f = some values :=
  calc list.mapM f = (list.map f).mapM id := by rw [List.mapM_map, Function.id_comp]
    _ = (values.map some).mapM id := by rw [h]
    _ = values.mapM fun value => pure value := List.mapM_map
    _ = some values := by
      rw [List.mapM_pure, List.map_id']
      rfl

theorem Fields.fits_self (fields : Fields) : fields.fits fields = true := by
  cases fields <;> rfl

variable {counting : Counting} {arguments : String} {item : Item} {expansion : Expansion}

section Expanded

variable (h : expandBy counting arguments item = .ok expansion)
include h

theorem mem_arms_iff (arm : Arm) :
    arm ∈ expansion.table.arms ↔ ∃ variant ∈ item.variants,
      (⟨variant.name, variant.fields, constantName variant.name⟩ : Arm) = arm := by
  rw [arms_of_expand h, List.mem_map]

/-- Where the variants have distinct names, exactly one case accepts a value, that of its
variant. -/
theorem filter_accepts (hnodup : (item.variants.map Variant.name).Nodup) {α : Type}
    {value : Value α} {variant : Variant} (hmem : variant ∈ item.variants)
    (hvalue : value.IsOf variant) :
    (expansion.table.arms.filter fun arm => arm.accepts value) =
      [⟨variant.name, variant.fields, constantName variant.name⟩] := by
  obtain ⟨hname, hfields⟩ := hvalue
  have hcases : (expansion.table.arms.map Arm.variant).Nodup := by
    rwa [cases_of_expand h]
  have harm := (mem_arms_iff h _).mpr ⟨variant, hmem, rfl⟩
  rw [← filter_eq_singleton hcases harm]
  refine List.filter_congr fun arm hmem' => ?_
  obtain ⟨other, hother, rfl⟩ := (mem_arms_iff h arm).mp hmem'
  rw [Arm.accepts, Arm.covers, hname, hfields]
  by_cases hsame : other.name = variant.name
  · rw [List.inj_on_of_nodup_map hnodup hother hmem hsame, Fields.fits_self, Bool.and_true]
  · simp only [hsame, decide_false, Bool.false_and]

theorem resolves_of_compiles (hcompiles : expansion.Compiles) : expansion.Resolves := by
  rw [resolves_iff_denotes h, denotes_iff]
  constructor
  · rw [names_of_expand h, nodup_map_constantName_iff, ← nodup_constantNames_iff h]
    exact hcompiles.names
  · intro name hname
    rw [← references_of_expand h] at hname
    obtain ⟨constant, hconstant⟩ := Option.isSome_iff_exists.mp (hcompiles.list name hname)
    exact ((constant?_eq_some_iff ..).mp hconstant).2

end Expanded

/-- An enumeration without variants and one with a parameter are accepted, and what is generated
for them does not compile. -/
example :
    let items : List Item := [⟨.enumeration, "E", []⟩,
      ⟨.enumeration, ⟨"E", [.type false], []⟩, [⟨"A", .unnamed, none⟩]⟩]
    (items.map fun item => (expand "private, repr(u8)" item).toOption.map fun expansion =>
      decide expansion.Compiles) = [some false, some false] := by
  decide +kernel

section Compiled

variable (h : expandBy counting arguments item = .ok expansion) (hcompiles : expansion.Compiles)
include h hcompiles

theorem nodup_names_of_compiles : (item.variants.map Variant.name).Nodup :=
  ((nodup_constantNames_iff h).mp hcompiles.names).of_map

/-- The list of tags has the values of the constants in their order. -/
theorem tagList?_of_compiles (hshown : item.shows tagListName = true) (width : Nat) :
    expansion.tagList? width = some (expansion.table.values width) := by
  have htags := (resolves_of_compiles h hcompiles).tags
  rw [Expansion.tagList?, if_pos ⟨hcompiles, by rwa [item_of_expand h]⟩]
  apply mapM_of_map_eq
  have hvalues := congrArg (List.map (Option.map (Constant.value width))) htags
  rw [List.map_map, List.map_map] at hvalues
  rw [TagTable.values, List.map_map]
  exact hvalues

/-- The tag function gives the value at the place of the variant. -/
theorem tagOf?_of_compiles {α : Type} {value : Value α} {variant : Variant} {i : Nat}
    (hvariant : item.variants[i]? = some variant) (hvalue : value.IsOf variant) (width : Nat) :
    expansion.tagOf? width value = (expansion.table.values width)[i]? := by
  have hfilter := filter_accepts h (nodup_names_of_compiles h hcompiles)
    (List.mem_of_getElem? hvariant) hvalue
  have hplace := congrArg (·[i]?) (names_of_expand h)
  rw [List.getElem?_map, List.getElem?_map, List.getElem?_map, hvariant] at hplace
  obtain ⟨constant, hconstant, hname⟩ := Option.map_eq_some_iff.mp hplace
  have hdenotes := (resolves_iff_denotes h).mp (resolves_of_compiles h hcompiles) constant
    (List.mem_of_getElem? hconstant)
  rw [Expansion.tagOf?, if_pos hcompiles, ← List.head?_filter, hfilter, List.head?_cons,
    Option.bind_some, ← hname, Expansion.valueOf?, hdenotes, TagTable.values, List.getElem?_map,
    hconstant]

end Compiled

/-- A variant with the name of the list hides it; the tag function is not affected. -/
example :
    (expand "private, repr(u8)" ⟨.enumeration, "E", [⟨"TAGS", .unit, none⟩]⟩).toOption.map
      (fun expansion =>
        (expansion.tagList? 8, expansion.tagOf? 8 (⟨"TAGS", .unit⟩ : Value Nat))) =
      some (none, some 0) := by
  decide +kernel

end TaggedMachine.Enumeration
