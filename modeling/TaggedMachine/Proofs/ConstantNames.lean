import TaggedMachine.Proofs.Acceptance

/-!
The names of the generated constants. A constant is named by its variant in upper case, ASCII
letters alone being changed, so two variants that differ only in the case of such letters give
two constants of one name. The name of the list of tags is never among the others. A reference
looks its name up in the type of the enumeration, where the constructors come first: a unit or
tuple variant hides the constants called as it is, while a variant with named fields has no
constructor. Main statement: the names of an accepted enumeration are distinct exactly if the
variants stay distinct in upper case; for all references to denote the constants of their own
variants, moreover no constructor may hide one of these, and the type must be named without
generic arguments.
-/
namespace TaggedMachine.Enumeration

/-- A name with its ASCII letters in upper case. -/
def upperName (name : String) : String := name.map Char.toUpper

/-- The names of all generated constants, the list of tags being one of them. -/
def TagTable.constantNames (table : TagTable) : List String :=
  table.constants.map Constant.name ++ [tagListName]

def Parameter.hasDefault : Parameter → Bool
  | .lifetime => false
  | .type hasDefault | .constant hasDefault => hasDefault

/-- The name is a type without arguments: they all have defaults. -/
def Head.standsAlone (head : Head) : Bool := head.parameters.all Parameter.hasDefault

/-- The variants that conditional attributes leave. -/
def Item.kept (item : Item) : List Variant :=
  item.variants.filter fun variant => variant.name ∉ item.head.omitted

/-- A variant of that name can be used as a value or as a function. -/
def Item.hasConstructor (item : Item) (name : String) : Bool :=
  item.kept.any fun variant => variant.name = name && variant.fields ≠ .named

/-- A constant of that name can be referred to. -/
def Item.shows (item : Item) (name : String) : Bool :=
  item.head.standsAlone && !item.hasConstructor name

namespace Expansion

/-- The constant that a name denotes next to the item: the only one of that name. -/
def constant? (expansion : Expansion) (name : String) : Option Constant :=
  match expansion.table.constants.filter fun constant => constant.name = name with
  | [constant] => if expansion.item.shows name then some constant else none
  | _ => none

/-- The references in the list of tags, and those in the tag function, denote the constants one
after the other. -/
structure Resolves (expansion : Expansion) : Prop where
  tags : expansion.table.tags.map expansion.constant? = expansion.table.constants.map some
  arms : (expansion.table.arms.map fun arm => expansion.constant? arm.constant) =
    expansion.table.constants.map some

end Expansion

theorem length_filter_name (constants : List Constant) (name : String) :
    (constants.filter fun constant => constant.name = name).length =
      (constants.map Constant.name).count name := by
  rw [List.count, List.countP_map, List.countP_eq_length_filter]
  rfl

/-- Where names are distinct, one element has the name of a given one. -/
theorem filter_eq_singleton {α : Type} {list : List α} {name : α → String}
    (h : (list.map name).Nodup) {element : α} (hmem : element ∈ list) :
    (list.filter fun other => name other = name element) = [element] := by
  induction list with
  | nil => contradiction
  | cons first rest ih =>
    rw [List.map_cons, List.nodup_cons] at h
    rcases List.mem_cons.mp hmem with rfl | hrest
    · have hnone : (rest.filter fun other => name other = name element) = [] := by
        refine List.filter_eq_nil_iff.mpr fun other hother hname => ?_
        exact h.1 (of_decide_eq_true hname ▸ List.mem_map_of_mem hother)
      rw [List.filter_cons_of_pos (by simp), hnone]
    · have hne : name first ≠ name element :=
        fun hname => h.1 (hname ▸ List.mem_map_of_mem hrest)
      rw [List.filter_cons_of_neg (by simpa using hne), ih h.2 hrest]

theorem constant?_eq_some_iff (expansion : Expansion) (name : String) (constant : Constant) :
    expansion.constant? name = some constant ↔
      (expansion.table.constants.filter fun other => other.name = name) = [constant] ∧
        expansion.item.shows name = true := by
  unfold Expansion.constant?
  split
  · rename_i only honly
    rw [honly, List.cons.injEq]
    cases expansion.item.shows name <;> simp
  · rename_i hnotOne
    refine iff_of_false (by simp) fun hone => hnotOne constant hone.1

/-- Every constant is the one that its name denotes exactly if the names are distinct and none of
them is hidden. -/
theorem denotes_iff (expansion : Expansion) :
    (∀ constant ∈ expansion.table.constants,
        expansion.constant? constant.name = some constant) ↔
      (expansion.table.constants.map Constant.name).Nodup ∧
        ∀ name ∈ expansion.table.constants.map Constant.name,
          expansion.item.shows name = true := by
  rw [List.forall_mem_map]
  constructor
  · intro hdenotes
    have hparts := fun constant hconstant =>
      (constant?_eq_some_iff expansion _ constant).mp (hdenotes constant hconstant)
    refine ⟨?_, fun constant hconstant => (hparts constant hconstant).2⟩
    rw [List.nodup_iff_count_eq_one]
    intro name hmem
    obtain ⟨constant, hconstant, rfl⟩ := List.mem_map.mp hmem
    rw [← length_filter_name, (hparts constant hconstant).1, List.length_singleton]
  · rintro ⟨hnodup, hshown⟩ constant hconstant
    exact (constant?_eq_some_iff ..).mpr
      ⟨filter_eq_singleton hnodup hconstant, hshown constant hconstant⟩

theorem constantName_ne_tagListName (variant : String) : constantName variant ≠ tagListName := by
  intro h
  have hlast := congrArg (fun name => name.toList.getLast?) h
  simp [constantName, tagListName, String.toList_append] at hlast

theorem map_constantName (names : List String) :
    names.map constantName = (names.map upperName).map fun name => name ++ "_TAG" := by
  rw [List.map_map]
  rfl

theorem nodup_map_constantName_iff (names : List String) :
    (names.map constantName).Nodup ↔ (names.map upperName).Nodup := by
  have hinjective : Function.Injective fun name : String => name ++ "_TAG" :=
    fun _ _ h => (String.append_left_inj _).mp h
  rw [map_constantName, List.nodup_map_iff hinjective]

variable {counting : Counting} {arguments : String} {item : Item} {expansion : Expansion}

section Expanded

variable (h : expandBy counting arguments item = .ok expansion)
include h

theorem nodup_constantNames_iff :
    expansion.table.constantNames.Nodup ↔
      ((item.variants.map Variant.name).map upperName).Nodup := by
  have hlist : tagListName ∉ (item.variants.map Variant.name).map constantName := by
    intro hmem
    obtain ⟨variant, -, hname⟩ := List.mem_map.mp hmem
    exact constantName_ne_tagListName variant hname
  rw [TagTable.constantNames, names_of_expand h, ← List.concat_eq_append, List.nodup_concat,
    nodup_map_constantName_iff]
  exact and_iff_right hlist

/-- The tag function refers to the constants in their order, as the list of tags does. -/
theorem bodies_of_expand :
    expansion.table.arms.map Arm.constant = expansion.table.constants.map Constant.name := by
  rw [arms_of_expand h, names_of_expand h, List.map_map, List.map_map]
  rfl

theorem resolves_iff_denotes :
    expansion.Resolves ↔ ∀ constant ∈ expansion.table.constants,
      expansion.constant? constant.name = some constant := by
  have hdenotes : (expansion.table.constants.map Constant.name).map expansion.constant? =
      expansion.table.constants.map some ↔ ∀ constant ∈ expansion.table.constants,
        expansion.constant? constant.name = some constant := by
    rw [List.map_map, List.map_inj_left]
    rfl
  rw [← hdenotes]
  constructor
  · intro hresolves
    rw [← references_of_expand h]
    exact hresolves.tags
  · intro hnames
    constructor
    · rw [references_of_expand h, hnames]
    · rw [← hnames, ← bodies_of_expand h, List.map_map]
      rfl

end Expanded

end TaggedMachine.Enumeration
