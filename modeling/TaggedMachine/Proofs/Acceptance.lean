import Mathlib.Data.List.Nodup
import TaggedMachine.Enumeration.Expansion

/-!
Accepted enumerations. An item is accepted if its arguments can be read, it is an enumeration
and tags can be assigned to its variants, however these are counted. Assigned tags belong to the
variants in their order of declaration, and no two of them are the same number. In the same order
stand the constants, the references to them in the list of tags, and the cases of the tag
function.
-/
namespace TaggedMachine.Enumeration

variable {counting : Counting}

theorem holder?_eq_none_iff (earlier : List TaggedVariant) (tag : Nat) :
    holder? earlier tag = none ↔ ∀ variant ∈ earlier, variant.tag ≠ tag := by
  simp only [holder?, List.find?_eq_none, decide_eq_true_eq, ne_eq]

/-- A variant is assigned its tag before the next one is worked out. -/
theorem assignFrom_cons_eq_ok_iff (earlier : List TaggedVariant) (next : Nat) (variant : Variant)
    (rest : List Variant) (tagged : List TaggedVariant) :
    assignFrom counting earlier next (variant :: rest) = .ok tagged ↔
      ∃ tag after later, variant.tag next = .ok tag ∧ holder? earlier tag = none ∧
        counting.after tag = .ok after ∧
        assignFrom counting (⟨variant.name, variant.fields, tag⟩ :: earlier) after rest =
          .ok later ∧
        tagged = ⟨variant.name, variant.fields, tag⟩ :: later := by
  rw [assignFrom]
  cases variant.tag next with
  | error error => simp
  | ok tag =>
    cases hholder : holder? earlier tag with
    | some holder => simp [hholder]
    | none =>
      cases hafter : counting.after tag with
      | error error => simp [hholder, hafter]
      | ok after =>
        cases hlater : assignFrom counting (⟨variant.name, variant.fields, tag⟩ :: earlier)
            after rest with
        | error error => simp [hholder, hafter, hlater, Except.map]
        | ok later => simp [hholder, hafter, hlater, Except.map, eq_comm]

/-- Tags are given to the variants as they are declared. -/
theorem variants_of_assignFrom {earlier : List TaggedVariant} {next : Nat}
    {variants : List Variant} {tagged : List TaggedVariant}
    (h : assignFrom counting earlier next variants = .ok tagged) :
    tagged.map (fun variant => (variant.name, variant.fields)) =
      variants.map fun variant => (variant.name, variant.fields) := by
  induction variants generalizing earlier next tagged with
  | nil =>
    cases h
    rfl
  | cons variant rest ih =>
    obtain ⟨tag, after, later, -, -, -, hlater, rfl⟩ := (assignFrom_cons_eq_ok_iff ..).mp h
    rw [List.map_cons, ih hlater, List.map_cons]

theorem names_of_assignBy {variants : List Variant} {tagged : List TaggedVariant}
    (h : assignBy counting variants = .ok tagged) :
    tagged.map TaggedVariant.name = variants.map Variant.name := by
  have hnames := congrArg (List.map Prod.fst) (variants_of_assignFrom h)
  rwa [List.map_map, List.map_map] at hnames

/-- Every assigned tag is new, to the variants before the ones considered and among these. -/
theorem tags_of_assignFrom {earlier : List TaggedVariant} {next : Nat}
    {variants : List Variant} {tagged : List TaggedVariant}
    (h : assignFrom counting earlier next variants = .ok tagged) :
    (tagged.map TaggedVariant.tag).Nodup ∧
      ∀ variant ∈ tagged, ∀ before ∈ earlier, before.tag ≠ variant.tag := by
  induction variants generalizing earlier next tagged with
  | nil =>
    cases h
    exact ⟨List.nodup_nil, fun _ hmem => absurd hmem List.not_mem_nil⟩
  | cons variant rest ih =>
    obtain ⟨tag, after, later, -, hholder, -, hlater, rfl⟩ :=
      (assignFrom_cons_eq_ok_iff ..).mp h
    obtain ⟨hnodup, hnew⟩ := ih hlater
    constructor
    · rw [List.map_cons, List.nodup_cons]
      refine ⟨?_, hnodup⟩
      intro hmem
      obtain ⟨other, hother, heq⟩ := List.mem_map.mp hmem
      exact hnew other hother _ List.mem_cons_self heq.symm
    · rw [List.forall_mem_cons]
      refine ⟨(holder?_eq_none_iff earlier tag).mp hholder, ?_⟩
      intro other hother before hbefore
      exact hnew other hother before (List.mem_cons_of_mem _ hbefore)

variable {arguments : String} {item : Item} {expansion : Expansion}

theorem expandBy_eq_ok_iff :
    expandBy counting arguments item = .ok expansion ↔
      ∃ parsed tagged, Arguments.parse arguments = .ok parsed ∧ item.kind = .enumeration ∧
        assignBy counting item.variants = .ok tagged ∧
        expansion = ⟨item, .ofVariants item.head.name parsed tagged⟩ := by
  unfold expandBy
  cases Arguments.parse arguments with
  | error error => simp [Except.mapError, bind, Except.bind]
  | ok parsed =>
    by_cases hkind : item.kind = .enumeration
    · cases assignBy counting item.variants with
      | error error => simp [hkind, Except.mapError, bind, Except.bind]
      | ok tagged =>
        simp [hkind, Except.mapError, bind, Except.bind, pure, Except.pure, eq_comm]
    · simp [hkind, Except.mapError, bind, Except.bind, throw, throwThe, MonadExceptOf.throw]

section Expanded

variable (h : expandBy counting arguments item = .ok expansion)
include h

theorem item_of_expand : expansion.item = item := by
  obtain ⟨parsed, tagged, -, -, -, rfl⟩ := expandBy_eq_ok_iff.mp h
  rfl

/-- One constant for each variant, in the order of declaration. -/
theorem names_of_expand :
    expansion.table.constants.map Constant.name =
      (item.variants.map Variant.name).map constantName := by
  obtain ⟨parsed, tagged, -, -, hassign, rfl⟩ := expandBy_eq_ok_iff.mp h
  rw [← names_of_assignBy hassign]
  simp only [TagTable.ofVariants, List.map_map, Function.comp_def]

theorem tags_of_expand : (expansion.table.constants.map Constant.tag).Nodup := by
  obtain ⟨parsed, tagged, -, -, hassign, rfl⟩ := expandBy_eq_ok_iff.mp h
  simp only [TagTable.ofVariants, List.map_map, Function.comp_def]
  exact (tags_of_assignFrom hassign).1

/-- The list of tags names the constants in their order. -/
theorem references_of_expand :
    expansion.table.tags = expansion.table.constants.map Constant.name := by
  obtain ⟨parsed, tagged, -, -, -, rfl⟩ := expandBy_eq_ok_iff.mp h
  simp only [TagTable.ofVariants, List.map_map, Function.comp_def]

/-- The cases of the tag function have the patterns of the variants, in the order of
declaration. -/
theorem arms_of_expand :
    expansion.table.arms = item.variants.map fun variant =>
      ⟨variant.name, variant.fields, constantName variant.name⟩ := by
  obtain ⟨parsed, tagged, -, -, hassign, rfl⟩ := expandBy_eq_ok_iff.mp h
  have harms := congrArg (List.map fun pattern : String × Fields =>
    (⟨pattern.1, pattern.2, constantName pattern.1⟩ : Arm)) (variants_of_assignFrom hassign)
  rwa [List.map_map, List.map_map] at harms

theorem cases_of_expand :
    expansion.table.arms.map Arm.variant = item.variants.map Variant.name := by
  rw [arms_of_expand h, List.map_map]
  rfl

end Expanded

theorem parse_exported_byte : Arguments.parse "public, repr(u8)" =
    .ok ⟨.exported, ⟨[.ofText "u8"]⟩⟩ := by
  decide +kernel

end TaggedMachine.Enumeration
