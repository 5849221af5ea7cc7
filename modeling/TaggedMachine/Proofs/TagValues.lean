import Mathlib.Algebra.Group.Nat.Defs
import TaggedMachine.Proofs.Compilation

/-!
The values of the generated items. Assigned tags are distinct numbers, but the type of the table
keeps no more than their low bits. Main statement: the values of the constants are distinct
exactly if no two tags have the same low bits, as is the case where the type has room for all of
them. Where the generated items compile, the list of tags has these values, unless it is hidden,
and the tag function gives them.
-/
namespace TaggedMachine.Enumeration

theorem ofNat_eq_iff (width tag other : Nat) :
    BitVec.ofNat width tag = BitVec.ofNat width other ↔ tag % 2 ^ width = other % 2 ^ width := by
  rw [← BitVec.toNat_inj, BitVec.toNat_ofNat, BitVec.toNat_ofNat]

variable {counting : Counting} {arguments : String} {item : Item} {expansion : Expansion}

/-- The tags of an accepted enumeration are distinct numbers, however they are counted. Their
values in a type are distinct exactly if no two tags agree in the bits that the type has, so they
are where all tags fit into it. If the generated items compile, these values are the list of
tags, if that is shown, and what the tag function gives for the values of the variants. -/
theorem values_nodup_iff (h : expandBy counting arguments item = .ok expansion) (width : Nat) :
    let tags := expansion.table.constants.map Constant.tag
    let values := expansion.table.values width
    tags.Nodup ∧
      (values.Nodup ↔
        ∀ tag ∈ tags, ∀ other ∈ tags, tag % 2 ^ width = other % 2 ^ width → tag = other) ∧
      ((∀ tag ∈ tags, tag < 2 ^ width) → values.Nodup) ∧
      (expansion.Compiles →
        (item.shows tagListName = true → expansion.tagList? width = some values) ∧
          ∀ {α : Type} (value : Value α) (i : Nat) (variant : Variant),
            item.variants[i]? = some variant → value.IsOf variant →
              expansion.tagOf? width value = values[i]?) := by
  intro tags values
  have htags : tags.Nodup := tags_of_expand h
  have hvalues : values = tags.map (BitVec.ofNat width) := List.map_map.symm
  have hiff : values.Nodup ↔
      ∀ tag ∈ tags, ∀ other ∈ tags, tag % 2 ^ width = other % 2 ^ width → tag = other := by
    rw [hvalues, List.nodup_map_iff_inj_on htags]
    simp only [ofNat_eq_iff]
  refine ⟨htags, hiff, ?_, fun hcompiles => ⟨fun hshown => ?_, ?_⟩⟩
  · intro hfit
    refine hiff.mpr fun tag htag other hother hlow => ?_
    rwa [Nat.mod_eq_of_lt (hfit tag htag), Nat.mod_eq_of_lt (hfit other hother)] at hlow
  · exact tagList?_of_compiles h hcompiles hshown width
  · intro α value i variant hvariant hvalue
    exact tagOf?_of_compiles h hcompiles hvariant hvalue width

/-- The tag after an explicit one is the largest that fits into a byte. -/
theorem values_nodup_iff_at_largest_byte :
    let item : Item :=
      ⟨.enumeration, "E", [⟨"A", .unit, none⟩, ⟨"B", .named, some "0xfe"⟩, ⟨"C", .unnamed, none⟩]⟩
    ∃ expansion, expand "public, repr(u8)" item = .ok expansion ∧
      (∀ tag ∈ expansion.table.constants.map Constant.tag, tag < 2 ^ 8) ∧
      (expansion.table.values 8).Nodup ∧ expansion.Compiles ∧
      expansion.tagList? 8 = some [0, 254, 255] ∧
      expansion.tagOf? 8 (⟨"C", .unnamed [7]⟩ : Value Nat) = some 255 := by
  intro item
  have hassign : assign item.variants =
      .ok [⟨"A", .unit, 0⟩, ⟨"B", .named, 254⟩, ⟨"C", .unnamed, 255⟩] := by
    decide +kernel
  have hexpand := expandBy_eq_ok_iff.mpr ⟨_, _, parse_exported_byte, rfl, hassign, rfl⟩
  obtain ⟨-, -, hvalues, hmeaning⟩ := values_nodup_iff hexpand 8
  have hcompiles : Expansion.Compiles ⟨item, .ofVariants item.head.name
      ⟨.exported, ⟨[.ofText "u8"]⟩⟩
      [⟨"A", .unit, 0⟩, ⟨"B", .named, 254⟩, ⟨"C", .unnamed, 255⟩]⟩ := by
    decide +kernel
  obtain ⟨hlist, hfunction⟩ := hmeaning hcompiles
  exact ⟨_, hexpand, by decide, hvalues (by decide), hcompiles, hlist (by decide +kernel),
    hfunction ⟨"C", .unnamed [7]⟩ 2 ⟨"C", .unnamed, none⟩ rfl ⟨rfl, rfl⟩⟩

/-- Tags that differ by 256 are accepted, although their values in one byte are the same. -/
theorem values_collide_in_byte :
    let item : Item := ⟨.enumeration, "E", [⟨"A", .unit, some "0"⟩, ⟨"B", .unit, some "256"⟩]⟩
    ∃ expansion, expand "public, repr(u8)" item = .ok expansion ∧
      expansion.table.repr.text = "u8" ∧ expansion.Compiles ∧
      ¬ (expansion.table.values 8).Nodup ∧ expansion.tagList? 8 = some [0, 0] ∧
      expansion.tagOf? 8 (⟨"A", .unit⟩ : Value Nat) = some 0 ∧
      expansion.tagOf? 8 (⟨"B", .unit⟩ : Value Nat) = some 0 := by
  intro item
  have hassign : assign item.variants = .ok [⟨"A", .unit, 0⟩, ⟨"B", .unit, 256⟩] := by
    decide +kernel
  have hexpand := expandBy_eq_ok_iff.mpr ⟨_, _, parse_exported_byte, rfl, hassign, rfl⟩
  have hcompiles : Expansion.Compiles ⟨item, .ofVariants item.head.name
      ⟨.exported, ⟨[.ofText "u8"]⟩⟩ [⟨"A", .unit, 0⟩, ⟨"B", .unit, 256⟩]⟩ := by
    decide +kernel
  have hshown : item.shows tagListName = true := by decide +kernel
  have hfirst : item.variants[0]? = some ⟨"A", .unit, some "0"⟩ := rfl
  have hsecond : item.variants[1]? = some ⟨"B", .unit, some "256"⟩ := rfl
  refine ⟨_, hexpand, by decide +kernel, hcompiles, by decide, ?_, ?_, ?_⟩
  · exact tagList?_of_compiles hexpand hcompiles hshown 8
  · exact tagOf?_of_compiles hexpand hcompiles hfirst ⟨rfl, rfl⟩ 8
  · exact tagOf?_of_compiles hexpand hcompiles hsecond ⟨rfl, rfl⟩ 8

end TaggedMachine.Enumeration
