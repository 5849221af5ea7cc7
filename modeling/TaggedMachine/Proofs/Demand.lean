import TaggedMachine.Step

/-!
What a fetch and an instruction demand of the machine, and what they give once they
have it. A fetch is stated over the cells at the program counter. `Instruction.overrun?`
names the first thing that an instruction asks for and a machine with a given number of
cells does not have; its effect is refused with exactly that, and otherwise is the one
that the instruction stands for.
-/
namespace TaggedMachine

open Parameters

/-- The register with a given id; an id that names no register stands for the program
counter. -/
def Register.ofId (id : UInt8) : Register := (ofId? id).getD .programCounter

theorem Register.ofId?_eq_none_iff (id : UInt8) :
    ofId? id = none ↔ registerCount ≤ id.toNat := by
  unfold ofId?
  split
  · simp
  · simp
  · simp
  · rename_i h0 h1 h2
    have h0' : id.toNat ≠ 0 := fun h => h0 (UInt8.toNat_inj.mp h)
    have h1' : id.toNat ≠ 1 := fun h => h1 (UInt8.toNat_inj.mp h)
    have h2' : id.toNat ≠ 2 := fun h => h2 (UInt8.toNat_inj.mp h)
    refine iff_of_true rfl ?_
    simp only [registerCount, generalRegisterCount]
    omega

theorem Register.general_id_cases {id : UInt8} (h : id.toNat < registerCount)
    (hne : id ≠ programCounterId) : id = 1 ∨ id = 2 := by
  simp only [ne_eq, ← UInt8.toNat_inj, registerCount, generalRegisterCount,
    programCounterId] at h hne ⊢
  simp only [UInt8.reduceToNat] at hne ⊢
  omega

namespace Instruction

def missingRegister? (id : UInt8) : Option Overrun :=
  if registerCount ≤ id.toNat then some (.register id) else none

def missingWord? (size : Nat) (address : UInt8) (overrun : Nat → Overrun) : Option Overrun :=
  if size ≤ address.toNat + 1 then some (overrun (max address.toNat size)) else none

/-- The first thing an instruction asks for that a machine with `size` cells does not
have. -/
def overrun? (size : Nat) : Instruction → Option Overrun
  | .load register address =>
    (missingWord? size address .load).or (missingRegister? register)
  | .store register address =>
    (missingRegister? register).or (missingWord? size address .store)
  | .add left right => (missingRegister? left).or (missingRegister? right)
  | .sub left right => (missingRegister? left).or (missingRegister? right)
  | .halt => none

theorem missingWord?_eq_none_iff (size : Nat) (address : UInt8) (overrun : Nat → Overrun) :
    missingWord? size address overrun = none ↔ address.toNat + 1 < size := by
  simp only [missingWord?, ite_eq_right_iff, reduceCtorEq, imp_false, Nat.not_le]

theorem missingRegister?_eq_none_iff (id : UInt8) :
    missingRegister? id = none ↔ id.toNat < registerCount := by
  simp only [missingRegister?, ite_eq_right_iff, reduceCtorEq, imp_false, Nat.not_le]

/-- Each register the instruction names exists, and so do both cells it addresses. -/
def Fits (size : Nat) : Instruction → Prop
  | .load register address => register.toNat < registerCount ∧ address.toNat + 1 < size
  | .store register address => register.toNat < registerCount ∧ address.toNat + 1 < size
  | .add left right => left.toNat < registerCount ∧ right.toNat < registerCount
  | .sub left right => left.toNat < registerCount ∧ right.toNat < registerCount
  | .halt => True

theorem overrun?_eq_none_iff (size : Nat) (instruction : Instruction) :
    instruction.overrun? size = none ↔ instruction.Fits size := by
  cases instruction <;>
    simp only [overrun?, Fits, Option.or_eq_none_iff, missingRegister?_eq_none_iff,
      missingWord?_eq_none_iff, and_comm]

end Instruction

open Instruction

theorem Register.named_eq (id : UInt8) :
    named id = match missingRegister? id with
      | some overrun => .error overrun
      | none => .ok (ofId id) := by
  unfold named missingRegister? ofId
  by_cases h : registerCount ≤ id.toNat
  · rw [if_pos h, (ofId?_eq_none_iff id).mpr h]
  · rw [if_neg h]
    cases hid : ofId? id with
    | none => exact absurd ((ofId?_eq_none_iff id).mp hid) h
    | some register => rfl

/-- The bound on locations never shows: an access is refused exactly when one of its
cells is missing. -/
theorem Memory.demand_eq (memory : Memory) (start count : Nat) (overrun : Nat → Overrun) :
    memory.demand start count overrun =
      if memory.size < start + count then .error (overrun (max start memory.size))
      else .ok () := by
  have hok := memory.demand_eq_ok_iff start count overrun
  by_cases h : memory.size < start + count
  · rw [if_pos h]
    unfold demand at hok ⊢
    split
    · rename_i hshifted
      have hfits := hok.mp (if_pos hshifted)
      omega
    · rfl
  · rw [if_neg h]
    exact hok.mpr (by omega)

theorem Memory.demand_word (memory : Memory) (address : UInt8) (overrun : Nat → Overrun) :
    memory.demand address.toNat wordBytes overrun =
      match missingWord? memory.size address overrun with
      | some refusal => .error refusal
      | none => .ok () := by
  rw [demand_eq]
  unfold missingWord?
  by_cases h : memory.size ≤ address.toNat + 1
  · rw [if_pos h, if_pos (by simp only [wordBytes]; omega)]
  · rw [if_neg h, if_neg (by simp only [wordBytes]; omega)]

theorem Memory.highByte_eq (word : UInt16) :
    (word / 256).toUInt8 = (word.toNat / 256).toUInt8 := by
  apply UInt8.toNat_inj.mp
  simp [UInt16.toNat_div]

/-- The memory that has two bytes at a location and behind it, and else is the same. -/
def Memory.withBytes (memory : Memory) (location : Nat) (low high : UInt8) : Memory where
  cells := .ofFn fun i : Fin memory.size =>
    if i.val = location then low
    else if i.val = location + 1 then high
    else memory.cell i.val
  size_le := by
    rw [Array.size_ofFn]
    exact memory.size_le

theorem Memory.size_withBytes (memory : Memory) (location : Nat) (low high : UInt8) :
    (memory.withBytes location low high).size = memory.size :=
  Array.size_ofFn

theorem Memory.cell_withBytes_of_ne (memory : Memory) {location i : Nat} (low high : UInt8)
    (hlow : i ≠ location) (hhigh : i ≠ location + 1) :
    (memory.withBytes location low high).cell i = memory.cell i := by
  by_cases h : i < memory.size
  · simp [withBytes, cell, Array.getD_eq_getD_getElem?, h, hlow, hhigh]
  · have hmissing : memory.cells.size ≤ i := Nat.le_of_not_lt h
    simp [withBytes, cell, Array.getD_eq_getD_getElem?, h, hmissing]

/-- Writing a word byte after byte puts its two bytes into the memory. -/
theorem Memory.setWord_eq (memory : Memory) (address : UInt8) (word : UInt16) :
    memory.setWord address word =
      memory.withBytes address.toNat word.toNat.toUInt8 (word.toNat / 256).toUInt8 := by
  simp only [setWord, wordBytes, LittleEndian.encode_two, UInt16.toNat_toBitVec, write, setCell,
    withBytes, mk.injEq]
  apply Array.ext
  · simp [size]
  · intro i hi hi'
    have hcell : i < memory.cells.size := by simpa using hi
    simp only [Array.getElem_ofFn, cell, Array.getD_eq_getD_getElem?, hcell, getElem?_pos,
      Option.getD_some]
    rw [Array.getElem_setIfInBounds (by simpa using hcell), Array.getElem_setIfInBounds hcell]
    simp only [eq_comm]
    by_cases hlow : i = address.toNat
    · simp only [hlow, Nat.left_eq_add, Nat.one_ne_zero, if_false, if_true]
    · simp only [hlow, if_false]

theorem Memory.fetchOpcode_eq (memory : Memory) (pc : Nat) :
    memory.fetchOpcode pc =
      if memory.size ≤ pc then .error (.fetch pc) else .ok (memory.cell pc) := by
  unfold fetchOpcode
  rw [demand_eq]
  by_cases h : memory.size ≤ pc
  · rw [if_pos (by omega), if_pos h, Nat.max_eq_left h]
    rfl
  · rw [if_neg (by omega), if_neg h]
    rfl

theorem Memory.fetchOperands_eq (memory : Memory) {pc : Nat} (hpc : pc < memory.size) :
    memory.fetchOperands pc =
      if memory.size ≤ pc + 2 then .error (.fetch memory.size)
      else .ok (memory.cell (pc + 1), memory.cell (pc + 2)) := by
  have hsize := memory.size_le
  have hshifted : shifted pc 1 = pc + 1 := by
    simp only [size, memoryLimit, UInt64.size] at hpc hsize
    simp only [shifted, lastLocation, UInt64.size]
    omega
  unfold fetchOperands
  simp only [hshifted, demand_eq]
  by_cases h : memory.size ≤ pc + 2
  · rw [if_pos (by omega), if_pos h, Nat.max_eq_right (by omega)]
    rfl
  · rw [if_neg (by omega), if_neg h]
    rfl

namespace Machine

/-- The effect an instruction stands for where nothing it asks for is missing. -/
def intended (machine : Machine) : Instruction → Effect
  | .load register address =>
    .setRegister (.ofId register) (machine.memory.word address)
  | .store register address =>
    .setWord address (machine.registers.get (.ofId register))
  | .add left right =>
    .setRegister (.ofId left)
      (machine.registers.get (.ofId left) + machine.registers.get (.ofId right))
  | .sub left right =>
    .setRegister (.ofId left)
      (machine.registers.get (.ofId left) - machine.registers.get (.ofId right))
  | .halt => .halt

theorem ne_halt_of_intended {machine : Machine} {instruction : Instruction} {register : Register}
    {word : UInt16} (h : machine.intended instruction = .setRegister register word) :
    instruction ≠ .halt := by
  rintro rfl
  contradiction

theorem arithmetic_eq (machine : Machine) (operation : UInt16 → UInt16 → UInt16)
    (left right : UInt8) :
    machine.arithmetic operation left right =
      match (missingRegister? left).or (missingRegister? right) with
      | some overrun => .error overrun
      | none => .ok (.setRegister (.ofId left) (operation
          (machine.registers.get (.ofId left)) (machine.registers.get (.ofId right)))) := by
  simp only [arithmetic, Register.named_eq]
  cases missingRegister? left <;> cases missingRegister? right <;> rfl

theorem effect_eq (machine : Machine) (instruction : Instruction) :
    machine.effect instruction =
      match instruction.overrun? machine.memory.size with
      | some overrun => .error overrun
      | none => .ok (machine.intended instruction) := by
  cases instruction with
  | load register address =>
    simp only [effect, overrun?, intended, Memory.loadWord, Memory.demand_word,
      Register.named_eq]
    cases missingWord? machine.memory.size address .load <;>
      cases missingRegister? register <;> rfl
  | store register address =>
    simp only [effect, overrun?, intended, Memory.demandWord, Memory.demand_word,
      Register.named_eq]
    cases missingRegister? register <;>
      cases missingWord? machine.memory.size address .store <;> rfl
  | add left right => exact machine.arithmetic_eq _ left right
  | sub left right => exact machine.arithmetic_eq _ left right
  | halt => rfl

theorem effect_of_fits (machine : Machine) {instruction : Instruction}
    (h : instruction.Fits machine.memory.size) :
    machine.effect instruction = .ok (machine.intended instruction) := by
  rw [effect_eq, (instruction.overrun?_eq_none_iff _).mpr h]

/-- A fetch in terms of the cells: an opcode, and unless it is that of a halt the two
cells after it. -/
theorem fetch_eq (machine : Machine) :
    machine.fetch =
      let pc := machine.registers.pc
      let opcode := machine.memory.cell pc
      if machine.memory.size ≤ pc then .error (.fetch pc)
      else if opcode = Opcode.halt.tag then .ok (.instruction .halt)
      else if machine.memory.size ≤ pc + 2 then .error (.fetch machine.memory.size)
      else match Instruction.decode? opcode (machine.memory.cell (pc + 1))
          (machine.memory.cell (pc + 2)) with
        | some instruction => .ok (.instruction instruction)
        | none => .ok (.unknown opcode) := by
  unfold fetch
  simp only [Memory.fetchOpcode_eq]
  by_cases hpc : machine.memory.size ≤ machine.registers.pc
  · simp only [if_pos hpc]
    rfl
  · simp only [if_neg hpc, Memory.fetchOperands_eq machine.memory (Nat.lt_of_not_le hpc)]
    by_cases hshort : machine.memory.size ≤ machine.registers.pc + 2
    · simp only [if_pos hshort]
      rfl
    · by_cases htag : machine.memory.cell machine.registers.pc = Opcode.halt.tag
      · simp only [if_pos htag, bind, Except.bind, pure, Except.pure]
      · cases hdecode : decode? (machine.memory.cell machine.registers.pc)
          (machine.memory.cell (machine.registers.pc + 1))
          (machine.memory.cell (machine.registers.pc + 2)) <;>
          simp only [if_neg hshort, if_neg htag, hdecode, bind, Except.bind, pure, Except.pure]

/-- What a fetch finds, with the cells that decide it. -/
inductive Fetches (machine : Machine) : Fetched → Prop
  | halt (hpc : machine.registers.pc < machine.memory.size)
      (htag : machine.memory.cell machine.registers.pc = Opcode.halt.tag) :
      Fetches machine (.instruction .halt)
  | instruction {instruction : Instruction}
      (hpc : machine.registers.pc + 2 < machine.memory.size)
      (htag : machine.memory.cell machine.registers.pc ≠ Opcode.halt.tag)
      (hdecode : decode? (machine.memory.cell machine.registers.pc)
        (machine.memory.cell (machine.registers.pc + 1))
        (machine.memory.cell (machine.registers.pc + 2)) = some instruction) :
      Fetches machine (.instruction instruction)
  | unknown (hpc : machine.registers.pc + 2 < machine.memory.size)
      (htag : machine.memory.cell machine.registers.pc ≠ Opcode.halt.tag)
      (hdecode : decode? (machine.memory.cell machine.registers.pc)
        (machine.memory.cell (machine.registers.pc + 1))
        (machine.memory.cell (machine.registers.pc + 2)) = none) :
      Fetches machine (.unknown (machine.memory.cell machine.registers.pc))

theorem fetch_eq_ok_iff (machine : Machine) (fetched : Fetched) :
    machine.fetch = .ok fetched ↔ machine.Fetches fetched := by
  rw [fetch_eq]
  constructor
  · intro h
    dsimp only at h
    split at h
    · contradiction
    · rename_i hpc
      split at h
      · rename_i htag
        cases h
        exact .halt (Nat.lt_of_not_le hpc) htag
      · rename_i htag
        split at h
        · contradiction
        · rename_i hshort
          split at h
          · rename_i hdecode
            cases h
            exact .instruction (Nat.lt_of_not_le hshort) htag hdecode
          · rename_i hdecode
            cases h
            exact .unknown (Nat.lt_of_not_le hshort) htag hdecode
  · intro h
    cases h with
    | halt hpc htag => simp only [if_neg (Nat.not_le.mpr hpc), if_pos htag]
    | instruction hpc htag hdecode =>
      have hstart : ¬ machine.memory.size ≤ machine.registers.pc := by omega
      simp only [if_neg hstart, if_neg htag, if_neg (Nat.not_le.mpr hpc), hdecode]
    | unknown hpc htag hdecode =>
      have hstart : ¬ machine.memory.size ≤ machine.registers.pc := by omega
      simp only [if_neg hstart, if_neg htag, if_neg (Nat.not_le.mpr hpc), hdecode]

/-- All three cells of a fetched instruction exist, unless it is a halt. -/
theorem lt_size_of_fetch {machine : Machine} {fetched : Fetched}
    (h : machine.fetch = .ok fetched) (hne : fetched ≠ .instruction .halt) :
    machine.registers.pc + 2 < machine.memory.size := by
  cases (machine.fetch_eq_ok_iff fetched).mp h with
  | halt => contradiction
  | instruction hpc => exact hpc
  | unknown hpc => exact hpc

end Machine

end TaggedMachine
