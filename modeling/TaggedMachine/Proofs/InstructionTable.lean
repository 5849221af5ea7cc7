import TaggedMachine.Proofs.Transition

/-!
The instruction table. `Machine.prescribed` says what a running machine with budget left does
next, in terms of its cells and of numbers alone: each check in its place, words as two bytes
with the low one first, sums and differences modulo 2^16, register 0 as the program counter, of
which 16 bits are read and which a written word replaces whole. A step is exactly what the table
prescribes: it leads to the machine named there, or fails with the fault named there and changes
nothing.
-/
namespace TaggedMachine

open Parameters Instruction

/-- The outcome leads to the prescribed machine, or has the prescribed fault and leaves the
machine as it was. -/
def Outcome.Follows (outcome : Outcome) (machine : Machine) : Except Fault Machine → Prop
  | .ok after => outcome.machine = after ∧ outcome.result = .ok after.status
  | .error fault => outcome.machine = machine ∧ outcome.result = .error fault

namespace Machine

variable {machine : Machine}

/-- What a register reads as. -/
def operand (machine : Machine) (id : UInt8) : Nat :=
  if id = 0 then machine.registers.pc % 65536
  else if id = 1 then machine.registers.first.toNat
  else machine.registers.second.toNat

/-- What a load from an address reads. -/
def wordAt (machine : Machine) (address : UInt8) : Nat :=
  (machine.memory.cell address.toNat).toNat +
    256 * (machine.memory.cell (address.toNat + 1)).toNat

/-- The machine after a step that is counted and goes on at `pc`. -/
def goesTo (machine : Machine) (pc : Nat) : Machine :=
  { machine with registers := { machine.registers with pc := pc }, steps := machine.steps + 1 }

/-- The machine after a value has been put into a register. -/
def assigned (machine : Machine) (id : UInt8) (value : Nat) : Machine :=
  let pc := machine.registers.pc
  if id = 0 then machine.goesTo (value + 3)
  else if id = 1 then
    { machine with
      registers := { machine.registers with first := value.toUInt16 } }.goesTo (pc + 3)
  else
    { machine with
      registers := { machine.registers with second := value.toUInt16 } }.goesTo (pc + 3)

/-- The machine after a value has been put into the cells at an address and behind it. -/
def stored (machine : Machine) (address : UInt8) (value : Nat) : Machine :=
  let memory := machine.memory.withBytes address.toNat (value % 256).toUInt8 (value / 256).toUInt8
  { machine with memory := memory }.goesTo (machine.registers.pc + 3)

/-- An operation on two registers, of which the first takes the result modulo 2^16. -/
def combined (machine : Machine) (operation : Nat → Nat → Nat) (left right : UInt8) :
    Except Fault Machine :=
  if 3 ≤ left.toNat then .error (.outOfBounds (.register left))
  else if 3 ≤ right.toNat then .error (.outOfBounds (.register right))
  else
    let value := operation (machine.operand left) (machine.operand right)
    .ok (machine.assigned left (value % 65536))

/-- The rows of the table. The first check that fails decides the fault. -/
def executed (machine : Machine) : Instruction → Except Fault Machine
  | .load register address =>
    if machine.memory.size ≤ address.toNat + 1 then
      .error (.outOfBounds (.load (max address.toNat machine.memory.size)))
    else if 3 ≤ register.toNat then .error (.outOfBounds (.register register))
    else .ok (machine.assigned register (machine.wordAt address))
  | .store register address =>
    if 3 ≤ register.toNat then .error (.outOfBounds (.register register))
    else if machine.memory.size ≤ address.toNat + 1 then
      .error (.outOfBounds (.store (max address.toNat machine.memory.size)))
    else .ok (machine.stored address (machine.operand register))
  | .add left right => machine.combined (fun x y => x + y) left right
  | .sub left right => machine.combined (fun x y => x + 65536 - y) left right
  | .halt => .ok { machine with status := .halted, steps := machine.steps + 1 }

/-- What stands for a row where the table has none. -/
def skipped (machine : Machine) (opcode : UInt8) : Except Fault Machine :=
  match machine.options.unknownOpcodes with
  | .ignore => .ok (machine.goesTo (machine.registers.pc + 3))
  | .reject => .error (.unknownOpcode opcode machine.registers.pc)

/-- What is done at an opcode, not that of a halt, and two operands. -/
def row (machine : Machine) (opcode left right : UInt8) : Except Fault Machine :=
  match opcode with
  | 0x01 => machine.executed (.load left right)
  | 0x02 => machine.executed (.store left right)
  | 0x03 => machine.executed (.add left right)
  | 0x04 => machine.executed (.sub left right)
  | _ => machine.skipped opcode

/-- What a running machine with budget left does next. -/
def prescribed (machine : Machine) : Except Fault Machine :=
  let pc := machine.registers.pc
  let size := machine.memory.size
  let opcode := machine.memory.cell pc
  if size ≤ pc then .error (.outOfBounds (.fetch pc))
  else if opcode = 0xff then machine.executed .halt
  else if size ≤ pc + 2 then .error (.outOfBounds (.fetch size))
  else machine.row opcode (machine.memory.cell (pc + 1)) (machine.memory.cell (pc + 2))

theorem toNat_get_ofId (machine : Machine) {id : UInt8} (h : id.toNat < registerCount) :
    (machine.registers.get (.ofId id)).toNat = machine.operand id := by
  by_cases hid : id = programCounterId
  · subst hid
    rfl
  · rcases Register.general_id_cases h hid with rfl | rfl <;> rfl

theorem apply_setRegister_eq (machine : Machine) {id : UInt8} (h : id.toNat < registerCount)
    (word : UInt16) :
    machine.apply (.setRegister (.ofId id) word) = machine.assigned id word.toNat := by
  by_cases hid : id = programCounterId
  · subst hid
    rfl
  · rcases Register.general_id_cases h hid with rfl | rfl <;>
      simp [assigned, apply, advance, goesTo, Registers.set, Registers.advance, Register.ofId,
        Register.ofId?]

theorem apply_setWord_eq (machine : Machine) (address : UInt8) (word : UInt16) :
    machine.apply (.setWord address word) = machine.stored address word.toNat := by
  have hlow : (word.toNat % 256).toUInt8 = word.toNat.toUInt8 := by
    apply UInt8.toNat_inj.mp
    simp
  rw [stored, hlow, apply, Memory.setWord_eq]
  rfl

/-- What an instruction works out is what its row names, the value it puts into a register or
into memory included. -/
theorem executed_of_fits (machine : Machine) {instruction : Instruction}
    (h : instruction.Fits machine.memory.size) :
    machine.executed instruction = .ok (machine.apply (machine.intended instruction)) := by
  cases instruction with
  | load register address =>
    obtain ⟨hregister, hword⟩ : register.toNat < 3 ∧ address.toNat + 1 < machine.memory.size := h
    rw [executed, if_neg (Nat.not_le.mpr hword), if_neg (Nat.not_le.mpr hregister), intended,
      machine.apply_setRegister_eq hregister, Memory.toNat_word]
    rfl
  | store register address =>
    obtain ⟨hregister, hword⟩ : register.toNat < 3 ∧ address.toNat + 1 < machine.memory.size := h
    rw [executed, if_neg (Nat.not_le.mpr hregister), if_neg (Nat.not_le.mpr hword), intended,
      machine.apply_setWord_eq, machine.toNat_get_ofId hregister]
  | add left right =>
    obtain ⟨hleft, hright⟩ : left.toNat < 3 ∧ right.toNat < 3 := h
    rw [executed, combined, if_neg (Nat.not_le.mpr hleft), if_neg (Nat.not_le.mpr hright), intended,
      machine.apply_setRegister_eq hleft, UInt16.toNat_add, machine.toNat_get_ofId hleft,
      machine.toNat_get_ofId hright]
  | sub left right =>
    obtain ⟨hleft, hright⟩ : left.toNat < 3 ∧ right.toNat < 3 := h
    have hwrap : 2 ^ 16 - machine.operand right + machine.operand left =
        machine.operand left + 65536 - machine.operand right := by
      have hlt := (machine.registers.get (.ofId right)).toNat_lt
      rw [machine.toNat_get_ofId hright] at hlt
      omega
    rw [executed, combined, if_neg (Nat.not_le.mpr hleft), if_neg (Nat.not_le.mpr hright), intended,
      machine.apply_setRegister_eq hleft, UInt16.toNat_sub, machine.toNat_get_ofId hleft,
      machine.toNat_get_ofId hright, hwrap]
  | halt => rfl

/-- Of two checks made one after the other, the first that fails is the one reported. -/
theorem error_of_refused {first second : Prop} [Decidable first] [Decidable second]
    {overrun overrun' refused : Overrun} {after : Except Fault Machine}
    (h : (if first then some overrun else none).or (if second then some overrun' else none) =
      some refused) :
    (if first then .error (.outOfBounds overrun)
      else if second then .error (.outOfBounds overrun') else after) =
      .error (.outOfBounds refused) := by
  by_cases hfirst : first
  · rw [if_pos hfirst] at h ⊢
    cases h
    rfl
  · rw [if_neg hfirst] at h ⊢
    by_cases hsecond : second
    · rw [if_pos hsecond] at h ⊢
      cases h
      rfl
    · rw [if_neg hsecond] at h
      contradiction

theorem executed_of_overrun (machine : Machine) {instruction : Instruction} {overrun : Overrun}
    (h : instruction.overrun? machine.memory.size = some overrun) :
    machine.executed instruction = .error (.outOfBounds overrun) := by
  cases instruction with
  | load register address => exact error_of_refused h
  | store register address => exact error_of_refused h
  | add left right => exact error_of_refused h
  | sub left right => exact error_of_refused h
  | halt => contradiction

theorem dispatch_follows (hrunning : machine.status = .running) (instruction : Instruction) :
    (machine.dispatch instruction).Follows machine (machine.executed instruction) := by
  unfold dispatch
  rw [effect_eq]
  cases hoverrun : instruction.overrun? machine.memory.size with
  | some overrun =>
    rw [machine.executed_of_overrun hoverrun]
    exact ⟨rfl, rfl⟩
  | none =>
    rw [machine.executed_of_fits ((instruction.overrun?_eq_none_iff _).mp hoverrun)]
    cases machine.intended instruction with
    | halt => exact ⟨rfl, rfl⟩
    | setRegister => exact ⟨rfl, congrArg Except.ok hrunning.symm⟩
    | setWord => exact ⟨rfl, congrArg Except.ok hrunning.symm⟩

theorem stepUnknown_follows (hrunning : machine.status = .running) (opcode : UInt8) :
    (machine.stepUnknown opcode).Follows machine (machine.skipped opcode) := by
  unfold stepUnknown skipped
  cases machine.options.unknownOpcodes with
  | ignore => exact ⟨rfl, congrArg Except.ok hrunning.symm⟩
  | reject => exact ⟨rfl, rfl⟩

/-- The table has the rows that decoding knows, the halt apart. -/
theorem row_eq (machine : Machine) {opcode : UInt8} (hopcode : opcode ≠ Opcode.halt.tag)
    (left right : UInt8) :
    machine.row opcode left right =
      match decode? opcode left right with
      | some instruction => machine.executed instruction
      | none => machine.skipped opcode := by
  cases hknown : Opcode.ofTag? opcode with
  | none =>
    simp only [decode?, hknown, Option.map_none]
    unfold row
    unfold Opcode.ofTag? at hknown
    split <;> simp_all
  | some known =>
    obtain rfl := Opcode.tag_of_ofTag? hknown
    cases known with
    | halt => contradiction
    | _ => rfl

/-- What is prescribed follows what a fetch finds. -/
theorem prescribed_eq (machine : Machine) :
    machine.prescribed =
      match machine.fetch with
      | .error overrun => .error (.outOfBounds overrun)
      | .ok (.unknown opcode) => machine.skipped opcode
      | .ok (.instruction instruction) => machine.executed instruction := by
  rw [fetch_eq]
  unfold prescribed
  by_cases hpc : machine.memory.size ≤ machine.registers.pc
  · simp only [hpc, reduceIte]
  · by_cases htag : machine.memory.cell machine.registers.pc = 0xff
    · simp only [Opcode.tag, hpc, htag, reduceIte]
    · by_cases hshort : machine.memory.size ≤ machine.registers.pc + 2
      · simp only [Opcode.tag, hpc, htag, hshort, reduceIte]
      · simp only [Opcode.tag, hpc, htag, hshort, reduceIte, machine.row_eq htag]
        cases decode? (machine.memory.cell machine.registers.pc)
          (machine.memory.cell (machine.registers.pc + 1))
          (machine.memory.cell (machine.registers.pc + 2)) <;> rfl

/-- A step of a running machine with budget left is exactly what the table prescribes. -/
theorem step_as_prescribed (machine : Machine) (hrunning : machine.status = .running)
    (hbudget : ∀ budget, machine.options.stepBudget = some budget → machine.steps < budget) :
    (∀ after, machine.prescribed = .ok after →
      machine.step.machine = after ∧ machine.step.result = .ok after.status) ∧
    (∀ fault, machine.prescribed = .error fault →
      machine.step.machine = machine ∧ machine.step.result = .error fault) := by
  have hactive : machine.Active := ⟨hrunning, machine.spentBudget?_eq_none_iff.mpr hbudget⟩
  have hfollows : machine.step.Follows machine machine.prescribed := by
    rw [step_of_active hactive, prescribed_eq]
    rcases machine.fetch with overrun | instruction | opcode
    · exact ⟨rfl, rfl⟩
    · exact dispatch_follows hrunning instruction
    · exact stepUnknown_follows hrunning opcode
  constructor
  · intro after hprescribed
    rwa [hprescribed] at hfollows
  · intro fault hprescribed
    rwa [hprescribed] at hfollows

/-- A difference below zero is put into the program counter: it wraps, and the machine goes on
behind the largest word. -/
theorem step_as_prescribed_beyond_words :
    let memory : Memory := ⟨#[0x01, 1, 6, 0x04, 0, 1, 5, 0], by decide⟩
    let machine := (start memory { stepBudget := some 2 }).step.machine
    machine.status = .running ∧
      (∀ budget, machine.options.stepBudget = some budget → machine.steps < budget) ∧
      (machine.operand 0 = 3 ∧ machine.operand 1 = 5) ∧
      machine.prescribed = .ok (machine.goesTo 65537) ∧
      machine.step.machine = machine.goesTo 65537 ∧ machine.step.result = .ok .running := by
  intro memory machine
  have hrunning : machine.status = .running := by cbv
  have hbudget : ∀ budget, machine.options.stepBudget = some budget → machine.steps < budget := by
    rintro budget ⟨⟩
    decide
  have hprescribed : machine.prescribed = .ok (machine.goesTo 65537) := by cbv
  obtain ⟨hmachine, hresult⟩ :=
    (step_as_prescribed machine hrunning hbudget).1 _ hprescribed
  refine ⟨hrunning, hbudget, ⟨by cbv, by cbv⟩, hprescribed, hmachine, ?_⟩
  rw [hresult]
  exact congrArg Except.ok hrunning

end Machine

end TaggedMachine
