import TaggedMachine.Program
import TaggedMachine.Proofs.Transition

/-!
Code in memory. A program stands in memory from a location on if its instructions
follow each other there up to a halt, of which the opcode alone needs to be there. That
is the case exactly when the cells from that location on decode to the program, and it
makes a fetch find the program's first instruction. Whether a program still stands in
memory depends on its cells up to the opcode of the halt and on nothing else.
-/
namespace TaggedMachine

open Parameters

/-- The register that an instruction writes is the program counter. -/
def Instruction.Jumps : Instruction → Prop
  | .load register _ => register = programCounterId
  | .add left _ => left = programCounterId
  | .sub left _ => left = programCounterId
  | .store _ _ => False
  | .halt => False

instance : DecidablePred Instruction.Jumps
  | .load register _ => inferInstanceAs (Decidable (register = programCounterId))
  | .add left _ => inferInstanceAs (Decidable (left = programCounterId))
  | .sub left _ => inferInstanceAs (Decidable (left = programCounterId))
  | .store _ _ => isFalse id
  | .halt => isFalse id

theorem Instruction.tag_ne_of_decode? {tag left right : UInt8} {instruction : Instruction}
    (h : decode? tag left right = some instruction) (hne : instruction ≠ .halt) :
    tag ≠ Opcode.halt.tag := by
  intro htag
  apply hne
  rw [← instruction.tag_eq_halt_iff, tag_of_decode? h, htag]

theorem Instruction.ne_halt_of_decode? {tag left right : UInt8} {instruction : Instruction}
    (h : decode? tag left right = some instruction) (htag : tag ≠ Opcode.halt.tag) :
    instruction ≠ .halt := by
  rintro rfl
  exact htag (tag_of_decode? h).symm

/-- A decoded instruction, unless it is a halt, is encoded by the bytes that it was decoded
from. -/
theorem Instruction.encode_of_decode? {tag left right : UInt8} {instruction : Instruction}
    (h : decode? tag left right = some instruction) (hne : instruction ≠ .halt) :
    instruction.encode = [tag, left, right] := by
  obtain ⟨opcode, hopcode, rfl⟩ := Option.map_eq_some_iff.mp h
  obtain rfl := Opcode.tag_of_ofTag? hopcode
  cases opcode with
  | halt => exact absurd rfl hne
  | _ => rfl

/-- No store of a program that stands at `pc` hits an instruction after it, up to the
opcode of the last one. -/
def Program.KeepsCode (pc : Nat) (program : List Instruction) : Prop :=
  ∀ (i : Nat) (register address : UInt8), program[i]? = some (.store register address) →
    ∀ location, location = address.toNat ∨ location = address.toNat + 1 →
      location < pc + instructionWidth * (i + 1) ∨
        pc + instructionWidth * (program.length - 1) < location

theorem Program.KeepsCode.tail {pc : Nat} {instruction : Instruction}
    {rest : List Instruction} (h : KeepsCode pc (instruction :: rest)) (hrest : rest ≠ []) :
    KeepsCode (pc + instructionWidth) rest := by
  intro i register address hstore location hlocation
  have hlength := List.length_pos_iff.mpr hrest
  have hmiss := h (i + 1) register address hstore location hlocation
  simp only [List.length_cons, instructionWidth] at hmiss ⊢
  omega

inductive Memory.Holds (memory : Memory) : Nat → List Instruction → Prop
  | halt {pc : Nat} (hpc : pc < memory.size) (htag : memory.cell pc = Opcode.halt.tag) :
      Holds memory pc [.halt]
  | cons {pc : Nat} {instruction : Instruction} {rest : List Instruction}
      (hne : instruction ≠ .halt) (hpc : pc + 2 < memory.size)
      (hdecode : Instruction.decode? (memory.cell pc) (memory.cell (pc + 1))
        (memory.cell (pc + 2)) = some instruction)
      (hrest : Holds memory (pc + instructionWidth) rest) :
      Holds memory pc (instruction :: rest)

namespace Memory

variable {memory : Memory}

theorem drop_cells {pc : Nat} (h : pc < memory.size) :
    memory.cells.toList.drop pc =
      memory.cell pc :: memory.cells.toList.drop (pc + 1) := by
  have hsize : pc < memory.cells.size := h
  have hlength : pc < memory.cells.toList.length := h
  have hcell : memory.cell pc = memory.cells[pc] := by
    simp only [cell, Array.getD_eq_getD_getElem?, Array.getElem?_eq_getElem hsize,
      Option.getD_some]
  rw [List.drop_eq_getElem_cons hlength, hcell, Array.getElem_toList]

theorem drop_cells_of_le {pc : Nat} (h : memory.size ≤ pc) :
    memory.cells.toList.drop pc = [] :=
  List.drop_eq_nil_of_le h

/-- Decoding the cells from `pc` on looks at the same cells as a fetch there. -/
theorem decode?_drop (memory : Memory) (pc : Nat) :
    Program.decode? (memory.cells.toList.drop pc) =
      if memory.size ≤ pc then none
      else if memory.cell pc = Opcode.halt.tag then some [.halt]
      else if memory.size ≤ pc + 2 then none
      else (Instruction.decode? (memory.cell pc) (memory.cell (pc + 1))
        (memory.cell (pc + 2))).bind fun instruction =>
          (Program.decode? (memory.cells.toList.drop (pc + instructionWidth))).map
            (instruction :: ·) := by
  by_cases hpc : memory.size ≤ pc
  · rw [if_pos hpc, drop_cells_of_le hpc, Program.decode?]
  · rw [if_neg hpc, drop_cells (by omega), Program.decode?.eq_def]
    by_cases hshort : memory.size ≤ pc + 2
    · by_cases hpair : memory.size ≤ pc + 1
      · simp only [if_pos hshort, drop_cells_of_le hpair]
      · simp only [if_pos hshort, drop_cells (Nat.lt_of_not_le hpair),
          drop_cells_of_le hshort]
    · simp only [if_neg hshort, drop_cells (show pc + 1 < memory.size by omega),
        drop_cells (show pc + 1 + 1 < memory.size by omega), instructionWidth]

theorem decode?_drop_ne_nil (pc : Nat) :
    Program.decode? (memory.cells.toList.drop pc) ≠ some [] := by
  rw [decode?_drop]
  split
  · simp
  · split
    · simp
    · split
      · simp
      · simp [Option.bind_eq_some_iff]

theorem Holds.ne_nil {pc : Nat} {program : List Instruction} (h : memory.Holds pc program) :
    program ≠ [] := by
  cases h <;> simp

theorem Holds.end_lt {pc : Nat} {program : List Instruction} (h : memory.Holds pc program) :
    pc + instructionWidth * (program.length - 1) < memory.size := by
  induction h with
  | halt hpc htag => exact hpc
  | cons hne hpc hdecode hrest ih =>
    have hlength := List.length_pos_iff.mpr hrest.ne_nil
    simp only [List.length_cons, instructionWidth] at ih ⊢
    omega

theorem Holds.exists_eq_concat {pc : Nat} {program : List Instruction}
    (h : memory.Holds pc program) : ∃ done, program = done ++ [.halt] := by
  induction h with
  | halt => exact ⟨[], rfl⟩
  | @cons pc instruction rest hne hpc hdecode hrest ih =>
    obtain ⟨done, rfl⟩ := ih
    exact ⟨instruction :: done, rfl⟩

/-- The cells from `pc` on decode to a program exactly if it stands there. -/
theorem decode?_drop_eq_some_iff (pc : Nat) (program : List Instruction) :
    Program.decode? (memory.cells.toList.drop pc) = some program ↔
      memory.Holds pc program := by
  constructor
  · intro hdecode
    induction program generalizing pc with
    | nil => exact absurd hdecode (decode?_drop_ne_nil pc)
    | cons instruction rest ih =>
      rw [decode?_drop] at hdecode
      split at hdecode
      · contradiction
      · rename_i hpc
        split at hdecode
        · rename_i htag
          cases hdecode
          exact .halt (Nat.lt_of_not_le hpc) htag
        · rename_i htag
          split at hdecode
          · contradiction
          · rename_i hfits
            obtain ⟨first, hfirst, hmap⟩ := Option.bind_eq_some_iff.mp hdecode
            obtain ⟨tail, htail, heq⟩ := Option.map_eq_some_iff.mp hmap
            cases heq
            have hne := Instruction.ne_halt_of_decode? hfirst htag
            exact .cons hne (Nat.lt_of_not_le hfits) hfirst (ih _ htail)
  · intro hholds
    induction hholds with
    | @halt pc hpc htag => rw [decode?_drop, if_neg (Nat.not_le.mpr hpc), if_pos htag]
    | @cons pc instruction rest hne hpc hdecode hrest ih =>
      have htag := Instruction.tag_ne_of_decode? hdecode hne
      rw [decode?_drop, if_neg (by omega), if_neg htag, if_neg (by omega), hdecode, ih]
      rfl

/-- Memories with the same cells up to the opcode of the halt hold the same program. -/
theorem Holds.congr {pc : Nat} {program : List Instruction} {memory' : Memory}
    (h : memory.Holds pc program) (hsize : memory'.size = memory.size)
    (hcells : ∀ location, pc ≤ location →
      location ≤ pc + instructionWidth * (program.length - 1) →
      memory'.cell location = memory.cell location) : memory'.Holds pc program := by
  induction h with
  | halt hpc htag =>
    refine .halt (by omega) ?_
    rw [hcells _ (by omega) (by omega), htag]
  | @cons pc instruction rest hne hpc hdecode hrest ih =>
    have hlength := List.length_pos_iff.mpr hrest.ne_nil
    simp only [List.length_cons, instructionWidth] at hcells ih
    refine .cons hne (by omega) ?_ (ih ?_)
    · rw [hcells pc (by omega) (by omega), hcells (pc + 1) (by omega) (by omega),
        hcells (pc + 2) (by omega) (by omega), hdecode]
    · intro location hlow hhigh
      exact hcells location (by omega) (by omega)

end Memory

namespace Machine

/-- A fetch finds the first instruction of a program that stands at the program
counter. -/
theorem fetch_of_holds {machine : Machine} {instruction : Instruction}
    {rest : List Instruction}
    (h : machine.memory.Holds machine.registers.pc (instruction :: rest)) :
    machine.fetch = .ok (.instruction instruction) := by
  rw [fetch_eq]
  cases h with
  | halt hpc htag => simp only [if_neg (Nat.not_le.mpr hpc), if_pos htag]
  | cons hne hpc hdecode hrest =>
    have htag := Instruction.tag_ne_of_decode? hdecode hne
    have hstart : ¬ machine.memory.size ≤ machine.registers.pc := by omega
    simp only [if_neg hstart, if_neg htag, if_neg (Nat.not_le.mpr hpc), hdecode]

/-- A fetched instruction, unless it is a halt, stands before any program that stands behind
it. -/
theorem holds_cons_of_fetch {machine : Machine} {instruction : Instruction}
    {rest : List Instruction} (h : machine.fetch = .ok (.instruction instruction))
    (hne : instruction ≠ .halt)
    (hrest : machine.memory.Holds (machine.registers.pc + instructionWidth) rest) :
    machine.memory.Holds machine.registers.pc (instruction :: rest) := by
  cases (machine.fetch_eq_ok_iff _).mp h with
  | halt => contradiction
  | instruction hpc htag hdecode => exact .cons hne hpc hdecode hrest

end Machine

end TaggedMachine
