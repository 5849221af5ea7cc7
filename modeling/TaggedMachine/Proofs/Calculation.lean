import Mathlib.Algebra.Ring.Int.Defs
import TaggedMachine.Proofs.Image
import TaggedMachine.Proofs.StraightLine
import TaggedMachine.Sample

/-!
Calculations with two words. A calculation takes a word from each of two slots, adds them or
subtracts the second from the first, and stores the result in a third slot. Slots may overlap
each other and the code before the halt: what is stored there has been executed. Main statement:
under the default options a calculation that stands at the start of a memory leaves the result
modulo 2^16 in its output slot and every other cell as it was; the reference programs are the
calculations with their own slots.
-/
namespace TaggedMachine

open Parameters

inductive Operation
  | sum | difference
deriving DecidableEq

namespace Operation

def instruction : Operation → UInt8 → UInt8 → Instruction
  | .sum => .add
  | .difference => .sub

/-- The operation on words, which wrap. -/
def word : Operation → UInt16 → UInt16 → UInt16
  | .sum => (· + ·)
  | .difference => (· - ·)

/-- The operation on whole numbers. -/
def value : Operation → Int → Int → Int
  | .sum => (· + ·)
  | .difference => (· - ·)

/-- Words wrap as whole numbers modulo 2^16 do. -/
theorem toNat_word (operation : Operation) (left right : UInt16) :
    ((operation.word left right).toNat : Int) =
      operation.value left.toNat right.toNat % 2 ^ 16 := by
  have hleft := left.toNat_lt
  have hright := right.toNat_lt
  cases operation with
  | sum =>
    simp only [word, value, UInt16.toNat_add]
    omega
  | difference =>
    simp only [word, value, UInt16.toNat_sub]
    omega

end Operation

/-- The instructions of a calculation before its halt. -/
def calculationBody (operation : Operation) (left right output : UInt8) : List Instruction :=
  [.load 1 left, .load 2 right, operation.instruction 1 2, .store 1 output]

def calculation (operation : Operation) (left right output : UInt8) : List Instruction :=
  calculationBody operation left right output ++ [.halt]

namespace Calculation

variable {operation : Operation} {left right output : UInt8}

theorem halt_not_mem_body : .halt ∉ calculationBody operation left right output := by
  cases operation <;> simp [calculationBody, Operation.instruction]

theorem not_jumps :
    ∀ instruction ∈ calculation operation left right output, ¬ instruction.Jumps := by
  cases operation <;>
    simp [calculation, calculationBody, Operation.instruction, Instruction.Jumps]

theorem fits {size : Nat} (hleft : left.toNat + 1 < size) (hright : right.toNat + 1 < size)
    (houtput : output.toNat + 1 < size) :
    ∀ instruction ∈ calculation operation left right output, instruction.Fits size := by
  cases operation <;>
    simp [calculation, calculationBody, Operation.instruction, Instruction.Fits, hleft, hright,
      houtput]

/-- A store before the opcode of the halt, or behind it, hits nothing still to be executed. -/
theorem keepsCode (hbefore : output ≠ 11) (hhalt : output ≠ 12) :
    Program.KeepsCode 0 (calculation operation left right output) := by
  intro i register address hstore location hlocation
  rcases i with _ | _ | _ | _ | _ | i
  · cases hstore
  · cases hstore
  · cases operation <;> cases hstore
  · cases hstore
    have hbefore' : output.toNat ≠ 11 := fun h => hbefore (UInt8.toNat_inj.mp h)
    have hhalt' : output.toNat ≠ 12 := fun h => hhalt (UInt8.toNat_inj.mp h)
    simp only [calculation, calculationBody, List.length_append, List.length_cons, List.length_nil,
      instructionWidth]
    omega
  · cases hstore
  · cases hstore

/-- A calculation whose first thirteen bytes, up to the opcode of the halt, begin a memory stands
at its start. -/
theorem holds {memory : Memory}
    (h : memory.cells.toList.take 13 =
      (Program.encode (calculation operation left right output)).take 13) :
    memory.Holds 0 (calculation operation left right output) := by
  have hlength : (Program.opening (calculationBody operation left right output)).length = 13 :=
    Program.length_opening _
  have hopening : (Program.encode (calculation operation left right output)).take 13 =
      Program.opening (calculationBody operation left right output) := by
    rw [calculation, Program.encode_concat_halt, ← hlength, List.take_left]
  rw [hopening] at h
  rw [← Memory.decode?_drop_eq_some_iff]
  exact Program.decode?_of_opening halt_not_mem_body (h ▸ List.take_prefix _ _)

theorem straight {memory : Memory}
    (h : memory.cells.toList.take 13 =
      (Program.encode (calculation operation left right output)).take 13)
    (hbefore : output ≠ 11) (hhalt : output ≠ 12) :
    (Machine.start memory {}).Straight (calculation operation left right output) where
  running := rfl
  room := fun _ hbudget => nomatch hbudget
  holds := holds h
  noJumps := not_jumps
  keeps := keepsCode hbefore hhalt

/-- The registers hold the first word, then the second, then the result in place of the first,
which is stored. Only the store touches the memory. -/
theorem memory_executeFrom (machine : Machine) (pc : Nat) :
    (machine.contents.executeFrom pc (calculation operation left right output)).memory =
      machine.memory.setWord output
        (operation.word (machine.memory.word left) (machine.memory.word right)) := by
  let result := operation.word (machine.contents.load left) (machine.contents.load right)
  let calculated : Machine :=
    { machine with registers := ⟨pc, result, machine.contents.load right⟩ }
  have hexecuted : machine.contents.executeFrom pc (calculation operation left right output) =
      calculated.contents.store output result := by
    cases operation <;> rfl
  rw [hexecuted, calculated.store_contents, ← machine.load_contents, ← machine.load_contents]

/-- A calculation at the start of a memory runs to its halt and stores its result. -/
theorem run_eq {memory : Memory} (operation : Operation) (left right output : UInt8)
    (hcode : memory.cells.toList.take 13 =
      (Program.encode (calculation operation left right output)).take 13)
    (hleft : left.toNat + 1 < memory.size) (hright : right.toNat + 1 < memory.size)
    (houtput : output.toNat + 1 < memory.size) (hbefore : output ≠ 11) (hhalt : output ≠ 12) :
    (Machine.start memory {}).run.result = .ok .halted ∧
      (Machine.start memory {}).run.machine.steps = 5 ∧
      (Machine.start memory {}).run.machine.memory =
        memory.setWord output (operation.word (memory.word left) (memory.word right)) := by
  rw [(straight hcode hbefore hhalt).run_of_fits (fits hleft hright houtput)]
  exact ⟨rfl, rfl, memory_executeFrom _ 0⟩

end Calculation

/-- A calculation of which the first thirteen bytes stand at the start of a memory, whose slots
are in the memory and whose output slot does not hit the opcode of the halt, runs in five steps
under the default options. It leaves the sum or the difference of the words that the slots hold
at first, modulo 2^16, in the output slot and all other cells as they are. So a memory with the
code of a reference program ends with the result of its two inputs in the output slot, whatever
else the memory holds. -/
theorem calculation_stores_result (operation : Operation) :
    (∀ (memory : Memory) (left right output : UInt8),
      memory.cells.toList.take 13 =
        (Program.encode (calculation operation left right output)).take 13 →
      left.toNat + 1 < memory.size → right.toNat + 1 < memory.size →
      output.toNat + 1 < memory.size → output ≠ 11 → output ≠ 12 →
      let outcome := (Machine.start memory {}).run
      outcome.result = .ok .halted ∧ outcome.machine.steps = 5 ∧
        ((outcome.machine.memory.word output).toNat : Int) =
          operation.value (memory.word left).toNat (memory.word right).toNat % 2 ^ 16 ∧
        outcome.machine.memory.size = memory.size ∧
        ∀ location, location ≠ output.toNat → location ≠ output.toNat + 1 →
          outcome.machine.memory.cell location = memory.cell location) ∧
    ∀ memory : Memory, memory.size = 20 →
      memory.cells.toList.take 13 =
        (Program.encode (Sample.code operation.instruction)).take 13 →
      ∃ final, Sample.finalMemory memory = .ok final ∧
        ((Sample.output final).toNat : Int) =
          operation.value (memory.word 0x10).toNat (memory.word 0x12).toNat % 2 ^ 16 := by
  constructor
  · intro memory left right output hcode hleft hright houtput hbefore hhalt outcome
    obtain ⟨hresult, hsteps, hmemory⟩ :=
      Calculation.run_eq operation left right output hcode hleft hright houtput hbefore hhalt
    refine ⟨hresult, hsteps, ?_, ?_, ?_⟩
    · rw [hmemory, Memory.word_setWord _ _ _ houtput, Operation.toNat_word]
    · rw [hmemory, Memory.size_setWord]
    · intro location hlow hhigh
      rw [hmemory, Memory.cell_setWord _ _ _ _ houtput, if_neg hlow, if_neg hhigh]
  · intro memory hsize hcode
    obtain ⟨hresult, -, hmemory⟩ := Calculation.run_eq operation 0x10 0x12 Sample.outputAddress
      hcode (by rw [hsize]; decide) (by rw [hsize]; decide) (by rw [hsize]; decide) (by decide)
      (by decide)
    refine ⟨_, by rw [Sample.finalMemory, hresult]; rfl, ?_⟩
    rw [hmemory, Sample.output, Memory.word_setWord _ _ _ (by rw [hsize]; decide),
      Operation.toNat_word]

/-- The first slot is the beginning of the code, the second one ends with the opcode of the halt,
and the result is stored over the store itself. A reference program runs with other bytes than
zeros around its slots. -/
theorem calculation_stores_result_over_itself :
    let memory : Memory := ⟨#[0x01, 1, 0, 0x01, 2, 11, 0x04, 1, 2, 0x02, 1, 9, 0xff], by decide⟩
    let image : Memory :=
      ⟨#[0x01, 1, 0x10, 0x01, 2, 0x12, 0x04, 1, 2, 0x02, 1, 0x0e, 0xff, 7, 7, 7, 0, 0, 1, 0],
        by decide⟩
    memory.cells.toList.take 13 = (Program.encode (calculation .difference 0 11 9)).take 13 ∧
      (Machine.start memory {}).run.result = .ok .halted ∧
      (Machine.start memory {}).run.machine.steps = 5 ∧
      (((Machine.start memory {}).run.machine.memory.word 9).toNat : Int) =
        (0x0101 - 0xff09) % 2 ^ 16 ∧
      (Machine.start memory {}).run.machine.memory.cell 11 = 9 ∧
      image.cells.toList.take 13 =
        (Program.encode (Sample.code Operation.difference.instruction)).take 13 ∧
      ∃ final, Sample.finalMemory image = .ok final ∧
        ((Sample.output final).toNat : Int) = (0 - 1) % 2 ^ 16 := by
  intro memory image
  obtain ⟨hcalculation, hreference⟩ := calculation_stores_result .difference
  have hcode : memory.cells.toList.take 13 =
      (Program.encode (calculation .difference 0 11 9)).take 13 := by decide
  obtain ⟨hresult, hsteps, hword, -, hcell⟩ := hcalculation memory 0 11 9 hcode (by decide)
    (by decide) (by decide) (by decide) (by decide)
  have himage : image.cells.toList.take 13 =
      (Program.encode (Sample.code Operation.difference.instruction)).take 13 := by decide
  obtain ⟨final, hfinal, houtput⟩ := hreference image (by decide) himage
  have hleft : memory.word 0 = 0x0101 := by decide
  have hright : memory.word 11 = 0xff09 := by decide
  have hinputs : image.word 0x10 = 0 ∧ image.word 0x12 = 1 := by decide
  rw [hleft, hright] at hword
  rw [hinputs.1, hinputs.2] at houtput
  exact ⟨hcode, hresult, hsteps, hword, hcell 11 (by decide) (by decide), himage, final, hfinal,
    houtput⟩

/-- The reference programs end with the results that are expected of them. -/
example : Sample.all.map (fun sample => (Sample.finalMemory sample.memory).toOption.map
    Sample.output) = Sample.all.map (fun sample => some sample.expected) := by decide

end TaggedMachine
