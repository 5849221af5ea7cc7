import TaggedMachine.Proofs.Execution

/-!
Cells that are not read do not matter. A step reads the cells that it fetches and the
word that a load asks for, and writes the word of a store. Two executions that differ
only in cells which the first of them does not read, or reads after it has written
them, take the same steps: a cell that has been written is the same in both, and every
other cell is as each of them had it at first.
-/
namespace TaggedMachine

open Parameters

namespace Machine

instance (machine : Machine) : Decidable machine.Active :=
  inferInstanceAs (Decidable (_ ∧ _))

/-- The instruction that the next step dispatches, if it gets as far. -/
def dispatched? (machine : Machine) : Option Instruction :=
  if machine.Active then
    match machine.fetch with
    | .ok (.instruction instruction) => some instruction
    | _ => none
  else none

/-- The opcode, and the operands unless the opcode is that of a halt or one of them is
missing. -/
def fetchedCells (machine : Machine) : List Nat :=
  let pc := machine.registers.pc
  if ¬ machine.Active ∨ machine.memory.size ≤ pc then []
  else if machine.memory.cell pc = Opcode.halt.tag ∨ machine.memory.size ≤ pc + 2 then [pc]
  else [pc, pc + 1, pc + 2]

def wordCells (machine : Machine) (address : UInt8) : List Nat :=
  if address.toNat + 1 < machine.memory.size then [address.toNat, address.toNat + 1] else []

/-- The cells that the next step reads. -/
def reads (machine : Machine) : List Nat :=
  match machine.dispatched? with
  | some (.load _ address) => machine.fetchedCells ++ machine.wordCells address
  | _ => machine.fetchedCells

/-- The cells that the next step writes. -/
def writes (machine : Machine) : List Nat :=
  match machine.dispatched? with
  | some (.store register address) =>
    if register.toNat < registerCount then machine.wordCells address else []
  | _ => []

/-- The cells that the first `n` steps write. -/
def written (machine : Machine) (n : Nat) : List Nat :=
  (List.range n).flatMap fun i => (machine.afterSteps i).writes

/-- The cells that the first `n` steps read before they have written them. -/
def demanded (machine : Machine) (n : Nat) : List Nat :=
  (List.range n).flatMap fun i =>
    (machine.afterSteps i).reads.filter fun location => location ∉ machine.written i

def withMemory (machine : Machine) (memory : Memory) : Machine :=
  { machine with memory := memory }

end Machine

def Outcome.withMemory (outcome : Outcome) (memory : Memory) : Outcome :=
  { outcome with machine := outcome.machine.withMemory memory }

namespace Machine

variable {machine : Machine} {memory : Memory}

theorem written_succ (machine : Machine) (n : Nat) :
    machine.written (n + 1) = machine.written n ++ (machine.afterSteps n).writes := by
  simp [written, List.range_succ]

theorem demanded_succ (machine : Machine) (n : Nat) :
    machine.demanded (n + 1) = machine.demanded n ++
      (machine.afterSteps n).reads.filter fun location => location ∉ machine.written n := by
  simp [demanded, List.range_succ]

theorem dispatched?_eq_some_iff (machine : Machine) (instruction : Instruction) :
    machine.dispatched? = some instruction ↔
      machine.Active ∧ machine.fetch = .ok (.instruction instruction) := by
  unfold dispatched?
  constructor
  · intro h
    split at h
    · rename_i hactive
      split at h
      · rename_i fetched hfetch
        cases h
        exact ⟨hactive, hfetch⟩
      · contradiction
    · contradiction
  · rintro ⟨hactive, hfetch⟩
    simp only [if_pos hactive, hfetch]

theorem fetchedCells_subset_reads (machine : Machine) : machine.fetchedCells ⊆ machine.reads := by
  unfold reads
  split
  · exact List.subset_append_left _ _
  · exact List.Subset.refl _

theorem mem_wordCells_iff (machine : Machine) (address : UInt8) (location : Nat) :
    location ∈ machine.wordCells address ↔ address.toNat + 1 < machine.memory.size ∧
      (location = address.toNat ∨ location = address.toNat + 1) := by
  unfold wordCells
  by_cases h : address.toNat + 1 < machine.memory.size
  · simp [h]
  · simp [h]

theorem opcode_mem_fetchedCells (hactive : machine.Active)
    (hpc : machine.registers.pc < machine.memory.size) :
    machine.registers.pc ∈ machine.fetchedCells := by
  unfold fetchedCells
  rw [if_neg (by simp [hactive, hpc])]
  split <;> exact List.mem_cons_self

theorem operands_mem_fetchedCells (hactive : machine.Active)
    (hpc : machine.registers.pc + 2 < machine.memory.size)
    (htag : machine.memory.cell machine.registers.pc ≠ Opcode.halt.tag) :
    machine.registers.pc + 1 ∈ machine.fetchedCells ∧
      machine.registers.pc + 2 ∈ machine.fetchedCells := by
  have hstart : machine.registers.pc < machine.memory.size := by omega
  unfold fetchedCells
  rw [if_neg (by simp [hactive, hstart]), if_neg (by simp [htag, hpc])]
  simp

/-- Writing a word puts the same bytes into the cells that it writes, whatever the
memory. -/
theorem cell_of_mem_wordCells {address : UInt8} {location : Nat} (word : UInt16)
    (hsize : memory.size = machine.memory.size) (h : location ∈ machine.wordCells address) :
    (memory.setWord address word).cell location =
      (machine.memory.setWord address word).cell location := by
  obtain ⟨hfits, hlocation⟩ := (machine.mem_wordCells_iff address location).mp h
  rw [Memory.cell_setWord _ _ _ _ (hsize ▸ hfits), Memory.cell_setWord _ _ _ _ hfits]
  rcases hlocation with rfl | rfl
  · rw [if_pos rfl, if_pos rfl]
  · rw [if_neg (by omega), if_pos rfl, if_neg (by omega), if_pos rfl]

theorem word_congr {address : UInt8} (hfits : address.toNat + 1 < machine.memory.size)
    (hcells : ∀ location ∈ machine.wordCells address,
      memory.cell location = machine.memory.cell location) :
    memory.word address = machine.memory.word address := by
  have hlow := hcells _ ((machine.mem_wordCells_iff address _).mpr ⟨hfits, Or.inl rfl⟩)
  have hhigh := hcells _ ((machine.mem_wordCells_iff address _).mpr ⟨hfits, Or.inr rfl⟩)
  apply UInt16.toNat_inj.mp
  rw [Memory.toNat_word, Memory.toNat_word, hlow, hhigh]

/-- What an instruction stands for depends on the cells that its step reads. -/
theorem intended_withMemory {instruction : Instruction} (hactive : machine.Active)
    (hfetch : machine.fetch = .ok (.instruction instruction))
    (hfits : instruction.Fits machine.memory.size)
    (hcells : ∀ location ∈ machine.reads,
      memory.cell location = machine.memory.cell location) :
    (machine.withMemory memory).intended instruction = machine.intended instruction := by
  cases instruction with
  | load register address =>
    have hdispatched := (machine.dispatched?_eq_some_iff _).mpr ⟨hactive, hfetch⟩
    have hword : memory.word address = machine.memory.word address := by
      refine word_congr hfits.2 fun location hmem => hcells location ?_
      simp only [reads, hdispatched]
      exact List.mem_append_right _ hmem
    simp only [intended, withMemory, hword]
  | _ => rfl

theorem mem_writes_iff_of_store {id address : UInt8} (hactive : machine.Active)
    (hfetch : machine.fetch = .ok (.instruction (.store id address)))
    (hfits : (Instruction.store id address).Fits machine.memory.size) (location : Nat) :
    location ∈ machine.writes ↔ location = address.toNat ∨ location = address.toNat + 1 := by
  have hdispatched := (machine.dispatched?_eq_some_iff _).mpr ⟨hactive, hfetch⟩
  simp only [writes, hdispatched, if_pos hfits.1, mem_wordCells_iff, hfits.2, true_and]

/-- A step writes nothing unless it is a store that succeeds. -/
theorem writes_eq_nil_or_stores (machine : Machine) :
    machine.writes = [] ∨ ∃ id address, machine.Active ∧
      machine.fetch = .ok (.instruction (.store id address)) ∧
      (Instruction.store id address).Fits machine.memory.size := by
  unfold writes
  split
  · rename_i id address hdispatched
    obtain ⟨hactive, hfetch⟩ := (machine.dispatched?_eq_some_iff _).mp hdispatched
    by_cases hid : id.toNat < registerCount
    · by_cases haddress : address.toNat + 1 < machine.memory.size
      · exact Or.inr ⟨id, address, hactive, hfetch, hid, haddress⟩
      · exact Or.inl (by rw [if_pos hid, wordCells, if_neg haddress])
    · exact Or.inl (if_neg hid)
  · exact Or.inl rfl

theorem cell_step_of_not_mem_writes (machine : Machine) {location : Nat}
    (h : location ∉ machine.writes) :
    machine.step.machine.memory.cell location = machine.memory.cell location := by
  have htransition := machine.transition_step
  generalize machine.step = outcome at htransition ⊢
  cases htransition with
  | stores id address hactive hfetch hfits =>
    rw [mem_writes_iff_of_store hactive hfetch hfits, not_or] at h
    simp only [apply, advance]
    rw [Memory.cell_setWord _ _ _ _ hfits.2, if_neg h.1, if_neg h.2]
  | _ => rfl

theorem active_withMemory (machine : Machine) (memory : Memory) :
    (machine.withMemory memory).Active ↔ machine.Active := Iff.rfl

theorem wordCells_withMemory (hsize : memory.size = machine.memory.size) (address : UInt8) :
    (machine.withMemory memory).wordCells address = machine.wordCells address := by
  simp only [wordCells, withMemory, hsize]

section OtherMemory

variable (hsize : memory.size = machine.memory.size)
  (hcells : ∀ location ∈ machine.reads, memory.cell location = machine.memory.cell location)

include hsize hcells

/-- A fetch depends on the cells that the step reads and on nothing else in memory. -/
theorem fetch_withMemory (hactive : machine.Active) :
    (machine.withMemory memory).fetch = machine.fetch := by
  have hfetched : ∀ location ∈ machine.fetchedCells,
      memory.cell location = machine.memory.cell location := fun location hmem =>
    hcells location (machine.fetchedCells_subset_reads hmem)
  rw [fetch_eq, fetch_eq]
  simp only [withMemory, hsize]
  by_cases hpc : machine.memory.size ≤ machine.registers.pc
  · simp only [if_pos hpc]
  · have hopcode := hfetched _ (opcode_mem_fetchedCells hactive (Nat.lt_of_not_le hpc))
    simp only [if_neg hpc, hopcode]
    by_cases htag : machine.memory.cell machine.registers.pc = Opcode.halt.tag
    · simp only [if_pos htag]
    · simp only [if_neg htag]
      by_cases hshort : machine.memory.size ≤ machine.registers.pc + 2
      · simp only [if_pos hshort]
      · obtain ⟨hleft, hright⟩ :=
          operands_mem_fetchedCells hactive (Nat.lt_of_not_le hshort) htag
        simp only [if_neg hshort, hfetched _ hleft, hfetched _ hright]

theorem dispatched?_withMemory :
    (machine.withMemory memory).dispatched? = machine.dispatched? := by
  unfold dispatched?
  by_cases hactive : machine.Active
  · rw [fetch_withMemory hsize hcells hactive, if_pos hactive,
      if_pos ((machine.active_withMemory memory).mpr hactive)]
  · rw [if_neg hactive, if_neg (mt (machine.active_withMemory memory).mp hactive)]

theorem writes_withMemory : (machine.withMemory memory).writes = machine.writes := by
  simp only [writes, dispatched?_withMemory hsize hcells, wordCells_withMemory hsize]

/-- A step that writes nothing leaves another memory alone as well. -/
theorem step_withMemory_of_writes_eq_nil (hnil : machine.writes = []) :
    (machine.withMemory memory).step = machine.step.withMemory memory := by
  have hfetches := fetch_withMemory hsize hcells
  have htransition := machine.transition_step
  apply Transition.step_eq
  generalize machine.step = outcome at htransition ⊢
  cases htransition with
  | rests hhalted => exact .rests hhalted
  | budgetSpent budget hrunning hbudget => exact .budgetSpent budget hrunning hbudget
  | fetchFails overrun hactive hfetch =>
    exact .fetchFails overrun hactive ((hfetches hactive).trans hfetch)
  | ignores opcode hactive hfetch hpolicy =>
    exact .ignores opcode hactive ((hfetches hactive).trans hfetch) hpolicy
  | rejects opcode hactive hfetch hpolicy =>
    exact .rejects opcode hactive ((hfetches hactive).trans hfetch) hpolicy
  | effectFails instruction overrun hactive hfetch hoverrun =>
    refine .effectFails instruction overrun hactive ((hfetches hactive).trans hfetch) ?_
    simpa only [withMemory, hsize] using hoverrun
  | sets instruction register word hactive hfetch hfits hset =>
    refine .sets instruction register word hactive ((hfetches hactive).trans hfetch) ?_ ?_
    · simpa only [withMemory, hsize] using hfits
    · rw [intended_withMemory hactive hfetch hfits hcells, hset]
  | stores id address hactive hfetch hfits =>
    have hmem := (mem_writes_iff_of_store hactive hfetch hfits _).mpr (Or.inl rfl)
    rw [hnil] at hmem
    contradiction
  | halts hactive hfetch => exact .halts hactive ((hfetches hactive).trans hfetch)

/-- One step of two executions: it does the same in both and writes the same bytes. -/
theorem step_withMemory :
    ∃ memory', (machine.withMemory memory).step = machine.step.withMemory memory' ∧
      ∀ location ∈ machine.writes,
        memory'.cell location = machine.step.machine.memory.cell location := by
  rcases machine.writes_eq_nil_or_stores with hnil | ⟨id, address, hactive, hfetch, hfits⟩
  · refine ⟨memory, step_withMemory_of_writes_eq_nil hsize hcells hnil, ?_⟩
    simp [hnil]
  · have hactive' : (machine.withMemory memory).Active := hactive
    have hfetch' : (machine.withMemory memory).fetch = .ok (.instruction (.store id address)) :=
      (fetch_withMemory hsize hcells hactive).trans hfetch
    have hfits' : (Instruction.store id address).Fits (machine.withMemory memory).memory.size := by
      simpa only [withMemory, hsize] using hfits
    refine ⟨memory.setWord address (machine.registers.get (.ofId id)), ?_, ?_⟩
    · rw [(Transition.stores id address hactive hfetch hfits).step_eq,
        (Transition.stores id address hactive' hfetch' hfits').step_eq]
      rfl
    · intro location hmem
      rw [(Transition.stores id address hactive hfetch hfits).step_eq]
      refine cell_of_mem_wordCells _ hsize ?_
      rw [mem_wordCells_iff]
      exact ⟨hfits.2, (mem_writes_iff_of_store hactive hfetch hfits location).mp hmem⟩

end OtherMemory

theorem cell_afterSteps_of_not_mem_written (machine : Machine) {n location : Nat}
    (h : location ∉ machine.written n) :
    (machine.afterSteps n).memory.cell location = machine.memory.cell location := by
  induction n with
  | zero => rfl
  | succ n ih =>
    rw [written_succ, List.mem_append, not_or] at h
    rw [afterSteps_succ, cell_step_of_not_mem_writes _ h.2, ih h.1]

/-- After `n` steps an execution differs from the one with another memory in its memory
alone, and there only in cells that neither has written. -/
structure Lockstep (machine : Machine) (memory : Memory) (n : Nat) : Prop where
  alike : (machine.withMemory memory).afterSteps n =
    (machine.afterSteps n).withMemory ((machine.withMemory memory).afterSteps n).memory
  written : (machine.withMemory memory).written n = machine.written n
  agree : ∀ location ∈ machine.written n,
    ((machine.withMemory memory).afterSteps n).memory.cell location =
      (machine.afterSteps n).memory.cell location

namespace Lockstep

variable {n : Nat}

/-- The next step reads alike: what it reads has been written, or was alike at first. -/
theorem reads (h : machine.Lockstep memory n)
    (hcells : ∀ location ∈ machine.demanded (n + 1),
      memory.cell location = machine.memory.cell location) :
    ∀ location ∈ (machine.afterSteps n).reads,
      ((machine.withMemory memory).afterSteps n).memory.cell location =
        (machine.afterSteps n).memory.cell location := by
  intro location hread
  by_cases hwritten : location ∈ machine.written n
  · exact h.agree location hwritten
  · have hdemanded : location ∈ machine.demanded (n + 1) := by
      rw [demanded_succ, List.mem_append, List.mem_filter]
      exact Or.inr ⟨hread, by simpa using hwritten⟩
    have hwritten' : location ∉ (machine.withMemory memory).written n := by
      rw [h.written]
      exact hwritten
    rw [cell_afterSteps_of_not_mem_written _ hwritten,
      cell_afterSteps_of_not_mem_written _ hwritten']
    exact hcells location hdemanded

theorem step (h : machine.Lockstep memory n) (hsize : memory.size = machine.memory.size)
    (hcells : ∀ location ∈ machine.demanded (n + 1),
      memory.cell location = machine.memory.cell location) :
    (∃ memory', ((machine.withMemory memory).afterSteps n).step =
      (machine.afterSteps n).step.withMemory memory') ∧ machine.Lockstep memory (n + 1) := by
  have hsize' : ((machine.withMemory memory).afterSteps n).memory.size =
      (machine.afterSteps n).memory.size := by
    rw [size_afterSteps, size_afterSteps]
    exact hsize
  have hreads := h.reads hcells
  obtain ⟨memory', hstep, hagree⟩ := step_withMemory hsize' hreads
  have hwrites := writes_withMemory hsize' hreads
  rw [← h.alike] at hstep hwrites
  refine ⟨⟨memory', hstep⟩, ?_, ?_, ?_⟩
  · rw [afterSteps_succ, afterSteps_succ, hstep]
    rfl
  · rw [written_succ, written_succ, h.written, hwrites]
  · intro location hwritten
    rw [afterSteps_succ, afterSteps_succ]
    -- the last step writes the same bytes; what it does not write was written before it
    by_cases hlast : location ∈ (machine.afterSteps n).writes
    · rw [hstep]
      exact hagree location hlast
    · have hlast' : location ∉ ((machine.withMemory memory).afterSteps n).writes := by
        rw [hwrites]
        exact hlast
      rw [written_succ, List.mem_append] at hwritten
      rw [cell_step_of_not_mem_writes _ hlast, cell_step_of_not_mem_writes _ hlast']
      exact h.agree location (hwritten.resolve_right hlast)

end Lockstep

theorem demanded_subset (machine : Machine) {m n : Nat} (h : m ≤ n) :
    machine.demanded m ⊆ machine.demanded n := by
  intro location hmem
  obtain ⟨i, hi, hread⟩ := List.mem_flatMap.mp hmem
  have hlt := Nat.lt_of_lt_of_le (List.mem_range.mp hi) h
  exact List.mem_flatMap.mpr ⟨i, List.mem_range.mpr hlt, hread⟩

theorem lockstep_of_demanded {n : Nat} (hsize : memory.size = machine.memory.size)
    (hcells : ∀ location ∈ machine.demanded n,
      memory.cell location = machine.memory.cell location) : machine.Lockstep memory n := by
  induction n with
  | zero => exact ⟨rfl, rfl, fun location hwritten => absurd hwritten List.not_mem_nil⟩
  | succ n ih =>
    have hbefore := ih fun location hmem =>
      hcells location (machine.demanded_subset (Nat.le_succ n) hmem)
    exact (hbefore.step hsize hcells).2

/-- Executions from memories that agree on the cells which the first `n` steps read before
they write them take the same `n` steps. Afterwards the memories agree on the cells that
were written, and every other cell is as it was at first. -/
theorem unread_cells_do_not_matter (machine : Machine) (memory : Memory) (n : Nat)
    (hsize : memory.size = machine.memory.size)
    (hcells : ∀ location ∈ machine.demanded n,
      memory.cell location = machine.memory.cell location) :
    let other := machine.withMemory memory
    (∀ i < n,
      (other.afterSteps i).step.result = (machine.afterSteps i).step.result ∧
      (other.afterSteps i).step.events = (machine.afterSteps i).step.events) ∧
    (∀ i ≤ n,
      (other.afterSteps i).registers = (machine.afterSteps i).registers ∧
      (other.afterSteps i).steps = (machine.afterSteps i).steps ∧
      (other.afterSteps i).status = (machine.afterSteps i).status) ∧
    other.written n = machine.written n ∧
    (∀ location ∈ machine.written n,
      (other.afterSteps n).memory.cell location =
        (machine.afterSteps n).memory.cell location) ∧
    ∀ location ∉ machine.written n,
      (machine.afterSteps n).memory.cell location = machine.memory.cell location ∧
      (other.afterSteps n).memory.cell location = memory.cell location := by
  intro other
  have hlockstep : ∀ i ≤ n, machine.Lockstep memory i := fun i hi =>
    lockstep_of_demanded hsize fun location hmem =>
      hcells location (machine.demanded_subset hi hmem)
  have hwritten := (hlockstep n (Nat.le_refl n)).written
  refine ⟨?_, ?_, hwritten, (hlockstep n (Nat.le_refl n)).agree, ?_⟩
  · intro i hi
    have hcells' : ∀ location ∈ machine.demanded (i + 1),
        memory.cell location = machine.memory.cell location := fun location hmem =>
      hcells location (machine.demanded_subset hi hmem)
    obtain ⟨memory', hstep⟩ := ((hlockstep i (Nat.le_of_lt hi)).step hsize hcells').1
    rw [hstep]
    exact ⟨rfl, rfl⟩
  · intro i hi
    rw [(hlockstep i hi).alike]
    exact ⟨rfl, rfl, rfl⟩
  · intro location hlocation
    refine ⟨cell_afterSteps_of_not_mem_written machine hlocation, ?_⟩
    refine cell_afterSteps_of_not_mem_written other ?_
    rw [hwritten]
    exact hlocation

/-- The second instruction loads what the first has stored, and the halt has no operands:
the last two cells may be anything. -/
theorem unread_cells_do_not_matter_after_store :
    let machine := start ⟨#[0x02, 0, 7, 0x01, 1, 7, 0xff, 5, 6], by decide⟩ {}
    let memory : Memory := ⟨#[0x02, 0, 7, 0x01, 1, 7, 0xff, 9, 8], by decide⟩
    memory.size = machine.memory.size ∧
      (∀ location ∈ machine.demanded 3,
        memory.cell location = machine.memory.cell location) ∧
      ∀ location ∈ machine.written 3,
        ((machine.withMemory memory).afterSteps 3).memory.cell location =
          (machine.afterSteps 3).memory.cell location := by
  intro machine memory
  have hdemanded : machine.demanded 3 = [0, 1, 2, 3, 4, 5, 6] := by cbv
  have hcells : ∀ location ∈ machine.demanded 3,
      memory.cell location = machine.memory.cell location := by
    rw [hdemanded]
    decide
  exact ⟨rfl, hcells, (unread_cells_do_not_matter machine memory 3 rfl hcells).2.2.2.1⟩

end Machine

end TaggedMachine
