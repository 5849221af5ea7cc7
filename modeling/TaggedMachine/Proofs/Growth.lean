import TaggedMachine.Proofs.Execution

/-!
Growing the memory. A machine with more cells behind the ones it had does the same as
before wherever no cell was missing: it fetches the same, an instruction that fits still
fits and has the same effect, and a register that does not exist is still the first thing
missing. So an execution is repeated over a larger memory step by step, with the added
cells untouched, up to the first access to a cell that the smaller memory does not have.
-/
namespace TaggedMachine

open Parameters

/-- A failure that is due to a cell the memory does not have. -/
def Fault.OfMissingCell : Fault → Prop
  | .outOfBounds (.register _) => False
  | .outOfBounds _ => True
  | .unknownOpcode .. => False
  | .budgetSpent _ => False

/-- `grown` has the cells of the memory, and behind them those of `tail`. -/
def Memory.Grows (memory : Memory) (tail : Array UInt8) (grown : Memory) : Prop :=
  grown.cells = memory.cells ++ tail

/-- The machines differ only in the cells of `tail` behind those of the first. -/
def Machine.Grows (machine : Machine) (tail : Array UInt8) (larger : Machine) : Prop :=
  ∃ grown, machine.memory.Grows tail grown ∧ larger = { machine with memory := grown }

/-- The same reports and the same result, with machines that differ only in `tail`. -/
structure Outcome.Grows (outcome : Outcome) (tail : Array UInt8) (larger : Outcome) : Prop where
  machine : outcome.machine.Grows tail larger.machine
  events : larger.events = outcome.events
  result : larger.result = outcome.result

namespace Memory.Grows

variable {memory grown : Memory} {tail : Array UInt8}

theorem size_le (h : memory.Grows tail grown) : memory.size ≤ grown.size := by
  unfold size
  rw [h, Array.size_append]
  exact Nat.le_add_right _ _

theorem cell_eq (h : memory.Grows tail grown) {location : Nat}
    (hlocation : location < memory.size) :
    grown.cell location = memory.cell location := by
  unfold cell
  rw [h, Array.getD_eq_getD_getElem?, Array.getD_eq_getD_getElem?,
    Array.getElem?_append_left hlocation]

theorem word_eq (h : memory.Grows tail grown) {address : UInt8}
    (hfits : address.toNat + 1 < memory.size) : grown.word address = memory.word address := by
  apply UInt16.toNat_inj.mp
  rw [toNat_word, toNat_word, h.cell_eq hfits, h.cell_eq (Nat.lt_of_succ_lt hfits)]

theorem setCell (h : memory.Grows tail grown) {location : Nat} (byte : UInt8)
    (hlocation : location < memory.size) :
    (memory.setCell location byte).Grows tail (grown.setCell location byte) := by
  have hcells : (grown.setCell location byte).cells = grown.cells.setIfInBounds location byte := rfl
  unfold Grows
  rw [hcells, h, Array.setIfInBounds_append_left hlocation]
  rfl

theorem write (h : memory.Grows tail grown) {start : Nat} {bytes : List UInt8}
    (hfits : start + bytes.length ≤ memory.size) :
    (memory.write start bytes).Grows tail (grown.write start bytes) := by
  induction bytes generalizing memory grown start with
  | nil => exact h
  | cons byte rest ih =>
    rw [List.length_cons] at hfits
    refine ih (h.setCell byte (by omega)) ?_
    rw [size_setCell]
    omega

theorem setWord (h : memory.Grows tail grown) {address : UInt8} (word : UInt16)
    (hfits : address.toNat + 1 < memory.size) :
    (memory.setWord address word).Grows tail (grown.setWord address word) := by
  refine h.write ?_
  rw [LittleEndian.length_encode]
  exact hfits

end Memory.Grows

namespace Instruction

variable {size size' : Nat}

theorem Fits.mono {instruction : Instruction} (h : instruction.Fits size) (hsize : size ≤ size') :
    instruction.Fits size' := by
  cases instruction with
  | load register address => exact ⟨h.1, Nat.lt_of_lt_of_le h.2 hsize⟩
  | store register address => exact ⟨h.1, Nat.lt_of_lt_of_le h.2 hsize⟩
  | add left right => exact h
  | sub left right => exact h
  | halt => exact h

theorem missingWord?_of_le {address : UInt8} {overrun : Nat → Overrun}
    (h : missingWord? size address overrun = none) (hsize : size ≤ size') :
    missingWord? size' address overrun = none := by
  rw [missingWord?_eq_none_iff] at h ⊢
  exact Nat.lt_of_lt_of_le h hsize

/-- A register that is the first thing missing is so in a larger memory as well. -/
theorem overrun?_register_mono {instruction : Instruction} {id : UInt8}
    (h : instruction.overrun? size = some (.register id)) (hsize : size ≤ size') :
    instruction.overrun? size' = some (.register id) := by
  cases instruction with
  | load register address =>
    -- a missing word would come first and be no register
    cases hword : missingWord? size address .load with
    | some overrun =>
      have hoverrun : overrun = .load (max address.toNat size) := by
        unfold missingWord? at hword
        split at hword <;> cases hword
        rfl
      simp [overrun?, hword, hoverrun] at h
    | none =>
      rw [overrun?, missingWord?_of_le hword hsize]
      rwa [overrun?, hword] at h
  | store register address =>
    cases hregister : missingRegister? register with
    | some overrun =>
      rw [overrun?, hregister, Option.some_or] at h ⊢
      exact h
    | none =>
      rw [overrun?, hregister, Option.none_or, missingWord?] at h
      split at h <;> cases h
  | add left right => exact h
  | sub left right => exact h
  | halt => exact h

end Instruction

namespace Machine

variable {machine larger : Machine} {tail : Array UInt8}

/-- A fetch that succeeds finds the same in a larger memory. -/
theorem fetch_of_grows (h : machine.Grows tail larger) {fetched : Fetched}
    (hfetch : machine.fetch = .ok fetched) : larger.fetch = .ok fetched := by
  obtain ⟨grown, hgrown, rfl⟩ := h
  have hsize := hgrown.size_le
  rw [fetch_eq_ok_iff] at hfetch ⊢
  cases hfetch with
  | halt hpc htag =>
    exact .halt (Nat.lt_of_lt_of_le hpc hsize) ((hgrown.cell_eq hpc).trans htag)
  | instruction hpc htag hdecode =>
    have hopcode : grown.cell machine.registers.pc = _ := hgrown.cell_eq (by omega)
    have hleft : grown.cell (machine.registers.pc + 1) = _ := hgrown.cell_eq (by omega)
    refine .instruction (Nat.lt_of_lt_of_le hpc hsize) (by rwa [hopcode]) ?_
    rw [hopcode, hleft, hgrown.cell_eq hpc, hdecode]
  | unknown hpc htag hdecode =>
    have hopcode : grown.cell machine.registers.pc = _ := hgrown.cell_eq (by omega)
    have hleft : grown.cell (machine.registers.pc + 1) = _ := hgrown.cell_eq (by omega)
    rw [← hopcode] at htag ⊢
    refine .unknown (Nat.lt_of_lt_of_le hpc hsize) htag ?_
    rw [hopcode, hleft, hgrown.cell_eq hpc, hdecode]

/-- A fetch is refused for a cell that is missing. -/
theorem ofMissingCell_of_fetch {overrun : Overrun} (h : machine.fetch = .error overrun) :
    (Fault.outOfBounds overrun).OfMissingCell := by
  rw [fetch_eq] at h
  dsimp only at h
  split at h
  · cases h
    trivial
  · split at h
    · contradiction
    · split at h
      · cases h
        trivial
      · split at h <;> contradiction

theorem intended_of_grows {grown : Memory} (h : machine.memory.Grows tail grown)
    {instruction : Instruction} (hfits : instruction.Fits machine.memory.size) :
    { machine with memory := grown }.intended instruction = machine.intended instruction := by
  cases instruction with
  | load register address => rw [intended, intended, h.word_eq hfits.2]
  | _ => rfl

theorem Transition.grows {outcome other : Outcome} (h : larger.Transition other)
    (hgrows : outcome.Grows tail other) : outcome.Grows tail larger.step := by
  rw [h.step_eq]
  exact hgrows

/-- One step of two machines: unless the smaller one misses a cell, the larger one does the
same, and what they store they store alike. -/
theorem step_grows (h : machine.Grows tail larger)
    (hfault : ∀ fault, machine.step.result = .error fault → ¬ fault.OfMissingCell) :
    machine.step.Grows tail larger.step := by
  have hfetches : ∀ fetched, machine.fetch = .ok fetched → larger.fetch = .ok fetched :=
    fun _ => fetch_of_grows h
  obtain ⟨grown, hgrown, rfl⟩ := h
  have hsize := hgrown.size_le
  have htransition := machine.transition_step
  generalize machine.step = outcome at htransition hfault ⊢
  cases htransition with
  | rests hhalted =>
    exact Transition.grows (.rests hhalted) ⟨⟨grown, hgrown, rfl⟩, rfl, rfl⟩
  | budgetSpent budget hrunning hbudget =>
    exact Transition.grows (.budgetSpent budget hrunning hbudget) ⟨⟨grown, hgrown, rfl⟩, rfl, rfl⟩
  | fetchFails overrun hactive hfetch =>
    exact absurd (ofMissingCell_of_fetch hfetch) (hfault _ rfl)
  | ignores opcode hactive hfetch hpolicy =>
    exact Transition.grows (.ignores opcode hactive (hfetches _ hfetch) hpolicy)
      ⟨⟨grown, hgrown, rfl⟩, rfl, rfl⟩
  | rejects opcode hactive hfetch hpolicy =>
    exact Transition.grows (.rejects opcode hactive (hfetches _ hfetch) hpolicy)
      ⟨⟨grown, hgrown, rfl⟩, rfl, rfl⟩
  | effectFails instruction overrun hactive hfetch hoverrun =>
    have hregister := hfault _ rfl
    cases overrun with
    | register id =>
      have hoverrun' := Instruction.overrun?_register_mono hoverrun hsize
      exact Transition.grows (.effectFails instruction _ hactive (hfetches _ hfetch) hoverrun')
        ⟨⟨grown, hgrown, rfl⟩, rfl, rfl⟩
    | _ => exact absurd trivial hregister
  | sets instruction register word hactive hfetch hfits hset =>
    have hset' := (intended_of_grows hgrown hfits).trans hset
    exact Transition.grows
      (.sets instruction register word hactive (hfetches _ hfetch) (hfits.mono hsize) hset')
      ⟨⟨grown, hgrown, by cases register <;> rfl⟩, rfl, rfl⟩
  | stores id address hactive hfetch hfits =>
    exact Transition.grows (.stores id address hactive (hfetches _ hfetch) (hfits.mono hsize))
      ⟨⟨_, hgrown.setWord _ hfits.2, rfl⟩, rfl, rfl⟩
  | halts hactive hfetch =>
    exact Transition.grows (.halts hactive (hfetches _ hfetch)) ⟨⟨grown, hgrown, rfl⟩, rfl, rfl⟩

theorem GoesOn.not_error {n : Nat} (h : machine.GoesOn n) :
    ∀ i < n, ∀ fault, (machine.afterSteps i).step.result = .error fault →
      ¬ fault.OfMissingCell := by
  exact fun i hi fault hfails => absurd hfails (h.ne_error hi fault)

theorem afterSteps_grows {n : Nat} (h : machine.Grows tail larger)
    (hfault : ∀ i < n, ∀ fault, (machine.afterSteps i).step.result = .error fault →
      ¬ fault.OfMissingCell) :
    (machine.afterSteps n).Grows tail (larger.afterSteps n) := by
  induction n with
  | zero => exact h
  | succ n ih =>
    have hbefore := ih fun i hi => hfault i (Nat.lt_succ_of_lt hi)
    rw [afterSteps_succ, afterSteps_succ]
    exact (step_grows hbefore (hfault n (Nat.lt_succ_self n))).machine

theorem step_afterSteps_grows {n : Nat} (h : machine.Grows tail larger) (hgo : machine.GoesOn n) :
    ∀ i < n, (machine.afterSteps i).step.Grows tail (larger.afterSteps i).step := by
  intro i hi
  refine step_grows (afterSteps_grows h fun j hj => ?_) (hgo.not_error i hi)
  exact hgo.not_error j (Nat.lt_trans hj hi)

theorem status_of_grows (h : machine.Grows tail larger) : larger.status = machine.status := by
  obtain ⟨grown, -, rfl⟩ := h
  rfl

/-- A run that does not end at a missing cell is repeated over the larger memory. -/
theorem runFor_grows (h : machine.Grows tail larger) (limit : Nat)
    (hfault : ∀ fault, (machine.runFor limit).result = .error fault → ¬ fault.OfMissingCell) :
    (machine.runFor limit).Grows tail (larger.runFor limit) := by
  induction limit generalizing machine larger with
  | zero => exact ⟨h, rfl, congrArg Except.ok (status_of_grows h)⟩
  | succ limit ih =>
    by_cases hstep : machine.step.result = .ok .running
    · have hnext : machine.step.Grows tail larger.step := step_grows h (by simp [hstep])
      have hstep' := hnext.result.trans hstep
      simp only [runFor_succ, hstep, hstep'] at hfault ⊢
      have hrest := ih hnext.machine hfault
      refine ⟨hrest.machine, ?_, hrest.result⟩
      simp only [Outcome.after, hnext.events, hrest.events]
    · rw [runFor_succ_of_stop hstep] at hfault ⊢
      have hnext := step_grows h hfault
      have hstep' : larger.step.result ≠ .ok .running := by rwa [hnext.result]
      rwa [runFor_succ_of_stop hstep']

/-- Cells behind the memory make no difference to an execution that ends otherwise than at
a missing cell, and are not touched by it. An execution that ends at a missing cell is
repeated as far as it goes on. -/
theorem growth_preserves_execution (memory grown : Memory) (tail : Array UInt8)
    (options : Options) (hgrown : grown.cells = memory.cells ++ tail) :
    let short := start memory options
    let long := start grown options
    (∀ outcome, short.Ends outcome →
      (∀ fault, outcome.result = .error fault → ¬ fault.OfMissingCell) →
      ∃ larger, long.Ends larger ∧ outcome.Grows tail larger) ∧
    ((∀ fault, short.run.result = .error fault → ¬ fault.OfMissingCell) →
      short.run.Grows tail long.run) ∧
    ∀ k, short.GoesOn k →
      (∀ i < k, (short.afterSteps i).step.Grows tail (long.afterSteps i).step) ∧
      (∀ i ≤ k, (short.afterSteps i).Grows tail (long.afterSteps i)) ∧
      long.reported k = short.reported k := by
  intro short long
  have hgrows : short.Grows tail long := ⟨grown, hgrown, rfl⟩
  refine ⟨?_, runFor_grows hgrows _, fun k hgo => ⟨step_afterSteps_grows hgrows hgo, ?_, ?_⟩⟩
  · rintro outcome ⟨limit, rfl, hresult⟩ hfault
    have hrun := runFor_grows hgrows limit hfault
    exact ⟨_, ⟨limit, rfl, by rwa [hrun.result]⟩, hrun⟩
  · intro i hi
    exact afterSteps_grows hgrows fun j hj => hgo.not_error j (Nat.lt_of_lt_of_le hj hi)
  · exact reported_congr fun i hi => (step_afterSteps_grows hgrows hgo i hi).events

/-- A program that stores over its own operands and halts does so in a larger memory as
well. One that ends with the address of a load asks for a cell beyond it: the larger memory
has done the addition before that alike. -/
theorem growth_preserves_execution_of_store_and_load :
    let storing : Memory := ⟨#[0x02, 0, 1, 0xff], by decide⟩
    let storing' : Memory := ⟨#[0x02, 0, 1, 0xff, 7, 7], by decide⟩
    let loading : Memory := ⟨#[0x03, 1, 2, 0x01, 1, 5], by decide⟩
    let loading' : Memory := ⟨#[0x03, 1, 2, 0x01, 1, 5, 0xff], by decide⟩
    (storing'.cells = storing.cells ++ #[7, 7] ∧ (start storing {}).run.result = .ok .halted ∧
      (start storing {}).run.Grows #[7, 7] (start storing' {}).run) ∧
    loading'.cells = loading.cells ++ #[0xff] ∧
      (start loading {}).run.result = .error (.outOfBounds (.load 6)) ∧
      (start loading {}).GoesOn 1 ∧
      ((start loading {}).afterSteps 1).Grows #[0xff] ((start loading' {}).afterSteps 1) := by
  intro storing storing' loading loading'
  have hstoring : storing'.cells = storing.cells ++ #[7, 7] := rfl
  have hhalts : (start storing {}).run.result = .ok .halted := by cbv
  have hloading : loading'.cells = loading.cells ++ #[0xff] := rfl
  have hresult : (start loading {}).run.result = .error (.outOfBounds (.load 6)) := by cbv
  have hstep : (start loading {}).step.result = .ok .running := by cbv
  have hgo : (start loading {}).GoesOn 1 := (goesOn_succ_iff _ 0).mpr ⟨goesOn_zero _, hstep⟩
  have hstored := growth_preserves_execution storing storing' #[7, 7] {} hstoring
  have hloaded := growth_preserves_execution loading loading' #[0xff] {} hloading
  refine ⟨⟨hstoring, hhalts, hstored.2.1 ?_⟩, hloading, hresult, hgo, ?_⟩
  · intro fault hfails
    cases hhalts.symm.trans hfails
  · exact (hloaded.2.2 1 hgo).2.1 1 (Nat.le_refl 1)

end Machine

end TaggedMachine
