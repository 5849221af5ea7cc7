import TaggedMachine.Proofs.Session

/-!
Stores are all that changes memory. A step changes cells only if it completes a store, and then
the low byte of the word comes to stand at the address and the high byte behind it. After any
number of steps, and so after any calls, a cell therefore holds its byte of the last completed
store that covers it, and what it held at first if there is none. Addresses are bytes, so no
store reaches beyond cell 256.
-/
namespace TaggedMachine

/-- A word that a store has put into memory. -/
structure Stored where
  address : UInt8
  word : UInt16
deriving DecidableEq

namespace Stored

def Covers (stored : Stored) (location : Nat) : Prop :=
  location = stored.address.toNat ∨ location = stored.address.toNat + 1

instance (stored : Stored) (location : Nat) : Decidable (stored.Covers location) :=
  inferInstanceAs (Decidable (_ ∨ _))

/-- The low byte for the addressed cell, the high byte for the next. -/
def byte (stored : Stored) (location : Nat) : UInt8 :=
  if location = stored.address.toNat then stored.word.toUInt8
  else (stored.word / 256).toUInt8

theorem Covers.lt {stored : Stored} {location : Nat} (h : stored.Covers location) :
    location < 257 := by
  have haddress := stored.address.toNat_lt
  unfold Covers at h
  omega

theorem cell_setWord (stored : Stored) {memory : Memory} {location : Nat}
    (hfits : stored.address.toNat + 1 < memory.size) :
    (memory.setWord stored.address stored.word).cell location =
      if stored.Covers location then stored.byte location else memory.cell location := by
  rw [Memory.cell_setWord _ _ _ _ hfits, byte, Memory.highByte_eq]
  by_cases hcovers : stored.Covers location
  · rw [if_pos hcovers]
    rcases hcovers with rfl | rfl
    · rw [if_pos rfl, if_pos rfl]
      rfl
    · rw [if_neg (by omega), if_pos rfl, if_neg (by omega)]
  · obtain ⟨hlow, hhigh⟩ := not_or.mp hcovers
    rw [if_neg hcovers, if_neg hlow, if_neg hhigh]

/-- Where one element may follow a list, it hides the last one of the list if it is kept. -/
theorem getLast?_filter_append_toList {α : Type} (keeps : α → Bool) (earlier : List α)
    (next : Option α) :
    ((earlier ++ next.toList).filter keeps).getLast? =
      (next.filter keeps).or (earlier.filter keeps).getLast? := by
  rw [List.filter_append, List.getLast?_append]
  cases next with
  | none => rfl
  | some element =>
    rw [Option.toList_some, Option.filter_some]
    by_cases h : keeps element
    · rw [List.filter_cons_of_pos h, if_pos h]
      rfl
    · rw [List.filter_cons_of_neg h, if_neg h]
      rfl

end Stored

namespace Machine

/-- What the next step stores, if it dispatches a store and completes it: the value that the
named register has before the step. -/
def stored? (machine : Machine) : Option Stored :=
  match machine.step.events, machine.step.result with
  | [.dispatched _ (.store register address)], .ok .running =>
    some ⟨address, machine.registers.get (.ofId register)⟩
  | _, _ => none

/-- The completed stores of the first `n` steps, in order. -/
def stores (machine : Machine) (n : Nat) : List Stored :=
  (List.range n).filterMap fun i => (machine.afterSteps i).stored?

/-- The last of the completed stores of the first `n` steps that covers a cell. -/
def lastStore? (machine : Machine) (location n : Nat) : Option Stored :=
  ((machine.stores n).filter fun stored => stored.Covers location).getLast?

variable {machine : Machine}

theorem stores_succ (machine : Machine) (n : Nat) :
    machine.stores (n + 1) = machine.stores n ++ (machine.afterSteps n).stored?.toList := by
  rw [stores, List.range_succ, List.filterMap_append]
  cases hstored : (machine.afterSteps n).stored? <;> simp [stores, hstored]

/-- A later store hides the earlier ones from the cells that it covers. -/
theorem lastStore?_succ (machine : Machine) (location n : Nat) :
    machine.lastStore? location (n + 1) =
      ((machine.afterSteps n).stored?.filter fun stored => stored.Covers location).or
        (machine.lastStore? location n) := by
  rw [lastStore?, stores_succ]
  exact Stored.getLast?_filter_append_toList _ _ _

/-- The highest address of a byte covers the cell behind it as well, and no cell further on. -/
theorem lastStore?_eq_none (machine : Machine) {location : Nat} (h : 257 ≤ location) (n : Nat) :
    machine.lastStore? location n = none := by
  refine List.getLast?_eq_none_iff.mpr (List.filter_eq_nil_iff.mpr fun stored _ => ?_)
  have hmiss : ¬ stored.Covers location := fun hcovers => Nat.not_lt.mpr h hcovers.lt
  simpa using hmiss

theorem events_of_stored? {stored : Stored} (h : machine.stored? = some stored) :
    ∃ pc register, machine.step.events = [.dispatched pc (.store register stored.address)] := by
  unfold stored? at h
  split at h
  · rename_i pc register address hevents hresult
    cases h
    exact ⟨pc, register, hevents⟩
  · contradiction

/-- A step puts the bytes of its store into the cells which that covers, and leaves the
others. -/
theorem cell_step (machine : Machine) (location : Nat) :
    machine.step.machine.memory.cell location =
      match machine.stored?.filter fun stored => stored.Covers location with
      | some stored => stored.byte location
      | none => machine.memory.cell location := by
  have htransition := machine.transition_step
  unfold stored?
  generalize machine.step = outcome at htransition ⊢
  cases htransition with
  | stores id address hactive hfetch hfits =>
    let stored : Stored := ⟨address, machine.registers.get (.ofId id)⟩
    refine (stored.cell_setWord hfits.2).trans ?_
    by_cases hcovers : stored.Covers location
    · simp only [Option.filter_some, stored, hcovers, decide_true, if_true]
    · simp only [Option.filter_some, stored, hcovers, decide_false, if_false,
        Bool.false_eq_true]
  | effectFails instruction => cases instruction <;> rfl
  | sets instruction register word hactive hfetch hfits hset =>
    cases instruction with
    | store => contradiction
    | _ => rfl
  | _ => rfl

theorem cell_afterSteps (machine : Machine) (location n : Nat) :
    (machine.afterSteps n).memory.cell location =
      match machine.lastStore? location n with
      | some stored => stored.byte location
      | none => machine.memory.cell location := by
  induction n with
  | zero => rfl
  | succ n ih =>
    rw [afterSteps_succ, cell_step, lastStore?_succ]
    cases (machine.afterSteps n).stored?.filter fun stored => stored.Covers location with
    | some stored => rfl
    | none => exact ih

/-- Wherever calls lead, the memory has kept its size, and every cell holds its byte of the last
store completed on the way that covers it, or what it held at first; the cells from 257 on
are never changed. -/
theorem cells_hold_last_stores (memory : Memory) (options : Options) (calls : List Call) :
    let fresh := start memory options
    let steps := fresh.stepsOfCalls calls
    let final := (fresh.afterCalls calls).memory
    (fresh.afterCalls calls = fresh.afterSteps steps ∧
      (fresh.session calls).flatMap Outcome.events = fresh.reported steps) ∧
    final.size = memory.size ∧
    (∀ location, final.cell location =
      match fresh.lastStore? location steps with
      | some stored => stored.byte location
      | none => memory.cell location) ∧
    ∀ location ≥ 257, final.cell location = memory.cell location := by
  intro fresh steps final
  have hafter : fresh.afterCalls calls = fresh.afterSteps steps :=
    fresh.afterCalls_eq_afterSteps calls
  have hcell : ∀ location, final.cell location =
      match fresh.lastStore? location steps with
      | some stored => stored.byte location
      | none => memory.cell location := by
    intro location
    rw [show final = (fresh.afterSteps steps).memory from congrArg Machine.memory hafter]
    exact fresh.cell_afterSteps location steps
  refine ⟨⟨hafter, fresh.events_session calls⟩, fresh.size_afterCalls calls, hcell, ?_⟩
  intro location hlocation
  rw [hcell, fresh.lastStore?_eq_none hlocation]

/-- Two stores overlap in a cell, and a third one names a register that does not exist. In a
larger memory no store reaches the last cell. -/
theorem cells_hold_last_stores_that_overlap :
    let memory : Memory :=
      ⟨#[0x02, 0, 12, 0x03, 1, 0, 0x02, 1, 13, 0x02, 3, 13, 7, 7, 7, 7], by decide⟩
    let larger : Memory := ⟨memory.cells ++ Array.replicate 242 7, by simp [memory, UInt64.size]⟩
    let calls := [Call.step, .run, .step]
    let steps := (start memory {}).stepsOfCalls calls
    let final := ((start memory {}).afterCalls calls).memory
    ((start memory {}).lastStore? 12 steps = some ⟨12, 0⟩ ∧ final.cell 12 = 0) ∧
    ((start memory {}).lastStore? 13 steps = some ⟨13, 3⟩ ∧ final.cell 13 = 3) ∧
    ((start memory {}).lastStore? 15 steps = none ∧ final.cell 15 = memory.cell 15) ∧
    larger.size = 258 ∧ ((start larger {}).afterCalls calls).memory.cell 257 = 7 := by
  intro memory larger calls steps final
  have hfirst : (start memory {}).lastStore? 12 steps = some ⟨12, 0⟩ := by cbv
  have hsecond : (start memory {}).lastStore? 13 steps = some ⟨13, 3⟩ := by cbv
  have hnone : (start memory {}).lastStore? 15 steps = none := by cbv
  have hlast : larger.cell 257 = 7 := by simp [larger, memory, Memory.cell]
  obtain ⟨-, -, hcell, -⟩ := cells_hold_last_stores memory {} calls
  obtain ⟨-, -, -, hbeyond⟩ := cells_hold_last_stores larger {} calls
  refine ⟨⟨hfirst, ?_⟩, ⟨hsecond, ?_⟩, ⟨hnone, ?_⟩, ?_, ?_⟩
  · rw [hcell, hfirst]
    rfl
  · rw [hcell, hsecond]
    rfl
  · rw [hcell, hnone]
  · simp [larger, memory, Memory.size]
  · exact (hbeyond 257 (Nat.le_refl 257)).trans hlast

end Machine

end TaggedMachine
