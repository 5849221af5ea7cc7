import Mathlib.Data.List.Induction
import TaggedMachine.Proofs.Guarded
import TaggedMachine.Proofs.LastStore

/-!
Accesses to a memory, one after the other. An access reads or writes one or two neighbouring
cells. It is refused if one of them is missing, whatever locations stop at, and then changes
nothing; otherwise it reads from each cell the byte of the last completed store that covers it,
or what the cell held at first. Main statement: so goes every access of every sequence, and also
where each index is guarded and what was written before a refusal would stay.
-/
namespace TaggedMachine.Memory

open Parameters

/-- What can be asked of a memory. -/
inductive Access
  | opcode (pc : UInt64)
  | operands (pc : UInt64)
  | load (address : UInt8)
  | store (address : UInt8) (word : UInt16)
deriving DecidableEq

/-- What an access gives that is not refused. -/
inductive Reply
  | opcode (byte : UInt8)
  | operands (first second : UInt8)
  | loaded (word : UInt16)
  | stored
deriving DecidableEq

namespace Access

/-- The cells of an access. -/
def cells : Access → List Nat
  | .opcode pc => [pc.toNat]
  | .operands pc => [pc.toNat + 1, pc.toNat + 2]
  | .load address => [address.toNat, address.toNat + 1]
  | .store address _ => [address.toNat, address.toNat + 1]

/-- The location at which an access begins; none lies behind the last. -/
def start : Access → Nat
  | .opcode pc => pc.toNat
  | .operands pc => min (pc.toNat + 1) (2 ^ 64 - 1)
  | .load address => address.toNat
  | .store address _ => address.toNat

def overrun : Access → Nat → Overrun
  | .opcode _ => .fetch
  | .operands _ => .fetch
  | .load _ => .load
  | .store _ _ => .store

/-- What an access gives where each cell holds the given byte. -/
def reply (byte : Nat → UInt8) : Access → Reply
  | .opcode pc => .opcode (byte pc.toNat)
  | .operands pc => .operands (byte (pc.toNat + 1)) (byte (pc.toNat + 2))
  | .load address =>
    .loaded (.ofNat ((byte address.toNat).toNat + 256 * (byte (address.toNat + 1)).toNat))
  | .store _ _ => .stored

/-- The number of cells of an access. -/
def count (access : Access) : Nat := access.cells.length

/-- All cells of an access exist in a memory of the given size. -/
def Fits (size : Nat) (access : Access) : Prop := ∀ location ∈ access.cells, location < size

instance (size : Nat) (access : Access) : Decidable (access.Fits size) :=
  inferInstanceAs (Decidable (∀ location ∈ access.cells, location < size))

/-- The store that an access has completed, if it is one and was not refused. -/
def stored? : Access × Except Overrun Reply → Option Stored
  | (.store address word, .ok _) => some ⟨address, word⟩
  | _ => none

end Access

/-- The reply to an access, or its refusal, and the memory after it. -/
def perform (memory : Memory) : Access → Except Overrun Reply × Memory
  | .opcode pc => ((memory.fetchOpcode pc.toNat).map .opcode, memory)
  | .operands pc =>
    ((memory.fetchOperands pc.toNat).map fun (first, second) => .operands first second, memory)
  | .load address => ((memory.loadWord address).map .loaded, memory)
  | .store address word =>
    match memory.storeWord address word with
    | .ok stored => (.ok .stored, stored)
    | .error overrun => (.error overrun, memory)

def replies (memory : Memory) : List Access → List (Except Overrun Reply)
  | [] => []
  | access :: rest => (memory.perform access).1 :: (memory.perform access).2.replies rest

def after (memory : Memory) : List Access → Memory
  | [] => memory
  | access :: rest => (memory.perform access).2.after rest

/-- The stores among the accesses that were completed, in order. -/
def completed (memory : Memory) (accesses : List Access) : List Stored :=
  (accesses.zip (memory.replies accesses)).filterMap Access.stored?

/-- The byte that the last completed store over a cell has put into it, or the byte that was
there at first. -/
def lastByte (memory : Memory) (accesses : List Access) (location : Nat) : UInt8 :=
  match ((memory.completed accesses).filter fun stored => stored.Covers location).getLast? with
  | some stored => stored.byte location
  | none => memory.cell location

/-- A computation on a memory, which it leaves behind as it is when the computation is refused.
It may also be trapped. -/
abbrev InPlace := ExceptT Overrun (StateT Memory (Except Trap))

def inspect {α : Type} (guarded : Memory → Guarded α) : InPlace α := fun memory => do
  let result ← (guarded memory).run
  return (result, memory)

/-- Writes a word into the memory at hand, trapped where the word would not lie within it. -/
def overwrite (address : UInt8) (word : UInt16) : InPlace Unit := fun memory => do
  let stop ← Guarded.sum .location address.toNat wordBytes
  if stop ≤ memory.size then
    return (.ok (), memory.setWord address word)
  else
    .error .cell

def performInPlace : Access → InPlace Reply
  | .opcode pc => return .opcode (← inspect fun memory => memory.guardedOpcode pc.toNat)
  | .operands pc => do
    let (first, second) ← inspect fun memory => memory.guardedOperands pc.toNat
    return .operands first second
  | .load address => return .loaded (← inspect fun memory => memory.guardedWord address)
  | .store address word => do
    inspect fun memory => Guarded.lift (memory.demandWord address)
    overwrite address word
    return .stored

/-- The replies to accesses and the memory after them, all accesses being guarded. -/
def performAllInPlace (memory : Memory) :
    List Access → Except Trap (List (Except Overrun Reply) × Memory)
  | [] => return ([], memory)
  | access :: rest => do
    let (reply, next) ← (performInPlace access).run memory
    let (later, last) ← performAllInPlace next rest
    return (reply :: later, last)

/-- After an inspection without a trap a computation goes on in the same memory, or is refused
and leaves it. -/
theorem inspect_bind {α β : Type} {guarded : Memory → Guarded α} (next : α → InPlace β)
    (memory : Memory) (result : Except Overrun α) :
    guarded memory = Guarded.lift result →
      (inspect guarded >>= next).run memory =
        match result with
        | .ok value => (next value).run memory
        | .error overrun => .ok (.error overrun, memory) := by
  intro hguarded
  have hinspect : inspect guarded memory = .ok (result, memory) := by
    rw [inspect, hguarded]
    rfl
  change (inspect guarded memory).bind (fun pair => ExceptT.bindCont next pair.1 pair.2) = _
  rw [hinspect]
  cases result <;> rfl

theorem overwrite_eq {memory : Memory} {address : UInt8} (word : UInt16)
    (h : address.toNat + wordBytes ≤ memory.size) :
    overwrite address word memory = .ok (.ok (), memory.setWord address word) := by
  rw [overwrite, Guarded.sum_eq (Guarded.word_le_lastLocation address)]
  exact if_pos h

/-- No access leaves a range, and a refused access has written nothing. -/
theorem performInPlace_eq (memory : Memory) (access : Access) :
    (performInPlace access).run memory = .ok (memory.perform access) := by
  cases access with
  | opcode pc =>
    refine (inspect_bind _ memory _ (memory.guardedOpcode_eq pc.toNat)).trans ?_
    rw [perform]
    cases memory.fetchOpcode pc.toNat <;> rfl
  | operands pc =>
    refine (inspect_bind _ memory _ (memory.guardedOperands_eq pc.toNat)).trans ?_
    rw [perform]
    cases memory.fetchOperands pc.toNat <;> rfl
  | load address =>
    refine (inspect_bind _ memory _ (memory.guardedWord_eq address)).trans ?_
    rw [perform]
    cases memory.loadWord address <;> rfl
  | store address word =>
    refine (inspect_bind _ memory (memory.demandWord address) rfl).trans ?_
    rw [perform, storeWord]
    cases hdemand : memory.demandWord address with
    | error overrun => rfl
    | ok =>
      have hfits := (memory.demand_eq_ok_iff _ _ _).mp hdemand
      change (overwrite address word memory).bind
        (fun pair => ExceptT.bindCont (fun _ => (return .stored : InPlace Reply)) pair.1 pair.2) = _
      rw [overwrite_eq word hfits]
      rfl

theorem performAllInPlace_eq (memory : Memory) (accesses : List Access) :
    memory.performAllInPlace accesses = .ok (memory.replies accesses, memory.after accesses) := by
  induction accesses generalizing memory with
  | nil => rfl
  | cons access rest ih =>
    simp only [performAllInPlace, performInPlace_eq, bind, Except.bind, ih]
    rfl

variable {memory : Memory} {access : Access}

/-- Stopping at the last location never lets an access through or refuses one. -/
theorem Access.fits_iff (memory : Memory) (access : Access) :
    access.Fits memory.size ↔ access.start + access.count ≤ memory.size := by
  have hsize : memory.size ≤ memoryLimit := memory.size_le
  simp only [memoryLimit, UInt64.size] at hsize
  cases access <;> simp [Fits, cells, start, count] <;> omega

theorem demand_access (memory : Memory) (access : Access) :
    memory.demand access.start access.count access.overrun =
      if access.Fits memory.size then .ok ()
      else .error (access.overrun (max access.start memory.size)) := by
  rw [demand_eq]
  by_cases h : access.Fits memory.size
  · rw [if_pos h, if_neg (Nat.not_lt.mpr ((access.fits_iff memory).mp h))]
  · rw [if_neg h, if_pos (Nat.lt_of_not_le (mt (access.fits_iff memory).mpr h))]

theorem perform_store (memory : Memory) (address : UInt8) (word : UInt16) :
    memory.perform (.store address word) =
      if (Access.store address word).Fits memory.size then
        (.ok .stored, memory.setWord address word)
      else (.error (.store (max address.toNat memory.size)), memory) := by
  have hdemand : memory.demandWord address = _ := memory.demand_access (.store address word)
  rw [perform, storeWord, hdemand]
  by_cases hfits : (Access.store address word).Fits memory.size
  · simp only [if_pos hfits]
    rfl
  · simp only [if_neg hfits]
    rfl

/-- An access is let through exactly if all its cells exist, and then reads what they hold. -/
theorem reply_perform (memory : Memory) (access : Access) :
    (memory.perform access).1 =
      if access.Fits memory.size then .ok (access.reply memory.cell)
      else .error (access.overrun (max access.start memory.size)) := by
  have hdemand := memory.demand_access access
  cases access with
  | opcode pc =>
    have hopcode : memory.demand pc.toNat 1 .fetch = _ := hdemand
    simp only [perform, fetchOpcode, hopcode]
    split <;> rfl
  | operands pc =>
    have hoperands : memory.demand (shifted pc.toNat 1) 2 .fetch = _ := hdemand
    simp only [perform, fetchOperands, hoperands]
    split
    · rename_i hfits
      -- The first operand exists, so it does not lie behind the last location.
      have hstart : shifted pc.toNat 1 = pc.toNat + 1 := by
        have hsize : memory.size ≤ memoryLimit := memory.size_le
        have hfirst : pc.toNat + 1 < memory.size := hfits _ List.mem_cons_self
        simp only [memoryLimit, UInt64.size] at hsize
        simp only [shifted, lastLocation, UInt64.size]
        omega
      rw [hstart]
      rfl
    · rfl
  | load address =>
    have hload : memory.demand address.toNat wordBytes .load = _ := hdemand
    simp only [perform, loadWord, hload]
    split
    · rw [Access.reply, ← toNat_word, UInt16.ofNat_toNat]
      rfl
    · rfl
  | store address word =>
    rw [perform_store]
    split <;> rfl

theorem perform_of_not_fits (h : ¬ access.Fits memory.size) :
    (memory.perform access).2 = memory := by
  cases access with
  | store address word => rw [perform_store, if_neg h]
  | _ => rfl

theorem size_perform (memory : Memory) (access : Access) :
    (memory.perform access).2.size = memory.size := by
  cases access with
  | store address word =>
    rw [perform_store]
    split
    · exact memory.size_setWord address word
    · rfl
  | _ => rfl

/-- A completed store puts its bytes into the cells that it covers; no other access changes
anything. -/
theorem cell_perform (memory : Memory) (access : Access) (location : Nat) :
    (memory.perform access).2.cell location =
      match (Access.stored? (access, (memory.perform access).1)).filter
          fun stored => stored.Covers location with
      | some stored => stored.byte location
      | none => memory.cell location := by
  cases access with
  | store address word =>
    rw [perform_store]
    by_cases hfits : (Access.store address word).Fits memory.size
    · let stored : Stored := ⟨address, word⟩
      have hhigh : stored.address.toNat + 1 < memory.size :=
        hfits _ (List.mem_cons_of_mem _ List.mem_cons_self)
      rw [if_pos hfits, Access.stored?, stored.cell_setWord hhigh, Option.filter_some]
      by_cases hcovers : stored.Covers location
      · rw [if_pos hcovers, if_pos (decide_eq_true hcovers)]
      · rw [if_neg hcovers, if_neg (by simpa using hcovers)]
    · rw [if_neg hfits]
      rfl
  | _ => rfl

theorem replies_concat (memory : Memory) (earlier : List Access) (access : Access) :
    memory.replies (earlier ++ [access]) =
      memory.replies earlier ++ [((memory.after earlier).perform access).1] := by
  induction earlier generalizing memory with
  | nil => rfl
  | cons first rest ih => exact congrArg (_ :: ·) (ih _)

theorem after_concat (memory : Memory) (earlier : List Access) (access : Access) :
    memory.after (earlier ++ [access]) = ((memory.after earlier).perform access).2 := by
  induction earlier generalizing memory with
  | nil => rfl
  | cons first rest ih => exact ih _

theorem length_replies (memory : Memory) (accesses : List Access) :
    (memory.replies accesses).length = accesses.length := by
  induction accesses generalizing memory with
  | nil => rfl
  | cons access rest ih => exact congrArg (· + 1) (ih _)

theorem size_after (memory : Memory) (accesses : List Access) :
    (memory.after accesses).size = memory.size := by
  induction accesses generalizing memory with
  | nil => rfl
  | cons access rest ih => exact (ih _).trans (memory.size_perform access)

theorem completed_concat (memory : Memory) (earlier : List Access) (access : Access) :
    memory.completed (earlier ++ [access]) = memory.completed earlier ++
      (Access.stored? (access, ((memory.after earlier).perform access).1)).toList := by
  rw [completed, replies_concat, List.zip_append (memory.length_replies earlier).symm,
    List.filterMap_append]
  refine congrArg (memory.completed earlier ++ ·) ?_
  cases hstored : Access.stored? (access, ((memory.after earlier).perform access).1) <;>
    simp [hstored]

/-- Every cell holds what the last completed store over it has left there. -/
theorem cell_after (memory : Memory) (accesses : List Access) (location : Nat) :
    (memory.after accesses).cell location = memory.lastByte accesses location := by
  induction accesses using List.reverseRecOn with
  | nil => rfl
  | append_singleton earlier access ih =>
    rw [after_concat, cell_perform, lastByte, completed_concat,
      Stored.getLast?_filter_append_toList]
    cases (Access.stored? (access, ((memory.after earlier).perform access).1)).filter
        fun stored => stored.Covers location with
    | some stored => rfl
    | none => exact ih

/-- After any accesses the next one is let through exactly if all its cells exist, and then reads
the bytes last put into them. Otherwise it is refused at the first location from its start on
that the memory does not have, and changes nothing. The memory keeps its size, and every cell
holds the byte last put into it. The same accesses done in place have the same replies and lead
to the same memory, no index being out of range. -/
theorem accesses_see_last_bytes (memory : Memory) (earlier : List Access) (access : Access) :
    let accesses := earlier ++ [access]
    memory.replies accesses = memory.replies earlier ++
      [if access.Fits memory.size then .ok (access.reply (memory.lastByte earlier))
        else .error (access.overrun (max access.start memory.size))] ∧
    (¬ access.Fits memory.size → memory.after accesses = memory.after earlier) ∧
    (memory.after accesses).size = memory.size ∧
    (∀ location, (memory.after accesses).cell location = memory.lastByte accesses location) ∧
    memory.performAllInPlace accesses = .ok (memory.replies accesses, memory.after accesses) := by
  intro accesses
  have hsize : (memory.after earlier).size = memory.size := memory.size_after earlier
  have hcell : (memory.after earlier).cell = memory.lastByte earlier :=
    funext (memory.cell_after earlier)
  refine ⟨?_, ?_, memory.size_after accesses, memory.cell_after accesses,
    memory.performAllInPlace_eq accesses⟩
  · rw [replies_concat, reply_perform, hsize, hcell]
  · intro hmissing
    rw [after_concat]
    exact perform_of_not_fits (hsize ▸ hmissing)

/-- A word is read of which a store has put one cell, two stores overlap, and two accesses are
refused, the last one from the last location on. -/
theorem accesses_see_last_bytes_at_last_location :
    let memory : Memory := ⟨#[0x11, 0x22, 0x33, 0x44], by decide⟩
    let earlier : List Access := [.store 1 0xbbaa, .store 2 0xddcc, .load 0, .store 3 0x1234]
    let access : Access := .operands 0xffffffffffffffff
    ¬ access.Fits memory.size ∧
      memory.replies (earlier ++ [access]) =
        [.ok .stored, .ok .stored, .ok (.loaded 0xaa11), .error (.store 4),
          .error (.fetch 0xffffffffffffffff)] ∧
      memory.after (earlier ++ [access]) = memory.after earlier ∧
      (memory.after (earlier ++ [access])).cell 2 = 0xcc := by
  intro memory earlier access
  obtain ⟨hreplies, hsame, -, hcell, -⟩ := accesses_see_last_bytes memory earlier access
  have hmissing : ¬ access.Fits memory.size := by decide
  rw [if_neg hmissing] at hreplies
  exact ⟨hmissing, hreplies.trans (by decide), hsame hmissing, (hcell 2).trans (by decide)⟩

end TaggedMachine.Memory
