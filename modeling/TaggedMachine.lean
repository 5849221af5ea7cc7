import TaggedMachine.Enumeration.Expansion
import TaggedMachine.Main
import TaggedMachine.Proofs.Demand
import TaggedMachine.Proofs.Transition
import TaggedMachine.Proofs.Execution
import TaggedMachine.Proofs.InPlace
import TaggedMachine.Proofs.Failure
import TaggedMachine.Proofs.StepBudget
import TaggedMachine.Proofs.Code
import TaggedMachine.Proofs.StraightLine
import TaggedMachine.Proofs.UnreadCells
import TaggedMachine.Proofs.Session
import TaggedMachine.Proofs.UnknownOpcodes
import TaggedMachine.Proofs.Growth
import TaggedMachine.Proofs.Guarded
import TaggedMachine.Proofs.Range
import TaggedMachine.Proofs.Reports
import TaggedMachine.Proofs.LastStore
import TaggedMachine.Proofs.Disassembly
import TaggedMachine.Proofs.Image
import TaggedMachine.Proofs.InstructionTable
import TaggedMachine.Proofs.Acceptance
import TaggedMachine.Proofs.ConstantNames
import TaggedMachine.Proofs.Compilation
import TaggedMachine.Proofs.TagValues
import TaggedMachine.Proofs.Digits
import TaggedMachine.Proofs.Accesses
import TaggedMachine.Proofs.DiscriminantRule
import TaggedMachine.Proofs.GeneratedTags
import TaggedMachine.Proofs.Positional
import TaggedMachine.Proofs.Calculation
import TaggedMachine.Proofs.ArgumentGrammar
import TaggedMachine.Proofs.Numerals
import TaggedMachine.Proofs.Diagnostics
