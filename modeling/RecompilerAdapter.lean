import RecompilerAdapter.Instruction.Encoding
import RecompilerAdapter.Proofs.CompileEntries
import RecompilerAdapter.Proofs.Correspondence
import RecompilerAdapter.Proofs.DirectAccess
import RecompilerAdapter.Proofs.EncodedExecution
import RecompilerAdapter.Proofs.EncodedInstructions
import RecompilerAdapter.Proofs.EncodedSteps
import RecompilerAdapter.Proofs.ExactForwarding
import RecompilerAdapter.Proofs.ExclusiveLoans
import RecompilerAdapter.Proofs.FatalPath
import RecompilerAdapter.Proofs.FaultPositions
import RecompilerAdapter.Proofs.FlatMemory
import RecompilerAdapter.Proofs.ForeignLifetimes
import RecompilerAdapter.Proofs.HaltAccounting
import RecompilerAdapter.Proofs.HaltHistory
import RecompilerAdapter.Proofs.HaltedSessions
import RecompilerAdapter.Proofs.HandleIdentity
import RecompilerAdapter.Proofs.Interruptions
import RecompilerAdapter.Proofs.LikeEngines
import RecompilerAdapter.Proofs.LikeSessions
import RecompilerAdapter.Proofs.Likeness
import RecompilerAdapter.Proofs.Loans
import RecompilerAdapter.Proofs.Marshalling
import RecompilerAdapter.Proofs.MemoryAccesses
import RecompilerAdapter.Proofs.MirroredEngines
import RecompilerAdapter.Proofs.Noninterference
import RecompilerAdapter.Proofs.OptionLists
import RecompilerAdapter.Proofs.Ownership
import RecompilerAdapter.Proofs.PagedFetches
import RecompilerAdapter.Proofs.RegisterEffects
import RecompilerAdapter.Proofs.RegisterWrites
import RecompilerAdapter.Proofs.ReleaseOrders
import RecompilerAdapter.Proofs.RepeatedHalts
import RecompilerAdapter.Proofs.ReplacedAnswers
import RecompilerAdapter.Proofs.ResumedRuns
import RecompilerAdapter.Proofs.RunStates
import RecompilerAdapter.Proofs.RunlessBodies
import RecompilerAdapter.Proofs.SharedSlots
import RecompilerAdapter.Proofs.StepOutcomes
import RecompilerAdapter.Proofs.TickAccounts
import RecompilerAdapter.Proofs.WordFields
import RecompilerAdapter.Scenario.LoneBridge
import RecompilerAdapter.Scenario.Session
import RecompilerAdapter.Scenario.Slots
import RecompilerAdapter.Wire.Image
