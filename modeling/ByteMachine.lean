import ByteMachine.Main
import ByteMachine.Proofs.Effect
import ByteMachine.Proofs.Footprint
import ByteMachine.Proofs.Cycle
import ByteMachine.Proofs.Step
import ByteMachine.Proofs.Episode
import ByteMachine.Proofs.Alike
import ByteMachine.Proofs.Transparency
import ByteMachine.Proofs.Balance
import ByteMachine.Proofs.Priority
import ByteMachine.Proofs.Request
import ByteMachine.Proofs.Attempt
import ByteMachine.Proofs.Standstill
import ByteMachine.Proofs.Nesting
import ByteMachine.Proofs.Check
import ByteMachine.Proofs.Counter
import ByteMachine.Proofs.Running
import ByteMachine.Proofs.Ending
import ByteMachine.Proofs.Steady
import ByteMachine.Proofs.Slices
import ByteMachine.Proofs.MaskedTimer
import ByteMachine.Proofs.Layout
import ByteMachine.Proofs.Grammar
import ByteMachine.Proofs.Block
import ByteMachine.Proofs.Loading
import ByteMachine.Proofs.Printing
import ByteMachine.Proofs.Capacity
import ByteMachine.Proofs.Frozen
import ByteMachine.Proofs.Session
import ByteMachine.Proofs.Verdict
import ByteMachine.Proofs.Messages
import ByteMachine.Proofs.Journal
import ByteMachine.Proofs.Dispatch
import ByteMachine.Proofs.Return
import ByteMachine.Proofs.BoundedStack
import ByteMachine.Proofs.Comparison
import ByteMachine.Proofs.Advance
import ByteMachine.Proofs.Straight
import ByteMachine.Proofs.Changes
import ByteMachine.Proofs.Integers
import ByteMachine.Proofs.Ticks
import ByteMachine.Proofs.Concatenation
import ByteMachine.Proofs.Edits
import ByteMachine.Proofs.Spelling
import ByteMachine.Proofs.Transcript
import ByteMachine.Proofs.Display
