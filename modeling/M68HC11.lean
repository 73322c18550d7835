import M68HC11.Main
import M68HC11.Pacing.Loop
import M68HC11.StateText
import M68HC11.Command.Directory
import M68HC11.Proofs.Accesses
import M68HC11.Proofs.Arguments
import M68HC11.Proofs.Blocks
import M68HC11.Proofs.Budget
import M68HC11.Proofs.Calls
import M68HC11.Proofs.Chains
import M68HC11.Proofs.Charges
import M68HC11.Proofs.Codes
import M68HC11.Proofs.Comparisons
import M68HC11.Proofs.DataBreaks
import M68HC11.Proofs.Deliveries
import M68HC11.Proofs.DisplayNames
import M68HC11.Proofs.Dumps
import M68HC11.Proofs.Encoded
import M68HC11.Proofs.Failures
import M68HC11.Proofs.Fields
import M68HC11.Proofs.Flow
import M68HC11.Proofs.Folding
import M68HC11.Proofs.Halting
import M68HC11.Proofs.Handles
import M68HC11.Proofs.InstructionText
import M68HC11.Proofs.Interleavings
import M68HC11.Proofs.Latch
import M68HC11.Proofs.Ledger
import M68HC11.Proofs.Pauses
import M68HC11.Proofs.PlusSigns
import M68HC11.Proofs.Quotients
import M68HC11.Proofs.Records
import M68HC11.Proofs.Resumes
import M68HC11.Proofs.Runs
import M68HC11.Proofs.Slices
import M68HC11.Proofs.Stack
import M68HC11.Proofs.StraightLine
import M68HC11.Proofs.Targets
import M68HC11.Proofs.Transparency
import M68HC11.Proofs.Truncation
import M68HC11.Proofs.Warnings
