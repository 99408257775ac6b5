import LabelBasic.Main
import LabelBasic.Proofs.Script.Reading
import LabelBasic.Proofs.Source.Numbering
import LabelBasic.Proofs.Text.Trim
import LabelBasic.Proofs.Source.Places
import LabelBasic.Proofs.Source.Partition
import LabelBasic.Proofs.Text.Spacing
import LabelBasic.Proofs.Script.Syntax
import LabelBasic.Proofs.Script.Prefix
import LabelBasic.Proofs.Script.Fault
import LabelBasic.Proofs.Script.Grammar
import LabelBasic.Proofs.Expansion.Stateless
import LabelBasic.Proofs.Expansion.Run
import LabelBasic.Proofs.Expansion.Acceptance
import LabelBasic.Proofs.Expansion.Rewriting
import LabelBasic.Proofs.Expansion.Labels
import LabelBasic.Proofs.Expansion.Jumps
import LabelBasic.Proofs.Machine.Basic
import LabelBasic.Proofs.Machine.Structured
import LabelBasic.Proofs.Machine.Simulation
import LabelBasic.Proofs.Expansion.Failures
import LabelBasic.Proofs.Expansion.Pinpoint
import LabelBasic.Proofs.Expansion.Lockstep
import LabelBasic.Proofs.Expansion.Agreement
import LabelBasic.Proofs.Expansion.Erasure
import LabelBasic.Proofs.Expansion.Census
import LabelBasic.Proofs.Expansion.Registry
import LabelBasic.Proofs.Expansion.Trace
import LabelBasic.Proofs.Source.Renaming
import LabelBasic.Proofs.Expansion.Renaming
import LabelBasic.Proofs.Expansion.Idempotence
import LabelBasic.Proofs.Expansion.Concatenation
import LabelBasic.Proofs.Expansion.Verbatim
import LabelBasic.Proofs.Expansion.Limits
import LabelBasic.Proofs.Expansion.Settings
import LabelBasic.Proofs.Expansion.Markers
import LabelBasic.Proofs.System.Files
import LabelBasic.Proofs.Command.AllOrNothing
