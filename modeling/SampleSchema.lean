import SampleSchema.Command.Arguments
import SampleSchema.Command.Run
import SampleSchema.Main
import SampleSchema.Sample.Heap
import SampleSchema.Schema.Document
import SampleSchema.Schema.Reader
import SampleSchema.Settings.Writer
import SampleSchema.Proofs.Shape
import SampleSchema.Proofs.Truncation
import SampleSchema.Proofs.Termination
import SampleSchema.Proofs.JsonTree
import SampleSchema.Proofs.Simulation
import SampleSchema.Proofs.Acceptance
import SampleSchema.Proofs.Unfolding
import SampleSchema.Proofs.JsonText
import SampleSchema.Proofs.SchemaText
import SampleSchema.Proofs.ReadBack
import SampleSchema.Proofs.Identities
import SampleSchema.Proofs.Concatenation
import SampleSchema.Proofs.Running
import SampleSchema.Proofs.ManySamples
import SampleSchema.Proofs.Contents
import SampleSchema.Proofs.Rearrangement
import SampleSchema.Proofs.Headroom
import SampleSchema.Proofs.History
import SampleSchema.Proofs.Outcome
import SampleSchema.Proofs.Unified
import SampleSchema.Proofs.Canonical
import SampleSchema.Proofs.ScanRun
import SampleSchema.Proofs.GrammarRun
import SampleSchema.Proofs.Descent
import SampleSchema.Proofs.Overrides
import SampleSchema.Proofs.Grouping
import SampleSchema.Proofs.Repetition
import SampleSchema.Proofs.CalendarText
import SampleSchema.Proofs.Overlap
import SampleSchema.Proofs.Copying
import SampleSchema.Proofs.Sameness
import SampleSchema.Proofs.Realization
import SampleSchema.Proofs.Integers
import SampleSchema.Proofs.SettingsRestored
