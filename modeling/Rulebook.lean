import Rulebook.Number
import Rulebook.Number.Decimal
import Rulebook.Text.Blank
import Rulebook.Number.Reading
import Rulebook.Fields
import Rulebook.Json
import Rulebook.Value
import Rulebook.Event
import Rulebook.CharSet
import Rulebook.CharSet.Category
import Rulebook.CharSet.Script
import Rulebook.CharSet.Property
import Rulebook.CharSet.Folding
import Rulebook.Pattern.Tree
import Rulebook.Pattern.Reader
import Rulebook.Pattern
import Rulebook.Text.Quoted
import Rulebook.RuleError
import Rulebook.Operator
import Rulebook.Timestamp
import Rulebook.RuleSet
import Rulebook.RuleSet.Definition
import Rulebook.Effect
import Rulebook.Provider
import Rulebook.Provider.Table
import Rulebook.Provider.Registry
import Rulebook.Nesting
import Rulebook.Compiled
import Rulebook.Compiler
import Rulebook.Trigger
import Rulebook.Dispatch
import Rulebook.Sales
import Rulebook.RuleFile
import Rulebook.Host
import Rulebook.RuleSet.Construction
import Rulebook.Report
import Rulebook.Setting
import Rulebook.Toml
import Rulebook.Settings
import Rulebook.Service
import Rulebook.Main
import Rulebook.Proofs.Effect
import Rulebook.Proofs.Fields
import Rulebook.Proofs.Nesting
import Rulebook.Proofs.Acceptance
import Rulebook.Proofs.Arena
import Rulebook.Proofs.WellFormed
import Rulebook.Proofs.Evaluation
import Rulebook.Proofs.Passage
import Rulebook.Proofs.Meaning
import Rulebook.Proofs.Cycle
import Rulebook.Proofs.Descent
import Rulebook.Proofs.Forest
import Rulebook.Proofs.Record
import Rulebook.Proofs.Rejection
import Rulebook.Proofs.Failure
import Rulebook.Proofs.Tables
import Rulebook.Proofs.Dispatch
import Rulebook.Proofs.Isolation
import Rulebook.Proofs.Reload
import Rulebook.Proofs.Lookup
import Rulebook.Proofs.Lines
import Rulebook.Proofs.Printed
import Rulebook.Proofs.Written
import Rulebook.Proofs.Answering
import Rulebook.Proofs.Verdict
import Rulebook.Proofs.Rearrangement
import Rulebook.Proofs.Respelling
import Rulebook.Proofs.Disabled
import Rulebook.Proofs.Contacts
import Rulebook.Proofs.Stopping
import Rulebook.Proofs.Omission
import Rulebook.Proofs.Binding
import Rulebook.Proofs.Paths
import Rulebook.Proofs.Transition
import Rulebook.Proofs.Mismatches
import Rulebook.Proofs.Outbox
import Rulebook.Proofs.Interleaving
import Rulebook.Proofs.Conversion
import Rulebook.Proofs.Demand
import Rulebook.Proofs.Interruption
import Rulebook.Proofs.Choices
import Rulebook.Proofs.Restored
import Rulebook.Proofs.Agreement
import Rulebook.Proofs.Stored
import Rulebook.Proofs.Layers
import Rulebook.Proofs.Leaves
import Rulebook.Proofs.Unrepeated
import Rulebook.Proofs.Precedence
import Rulebook.Proofs.Fitting
import Rulebook.Proofs.Overrides
import Rulebook.Proofs.Sweep
import Rulebook.Proofs.Search
import Rulebook.Proofs.Dissolving
import Rulebook.Proofs.Gathering
import Rulebook.Proofs.Monotonicity
import Rulebook.Proofs.Naming
import Rulebook.Proofs.Namesakes
import Rulebook.Proofs.AllowLists
import Rulebook.Proofs.Order
import Rulebook.Proofs.Literals
import Rulebook.Proofs.Equality
import Rulebook.Proofs.Composition
import Rulebook.Proofs.Rounding
import Rulebook.Proofs.Spelling
import Rulebook.Proofs.Integers
import Rulebook.Proofs.Readers
