import Dataflow.Action.Attempt
import Dataflow.Action.Basic
import Dataflow.Action.Describe
import Dataflow.Action.Fire
import Dataflow.Action.Report
import Dataflow.Actor.Lifecycle
import Dataflow.Actor.Type
import Dataflow.Actors.Arithmetic
import Dataflow.Actors.Catalogue
import Dataflow.Actors.Devices
import Dataflow.Actors.Flow
import Dataflow.Capability.Context
import Dataflow.Capability.Device
import Dataflow.Capability.Registry
import Dataflow.Declaration.Attribute
import Dataflow.Declaration.Derive
import Dataflow.Declaration.Item
import Dataflow.Declaration.Schema
import Dataflow.Declaration.Test
import Dataflow.Failure
import Dataflow.KeyMap
import Dataflow.Log.Event
import Dataflow.Log.Filter
import Dataflow.Log.Journal
import Dataflow.Log.Panic
import Dataflow.Log.Place
import Dataflow.Log.Setup
import Dataflow.Number.Binary
import Dataflow.Number.Decimal
import Dataflow.Number.Shortest
import Dataflow.Port.Access
import Dataflow.Port.Demand
import Dataflow.Port.Set
import Dataflow.Port.Store
import Dataflow.Port.Tap
import Dataflow.Program.Basic
import Dataflow.Program.Decode
import Dataflow.Proofs.Actor.Relocation
import Dataflow.Proofs.Actor.Site
import Dataflow.Proofs.Capability.Script
import Dataflow.Proofs.Firing.Atomicity
import Dataflow.Proofs.Firing.Attempt
import Dataflow.Proofs.Firing.Invariant
import Dataflow.Proofs.Firing.Selection
import Dataflow.Proofs.Firing.Simulation
import Dataflow.Proofs.KeyMap
import Dataflow.Proofs.Number.Binary
import Dataflow.Proofs.Port.Demand
import Dataflow.Proofs.Port.Portable
import Dataflow.Proofs.Port.Store
import Dataflow.Proofs.Port.Transaction
import Dataflow.Proofs.Snapshot.Codec
import Dataflow.Proofs.Snapshot.Fields
import Dataflow.Queue
import Dataflow.Session.Answer
import Dataflow.Session.Command
import Dataflow.Session.Decode
import Dataflow.Session.Engine
import Dataflow.Session.Queue
import Dataflow.Session.State
import Dataflow.Session.Step
import Dataflow.Settings.Basic
import Dataflow.Settings.Load
import Dataflow.Settings.Section
import Dataflow.Snapshot.Datum
import Dataflow.Snapshot.Error
import Dataflow.Snapshot.Managed
import Dataflow.Snapshot.Record
import Dataflow.Snapshot.Samples
import Dataflow.Snapshot.Spec
import Dataflow.Text.Digits
import Dataflow.Text.Ranges
import Dataflow.Text.Split
import Dataflow.Text.Visible
import Dataflow.Token
import Dataflow.Toml.Document
import Dataflow.Toml.Scalar
import Dataflow.Toml.Text
import Dataflow.Toml.Tree
import Dataflow.Value.Basic
import Dataflow.Value.Decode
import Dataflow.Value.Document
import Dataflow.Value.Numeral
import Dataflow.Value.Text
import Dataflow.Proofs.Actor.Fetcher
import Dataflow.Proofs.Actor.FetcherMoves
import Dataflow.Proofs.Actor.Ledger
import Dataflow.Proofs.Port.Tally
import Dataflow.Proofs.Firing.Conservation
import Dataflow.Proofs.Firing.Termination
import Dataflow.Proofs.Queue.History
import Dataflow.Proofs.Snapshot.RoundTrip
import Dataflow.Proofs.Port.Run
import Dataflow.Proofs.Firing.Access
import Dataflow.Proofs.Port.Invariant
import Dataflow.Proofs.Port.Promise
import Dataflow.Proofs.Snapshot.Encoding
import Dataflow.Proofs.Port.RoundTrip
import Dataflow.Proofs.Firing.Priority
import Dataflow.Proofs.Firing.Commutation
import Dataflow.Proofs.Firing.SingleAction
import Dataflow.Proofs.Firing.Batching
import Dataflow.Proofs.Port.Passage
import Dataflow.Proofs.Actor.Pipeline
import Dataflow.Proofs.Capability.Annals
import Dataflow.Proofs.Capability.Sharing
import Dataflow.Proofs.Capability.Recorded
import Dataflow.Proofs.Actor.Release
import Dataflow.Proofs.Actor.Requests
import Dataflow.Proofs.Firing.Repetition
import Dataflow.Proofs.Actor.Restraint
import Dataflow.Proofs.Firing.Effect
import Dataflow.Proofs.Port.Transmission
import Dataflow.Proofs.Snapshot.Acceptance
import Dataflow.Proofs.Firing.Exhaustion
import Dataflow.Proofs.Actor.Ending
import Dataflow.Proofs.Actor.Relay
import Dataflow.Proofs.Actor.Alternation
import Dataflow.Proofs.Actor.Recovery
import Dataflow.Proofs.Port.Refusal
import Dataflow.Proofs.Snapshot.Strictness
import Dataflow.Proofs.Actor.PrefixSums
import Dataflow.Proofs.Declaration.Schema
import Dataflow.Proofs.Port.Totals
import Dataflow.Proofs.Text.Parts
import Dataflow.Proofs.Declaration.Completion
import Dataflow.Proofs.Actor.FailedStart
import Dataflow.Proofs.Settings.Merge
