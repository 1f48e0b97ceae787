import Reattach.Command.Arguments
import Reattach.Command.Basic
import Reattach.Config
import Reattach.Deliveries
import Reattach.Delivery.Record
import Reattach.Delivery.State
import Reattach.Delivery.Tag
import Reattach.Delivery.Unsettled
import Reattach.Event
import Reattach.Exchange.Attachments
import Reattach.Exchange.Deliveries
import Reattach.Exchange.Names
import Reattach.Exchange.Registry
import Reattach.Exchange.Rows
import Reattach.Fault
import Reattach.Identifier
import Reattach.Json.Basic
import Reattach.Json.Members
import Reattach.Json.Printer
import Reattach.Json.Reader
import Reattach.Link
import Reattach.LongForm
import Reattach.Main
import Reattach.Operation
import Reattach.Policy
import Reattach.Proofs.Isolation
import Reattach.Proofs.Moves
import Reattach.Proofs.StorageKey
import Reattach.Reconcile
import Reattach.Recovery
import Reattach.Registry.Attach
import Reattach.Registry.Basic
import Reattach.Registry.Expire
import Reattach.Registry.Seed
import Reattach.Registry.Snapshot
import Reattach.Registry.Suspend
import Reattach.Registry.Wait
import Reattach.Role
import Reattach.Scenario.Run
import Reattach.Scenario.Step
import Reattach.Scope
import Reattach.Settings
import Reattach.SortedMap
import Reattach.Spelling
import Reattach.Store
import Reattach.Store.Call
import Reattach.Store.Error
import Reattach.Store.Memory
import Reattach.Store.Rows
import Reattach.Summary
import Reattach.Terminus
import Reattach.Text.Blank
import Reattach.Text.CaseTable
import Reattach.Text.CodeSpan
import Reattach.Text.Decimal
import Reattach.Text.Duration
import Reattach.Text.FloatRange
import Reattach.Text.Hex
import Reattach.Text.LowerCase
import Reattach.Text.Padded
import Reattach.Text.Quoted
import Reattach.Text.UnprintableTable
import Reattach.Watch
import Reattach.Proofs.Changes
import Reattach.Proofs.Pending
import Reattach.Proofs.Operations
import Reattach.Proofs.Consistency
import Reattach.Proofs.Timers
import Reattach.Proofs.Expiry
import Reattach.Proofs.NeverPolicy
import Reattach.Proofs.Ledger
import Reattach.Proofs.Stores
import Reattach.Proofs.Plans
import Reattach.Proofs.BothEnds
import Reattach.Proofs.Interrupted
import Reattach.Proofs.Bare
import Reattach.Proofs.Purging
import Reattach.Proofs.Rounds
import Reattach.Proofs.Thefts
import Reattach.Proofs.Seats
import Reattach.Proofs.Fates
import Reattach.Proofs.Departures
import Reattach.Proofs.Holders
import Reattach.Proofs.Deadlines
import Reattach.Proofs.Forward
import Reattach.Proofs.Chronicle
import Reattach.Proofs.Turns
import Reattach.Proofs.Awaiting
import Reattach.Proofs.Lagging
import Reattach.Proofs.Unheard
import Reattach.Proofs.Replay
import Reattach.Proofs.Losses
import Reattach.Proofs.Separation
import Reattach.Proofs.Closing
import Reattach.Proofs.Respelling
import Reattach.Proofs.Respelled
import Reattach.Proofs.LetterCase
import Reattach.Proofs.Episodes
import Reattach.Proofs.Recovered
import Reattach.Proofs.Refusals
import Reattach.Proofs.HexTags
import Reattach.Proofs.SnapshotOrder
import Reattach.Proofs.JsonText
import Reattach.Proofs.RoundTrips
import Reattach.Proofs.Outliving
import Reattach.Proofs.Stamping
import Reattach.Proofs.WireForm
