import ChangeNotice.Catalog
import ChangeNotice.Dispatch
import ChangeNotice.Document
import ChangeNotice.Event
import ChangeNotice.Event.Written
import ChangeNotice.Filter
import ChangeNotice.Handlers
import ChangeNotice.Ident
import ChangeNotice.Journal
import ChangeNotice.Json.Numeral
import ChangeNotice.Json.Reader
import ChangeNotice.Json.Value
import ChangeNotice.Mask
import ChangeNotice.Notify
import ChangeNotice.Observer
import ChangeNotice.Pass
import ChangeNotice.Proofs.Change
import ChangeNotice.Proofs.JournalAccuracy
import ChangeNotice.Proofs.Client
import ChangeNotice.Proofs.EntryMoves
import ChangeNotice.Proofs.NotifyTracks
import ChangeNotice.Proofs.Outermost
import ChangeNotice.Proofs.PassExact
import ChangeNotice.Proofs.PassTurns
import ChangeNotice.Proofs.PerformTracks
import ChangeNotice.Proofs.RegistryLaws
import ChangeNotice.Proofs.RemovalEffect
import ChangeNotice.Proofs.ScopeAccount
import ChangeNotice.Proofs.Timeline
import ChangeNotice.Proofs.Tracks
import ChangeNotice.Proofs.WorldLaws
import ChangeNotice.Registry
import ChangeNotice.Run
import ChangeNotice.Scenario.Perform
import ChangeNotice.Scenario.Respond
import ChangeNotice.Scenario.Session
import ChangeNotice.Scenario.Step
import ChangeNotice.Scope
import ChangeNotice.Sink
import ChangeNotice.Table
import ChangeNotice.Text.Inspect
import ChangeNotice.Text.Printable
import ChangeNotice.Text.Quoted
import ChangeNotice.Transcript
import ChangeNotice.World
import ChangeNotice.Proofs.CallStack
import ChangeNotice.Proofs.Refusal
import ChangeNotice.Proofs.Room
import ChangeNotice.Proofs.Termination
import ChangeNotice.Proofs.SkipCounts
import ChangeNotice.Proofs.JsonText
import ChangeNotice.Proofs.RoundTrip
import ChangeNotice.Proofs.Inside
import ChangeNotice.Proofs.Lifetime
import ChangeNotice.Proofs.PolicyErasure
import ChangeNotice.Proofs.StreamAccount
import ChangeNotice.Proofs.RemovalPolicy
import ChangeNotice.Proofs.EndUpdate
import ChangeNotice.Proofs.ReaderLaws
import ChangeNotice.Proofs.EventShape
import ChangeNotice.Proofs.Spans
import ChangeNotice.Proofs.Untargeted
import ChangeNotice.Proofs.SlotTurns
import ChangeNotice.Proofs.HandlerCalls
import ChangeNotice.Proofs.ShownScopes
import ChangeNotice.Proofs.EventRoutes
import ChangeNotice.Proofs.ScriptVerdict
import ChangeNotice.Proofs.LineExport
import ChangeNotice.Proofs.Guards
import ChangeNotice.Proofs.SharedFlags
import ChangeNotice.Proofs.Roster
import ChangeNotice.Proofs.MarkCounts
import ChangeNotice.Proofs.Cascade
import ChangeNotice.Proofs.MaskLaws
import ChangeNotice.Proofs.Rendering
import ChangeNotice.Proofs.ScopeStack
import ChangeNotice.Proofs.LoadAccount
import ChangeNotice.Proofs.LoadEvents
import ChangeNotice.Proofs.OverflowWarnings
import ChangeNotice.Proofs.Visibility
import ChangeNotice.Proofs.Composition
import ChangeNotice.Proofs.PolicyIndependence
