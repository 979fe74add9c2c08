import ScriptHost.Engine.Scripted
import ScriptHost.Engine.Standard
import ScriptHost.Http.Host
import ScriptHost.Table.Address
import ScriptHost.Table.Migration
import ScriptHost.Archive.Given
import ScriptHost.Catalog.Calls
import ScriptHost.Catalog.Traffic
import ScriptHost.Proofs.Changes
import ScriptHost.Proofs.Decisions
import ScriptHost.Proofs.Gates
import ScriptHost.Proofs.Reachable
import ScriptHost.Proofs.TurnOrder
import ScriptHost.Proofs.Linearization
import ScriptHost.Proofs.Reopening
import ScriptHost.Proofs.Revisions
import ScriptHost.Proofs.Attempts
import ScriptHost.Proofs.Progress
import ScriptHost.Proofs.AllOrNothing
import ScriptHost.Proofs.Reviews
import ScriptHost.Proofs.Outcomes
import ScriptHost.Proofs.Provenance
import ScriptHost.Catalog.Sessions
import ScriptHost.Proofs.Deletions
import ScriptHost.Proofs.Isolation
import ScriptHost.Proofs.Independence
import ScriptHost.Proofs.Dormancy
import ScriptHost.Proofs.ProtectedFields
import ScriptHost.Proofs.Reservation
import ScriptHost.Archive.Use
import ScriptHost.Table.Command
import ScriptHost.Proofs.CommandText
import ScriptHost.Proofs.ListingOrder
import ScriptHost.Proofs.TableMirror
import ScriptHost.Proofs.TableAgreement
import ScriptHost.Proofs.ChannelRelease
import ScriptHost.Proofs.EvaluationFeed
import ScriptHost.Proofs.HiddenFailures
import ScriptHost.Proofs.UpdateTurns
import ScriptHost.Proofs.LiveEditions
import ScriptHost.Proofs.VersionCheck
import ScriptHost.Proofs.VersionGrowth
import ScriptHost.Proofs.Renames
import ScriptHost.Proofs.Paging
import ScriptHost.Catalog.Browsing
import ScriptHost.Proofs.ConcurrentListing
import ScriptHost.Proofs.ListingContent
import ScriptHost.Proofs.Utf8Texts
import ScriptHost.Proofs.Base64Texts
import ScriptHost.Proofs.EncodedCode
import ScriptHost.Proofs.AdmissionRules
import ScriptHost.Proofs.Overlays
import ScriptHost.Proofs.Readmission
import ScriptHost.Proofs.ComposedPatches
import ScriptHost.Proofs.EngineAtHand
import ScriptHost.Proofs.ChunkLog
import ScriptHost.Proofs.LostLines
import ScriptHost.Proofs.SettingTexts
import ScriptHost.Proofs.AcceptedSettings
import ScriptHost.Proofs.BoundValues
import ScriptHost.Proofs.JsonRoundTrip
import ScriptHost.Proofs.EchoedInput
import ScriptHost.Proofs.ReturnedInput
import ScriptHost.Child.Piping
import ScriptHost.Proofs.PipedExchange
import ScriptHost.Proofs.PipedReturn
import ScriptHost.Proofs.NameLocks
import ScriptHost.Proofs.LockRounds
import ScriptHost.Proofs.Completion
import ScriptHost.Proofs.SweptCells
