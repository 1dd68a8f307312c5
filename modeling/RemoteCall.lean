import RemoteCall.Call.Baggage
import RemoteCall.Client.Invoke
import RemoteCall.Config.KeyCache
import RemoteCall.Config.Level
import RemoteCall.Config.Location
import RemoteCall.Report.Description
import RemoteCall.Report.Session
import RemoteCall.Proofs.Call.Record
import RemoteCall.Proofs.Call.Story
import RemoteCall.Proofs.Call.Course
import RemoteCall.Proofs.Call.Budgets
import RemoteCall.Proofs.Client.Surroundings
import RemoteCall.Proofs.Call.Verdict
import RemoteCall.Proofs.Call.Exclusion
import RemoteCall.Proofs.Call.Completeness
import RemoteCall.Proofs.Locator.Teardown
import RemoteCall.Proofs.Locator.Activity
import RemoteCall.Proofs.Locator.Placement
import RemoteCall.Proofs.Locator.Loads
import RemoteCall.Proofs.Locator.Accounts
import RemoteCall.Proofs.Client.Usage
import RemoteCall.Proofs.Call.Feedback
import RemoteCall.Proofs.Codec.RoundTrip
import RemoteCall.Proofs.Call.Chain
import RemoteCall.Proofs.Client.Transparency
import RemoteCall.Proofs.Context.Isolation
import RemoteCall.Proofs.Locator.FirstLoad
import RemoteCall.Proofs.Locator.Snapshots
import RemoteCall.Proofs.Locator.Succession
import RemoteCall.Proofs.Locator.Aftermath
import RemoteCall.Proofs.Codec.Messages
import RemoteCall.Proofs.Call.Requests
import RemoteCall.Proofs.Call.Deadlines
import RemoteCall.Proofs.Context.Nesting
import RemoteCall.Proofs.Locator.Fairness
import RemoteCall.Proofs.Locator.Separation
import RemoteCall.Proofs.Locator.Registrations
import RemoteCall.Proofs.Locator.Summaries
import RemoteCall.Proofs.Context.Changes
import RemoteCall.Proofs.Context.Grounded
import RemoteCall.Proofs.Context.Readings
import RemoteCall.Proofs.Context.Locality
import RemoteCall.Proofs.Call.Watch
import RemoteCall.Proofs.Client.Baggage
import RemoteCall.Proofs.Text.Spelling
import RemoteCall.Proofs.Config.Resolution
import RemoteCall.Proofs.Service.Methods
import RemoteCall.Proofs.Service.Batch
import RemoteCall.Proofs.Service.Registration
import RemoteCall.Proofs.Service.Settlement
import RemoteCall.Proofs.Client.Importing
import RemoteCall.Proofs.Locator.DirectLinks
import RemoteCall.Proofs.Client.Running
import RemoteCall.Proofs.Client.Callers
import RemoteCall.Proofs.Client.Closers
import RemoteCall.Proofs.Client.Closing
import RemoteCall.Proofs.Codec.Writing
import RemoteCall.Proofs.Codec.Reading
import RemoteCall.Proofs.Codec.Mirror
import RemoteCall.Proofs.Codec.Naming
import RemoteCall.Proofs.Call.Layers
import RemoteCall.Proofs.Call.Commuting
import RemoteCall.Proofs.Text.Numerals
import RemoteCall.Proofs.Text.Pieces
import RemoteCall.Proofs.Locator.Addresses
import RemoteCall.Proofs.Config.References
import RemoteCall.Proofs.Config.Paths
import RemoteCall.Proofs.Config.KeyReading
