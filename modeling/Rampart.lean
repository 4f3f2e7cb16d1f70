import Rampart.Path.Builder
import Rampart.Payload.Serializer
import Rampart.Type.Shape
import Rampart.Audit.Event
import Rampart.Audit.Logger
import Rampart.Config.Load
import Rampart.File.Access
import Rampart.Record.Subscriber
import Rampart.Proofs.Path.Confinement
import Rampart.Proofs.Path.Combining
import Rampart.Proofs.Path.Chaining
import Rampart.Proofs.Path.Outcome
import Rampart.Proofs.File.Confinement
import Rampart.Proofs.Payload.Gate
import Rampart.Proofs.Payload.RoundTrip
import Rampart.Proofs.Payload.RootTag
import Rampart.Proofs.Payload.Incidents
import Rampart.Proofs.Payload.Agreement
import Rampart.Proofs.File.Trail
import Rampart.Proofs.Alerts
import Rampart.Proofs.Audit.Delivery
import Rampart.Proofs.File.Appending
import Rampart.Proofs.Path.Checks
import Rampart.Proofs.Path.Segments
import Rampart.Proofs.Path.Spelling
import Rampart.Proofs.Path.Anchoring
import Rampart.Proofs.Path.Percent
import Rampart.Proofs.Payload.Erasure
import Rampart.Proofs.File.Verified
import Rampart.Proofs.Payload.TagForms
import Rampart.Proofs.Path.RoundTrip
import Rampart.Proofs.Audit.Reading
import Rampart.Proofs.Audit.Account
import Rampart.Proofs.Config.Layering
import Rampart.Proofs.Path.Walking
import Rampart.Proofs.Payload.DepthLimit
