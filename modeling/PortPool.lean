import PortPool.Main
import PortPool.Proofs.Except
import PortPool.Proofs.Table
import PortPool.Proofs.Window
import PortPool.Proofs.Change
import PortPool.Proofs.SinglePort
import PortPool.Proofs.Move
import PortPool.Proofs.Guard
import PortPool.Proofs.Soundness
import PortPool.Proofs.Runs
import PortPool.Proofs.Reservation
import PortPool.Proofs.Exhaustion
import PortPool.Proofs.Observation
import PortPool.Proofs.Effect
import PortPool.Proofs.Recording
import PortPool.Proofs.Lookup
import PortPool.Proofs.Packing
import PortPool.Proofs.Turn
import PortPool.Proofs.FirstFit
import PortPool.Proofs.History
import PortPool.Proofs.Intact
import PortPool.Proofs.Race
import PortPool.Proofs.Transaction
import PortPool.Proofs.Statements
import PortPool.Proofs.Words
import PortPool.Proofs.Release
import PortPool.Proofs.Reach
import PortPool.Proofs.Reuse
import PortPool.Proofs.Isolation
import PortPool.Proofs.Listing
import PortPool.Proofs.Outcome
import PortPool.Proofs.Recognition
import PortPool.Proofs.Registration
import PortPool.Proofs.Roll
import PortPool.Proofs.Text.Blank
import PortPool.Proofs.Text.Split
import PortPool.Proofs.Text.Numeral
import PortPool.Proofs.Text.Spacing
import PortPool.Proofs.Text.Utf8
import PortPool.Proofs.Text.Percent
import PortPool.Proofs.Text.Form
import PortPool.Proofs.Text.Order
import PortPool.Proofs.Json.Token
import PortPool.Proofs.Json.Draft
import PortPool.Proofs.Json.Decode
import PortPool.Proofs.Time.Rfc3339
import PortPool.Proofs.Time.Order
import PortPool.Proofs.Decimal.Binary64
import PortPool.Proofs.Decimal.Shortest
import PortPool.Proofs.Json.Legible
import PortPool.Proofs.Json.Ordered
import PortPool.Proofs.Wire.RoundTrip
import PortPool.Proofs.Wire.Schema
import PortPool.Proofs.Wire.NormalForm
import PortPool.Proofs.Http.Service
import PortPool.Proofs.Http.Authority
import PortPool.Proofs.Http.Availability
import PortPool.Proofs.Http.Refusal
import PortPool.Proofs.Http.Recognition
import PortPool.Proofs.Http.Registration
import PortPool.Proofs.Http.Query
import PortPool.Proofs.Http.Transport
import PortPool.Proofs.Url.Origin
import PortPool.Proofs.Url.Path
import PortPool.Proofs.Url.Ending
import PortPool.Proofs.Host.Sockets
import PortPool.Proofs.Host.Identity
import PortPool.Proofs.Client.Scope
import PortPool.Proofs.Client.Target
import PortPool.Proofs.Client.TargetGrammar
import PortPool.Proofs.Client.Request
import PortPool.Proofs.Client.Answer
import PortPool.Proofs.Client.Listing
import PortPool.Proofs.Client.Exchange
import PortPool.Proofs.Client.Show
import PortPool.Proofs.Client.Fingerprint
