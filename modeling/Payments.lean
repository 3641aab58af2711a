import Payments.Json.Member
import Payments.Main
import Payments.Rehearsal.Server
import Payments.Rehearsal.Workspace
import Payments.Proofs.Decimal.Sums
import Payments.Proofs.Decimal.Exact
import Payments.Proofs.Decimal.Nearest
import Payments.Proofs.Outcome
import Payments.Proofs.Payment.Transition
import Payments.Proofs.Ledger.Refunds
import Payments.Proofs.Ledger.Exact
import Payments.Proofs.Ledger.Rounding
import Payments.Proofs.Store.Queries
import Payments.Proofs.Store.Writes
import Payments.Proofs.Store.Frames
import Payments.Proofs.Store.Clients
import Payments.Proofs.Store.Indexes
import Payments.Proofs.Store.Lookups
import Payments.Proofs.Payment.Consistency
import Payments.Proofs.Payment.Graph
import Payments.Proofs.Payment.Completion
import Payments.Proofs.Payment.Standing
import Payments.Proofs.Service.Course
import Payments.Proofs.Service.Confinement
import Payments.Proofs.Service.Dialogue
import Payments.Proofs.Service.Registering
import Payments.Proofs.Service.Confirmation
import Payments.Proofs.Service.Objections
import Payments.Proofs.Traffic
import Payments.Proofs.Traffic.Dialogue
import Payments.Proofs.Traffic.Account
import Payments.Proofs.Traffic.Refund
import Payments.Proofs.Traffic.Soundness
import Payments.Proofs.Traffic.Outcome
import Payments.Proofs.Traffic.InTurn
import Payments.Proofs.Traffic.Alone
import Payments.Proofs.Traffic.Independence
import Payments.Proofs.Traffic.Keys
import Payments.Proofs.Traffic.Registration
import Payments.Proofs.Traffic.RegistrationAlone
import Payments.Proofs.Traffic.Deliveries
import Payments.Proofs.Traffic.Duplicates
import Payments.Proofs.Traffic.Admission
import Payments.Proofs.Traffic.RefundAlone
import Payments.Proofs.Consumer.Desk
import Payments.Proofs.Consumer.Redelivery
import Payments.Proofs.Text.Digits
import Payments.Proofs.Decimal.Text
import Payments.Proofs.Calendar.Text
import Payments.Proofs.Json.Spelling
import Payments.Proofs.Json.Rendering
import Payments.Proofs.Json.Codec
import Payments.Proofs.Json.Order
import Payments.Proofs.Message.Values
import Payments.Proofs.Message.Records
import Payments.Proofs.Message.Command
import Payments.Proofs.Message.Return
import Payments.Proofs.Ledger.Loading
import Payments.Proofs.Payment.Snapshot
import Payments.Proofs.EventLog.Line
import Payments.Proofs.EventLog.Relay
import Payments.Proofs.Consumer.Commitment
import Payments.Proofs.Search.Order
import Payments.Proofs.Message.Stream
import Payments.Proofs.Report.Csv
import Payments.Proofs.Report.Return
import Payments.Proofs.Search.Paging
import Payments.Proofs.Search.Refundable
import Payments.Proofs.Decimal.Scale
import Payments.Proofs.Gateway.Retrying
import Payments.Proofs.Ledger.Scale
import Payments.Proofs.Payment.Scale
import Payments.Proofs.Text.Percent
import Payments.Proofs.Url.Path
import Payments.Proofs.Url.Below
import Payments.Proofs.Gateway.Resource
