import Fulfillment.Breaker.Counting
import Fulfillment.Breaker.Ratio
import Fulfillment.Clock.Duration
import Fulfillment.Clock.Instant
import Fulfillment.Config.Settings
import Fulfillment.Decimal.Basic
import Fulfillment.Decimal.Text
import Fulfillment.Http.Address
import Fulfillment.Http.Binding
import Fulfillment.Http.Body
import Fulfillment.Http.Chaos
import Fulfillment.Http.Customers
import Fulfillment.Http.Gateway
import Fulfillment.Http.Head
import Fulfillment.Http.Message
import Fulfillment.Http.Network
import Fulfillment.Http.Orders
import Fulfillment.Http.Path
import Fulfillment.Http.Payments
import Fulfillment.Http.Reply
import Fulfillment.Http.Route
import Fulfillment.Http.System
import Fulfillment.Http.Tree
import Fulfillment.Http.Uri
import Fulfillment.Json.Basic
import Fulfillment.Json.Decode
import Fulfillment.Json.Reader
import Fulfillment.Main
import Fulfillment.Model.Customer
import Fulfillment.Model.Fault
import Fulfillment.Model.Item
import Fulfillment.Model.Order
import Fulfillment.Model.Payment
import Fulfillment.Model.Request
import Fulfillment.Model.Status
import Fulfillment.Number.Binary64
import Fulfillment.Number.Duration
import Fulfillment.Number.FloatText
import Fulfillment.Number.Integer
import Fulfillment.Proofs.Breaker.Counting
import Fulfillment.Proofs.Breaker.Ratio
import Fulfillment.Proofs.Clock.Calendar
import Fulfillment.Proofs.Clock.Text
import Fulfillment.Proofs.Customers.Directory
import Fulfillment.Proofs.Gateway.Answers
import Fulfillment.Proofs.Gateway.Creation
import Fulfillment.Proofs.Http.Routes
import Fulfillment.Proofs.Json.Written
import Fulfillment.Proofs.Concurrent.Pool
import Fulfillment.Proofs.Concurrent.Program
import Fulfillment.Proofs.Keys.Protocol
import Fulfillment.Proofs.Keys.Saga
import Fulfillment.Proofs.Orders.Breaker
import Fulfillment.Proofs.Orders.Checks
import Fulfillment.Proofs.Orders.Clients
import Fulfillment.Proofs.Orders.Laws
import Fulfillment.Proofs.Orders.Lifecycle
import Fulfillment.Proofs.Orders.Placement
import Fulfillment.Proofs.Orders.Restore
import Fulfillment.Proofs.Orders.SagaHistory
import Fulfillment.Proofs.Orders.Save
import Fulfillment.Proofs.Orders.Totals
import Fulfillment.Proofs.Payments.Api
import Fulfillment.Proofs.Payments.Batch
import Fulfillment.Proofs.Payments.Laws
import Fulfillment.Proofs.Payments.Lifecycle
import Fulfillment.Proofs.Payments.Recovery
import Fulfillment.Proofs.Payments.Settlement
import Fulfillment.Proofs.Payments.Store
import Fulfillment.Proofs.Payments.Sweep
import Fulfillment.Proofs.Shared.History
import Fulfillment.Proofs.Shared.StageMoves
import Fulfillment.Proofs.Shared.World
import Fulfillment.Proofs.Stores.Listings
import Fulfillment.Proofs.Stores.SagaTable
import Fulfillment.Proofs.System.Completion
import Fulfillment.Proofs.System.StatusMoves
import Fulfillment.Proofs.System.Wiring
import Fulfillment.Script.Answer
import Fulfillment.Script.Breakers
import Fulfillment.Script.Customers
import Fulfillment.Script.Entity
import Fulfillment.Script.Http
import Fulfillment.Script.Injector
import Fulfillment.Script.Input
import Fulfillment.Script.Normalize
import Fulfillment.Script.Orders
import Fulfillment.Script.Payments
import Fulfillment.Script.Run
import Fulfillment.Script.Settings
import Fulfillment.Script.Stateless
import Fulfillment.Service.Customers
import Fulfillment.Service.Orders
import Fulfillment.Service.Payments
import Fulfillment.Service.Processor
import Fulfillment.Service.Repo
import Fulfillment.Service.Saga
import Fulfillment.Service.Save
import Fulfillment.Store.Customers
import Fulfillment.Store.Keys
import Fulfillment.Store.Orders
import Fulfillment.Store.Payments
import Fulfillment.Store.SagaLog
import Fulfillment.Store.SagaTable
import Fulfillment.Text.Blank
import Fulfillment.Text.Bytes
import Fulfillment.Text.Case
import Fulfillment.Text.Email
import Fulfillment.Text.Pattern
import Fulfillment.Text.Printable
import Fulfillment.Text.Quoted
import Fulfillment.Text.Utf8
