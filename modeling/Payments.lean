import Payments.Http.Api
import Payments.Rows.Audit
import Payments.Rows.Payment
import Payments.Settings.Basic
import Payments.Simulation.Schedule
import Payments.Stripe.Wire
import Payments.Proofs.Store.History
import Payments.Proofs.Interleaving.Stored
import Payments.Proofs.Interleaving.Service
import Payments.Proofs.Http.Errors
import Payments.Proofs.Interleaving.Alone
import Payments.Proofs.Settlement.Outcome
import Payments.Proofs.Settlement.Run
import Payments.Proofs.Settlement.Writers
import Payments.Proofs.Settlement.Race
import Payments.Proofs.Settlement.Attempts
import Payments.Proofs.Cache.Change
import Payments.Proofs.Cache.Coherence
import Payments.Proofs.Cache.Readers
import Payments.Proofs.Service.Run
import Payments.Proofs.Service.Alone
import Payments.Proofs.Service.Charge
import Payments.Proofs.Service.Confirm
import Payments.Proofs.Service.Outage
import Payments.Proofs.Service.Replay
import Payments.Proofs.Service.Closed
import Payments.Proofs.Service.ChargedMoney
import Payments.Proofs.Service.Counters
import Payments.Proofs.Service.Separation
import Payments.Proofs.Audit.Trail
import Payments.Proofs.Gateway.Attempts
import Payments.Proofs.Search.Projection
import Payments.Proofs.Webhook.Delivery
import Payments.Proofs.Webhook.Redelivery
import Payments.Proofs.Webhook.Signing
import Payments.Proofs.Webhook.Decoding
import Payments.Proofs.Decimal.Value
import Payments.Proofs.Money.SmallestUnits
import Payments.Proofs.Money.Json
import Payments.Proofs.Stripe.Refusal
import Payments.Proofs.Stripe.Confirmation
import Payments.Proofs.Gateway.Resolution
import Payments.Proofs.Gateway.Deadline
import Payments.Proofs.Gateway.Backoff
import Payments.Proofs.Payment.Updates
import Payments.Proofs.Charge.Acceptance
import Payments.Proofs.Rows.RoundTrip
import Payments.Proofs.Settings.Usable
import Payments.Proofs.Paging.Listings
import Payments.Proofs.Search.FreeText
