import Payments.Gateway.Failure
import Payments.Json.Reader
import Payments.Stripe.Intent

/-!
What goes wrong between this service and Stripe, and the kind of gateway failure it counts as. A
reply that is no success is an error object with the HTTP status; a body that cannot be read, in
whatever reply, is a fault of the exchange.
-/

namespace Payments.Stripe

inductive ExchangeFault
  | refused (httpStatus : Nat) (message : Option String)
  | timedOut
  | unreachable (reason : String)
  | unreadableBody
  | unsupportedVersion
deriving DecidableEq, Repr

namespace ExchangeFault

def kindOfStatus (httpStatus : Nat) : Gateway.FailureKind :=
  if httpStatus = 402 then .card
  else if httpStatus = 429 then .rateLimit
  else if httpStatus = 401 then .authentication
  else if 500 ≤ httpStatus ∧ httpStatus ≤ 599 then .api
  else .invalidRequest

def classify : ExchangeFault → Gateway.Failure
  | .refused httpStatus message =>
    ⟨kindOfStatus httpStatus, message.getD ("Stripe returned HTTP " ++ toString httpStatus)⟩
  | .timedOut => ⟨.timeout, "request timed out"⟩
  | .unreachable reason => ⟨.connection, "HTTP client error: " ++ reason⟩
  | .unreadableBody => ⟨.invalidRequest, "error serializing or deserializing a request"⟩
  | .unsupportedVersion =>
    ⟨.invalidRequest, "attempted to access an unsupported version of the api"⟩

end ExchangeFault

open Shape in
def errorObject : Shape :=
  .record
    [ need (.word errorTypes) "type", may .text "message", may (.word errorCodes) "code"
    , may .text "decline_code", may (.id chargeId.starts) "charge" ]

def errorBody : Shape := .record [Shape.need errorObject "error"]

/-- The message of an error object of a known type and code. -/
def errorMessage? (value : Json) : Option (Option String) := do
  let error ← errorBody.member? "error" value
  if errorBody.fits value then return (errorObject.member? "message" error).bind Json.str?
  else none

structure Reply where
  httpStatus : Nat
  body : List UInt8

namespace Reply

def isSuccess (reply : Reply) : Bool := 200 ≤ reply.httpStatus && reply.httpStatus < 300

def json? (reply : Reply) : Option Json := (Json.Reader.parse Json.Reader.value reply.body).toOption

def intent (reply : Reply) : Except ExchangeFault Intent :=
  match reply.json? with
  | none => .error .unreadableBody
  | some value =>
    if reply.isSuccess then
      match Intent.ofJson? value with
      | some intent => .ok intent
      | none => .error .unreadableBody
    else
      match errorMessage? value with
      | some message => .error (.refused reply.httpStatus message)
      | none => .error .unreadableBody

end Reply

end Payments.Stripe
