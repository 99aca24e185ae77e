import Payments.Gateway.Failure
import Payments.Sink
import Payments.Store.Basic

/-!
How a payment operation fails, with a code, a status and a message for its caller.
-/

namespace Payments

inductive PaymentError
  | refused (refusal : Refusal)
  | gateway (failure : Gateway.Failure)
  | gatewayUnavailable (attempts : Nat) (last : Gateway.Failure)
  | notFound (reference : String)
  | contended (reference : String)
  | store (error : StoreError)
  | sink (error : SinkError)
deriving DecidableEq, Repr

namespace PaymentError

def ofClient : Gateway.ClientError → PaymentError
  | .refused refusal => .refused refusal
  | .terminal failure => .gateway failure
  | .exhausted attempts last => .gatewayUnavailable attempts last

def code : PaymentError → String
  | .refused refusal => refusal.code
  | .gateway failure => failure.kind.code
  | .gatewayUnavailable _ last =>
    if last.kind = .rateLimit then "rate_limit_error" else "gateway_unavailable"
  | .notFound _ => "not_found"
  | .contended _ | .store _ | .sink _ => "internal_error"

def httpStatus : PaymentError → Nat
  | .refused _ => 400
  | .gateway failure => failure.kind.httpStatus
  | .gatewayUnavailable _ last => if last.kind = .rateLimit then 429 else 502
  | .notFound _ => 404
  | .contended _ | .store _ | .sink _ => 500

def contendedMessage (reference : String) : String :=
  "concurrent updates on " ++ reference ++ " did not settle"

def message : PaymentError → String
  | .refused refusal => "validation: " ++ refusal.message
  | .gateway failure => "gateway: " ++ failure.message
  | .gatewayUnavailable attempts last => (Gateway.ClientError.exhausted attempts last).message
  | .notFound reference => (StoreError.notFound reference).message
  | .contended reference => contendedMessage reference
  | .store error => "store: " ++ error.message
  | .sink error => "sink: " ++ error.message

end PaymentError

inductive DeliveryError
  | signature (reason : String)
  | payload (reason : String)
  | store (error : StoreError)
  | contended (reference : String)
deriving DecidableEq, Repr

namespace DeliveryError

def message : DeliveryError → String
  | .signature reason => "webhook signature: " ++ reason
  | .payload reason => "malformed webhook payload: " ++ reason
  | .store error => "store: " ++ error.message
  | .contended reference => PaymentError.contendedMessage reference

def httpStatus : DeliveryError → Nat
  | .signature _ | .payload _ => 400
  | .store _ | .contended _ => 500

end DeliveryError

end Payments
