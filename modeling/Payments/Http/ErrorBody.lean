import Payments.Service.Error

/-!
Errors as HTTP responses. What went wrong inside is never told: every internal error has the same
status and the same body.
-/

namespace Payments.Http

inductive ApiError
  | payment (error : PaymentError)
  | delivery (error : DeliveryError)
  | sink (error : SinkError)

structure ErrorBody where
  status : Nat
  code : String
  message : String
deriving DecidableEq, Repr

namespace ErrorBody

def internalCode : String := "internal_error"

def internalMessage : String := "internal error"

def internal : ErrorBody := ⟨500, internalCode, internalMessage⟩

def messageFor : PaymentError → String
  | .refused refusal => refusal.message
  | .gateway failure => failure.reason
  | .gatewayUnavailable _ last => "payment gateway unavailable: " ++ last.reason
  | error => error.message

/-- An internal error is told by its status and its code. -/
def ofPayment (error : PaymentError) : ErrorBody :=
  if 500 ≤ error.httpStatus ∧ error.code = internalCode then internal
  else ⟨error.httpStatus, error.code, messageFor error⟩

def ofDelivery (error : DeliveryError) : ErrorBody :=
  match error with
  | .signature _ | .payload _ => ⟨error.httpStatus, "webhook_error", error.message⟩
  | .store _ | .contended _ => ⟨error.httpStatus, internalCode, internalMessage⟩

def json (body : ErrorBody) : Json :=
  .obj
    [ ("code", .str body.code)
    , ("httpStatus", .ofNat body.status)
    , ("message", .str body.message) ]

end ErrorBody

def ApiError.body : ApiError → ErrorBody
  | .payment error => .ofPayment error
  | .delivery error => .ofDelivery error
  | .sink _ => .internal

end Payments.Http
