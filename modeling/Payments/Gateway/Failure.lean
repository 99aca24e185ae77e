import Payments.Refusal

/-!
Failures of the gateway, by kind. A transient failure is worth another attempt; the others are
final.
-/

namespace Payments.Gateway

inductive FailureKind
  | card
  | rateLimit
  | invalidRequest
  | authentication
  | connection
  | timeout
  | api
deriving DecidableEq, Repr

namespace FailureKind

def all : List FailureKind :=
  [.card, .rateLimit, .invalidRequest, .authentication, .connection, .timeout, .api]

def name : FailureKind → String
  | .card => "card"
  | .rateLimit => "rate_limit"
  | .invalidRequest => "invalid_request"
  | .authentication => "authentication"
  | .connection => "connection"
  | .timeout => "timeout"
  | .api => "api"

def ofName? (name : String) : Option FailureKind := all.find? (·.name = name)

def title : FailureKind → String
  | .card => "card declined"
  | .rateLimit => "rate limited"
  | .invalidRequest => "invalid request"
  | .authentication => "authentication failed"
  | .connection => "connection failed"
  | .timeout => "timed out"
  | .api => "gateway error"

def code : FailureKind → String
  | .card => "card_error"
  | .rateLimit => "rate_limit_error"
  | .invalidRequest => "invalid_request_error"
  | .authentication => "authentication_error"
  | .connection | .timeout | .api => "gateway_error"

def httpStatus : FailureKind → Nat
  | .card | .invalidRequest => 400
  | .rateLimit => 429
  | .authentication => 500
  | .connection | .timeout | .api => 502

def isTransient : FailureKind → Bool
  | .card | .invalidRequest => false
  | _ => true

end FailureKind

structure Failure where
  kind : FailureKind
  reason : String
deriving DecidableEq, Repr

def Failure.message (failure : Failure) : String := failure.kind.title ++ ": " ++ failure.reason

def Failure.isTransient (failure : Failure) : Bool := failure.kind.isTransient

inductive ClientError
  | refused (refusal : Refusal)
  | terminal (failure : Failure)
  | exhausted (attempts : Nat) (last : Failure)
deriving DecidableEq, Repr

def ClientError.code : ClientError → String
  | .refused refusal => refusal.code
  | .terminal failure => failure.kind.code
  | .exhausted _ last => last.kind.code

def ClientError.message : ClientError → String
  | .refused refusal => refusal.message
  | .terminal failure => "gateway rejected the request: " ++ failure.message
  | .exhausted attempts last =>
    "gateway unavailable after " ++ toString attempts ++ " attempts: " ++ last.message

end Payments.Gateway
