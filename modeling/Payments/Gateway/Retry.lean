import Payments.Duration
import Payments.Gateway.Charge
import Payments.Workflow

/-!
Calls to the gateway with bounded exponential backoff. A call gets the time left of the whole
operation, or the limit of a single call if that is shorter; a transient failure is tried again
after a growing delay, unless the attempts run out or the delay would cross the limit of the whole.
Where the time so far and the delay are too long for one span, the operation breaks down without an
answer.
-/

namespace Payments.Gateway

structure RetryPolicy where
  maxAttempts : Nat
  baseDelay : Duration
  multiplier : Nat
  callTimeout : Duration
  totalTimeout : Duration
deriving DecidableEq, Repr

namespace RetryPolicy

def charge : RetryPolicy :=
  { maxAttempts := 3
    baseDelay := Duration.ofSeconds 1
    multiplier := 2
    callTimeout := Duration.ofSeconds 10
    totalTimeout := Duration.ofSeconds 30 }

def confirmation : RetryPolicy := { charge with maxAttempts := 2 }

/-- The delay after an attempt, the first being number 1. -/
def delayAfter (policy : RetryPolicy) (attempt : Nat) : Duration :=
  Duration.times policy.baseDelay (Duration.power32 policy.multiplier (attempt - 1))

end RetryPolicy

inductive Call
  | create (order : Order) (key : String)
  | confirm (reference : Reference)
deriving DecidableEq, Repr

inductive GatewayAction
  | call (call : Call) (limit : Duration)
  | sleep (span : Duration)
  /-- Reads a clock that only runs forward. -/
  | clock

namespace GatewayAction

abbrev Reply : GatewayAction → Type
  | .call _ _ => Option (Except Failure Charge)
  | .sleep _ => Unit
  | .clock => Duration

end GatewayAction

abbrev GatewayWorkflow := Workflow GatewayAction GatewayAction.Reply

def noResponse (limit : Duration) : Failure :=
  ⟨.timeout, "no response within " ++ toString limit.millis ++ " ms"⟩

namespace Retry

def once (policy : RetryPolicy) (call : Call) (started : Duration)
    (onTransient : Failure → GatewayWorkflow (Option (Except ClientError Charge))) :
    GatewayWorkflow (Option (Except ClientError Charge)) :=
  .ask .clock fun now =>
    let limit := min policy.callTimeout (policy.totalTimeout - (now - started))
    .ask (.call call limit) fun
      | some (.ok charge) => .done (some (.ok charge))
      | some (.error failure) =>
        if failure.isTransient then onTransient failure
        else .done (some (.error (.terminal failure)))
      | none => onTransient (noResponse limit)

def attempt (policy : RetryPolicy) (call : Call) (started : Duration) :
    (more number : Nat) → GatewayWorkflow (Option (Except ClientError Charge))
  | 0, number =>
    once policy call started fun failure => .done (some (.error (.exhausted number failure)))
  | more + 1, number =>
    once policy call started fun failure =>
      let delay := policy.delayAfter number
      .ask .clock fun now =>
        match Duration.plus? (now - started) delay with
        | none => .done none
        | some spent =>
          if policy.totalTimeout ≤ spent then .done (some (.error (.exhausted number failure)))
          else .ask (.sleep delay) fun _ => attempt policy call started more (number + 1)

def run (policy : RetryPolicy) (call : Call) :
    GatewayWorkflow (Option (Except ClientError Charge)) :=
  .ask .clock fun started => attempt policy call started (policy.maxAttempts - 1) 1

end Retry

end Payments.Gateway
