import Payments.Proofs.Interleaving.Alone
import Payments.Stripe.Gateway

/-!
Replies by which Stripe refuses a request. Main statement: a refused request ends its call, and the
failure is worth another attempt exactly if the status is that of an outage and the body is an error
object. An outage that is reported by any other body, such as the page of a load balancer, counts as
an invalid request.
-/

namespace Payments.Stripe

open Interleaving

/-- The service cannot be reached as usual: by us, by that many at once, or by anyone. -/
def Reply.Outage (reply : Reply) : Prop :=
  reply.httpStatus = 401 ∨ reply.httpStatus = 429 ∨
    500 ≤ reply.httpStatus ∧ reply.httpStatus ≤ 599

namespace Reply

def explanation? (reply : Reply) : Option (Option String) := reply.json?.bind errorMessage?

def refusal (reply : Reply) : Gateway.Failure :=
  match reply.explanation? with
  | some message => (ExchangeFault.refused reply.httpStatus message).classify
  | none => ExchangeFault.unreadableBody.classify

variable {reply : Reply}

theorem received_refusal (refused : reply.isSuccess = false) :
    received (.ok reply) = .error reply.refusal := by
  change (Reply.intent reply).mapError ExchangeFault.classify = .error reply.refusal
  unfold Reply.intent refusal explanation?
  cases reply.json? with
  | none => rfl
  | some value =>
      simp only [refused, Bool.false_eq_true, if_false, Option.bind_some]
      cases errorMessage? value <;> rfl

theorem isTransient_kindOfStatus_iff (status : Nat) :
    (ExchangeFault.kindOfStatus status).isTransient = true ↔
      status = 401 ∨ status = 429 ∨ 500 ≤ status ∧ status ≤ 599 := by
  unfold ExchangeFault.kindOfStatus
  grind [Gateway.FailureKind.isTransient]

theorem isTransient_refusal_iff (reply : Reply) :
    reply.refusal.isTransient = true ↔ reply.Outage ∧ reply.explanation?.isSome = true := by
  unfold refusal
  cases reply.explanation? with
  | none => simp [ExchangeFault.classify, Gateway.Failure.isTransient,
      Gateway.FailureKind.isTransient]
  | some message =>
      rw [Option.isSome_some, and_iff_left rfl]
      exact isTransient_kindOfStatus_iff reply.httpStatus

end Reply

def EndsRefused (talk : List (Interleaving.Exchange Answer))
    (result : Except Gateway.Failure Gateway.Charge) : Prop :=
  ∀ request reply, (⟨request, .ok reply⟩ : Interleaving.Exchange Answer) ∈ talk →
    reply.isSuccess = false → result = .error reply.refusal

theorem create_keeps (order : Gateway.Order) (key : String) :
    Keeps (fun _ _ => True) EndsRefused (create order key) [] := by
  unfold create
  split
  · split
    · nofun
    · refine ⟨trivial, fun answer request reply member refused => ?_⟩
      cases List.mem_singleton.mp member
      rw [Reply.received_refusal refused]
      rfl
  · nofun

theorem confirm_keeps (reference : Reference) :
    Keeps (fun _ _ => True) EndsRefused (confirm reference) [] := by
  unfold confirm
  split
  · refine ⟨trivial, fun answer => ?_⟩
    cases read : received answer with
    | error failure =>
        simp only [read]
        intro request reply member refused
        cases List.mem_singleton.mp member
        rw [Reply.received_refusal refused] at read
        cases read
        rfl
    | ok intent =>
        have kept : ∀ reply, answer = .ok reply → reply.isSuccess = false → False := by
          rintro reply rfl refused
          rw [Reply.received_refusal refused] at read
          cases read
        simp only [read]
        split
        · refine ⟨trivial, fun last request reply member refused => ?_⟩
          rcases List.mem_append.mp member with member | member
          · cases List.mem_singleton.mp member
            exact (kept reply rfl refused).elim
          · cases List.mem_singleton.mp member
            rw [Reply.received_refusal refused]
            rfl
        · intro request reply member refused
          cases List.mem_singleton.mp member
          exact (kept reply rfl refused).elim
  · nofun

theorem call_keeps (call : Gateway.Call) :
    Keeps (fun _ _ => True) EndsRefused (Stripe.call call) [] := by
  cases call with
  | create order key => exact create_keeps order key
  | confirm reference => exact confirm_keeps reference

/-- A refused request ends its call. The failure is worth another attempt if the status is that of an
outage and the body is an error object, and in no other case. -/
theorem refusal_isTransient_iff_explained {Choice σ : Type}
    (network : Choice → (request : Request) → σ → Answer request × σ) (call : Gateway.Call)
    (state : σ) (ahead : Nat → Choice) (request : Request) (reply : Reply)
    (received : ⟨request, .ok reply⟩ ∈
      (alone network (Stripe.call call) (.start state ahead)).2.talk)
    (refused : reply.isSuccess = false) :
    ∃ failure,
      (alone network (Stripe.call call) (.start state ahead)).1 = .error failure ∧
      (failure.isTransient = true ↔ reply.Outage ∧ reply.explanation?.isSome = true) ∧
      (reply.explanation? = none →
        failure = ⟨.invalidRequest, "error serializing or deserializing a request"⟩) := by
  have ends : EndsRefused (alone network (Stripe.call call) (.start state ahead)).2.talk
      (alone network (Stripe.call call) (.start state ahead)).1 :=
    Keeps.alone (call_keeps call)
  refine ⟨reply.refusal, ends request reply received refused, reply.isTransient_refusal_iff, ?_⟩
  intro unexplained
  rw [Reply.refusal, unexplained]
  rfl

def pending : Gateway.Call := .confirm ⟨"pi_9", by decide, by simp [Text.isBlank]⟩

def answering (reply : Reply) : Unit → (request : Request) → Unit → Answer request × Unit :=
  fun _ _ _ => (.ok reply, ())

def overloaded : Reply :=
  ⟨503, Text.bytesOf "\x7b\"error\":\x7b\"type\":\"api_error\"\x7d\x7d"⟩

def overloadedPage : Reply := ⟨503, Text.bytesOf "<html>Service Unavailable</html>"⟩

theorem refusal_isTransient_iff_explained_overloaded :
    overloaded.isSuccess = false ∧
    ∃ failure, (alone (answering overloaded) (Stripe.call pending) (.start () fun _ => ())).1 =
        .error failure ∧ failure.isTransient = true := by
  let first := (Course.start () fun _ => ()).next (answering overloaded) (retrieveRequest "pi_9")
  have asked : ⟨retrieveRequest "pi_9", .ok overloaded⟩ ∈
      (alone (answering overloaded) (Stripe.call pending) (.start () fun _ => ())).2.talk :=
    (talk_prefix_alone _ first).subset List.mem_cons_self
  obtain ⟨failure, ends, transient, _⟩ := refusal_isTransient_iff_explained (answering overloaded)
    pending () (fun _ => ()) (retrieveRequest "pi_9") overloaded asked rfl
  have outage : overloaded.Outage := .inr (.inr ⟨by decide, by decide⟩)
  exact ⟨rfl, failure, ends, transient.mpr ⟨outage, by decide +kernel⟩⟩

def through (reply : Reply) :
    Unit → (action : Gateway.GatewayAction) → Unit → action.Reply × Unit :=
  fun _ action _ =>
    match action with
    | .call call _ => (some (alone (answering reply) (Stripe.call call) (.start () fun _ => ())).1, ())
    | .sleep _ => ((), ())
    | .clock => (0, ())

/-- A page that tells of an outage is counted as an invalid request, and not tried again. -/
theorem outage_page_not_transient :
    overloadedPage.Outage ∧
    (alone (answering overloadedPage) (Stripe.call pending) (.start () fun _ => ())).1 =
      .error ⟨.invalidRequest, "error serializing or deserializing a request"⟩ ∧
    Gateway.FailureKind.isTransient .invalidRequest = false ∧
    (alone (through overloadedPage) (Gateway.Retry.run .confirmation pending)
        (.start () fun _ => ())).1 =
      some (.error
        (.terminal ⟨.invalidRequest, "error serializing or deserializing a request"⟩)) := by
  refine ⟨.inr (.inr ⟨by decide, by decide⟩), ?_, rfl, ?_⟩
  · decide +kernel
  · decide +kernel

end Payments.Stripe
