import Payments.Http.Api
import Payments.Proofs.Interleaving.Conversation

/-!
What a client learns from an error. An internal error is known by its code and its status, so no
other error may have that code; then all internal errors are answered alike, whatever is in them,
and every other error is answered with a code of its own.
-/

namespace Payments

open Interleaving ServiceWorkflow

theorem Refusal.code_ne_internal (refusal : Refusal) :
    refusal.code ≠ Http.ErrorBody.internalCode := by
  cases refusal <;> simp [Refusal.code, Http.ErrorBody.internalCode]

namespace Gateway.FailureKind

theorem code_ne_internal (kind : FailureKind) : kind.code ≠ Http.ErrorBody.internalCode := by
  cases kind <;> decide

theorem httpStatus_bounds (kind : FailureKind) : 400 ≤ kind.httpStatus ∧ kind.httpStatus < 600 := by
  cases kind <;> decide

end Gateway.FailureKind

namespace PaymentError

theorem httpStatus_bounds (error : PaymentError) :
    400 ≤ error.httpStatus ∧ error.httpStatus < 600 := by
  cases error with
  | gateway failure => exact failure.kind.httpStatus_bounds
  | gatewayUnavailable attempts last =>
      simp only [httpStatus]
      split <;> decide
  | refused _ | notFound _ | contended _ | store _ | sink _ => simp [httpStatus]

end PaymentError

namespace DeliveryError

theorem httpStatus_bounds (error : DeliveryError) :
    400 ≤ error.httpStatus ∧ error.httpStatus < 600 := by
  cases error <;> simp [httpStatus]

end DeliveryError

namespace Http

namespace ApiError

/-- The errors of which a client learns nothing but that there was one. -/
inductive Internal : ApiError → Prop
  | contended (reference : String) : Internal (.payment (.contended reference))
  | store (error : StoreError) : Internal (.payment (.store error))
  | change (error : SinkError) : Internal (.payment (.sink error))
  | sink (error : SinkError) : Internal (.sink error)
  | deliveryStore (error : StoreError) : Internal (.delivery (.store error))
  | deliveryContended (reference : String) : Internal (.delivery (.contended reference))

/-- The code by which a client tells an error from others. -/
inductive OwnCode : ApiError → String → Prop
  | refused (refusal : Refusal) : OwnCode (.payment (.refused refusal)) refusal.code
  | gateway (failure : Gateway.Failure) : OwnCode (.payment (.gateway failure)) failure.kind.code
  | rateLimited (attempts : Nat) (reason : String) :
      OwnCode (.payment (.gatewayUnavailable attempts ⟨.rateLimit, reason⟩)) "rate_limit_error"
  | unavailable (attempts : Nat) {last : Gateway.Failure} : last.kind ≠ .rateLimit →
      OwnCode (.payment (.gatewayUnavailable attempts last)) "gateway_unavailable"
  | notFound (reference : String) : OwnCode (.payment (.notFound reference)) "not_found"
  | signature (reason : String) : OwnCode (.delivery (.signature reason)) "webhook_error"
  | payload (reason : String) : OwnCode (.delivery (.payload reason)) "webhook_error"

theorem internal_or_ownCode (error : ApiError) :
    error.Internal ∨ ∃ code, error.OwnCode code := by
  cases error with
  | sink error => exact .inl (.sink error)
  | delivery error =>
      cases error with
      | signature reason => exact .inr ⟨_, .signature reason⟩
      | payload reason => exact .inr ⟨_, .payload reason⟩
      | store error => exact .inl (.deliveryStore error)
      | contended reference => exact .inl (.deliveryContended reference)
  | payment error =>
      cases error with
      | refused refusal => exact .inr ⟨_, .refused refusal⟩
      | gateway failure => exact .inr ⟨_, .gateway failure⟩
      | gatewayUnavailable attempts last =>
          obtain ⟨kind, reason⟩ := last
          by_cases limited : kind = .rateLimit
          · subst limited
            exact .inr ⟨_, .rateLimited attempts reason⟩
          · exact .inr ⟨_, .unavailable attempts limited⟩
      | notFound reference => exact .inr ⟨_, .notFound reference⟩
      | contended reference => exact .inl (.contended reference)
      | store error => exact .inl (.store error)
      | sink error => exact .inl (.change error)

theorem OwnCode.ne_internal {error : ApiError} {code : String} (own : error.OwnCode code) :
    code ≠ ErrorBody.internalCode := by
  cases own with
  | refused refusal => exact refusal.code_ne_internal
  | gateway failure => exact failure.kind.code_ne_internal
  | _ => decide

end ApiError

namespace ErrorBody

theorem ofPayment_of_code {error : PaymentError} (known : error.code ≠ internalCode) :
    ofPayment error = ⟨error.httpStatus, error.code, messageFor error⟩ :=
  if_neg fun selected => known selected.2

theorem ofPayment_status (error : PaymentError) : (ofPayment error).status = error.httpStatus ∨
    ofPayment error = internal := by
  unfold ofPayment
  split
  · exact .inr rfl
  · exact .inl rfl

end ErrorBody

namespace ApiError

theorem Internal.body {error : ApiError} (isInternal : error.Internal) : error.body = .internal := by
  cases isInternal <;> rfl

theorem OwnCode.body {error : ApiError} {code : String} (own : error.OwnCode code) :
    error.body.code = code := by
  have told : ∀ {error : PaymentError} {code : String}, error.code = code →
      code ≠ ErrorBody.internalCode → (ErrorBody.ofPayment error).code = code := by
    rintro error _ rfl known
    rw [ErrorBody.ofPayment_of_code known]
  have known := own.ne_internal
  cases own with
  | refused | gateway | rateLimited | notFound => exact told rfl known
  | unavailable attempts other => exact told (if_neg other) known
  | signature | payload => rfl

theorem body_status_bounds (error : ApiError) :
    400 ≤ error.body.status ∧ error.body.status < 600 := by
  cases error with
  | payment error =>
      rcases ErrorBody.ofPayment_status error with status | selected
      · rw [body, status]
        exact error.httpStatus_bounds
      · rw [body, selected]
        decide
  | delivery error =>
      have status : (body (.delivery error)).status = error.httpStatus := by cases error <;> rfl
      rw [status]
      exact error.httpStatus_bounds
  | sink error => simp [body, ErrorBody.internal]

end ApiError

namespace Response

def told (status : Nat) (code message : String) : Response :=
  .json status (.obj
    [("code", .str code), ("httpStatus", .ofNat status), ("message", .str message)])

theorem error_eq_told (error : ApiError) :
    Response.error error = told error.body.status error.body.code error.body.message := by
  obtain ⟨lower, upper⟩ := error.body_status_bounds
  rw [Response.error, statusCode, if_pos ⟨by omega, by omega⟩]
  rfl

inductive Fair : Response → Prop
  | success {status : Nat} (body : Body) : status < 400 → Fair ⟨status, body⟩
  | bare (status : Nat) : Fair (.bare status)
  | error (error : ApiError) : Fair (.error error)

theorem Fair.failure {response : Response} (fair : response.Fair)
    (failed : 400 ≤ response.status) :
    response.body = .empty ∨ ∃ error, response = .error error := by
  cases fair with
  | success body success => exact absurd failed (Nat.not_le.mpr success)
  | bare status => exact .inl rfl
  | error error => exact .inr ⟨error, rfl⟩

theorem status_withoutContent (response : Response) :
    response.withoutContent.status = response.status := by
  unfold withoutContent
  split <;> rfl

theorem withoutContent_of_empty {response : Response} (empty : response.body = .empty) :
    response.withoutContent = response := by
  unfold withoutContent
  rw [empty]

end Response

namespace Api

variable {α : Type} {talk : List (Exchange Action.Reply)}

abbrev IsFair (workflow : ServiceWorkflow Response) (talk : List (Exchange Action.Reply)) : Prop :=
  Keeps (fun _ _ => True) (fun _ response => response.Fair) workflow talk

abbrev IsFair? (workflow : ServiceWorkflow (Option Response)) (talk : List (Exchange Action.Reply)) :
    Prop :=
  Keeps (fun _ _ => True) (fun _ response? => ∀ response ∈ response?, response.Fair) workflow talk

theorem isFair_of_result (workflow : ServiceWorkflow α) {answer : α → Response}
    (each : ∀ result, (answer result).Fair) :
    IsFair (workflow.bind fun result => .done (answer result)) talk :=
  Keeps.bind ((asks_any workflow).keeps.mono fun _ result _ => each result)

theorem forall_mem_some {response : Response} (fair : response.Fair) :
    ∀ told ∈ some response, told.Fair := by
  rintro told ⟨⟩
  exact fair

theorem IsFair.some {workflow : ServiceWorkflow Response} (fair : IsFair workflow talk) :
    IsFair? (workflow.bind fun response => .done (some response)) talk :=
  Keeps.bind (fair.mono fun _ _ => forall_mem_some)

theorem isFair?_of_result (workflow : ServiceWorkflow α) {answer : α → Option Response}
    (each : ∀ result, ∀ response ∈ answer result, response.Fair) :
    IsFair? (workflow.bind fun result => .done (answer result)) talk :=
  Keeps.bind ((asks_any workflow).keeps.mono fun _ result _ => each result)

theorem respond_fair {status : Nat} (success : status < 400) (json : α → Json)
    (result : Except PaymentError α) : (respond status json result).Fair := by
  cases result with
  | ok result => exact .success _ success
  | error error => exact .error _

theorem respond?_fair {status : Nat} (success : status < 400) (json : α → Json)
    (result? : Option (Except PaymentError α)) :
    ∀ response ∈ result?.map (respond status json), response.Fair := by
  intro response told
  obtain ⟨result, _, rfl⟩ := Option.map_eq_some_iff.mp told
  exact respond_fair success json result

theorem ofSink_fair (json : α → Json) (result : Except SinkError α) : (ofSink json result).Fair := by
  cases result with
  | ok result => exact .success _ (by decide)
  | error error => exact .error _

theorem withReference_fair (segment : List Char)
    {next : Reference → ServiceWorkflow (Option Response)}
    (onward : ∀ reference, IsFair? (next reference) talk) :
    IsFair? (withReference segment next) talk := by
  unfold withReference
  split
  · exact forall_mem_some (.bare 400)
  · split
    · exact forall_mem_some (.error _)
    · exact onward _

theorem search_fair (request : Request) : IsFair (search request) talk := by
  unfold search
  split
  · exact isFair_of_result _ fun result => ofSink_fair _ result
  · exact .bare 400

theorem ofUser_fair (user : List Char) (request : Request) : IsFair (ofUser user request) talk := by
  unfold ofUser
  split
  · exact isFair_of_result _ fun result => respond_fair (by decide) _ result
  · exact .bare 400

theorem audit_fair (request : Request) : IsFair (audit request) talk := by
  unfold audit
  split
  · exact isFair_of_result _ fun result => ofSink_fair _ result
  · exact .bare 400

theorem webhook_fair (api : Api) (request : Request) : IsFair (api.webhook request) talk := by
  unfold webhook
  split
  · exact .bare 413
  · refine Keeps.bind ((asks_any _).keeps.mono fun _ result _ => ?_)
    cases result with
    | ok outcome => exact .success _ (by decide)
    | error error => exact .error _

theorem serve_fair (api : Api) (request : Request) (endpoint : Endpoint) :
    IsFair? (api.serve request endpoint) talk := by
  cases endpoint with
  | root => exact forall_mem_some (.success _ (by decide))
  | charge =>
      simp only [serve, charge]
      split
      · exact forall_mem_some (.bare _)
      · exact isFair?_of_result _ (respond?_fair (by decide) _)
  | search => exact (search_fair request).some
  | statistics =>
      exact (isFair_of_result (locally .statusCount) fun result => ofSink_fair _ result).some
  | ofUser user => exact (ofUser_fair user request).some
  | payment reference =>
      exact withReference_fair _ fun reference =>
        isFair?_of_result _ fun result => forall_mem_some (respond_fair (by decide) _ result)
  | confirm reference =>
      exact withReference_fair _ fun reference =>
        isFair?_of_result _ (respond?_fair (by decide) _)
  | audit => exact (audit_fair request).some
  | webhook => exact (webhook_fair api request).some
  | metrics =>
      exact (isFair_of_result (locally .exposition) fun result => .success _ (by decide)).some

theorem handle_errors (api : Api) (request : Request) :
    Keeps (fun _ _ => True)
      (fun _ response? => ∀ response ∈ response?, 400 ≤ response.status → response.body = .empty ∨
        ∃ error, response = .error error ∨ response = (Response.error error).withoutContent)
      (api.handle request) talk := by
  have told : ∀ status response, response ∈ some (Response.bare status) → 400 ≤ response.status →
      response.body = .empty ∨
        ∃ error, response = .error error ∨ response = (Response.error error).withoutContent := by
    rintro status response ⟨⟩ _
    exact .inl rfl
  unfold handle
  split
  · exact told 404
  · split
    · refine Keeps.bind ((serve_fair api request _).mono fun _ response? fair => ?_)
      rintro response isTold failed
      obtain ⟨served, isServed, rfl⟩ := Option.map_eq_some_iff.mp isTold
      have fair := fair served isServed
      by_cases head : request.method = "HEAD"
      · simp only [if_pos head] at failed ⊢
        rw [Response.status_withoutContent] at failed
        rcases fair.failure failed with empty | ⟨error, rfl⟩
        · exact .inl (by rw [Response.withoutContent_of_empty empty, empty])
        · exact .inr ⟨error, .inr rfl⟩
      · simp only [if_neg head] at failed ⊢
        exact (fair.failure failed).imp_right fun ⟨error, told⟩ => ⟨error, .inl told⟩
    · exact told 405

end Api

/-- An error is answered with its status in the body. Internal errors are all answered alike, and
are the only ones with their code; every other error has a code of its own. Nothing else is ever
answered with a status of an error and a body. -/
theorem errors_told_by_code (error : ApiError) :
    (∃ status code message, Response.error error = .told status code message ∧ 400 ≤ status ∧
      (code = "internal_error" ↔ error.Internal) ∧
      (error.Internal → status = 500 ∧ message = "internal error") ∧
      ∀ own, error.OwnCode own → code = own) ∧
    (error.Internal ∨ ∃ own, error.OwnCode own) ∧
    (∀ other : ApiError, error.Internal → other.Internal →
      Response.error error = Response.error other) ∧
    (∀ reason, ApiError.OwnCode (.payment (.gateway ⟨.authentication, reason⟩))
        "authentication_error" ∧
      (Response.error (.payment (.gateway ⟨.authentication, reason⟩))).status = 500) ∧
    ∀ (api : Api) (request : Request), Keeps (fun _ _ => True)
      (fun _ response? => ∀ response ∈ response?, 400 ≤ response.status → response.body = .empty ∨
        ∃ error, response = .error error ∨ response = (Response.error error).withoutContent)
      (api.handle request) [] := by
  have alike : ∀ {error : ApiError}, error.Internal →
      Response.error error = .told 500 "internal_error" "internal error" := by
    intro error isInternal
    rw [Response.error_eq_told, isInternal.body]
    rfl
  refine ⟨⟨_, _, _, Response.error_eq_told error, error.body_status_bounds.1, ?_, ?_, ?_⟩,
    error.internal_or_ownCode, ?_, ?_, fun api request => api.handle_errors request⟩
  · constructor
    · intro coded
      refine error.internal_or_ownCode.resolve_right ?_
      rintro ⟨own, isOwn⟩
      exact isOwn.ne_internal (isOwn.body.symm.trans coded)
    · intro isInternal
      rw [isInternal.body]
      rfl
  · intro isInternal
    rw [isInternal.body]
    exact ⟨rfl, rfl⟩
  · exact fun own isOwn => isOwn.body
  · exact fun other isInternal otherInternal => (alike isInternal).trans (alike otherInternal).symm
  · exact fun reason => ⟨.gateway ⟨.authentication, reason⟩, rfl⟩

end Http

end Payments
