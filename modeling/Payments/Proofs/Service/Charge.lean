import Payments.Proofs.Charge.Validation
import Payments.Proofs.Service.Alone

/-!
One charge with nobody else at work. A request that is not acceptable never reaches the gateway. If
the gateway charges, the charge is put on record once; if it repeats a charge that is on record, or
fails, nothing changes, and no more does it if the operation breaks down at the gateway.
-/

namespace Payments

def Refused (limits : ChargeLimits) (request : ChargeRequest) (refusal : Refusal) : Prop :=
  limits.validate request = .error refusal ∨
    (∃ valid, limits.validate request = .ok valid) ∧
      Email.isPlausible (Text.trim request.email) = false ∧ refusal = .invalidEmail

structure Accepted (limits : ChargeLimits) (request : ChargeRequest) (valid : ValidCharge) :
    Prop where
  valid : limits.validate request = .ok valid
  isEmail : Email.isPlausible (Text.trim request.email) = true

def chargeRecord (request : ChargeRequest) (charge : Gateway.Charge) (currency : Currency)
    (stamp : Stamp) : Payment where
  id := stamp.id
  reference := charge.reference
  userId := Text.trim request.userId
  planId := Text.trim request.planId
  money := .ofMinor charge.minor currency
  status := charge.status
  receiptUrl := charge.receiptUrl
  customerId := charge.customerId
  description := some (charge.description.getD ("Payment for plan: " ++ Text.trim request.planId))
  createdAt := stamp.now
  updatedAt := stamp.now
  version := 1

/-- How an operation at the gateway fails that has come to this answer. -/
inductive GatewayFails : Except Gateway.ClientError Gateway.Charge → PaymentError → Prop
  | terminal (failure : Gateway.Failure) :
      GatewayFails (.error (.terminal failure)) (.gateway failure)
  | exhausted (attempts : Nat) (last : Gateway.Failure) :
      GatewayFails (.error (.exhausted attempts last)) (.gatewayUnavailable attempts last)
  | unusable {charge : Gateway.Charge} {refusal : Refusal} :
      Currency.ofText charge.currency = .error refusal →
      GatewayFails (.ok charge)
        (.gateway ⟨.api, "gateway returned an unusable currency: " ++ refusal.message⟩)

/-- What is on record is shown from the record, and only the rest from the gateway's charge. -/
structure Receipt.Shows (receipt : Receipt) (record : Payment) (charge : Gateway.Charge) :
    Prop where
  reference : receipt.reference = record.reference
  money : receipt.money = record.money
  status : receipt.status = record.status
  receiptUrl : receipt.receiptUrl = record.receiptUrl
  createdAt : receipt.createdAt = record.createdAt
  requiresAction : receipt.requiresAction = decide (record.status = .requiresAction)
  clientSecret : receipt.clientSecret = charge.clientSecret
  metadata : receipt.metadata = charge.metadata

theorem acceptable_of_refused {limits : ChargeLimits} {request : ChargeRequest} {refusal : Refusal}
    (refused : Refused limits request refusal) : acceptable limits request = .error refusal := by
  unfold acceptable
  rcases refused with invalid | ⟨⟨valid, accepted⟩, notEmail, rfl⟩
  · rw [invalid]
  · rw [accepted]
    simp [(ChargeLimits.validate_texts accepted).2.2, notEmail]

theorem Accepted.acceptable {limits : ChargeLimits} {request : ChargeRequest} {valid : ValidCharge}
    (accepted : Accepted limits request valid) :
    Payments.acceptable limits request = .ok valid := by
  unfold Payments.acceptable
  rw [accepted.valid]
  simp [(ChargeLimits.validate_texts accepted.valid).2.2, accepted.isEmail]

theorem record_of_accepted {limits : ChargeLimits} {request : ChargeRequest} {valid : ValidCharge}
    {charge : Gateway.Charge} {result : Gateway.ChargeResult} {currency : Currency}
    (accepted : Accepted limits request valid)
    (usable : Currency.ofText charge.currency = .ok currency) (isResult : charge.result = .ok result)
    (stamp : Stamp) :
    (newPayment valid result).record stamp = chargeRecord request charge currency stamp := by
  obtain ⟨user, plan, _⟩ := ChargeLimits.validate_texts accepted.valid
  simp only [Gateway.Charge.result, usable, Except.ok.injEq] at isResult
  subst isResult
  rw [chargeRecord, ← user, ← plan]
  rfl

theorem shows_receiptFor {charge : Gateway.Charge} {result : Gateway.ChargeResult}
    (isResult : charge.result = .ok result) (record : Payment) :
    (receiptFor record result).Shows record charge := by
  unfold Gateway.Charge.result at isResult
  split at isResult
  · cases isResult
  · cases isResult
    exact ⟨rfl, rfl, rfl, rfl, rfl, rfl, rfl, rfl⟩

theorem reference_of_result {charge : Gateway.Charge} {result : Gateway.ChargeResult}
    (isResult : charge.result = .ok result) : charge.reference = result.reference := by
  unfold Gateway.Charge.result at isResult
  split at isResult
  · cases isResult
  · cases isResult
    rfl

theorem withMoney_of_fails {answer : Except Gateway.ClientError Gateway.Charge}
    {error : PaymentError} (fails : GatewayFails answer error) :
    ∃ clientError, Gateway.withMoney answer = .error clientError ∧ .ofClient clientError = error := by
  cases fails with
  | terminal failure => exact ⟨_, rfl, rfl⟩
  | exhausted attempts last => exact ⟨_, rfl, rfl⟩
  | unusable refused =>
      refine ⟨.terminal _, ?_, rfl⟩
      simp only [Gateway.withMoney, Except.bind, Gateway.Charge.result, refused]
      rfl

theorem withMoney_of_usable {charge : Gateway.Charge} {currency : Currency}
    (usable : Currency.ofText charge.currency = .ok currency) :
    ∃ result, Gateway.withMoney (.ok charge) = .ok result ∧ charge.result = .ok result ∧
      result.reference = charge.reference := by
  cases isResult : charge.result with
  | error failure => simp [Gateway.Charge.result, usable] at isResult
  | ok result =>
      refine ⟨result, ?_, rfl, ?_⟩
      · simp only [Gateway.withMoney, Except.bind, isResult]
        rfl
      · simp only [Gateway.Charge.result, usable, Except.ok.injEq] at isResult
        rw [← isResult]

namespace Interleaving

open Gateway ServiceWorkflow

variable {service : PaymentService} {request : ChargeRequest} {origin : Origin}
  {valid : ValidCharge} {result : ChargeResult} {course : ServiceCourse}

theorem process_of_charge {answer : Option (Except PaymentError Receipt)}
    {charged : ServiceCourse}
    (isCharge : alone World.perform (service.charge request origin) course = (answer, charged)) :
    ∃ final, alone World.perform (service.process request origin) course = (answer, final) ∧
      charged.moment.state.Untouched final.moment.state ∧
      gatewayTalk final.talk = gatewayTalk charged.talk ∧
      requestsIn final.talk = requestsIn charged.talk := by
  have counted : alone World.perform (service.process request origin) course = (answer, charged) ∨
      ∃ counter, alone World.perform (service.process request origin) course =
        (answer, charged.next World.perform (.here (.count counter))) := by
    unfold PaymentService.process
    rw [Workflow.bind_eq, alone_bind, isCharge]
    rcases answer with _ | error | receipt
    · exact .inl rfl
    · exact .inr ⟨_, rfl⟩
    · exact .inr ⟨_, rfl⟩
  rcases counted with isProcess | ⟨counter, isProcess⟩
  · exact ⟨charged, isProcess, .refl _, rfl, rfl⟩
  refine ⟨_, isProcess, untouched_count counter, ?_, ?_⟩
  · rw [talk_next, gatewayTalk_append]
    exact List.append_nil _
  · rw [talk_next, requestsIn, List.filterMap_append]
    exact List.append_nil _

theorem charge_refused {refusal : Refusal}
    (refused : acceptable service.client.limits request = .error refusal) :
    alone World.perform (service.charge request origin) course =
      (some (.error (.refused refusal)), course) := by
  simp only [PaymentService.charge, refused]
  rfl

/-- A failure at the gateway is reported, unless the operation breaks down there. -/
structure Reports (policy : RetryPolicy) (talk : GatewayTalk) (error : PaymentError)
    (ending : Option (Except PaymentError Receipt)) : Prop where
  reported : ¬OutOfRange policy talk → ending = some (.error error)
  broken : OutOfRange policy talk → ending = none

theorem Halts.reports {policy : RetryPolicy} {talk : GatewayTalk} {error : PaymentError}
    {told : Except ClientError Charge} {ending : Option (Except ClientError Charge)}
    {given : Option (Except PaymentError Receipt)} {kept : Prop}
    (halts : Halts policy talk told ending)
    (answered : ending = some told → given = some (.error error) ∧ kept)
    (broken : ending = none → given = none ∧ kept) : Reports policy talk error given ∧ kept := by
  by_cases outOfRange : OutOfRange policy talk
  · obtain ⟨unanswered, kept⟩ := broken (halts.broken outOfRange).1
    exact ⟨⟨fun inRange => absurd outOfRange inRange, fun _ => unanswered⟩, kept⟩
  · obtain ⟨reported, kept⟩ := answered (halts.answered outOfRange)
    exact ⟨⟨fun _ => reported, fun broken => absurd broken outOfRange⟩, kept⟩

def atGateway (service : PaymentService) (valid : ValidCharge) (course : ServiceCourse) :
    Option (Except ClientError Charge) × ServiceCourse :=
  alone World.perform
    (ofGateway (Retry.run service.client.chargePolicy
      (.create (orderOf valid) (idempotencyKey (course.ahead 0).stamp.id))))
    (course.next World.perform (.here .fresh))

theorem charge_accepted (origin : Origin) (course : ServiceCourse)
    (accepted : acceptable service.client.limits request = .ok valid) :
    alone World.perform (service.charge request origin) course =
      match (atGateway service valid course).1.map withMoney with
      | none => (none, (atGateway service valid course).2)
      | some (.error error) => (some (.error (.ofClient error)), (atGateway service valid course).2)
      | some (.ok result) =>
        let put := alone World.perform (putOnRecord valid result origin)
          (atGateway service valid course).2
        (some put.1, put.2) := by
  simp only [PaymentService.charge, accepted, locally, Workflow.bind_eq, Workflow.ask_bind,
    Workflow.done_bind, alone_ask, Client.submit, ofGateway_bind, alone_bind]
  change alone World.perform
    (match (atGateway service valid course).1.map withMoney with
      | none => (Workflow.done none : ServiceWorkflow _)
      | some (.error error) => .done (some (.error (.ofClient error)))
      | some (.ok result) => (putOnRecord valid result origin).bind fun put => .done (some put))
    (atGateway service valid course).2 = _
  rcases (atGateway service valid course).1.map withMoney with _ | error | result
  · rfl
  · rfl
  · exact alone_bind _ _ _

theorem atGateway_state :
    (atGateway service valid course).2.moment.state = course.moment.state :=
  (state_ofGateway _).trans rfl

theorem atGateway_halts (quiet : gatewayTalk course.talk = []) :
    (∃ told, Halts service.client.chargePolicy
        (gatewayTalk (atGateway service valid course).2.talk) told
        (atGateway service valid course).1) ∧
      ∀ attempt ∈ attemptsIn (gatewayTalk (atGateway service valid course).2.talk),
        attempt.call = .create (orderOf valid) (idempotencyKey (course.ahead 0).stamp.id) := by
  have none : gatewayTalk (course.next World.perform (.here .fresh)).talk = [] := by
    rw [talk_next, gatewayTalk_append, quiet]
    rfl
  exact retry_alone none

theorem atGateway_tells (told : Tells course.talk [] []) :
    Tells (atGateway service valid course).2.talk [] [] := by
  have asked : Tells (course.next World.perform (.here .fresh)).talk [] [] := by
    rw [talk_next]
    exact told.silent _ rfl rfl
  exact ofGateway_tells asked _

theorem putOnRecord_present {record : Payment}
    (stored : course.moment.state.store.find? result.reference = some record) :
    ∃ final, alone World.perform (putOnRecord valid result origin) course =
        (.ok (receiptFor record result), final) ∧
      course.moment.state.Untouched final.moment.state ∧
      requestsIn final.talk = requestsIn course.talk := by
  let refused := course.next World.perform (.here (.store (.create (newPayment valid result))))
  have acted := @Store.act_create_present _ (newPayment valid result) record stored
    (course.ahead 0).stamp
  have replied : course.reply World.perform (.here (.store (.create (newPayment valid result)))) =
      .error (.duplicate result.reference.text) := congrArg Prod.fst acted
  have still : refused.moment.state.store = course.moment.state.store := congrArg Prod.snd acted
  have found : refused.reply World.perform (.here (.store (.find result.reference))) =
      .ok (some record) :=
    congrArg Except.ok ((congrArg (·.find? result.reference) still).trans stored)
  refine ⟨refused.next World.perform (.here (.store (.find result.reference))), ?_,
    ⟨still, rfl, rfl, rfl, rfl⟩, ?_⟩
  · simp only [putOnRecord, locally, Workflow.bind_eq, Workflow.ask_bind, Workflow.done_bind,
      alone_ask, replied]
    rw [show (course.next World.perform _).reply World.perform _ = _ from found]
    rfl
  · simp [refused, requestsIn, Action.request?]

theorem offline_putOnRecord (valid : ValidCharge) (result : ChargeResult) (origin : Origin) :
    Offline (putOnRecord valid result origin) := by
  refine ⟨fun _ => Action.noConfusion, ?_⟩
  rintro (error | payment)
  · cases error with
    | duplicate _ =>
        refine ⟨fun _ => Action.noConfusion, ?_⟩
        rintro (error | found)
        · trivial
        · cases found <;> trivial
    | _ => trivial
  · exact (offline_fanOut _).bind fun _ => trivial

/-- The store has gained this record, and nothing else; the sinks were told of it once. -/
structure Recorded (before after : World) (talk : ServiceTalk) (record : Payment)
    (origin : Origin) : Prop where
  added : after.store.payments = before.store.payments ++ [record]
  lookups : ∀ reference, after.store.find? reference =
    if reference = record.reference then some record else before.store.find? reference
  reported : requestsIn talk = (Change.report ⟨none, record⟩ origin).requests

theorem putOnRecord_absent (origin : Origin)
    (absent : course.moment.state.store.find? result.reference = none)
    (told : Tells course.talk [] []) :
    let record := (newPayment valid result).record (course.ahead 0).stamp
    ∃ final, alone World.perform (putOnRecord valid result origin) course =
        (.ok (receiptFor record result), final) ∧
      Recorded course.moment.state final.moment.state final.talk record origin ∧
      (course.Healthy → course.moment.state.IndexFollows →
        course.moment.state.Announced final.moment.state ⟨none, record⟩ origin) := by
  intro record
  let created := course.next World.perform (.here (.store (.create (newPayment valid result))))
  have acted := @Store.act_create_absent _ (newPayment valid result) absent (course.ahead 0).stamp
  have replied : course.reply World.perform (.here (.store (.create (newPayment valid result)))) =
    .ok record := congrArg Prod.fst acted
  have state : created.moment.state =
      { course.moment.state with store := ⟨course.moment.state.store.payments ++ [record]⟩ } :=
    congrArg (fun acted => { course.moment.state with store := acted.2 }) acted
  have tells : Tells created.talk [⟨none, record⟩] [] := by
    rw [talk_next, replied]
    exact told.append ⟨.here (.store (.create (newPayment valid result))), .ok record⟩
  have store : (alone World.perform (fanOut (Change.report ⟨none, record⟩ origin))
      created).2.moment.state.store = ⟨course.moment.state.store.payments ++ [record]⟩ := by
    rw [store_fanOut, state]
  refine ⟨(alone World.perform (fanOut (Change.report ⟨none, record⟩ origin)) created).2,
    ?_, ⟨?_, ?_, ?_⟩, ?_⟩
  · simp only [putOnRecord, locally, Workflow.bind_eq, Workflow.ask_bind, Workflow.done_bind,
      alone_ask, replied, alone_bind]
    rfl
  · rw [store]
  · intro reference
    have found := @Store.find?_insert course.moment.state.store record absent reference
    rw [store, found]
    simp only [eq_comm]
  · exact (fanOut_tells tells List.mem_cons_self).requests
  · intro healthy follows
    have onward : created.Healthy := fun n => healthy (n + 1)
    have newer := @World.IndexFollows.newer _ record.reference record.version follows
      fun _ found => absurd (found.symm.trans absent) (Option.some_ne_none _)
    rw [fanOut_alone onward, state]
    exact @World.announced_tell _ ⟨none, record⟩ _ origin _ newer

theorem process_refused {refusal : Refusal}
    (refused : Refused service.client.limits request refusal) :
    (alone World.perform (service.process request origin) course).1 =
      some (.error (.refused refusal)) ∧
    gatewayTalk (alone World.perform (service.process request origin) course).2.talk =
      gatewayTalk course.talk ∧
    course.moment.state.Untouched
      (alone World.perform (service.process request origin) course).2.moment.state := by
  obtain ⟨final, whole, counted, asked, _⟩ :=
    process_of_charge (charge_refused (acceptable_of_refused refused))
  rw [whole]
  exact ⟨rfl, asked, counted⟩

section

variable (accepted : Accepted service.client.limits request valid)

include accepted

theorem process_attempts :
    gatewayTalk (alone World.perform (service.process request origin) course).2.talk =
      gatewayTalk (atGateway service valid course).2.talk := by
  have charged := charge_accepted origin course accepted.acceptable
  split at charged
  · obtain ⟨final, whole, _, asked, _⟩ := process_of_charge charged
    rw [whole]
    exact asked
  · obtain ⟨final, whole, _, asked, _⟩ := process_of_charge charged
    rw [whole]
    exact asked
  · rename_i result _
    obtain ⟨final, whole, _, asked, _⟩ := process_of_charge charged
    rw [whole]
    exact asked.trans (offline_putOnRecord valid result origin).gatewayTalk

theorem process_broken (broken : (atGateway service valid course).1 = none) :
    (alone World.perform (service.process request origin) course).1 = none ∧
    course.moment.state.Untouched
      (alone World.perform (service.process request origin) course).2.moment.state := by
  have charged := charge_accepted origin course accepted.acceptable
  rw [broken] at charged
  obtain ⟨final, whole, counted, _, _⟩ := process_of_charge charged
  rw [atGateway_state] at counted
  rw [whole]
  exact ⟨rfl, counted⟩

theorem process_failed {told : Except ClientError Charge} {error : PaymentError}
    (answered : (atGateway service valid course).1 = some told) (fails : GatewayFails told error) :
    (alone World.perform (service.process request origin) course).1 = some (.error error) ∧
    course.moment.state.Untouched
      (alone World.perform (service.process request origin) course).2.moment.state := by
  obtain ⟨clientError, failed, rfl⟩ := withMoney_of_fails fails
  have charged := charge_accepted origin course accepted.acceptable
  rw [answered, Option.map_some, failed] at charged
  obtain ⟨final, whole, counted, _, _⟩ := process_of_charge charged
  rw [atGateway_state] at counted
  rw [whole]
  exact ⟨rfl, counted⟩

theorem process_repeated {charge : Charge} {currency : Currency} {record : Payment}
    (told : Tells course.talk [] [])
    (answered : (atGateway service valid course).1 = some (.ok charge))
    (usable : Currency.ofText charge.currency = .ok currency)
    (stored : course.moment.state.store.find? charge.reference = some record) :
    ∃ receipt,
      (alone World.perform (service.process request origin) course).1 = some (.ok receipt) ∧
      receipt.Shows record charge ∧
      requestsIn (alone World.perform (service.process request origin) course).2.talk = [] ∧
      course.moment.state.Untouched
        (alone World.perform (service.process request origin) course).2.moment.state := by
  obtain ⟨result, money, isResult, same⟩ := withMoney_of_usable usable
  have charged := charge_accepted origin course accepted.acceptable
  have found : (atGateway service valid course).2.moment.state.store.find? result.reference =
    some record := by rw [atGateway_state, same, stored]
  obtain ⟨put, isPut, untouched, quiet⟩ := @putOnRecord_present origin valid _ _ _ found
  rw [answered, Option.map_some, money] at charged
  simp only [isPut] at charged
  obtain ⟨final, whole, counted, _, requests⟩ := process_of_charge charged
  rw [atGateway_state] at untouched
  rw [whole]
  refine ⟨_, rfl, shows_receiptFor isResult record, ?_, untouched.trans counted⟩
  rw [requests, quiet, (atGateway_tells told).requests]

theorem process_recorded {charge : Charge} {currency : Currency}
    (told : Tells course.talk [] [])
    (answered : (atGateway service valid course).1 = some (.ok charge))
    (usable : Currency.ofText charge.currency = .ok currency)
    (absent : course.moment.state.store.find? charge.reference = none) :
    ∃ receipt stamp,
      (alone World.perform (service.process request origin) course).1 = some (.ok receipt) ∧
      receipt.Shows (chargeRecord request charge currency stamp) charge ∧
      Recorded course.moment.state
        (alone World.perform (service.process request origin) course).2.moment.state
        (alone World.perform (service.process request origin) course).2.talk
        (chargeRecord request charge currency stamp) origin ∧
      (course.Healthy → course.moment.state.IndexFollows →
        course.moment.state.Announced
          (alone World.perform (service.process request origin) course).2.moment.state
          ⟨none, chargeRecord request charge currency stamp⟩ origin) := by
  obtain ⟨result, money, isResult, same⟩ := withMoney_of_usable usable
  have charged := charge_accepted origin course accepted.acceptable
  have missing : (atGateway service valid course).2.moment.state.store.find? result.reference =
    none := by rw [atGateway_state, same, absent]
  obtain ⟨put, isPut, recorded, announced⟩ := @putOnRecord_absent valid _ _ origin missing
    (atGateway_tells told)
  rw [answered, Option.map_some, money] at charged
  simp only [isPut] at charged
  obtain ⟨final, whole, counted, _, requests⟩ := process_of_charge charged
  rw [record_of_accepted accepted usable isResult, atGateway_state] at recorded announced
  rw [whole]
  refine ⟨_, ((atGateway service valid course).2.ahead 0).stamp, rfl, ?_, ?_, ?_⟩
  · rw [record_of_accepted accepted usable isResult]
    exact shows_receiptFor isResult _
  · exact
      { added := (congrArg Store.payments counted.store).trans recorded.added
        lookups := fun reference => by rw [counted.store, recorded.lookups]
        reported := requests.trans recorded.reported }
  · intro healthy follows
    have asked : (course.next World.perform (.here .fresh)).Healthy := fun n => healthy (n + 1)
    exact (announced (asked.alone _) follows).untouched counted

end

/-- A charge that finds nobody else at work is put on record once, or not at all. -/
theorem process_charges_once (world : World) (service : PaymentService) (request : ChargeRequest)
    (origin : Origin) (ahead : Nat → Circumstances) :
    let ended := alone World.perform (service.process request origin) (.start world ahead)
    let after := ended.2.moment.state
    let attempts := attemptsIn (gatewayTalk ended.2.talk)
    (∀ refusal, Refused service.client.limits request refusal →
      ended.1 = some (.error (.refused refusal)) ∧ gatewayTalk ended.2.talk = [] ∧
        world.Untouched after) ∧
    (∀ valid, Accepted service.client.limits request valid →
      ∃ told, Concludes attempts told ∧
        (∀ attempt ∈ attempts,
          attempt.call = .create (orderOf valid) (idempotencyKey (ahead 0).stamp.id)) ∧
        (∀ error, GatewayFails told error →
          Reports service.client.chargePolicy (gatewayTalk ended.2.talk) error ended.1 ∧
            world.Untouched after) ∧
        (∀ charge currency, told = .ok charge → Currency.ofText charge.currency = .ok currency →
          (world.store.find? charge.reference = none → ∃ receipt stamp,
            ended.1 = some (.ok receipt) ∧
            receipt.Shows (chargeRecord request charge currency stamp) charge ∧
            Recorded world after ended.2.talk (chargeRecord request charge currency stamp) origin ∧
            ((∀ n, (ahead n).outages = Outages.none) → world.IndexFollows →
              world.Announced after ⟨none, chargeRecord request charge currency stamp⟩ origin)) ∧
          (∀ record, world.store.find? charge.reference = some record → ∃ receipt,
            ended.1 = some (.ok receipt) ∧ receipt.Shows record charge ∧
            requestsIn ended.2.talk = [] ∧ world.Untouched after))) := by
  intro ended after attempts
  refine ⟨fun refusal refused => process_refused refused, ?_⟩
  intro valid accepted
  obtain ⟨⟨told, halts⟩, same⟩ := @atGateway_halts service valid (.start world ahead) rfl
  rw [← process_attempts accepted] at halts same
  refine ⟨told, halts.concludes, same, fun error fails => ?_, ?_⟩
  · exact halts.reports
      (fun answered => process_failed accepted answered fails) (process_broken accepted)
  rintro charge currency rfl usable
  have silent : Tells (Course.start world ahead).talk [] [] := .nil
  have answered := halts.ending_of_charged halts.concludes
  exact ⟨process_recorded accepted silent answered usable,
    fun record stored => process_repeated accepted silent answered usable stored⟩

theorem shopping_accepted :
    Accepted shop.client.limits shopping
      ⟨"user", "plan", "pm", "user@example.org", ⟨.hundred, euro⟩, 10000, false⟩ where
  valid := by decide +kernel
  isEmail := by decide +kernel

theorem process_charges_once_shopping :
    let ended := alone World.perform (shop.process shopping ⟨.system, none⟩)
      (.start {} fun _ => cooperative)
    ∃ receipt stamp, ended.1 = some (.ok receipt) ∧
      Recorded {} ended.2.moment.state ended.2.talk
        (chargeRecord shopping (cardCharge .processing) euro stamp) ⟨.system, none⟩ := by
  intro ended
  obtain ⟨_, accepted⟩ :=
    process_charges_once {} shop shopping ⟨.system, none⟩ fun _ => cooperative
  obtain ⟨answer, concludes, _, _, charged⟩ := accepted _ shopping_accepted
  have attempts : ∃ call limit, attemptsIn (gatewayTalk ended.2.talk) =
      [] ++ [⟨call, limit, some (.ok (cardCharge .processing))⟩] := ⟨_, _, rfl⟩
  obtain ⟨call, limit, made⟩ := attempts
  have answered : Concludes (attemptsIn (gatewayTalk ended.2.talk))
      (.ok (cardCharge .processing)) := made ▸ .charged (by simp)
  obtain ⟨receipt, stamp, isOk, _, recorded, _⟩ :=
    (charged _ euro (concludes.unique answered) (by decide +kernel)).1 rfl
  exact ⟨receipt, stamp, isOk, recorded⟩

end Interleaving

end Payments
