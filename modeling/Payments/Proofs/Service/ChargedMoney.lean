import Payments.Proofs.Charge.Rules
import Payments.Proofs.Search.Projection
import Payments.Proofs.Service.Replay

/-!
The money of a charge, on its way from the request through the gateway to the record and from there to
the client and the sinks. If the gateway repeats what it was sent, the same number arrives everywhere,
with as many places as the currency has.
-/

namespace Payments

open Gateway

/-- This is the money that the request asks for, however it writes the amount and the currency. -/
structure Money.IsRequested (money : Money) (request : ChargeRequest) : Prop where
  currency : money.currency.code =
    String.ofList ((Text.trim request.currency).toList.map Char.toUpper)
  value : money.amount.value = request.amount.value
  scale : money.amount.scale = if money.currency.isZeroDecimal then 0 else 2

/-- The gateway repeats the amount and the currency that it was sent, the currency in any letter case
and with any blanks around it. -/
structure Gateway.Charge.Repeats (charge : Charge) (order : Order) : Prop where
  minor : charge.minor = order.minor
  currency : ∃ front word back : List Char,
    charge.currency = String.ofList (front ++ word ++ back) ∧
    (∀ c ∈ front, Text.isBlank c = true) ∧ (∀ c ∈ back, Text.isBlank c = true) ∧
    word.map Char.toUpper = order.currency.code.toList

namespace ChargeLimits.Validated

variable {limits : ChargeLimits} {request : ChargeRequest} {valid : ValidCharge}

theorem isRequested (validated : limits.Validated request valid) :
    (Money.ofMinor valid.minor valid.money.currency).IsRequested request where
  currency := validated.code
  value := ((Currency.toMinor_exact _ _).2.2.2.1 _).mp validated.minor
  scale := rfl

end ChargeLimits.Validated

theorem Gateway.Charge.Repeats.result {charge : Charge} {order : Order}
    (repeats : charge.Repeats order) :
    ∃ result, charge.result = .ok result ∧ result.reference = charge.reference ∧
      result.money = .ofMinor order.minor order.currency := by
  obtain ⟨front, word, back, written, blankFront, blankBack, variant⟩ := repeats.currency
  have named : Currency.ofText charge.currency = .ok order.currency := by
    rw [written]
    exact Currency.ofText_surrounded blankFront blankBack variant
  refine ⟨_, by rw [Charge.result, named], rfl, ?_⟩
  rw [repeats.minor]

namespace Interleaving

open ServiceWorkflow

section

variable {service : PaymentService} {request : ChargeRequest} {origin : Origin}
  {valid : ValidCharge} {result : ChargeResult} {talk more : ServiceTalk}

theorem eq_of_acceptable {limits : ChargeLimits} {sent : ValidCharge}
    (accepted : limits.validate request = .ok valid) (isSent : acceptable limits request = .ok sent) :
    sent = valid := by
  rw [acceptable, accepted] at isSent
  dsimp only at isSent
  split at isSent
  · exact (Except.ok.inj isSent).symm
  · cases isSent

def Orders (service : PaymentService) (request : ChargeRequest) (action : Action) : Prop :=
  ∀ call limit, action = .gateway (.call call limit) →
    ∃ valid id, acceptable service.client.limits request = .ok valid ∧
      call = .create (orderOf valid) (idempotencyKey id)

theorem orders_of_here (action : LocalAction) : Orders service request (.here action) :=
  fun _ _ => Action.noConfusion

theorem orders_offline {α : Type} {workflow : ServiceWorkflow α} (offline : Offline workflow) :
    Asks (Orders service request) workflow := by
  induction workflow with
  | done result => trivial
  | ask action next ih =>
      exact ⟨fun _ _ isCall => absurd isCall (offline.1 _), fun reply => ih reply (offline.2 reply)⟩

theorem process_orders (service : PaymentService) (request : ChargeRequest) (origin : Origin) :
    Asks (Orders service request) (service.process request origin) := by
  have charges : Asks (Orders service request) (service.charge request origin) := by
    unfold PaymentService.charge
    split
    · trivial
    · rename_i valid accepted
      refine asks_locally (orders_of_here _) fun id => Asks.bind ?_ ?_
      · refine Asks.interpret (Asks.bind makes_retry fun _ => trivial) ?_
        rintro asked makes
        refine ⟨?_, fun _ => trivial⟩
        rintro call limit ⟨⟩
        exact ⟨valid, id, accepted, makes _ _ rfl⟩
      · rintro (_ | error | result)
        · trivial
        · trivial
        · exact (orders_offline (offline_putOnRecord valid result origin)).bind fun _ => trivial
  refine Asks.bind charges ?_
  rintro (_ | error | receipt)
  · trivial
  · exact asks_locally (orders_of_here _) fun _ => trivial
  · exact asks_locally (orders_of_here _) fun _ => trivial

def PutsOnRecord (service : PaymentService) (request : ChargeRequest) (talk : ServiceTalk) : Prop :=
  ∀ charge result, Concludes (attemptsIn (gatewayTalk talk)) (.ok charge) →
    charge.result = .ok result →
    ∃ valid reply, acceptable service.client.limits request = .ok valid ∧
      creation (newPayment valid result) reply ∈ talk ∧
      ∀ record, reply = .ok record → changesIn talk = [⟨none, record⟩]

theorem not_concludes_nil {answer : Except ClientError Charge} : ¬Concludes [] answer := by
  intro concludes
  obtain ⟨last, isLast, _⟩ := concludes.eq_verdict
  cases isLast

theorem withMoney_of_result {charge : Charge} (isResult : charge.result = .ok result) :
    withMoney (.ok charge) = .ok result := by
  simp [withMoney, Except.bind, isResult, Except.mapError]

theorem changesIn_aside (aside : ∀ said ∈ more, said.action.isAside = true) :
    changesIn (talk ++ more) = changesIn talk := by
  have none : changesIn more = [] := by
    refine List.filterMap_eq_nil_iff.mpr fun said member => ?_
    obtain ⟨action, reply⟩ := said
    cases action with
    | gateway asked => rfl
    | here action =>
        cases action with
        | store asked => exact absurd (aside _ member) (by simp [Action.isAside])
        | _ => rfl
  rw [changesIn, List.filterMap_append, ← changesIn, ← changesIn, none, List.append_nil]

theorem PutsOnRecord.append (puts : PutsOnRecord service request talk)
    (aside : ∀ said ∈ more, said.action.isAside = true) :
    PutsOnRecord service request (talk ++ more) := by
  intro charge result concludes isResult
  rw [gatewayTalk_aside fun said member => aside_of_isAside (aside said member)] at concludes
  obtain ⟨valid, reply, accepted, created, changes⟩ := puts charge result concludes isResult
  refine ⟨valid, reply, accepted, List.mem_append_left _ created, fun record isRecord => ?_⟩
  rw [changesIn_aside aside, changes record isRecord]

def CreatesOnce (payment : NewPayment) (talk later : ServiceTalk) : Prop :=
  ∃ reply more, later = talk ++ creation payment reply :: more ∧
    (∀ said ∈ more, ∀ asked, said.action ≠ .gateway asked) ∧
    ∀ record, reply = .ok record → changesIn later = [⟨none, record⟩]

theorem createsOnce_of_error {payment : NewPayment} {error : StoreError}
    (away : ∀ said ∈ more, ∀ asked, said.action ≠ .gateway asked) :
    CreatesOnce payment talk (talk ++ creation payment (.error error) :: more) :=
  ⟨.error error, more, rfl, away, fun _ => nofun⟩

theorem putOnRecord_creates (noChange : changesIn talk = []) :
    Keeps (fun _ _ => True) (fun later _ => CreatesOnce (newPayment valid result) talk later)
      (putOnRecord valid result origin) talk := by
  have refused : ∀ error : StoreError, CreatesOnce (newPayment valid result) talk
      (talk ++ [creation (newPayment valid result) (.error error)]) :=
    fun error => createsOnce_of_error (by simp)
  refine ⟨trivial, ?_⟩
  rintro (error | record)
  · cases error with
    | duplicate text =>
        refine ⟨trivial, fun reply => ?_⟩
        have found : CreatesOnce (newPayment valid result) talk
            (talk ++ [creation (newPayment valid result) (.error (.duplicate text))] ++
              [reading result.reference reply]) := by
          rw [List.append_assoc]
          exact createsOnce_of_error (by simp)
        rcases reply with error | _ | known
        · exact found
        · exact found
        · exact found
    | notFound _ => exact refused _
    | conflict _ _ _ => exact refused _
    | illegalMove _ => exact refused _
    | database _ => exact refused _
    | corrupt _ => exact refused _
  · change Keeps _ _ ((fanOut (Change.report ⟨none, record⟩ origin)).bind _) _
    refine Keeps.bind (((asks_fanOut _).keeps.permit fun _ _ _ => trivial).mono ?_)
    rintro _ _ ⟨more, rfl, aside⟩
    refine ⟨.ok record, more, by simp, ?_, ?_⟩
    · exact fun said member => (aside_of_isAside (aside said member)).1
    · rintro _ ⟨⟩
      rw [changesIn_aside aside, changesIn, List.filterMap_append, ← changesIn, noChange]
      rfl

theorem charge_puts (service : PaymentService) (request : ChargeRequest) (origin : Origin) :
    Keeps (fun _ _ => True) (fun talk _ => PutsOnRecord service request talk)
      (service.charge request origin) [] := by
  unfold PaymentService.charge
  split
  · exact fun _ _ concludes => absurd concludes not_concludes_nil
  · rename_i valid accepted
    refine ⟨trivial, fun id => ?_⟩
    have submits : Keeps (MayPut (.charge service request origin)) _
        (ofGateway (service.client.submit valid id)) [⟨.here .fresh, id⟩] := submit_halts rfl
    change Keeps _ _ ((ofGateway (service.client.submit valid id)).bind _) _
    refine Keeps.bind ((submits.permit fun _ _ _ => trivial).mono ?_)
    rintro _ answer ⟨⟨told, ending, halts, rfl⟩, more, rfl, calls⟩
    have money : ∀ {charge result},
        Concludes (attemptsIn (gatewayTalk ([⟨.here .fresh, id⟩] ++ more))) (.ok charge) →
        charge.result = .ok result → ending.map withMoney = some (.ok result) := by
      intro charge result charged isResult
      rw [halts.ending_of_charged charged, Option.map_some, withMoney_of_result isResult]
    rcases isAnswer : ending.map withMoney with _ | error | result
    · exact fun _ _ charged isResult => absurd (isAnswer.symm.trans (money charged isResult)) nofun
    · exact fun _ _ charged isResult => absurd (isAnswer.symm.trans (money charged isResult)) nofun
    · have noChange : changesIn ([⟨.here .fresh, id⟩] ++ more) = [] := by
        refine List.filterMap_eq_nil_iff.mpr fun said member => ?_
        rcases List.mem_cons.mp member with rfl | later
        · rfl
        · obtain ⟨action, reply⟩ := said
          obtain ⟨asked, rfl⟩ := calls _ later
          rfl
      refine Keeps.bind ((putOnRecord_creates noChange).mono ?_)
      rintro _ _ ⟨reply, after, rfl, away, changes⟩ charge other charged isResult
      have quiet : ∀ said ∈ creation (newPayment valid result) reply :: after,
          ∀ asked, said.action ≠ .gateway asked := by
        simpa using away
      rw [gatewayTalk_away quiet] at charged
      cases isAnswer.symm.trans (money charged isResult)
      exact ⟨valid, reply, accepted, by simp, changes⟩

theorem process_puts (service : PaymentService) (request : ChargeRequest) (origin : Origin) :
    Keeps (fun _ _ => True) (fun talk _ => PutsOnRecord service request talk)
      (service.process request origin) [] := by
  refine Keeps.bind ((charge_puts service request origin).mono fun talk ending puts => ?_)
  have counted : ∀ counter,
      PutsOnRecord service request (talk ++ [⟨.here (.count counter), ()⟩]) :=
    fun counter => puts.append (by simp [Action.isAside])
  rcases ending with _ | error | receipt
  · exact puts
  · exact ⟨trivial, fun _ => counted _⟩
  · exact ⟨trivial, fun _ => counted _⟩

end

section

variable {world : World} {operations : List Operation} {turns : List (Nat × Circumstances)}
  {client : Nat} {service : PaymentService} {request : ChargeRequest} {origin : Origin}
  {valid : ValidCharge}

theorem run_orders (world : World) (operations : List Operation)
    (turns : List (Nat × Circumstances)) :
    Kept World.perform
      (allowedBy fun client _ action => ∀ service request origin,
        operations[client]? = some (.charge service request origin) →
          Orders service request action)
      (metBy fun client talk (_ : Answer) => ∀ service request origin,
        operations[client]? = some (.charge service request origin) →
          PutsOnRecord service request talk)
      (operationsOn world operations).moment
      ((operationsOn world operations).run World.perform turns) := by
  refine run_keeps (fun client operation known => ?_) world turns
  by_cases isCharge : ∃ service request origin, operation = .charge service request origin
  · obtain ⟨service, request, origin, rfl⟩ := isCharge
    refine Keeps.bind ((((process_orders service request origin).keeps.and
      (process_puts service request origin)).permit ?_).mono ?_)
    · rintro _ _ ⟨orders, _⟩ _ _ _ same
      cases known.symm.trans same
      exact orders
    · rintro talk put ⟨_, puts⟩ _ _ _ same
      cases known.symm.trans same
      exact puts
  · have other : ∀ service request origin,
        operations[client]? ≠ some (.charge service request origin) := by
      intro service request origin same
      exact isCharge ⟨service, request, origin, Option.some.inj (known.symm.trans same)⟩
    exact ((asks_any operation.workflow).keeps.permit
      fun _ _ _ service request origin same => absurd same (other service request origin)).mono
      fun _ _ _ service request origin same => absurd same (other service request origin)

theorem action_of_attempt? {said : Exchange Action.Reply}
    {asked : Exchange GatewayAction.Reply} {attempt : Attempt} (isAsked : toGateway? said = some asked)
    (isAttempt : attempt? asked = some attempt) :
    said.action = .gateway (.call attempt.call attempt.limit) := by
  obtain ⟨action, reply⟩ := said
  cases action with
  | here action => cases isAsked
  | gateway action =>
      cases isAsked
      cases action with
      | call call limit =>
          cases isAttempt
          rfl
      | sleep span => cases isAttempt
      | clock => cases isAttempt

theorem order_of_attempt (isCharge : operations[client]? = some (.charge service request origin))
    (accepted : service.client.limits.validate request = .ok valid) {attempt : Attempt}
    (member : attempt ∈ attemptsIn (gatewayTalk (talkOf client (pastOf world operations turns)))) :
    ∃ id, attempt.call = .create (orderOf valid) (idempotencyKey id) := by
  obtain ⟨asked, isSaid, isAttempt⟩ := List.mem_filterMap.mp member
  obtain ⟨said, isSaid, isAsked⟩ := List.mem_filterMap.mp isSaid
  obtain ⟨step, isStep, rfl, rfl⟩ := mem_talkOf.mp isSaid
  obtain ⟨earlier, later, split⟩ := List.append_of_mem isStep
  obtain ⟨_, _, _, may⟩ :=
    (run_orders world operations turns).reached.at_step earlier step later split (Nat.zero_le _)
  obtain ⟨sent, id, acceptable, isCall⟩ :=
    may service request origin isCharge _ _ (action_of_attempt? isAsked isAttempt)
  exact ⟨id, by rw [isCall, eq_of_acceptable accepted acceptable]⟩

/-- The reference was not on record yet whenever this client asked the store for it. -/
def Unrecorded (client : Nat) (reference : Reference) (past : List ServiceStep) : Prop :=
  ∀ step ∈ past, step.client = client → AsksFor reference step →
    step.before.store.find? reference = none

theorem exchange_of_unrecorded {step : ServiceStep} {payment : NewPayment}
    (unrecorded : Unrecorded client payment.reference (pastOf world operations turns))
    (member : step ∈ pastOf world operations turns) (own : step.client = client)
    (isCreate : step.action = .here (.store (.create payment))) :
    step.exchange = creation payment (.ok (payment.record step.choice.stamp)) := by
  obtain ⟨earlier, later, split⟩ := List.append_of_mem member
  obtain ⟨_, faithful, _⟩ := (run_orders world operations turns).reached.at_step earlier step later
    split (Nat.zero_le _)
  rcases exchange_create faithful isCreate with ⟨_, made⟩ | ⟨⟨current, stored⟩, _⟩
  · exact made
  · have absent := unrecorded step member own ⟨payment, isCreate, rfl⟩
    exact absurd (stored.symm.trans absent) (Option.some_ne_none current)

structure PaidInto (origin : Origin) (talk : ServiceTalk) (answer : Answer) (record : Payment) :
    Prop where
  changes : changesIn talk = [⟨none, record⟩]
  requests : requestsIn talk = (Change.report ⟨none, record⟩ origin).requests
  answered : ∃ receipt, answer = .receipt (.ok receipt) ∧ receipt.money = record.money

theorem paidInto_of_charge
    (isCharge : operations[client]? = some (.charge service request origin))
    (accepted : service.client.limits.validate request = .ok valid) {charge : Charge}
    {answer : Answer}
    (concludes : Concludes (attemptsIn (gatewayTalk
      (talkOf client (pastOf world operations turns)))) (.ok charge))
    (repeats : charge.Repeats (orderOf valid))
    (unrecorded : Unrecorded client charge.reference (pastOf world operations turns))
    (isResult : ((operationsOn world operations).run World.perform turns).result? client =
      some answer) :
    ∃ record, PaidInto origin (talkOf client (pastOf world operations turns)) answer record ∧
      record.reference = charge.reference ∧
      record.money = .ofMinor valid.minor valid.money.currency := by
  obtain ⟨result, isResultOf, own, money⟩ := repeats.result
  have ordered := run_orders world operations turns
  obtain ⟨sent, reply, isSent, created, changes⟩ :=
    ordered.talk_of_result? isResult service request origin isCharge charge result concludes
      isResultOf
  rw [eq_of_acceptable accepted isSent] at created
  obtain ⟨step, member, isOwn, said⟩ := mem_talkOf.mp created
  have isCreate : step.action = .here (.store (.create (newPayment valid result))) :=
    congrArg Exchange.action said
  rw [← own] at unrecorded
  have made := exchange_of_unrecorded unrecorded member isOwn isCreate
  cases said.symm.trans made
  refine ⟨_, ⟨changes _ rfl, ?_, ?_⟩, own, money⟩
  · have reported : Reported (originOf operations client) _ :=
      (run_reports world operations turns).talk_of_result? isResult
    have isOrigin : originOf operations client = origin := by
      simp [originOf, isCharge, Operation.origin]
    rw [reported, changes _ rfl, isOrigin, reportsOf, List.flatMap_singleton]
  · obtain ⟨operation, isOperation, uncreated | ⟨_, _, _, put, rfl, rfl, settles⟩⟩ :=
      (run_puts world operations turns).talk_of_result? isResult
    · exact absurd isCreate
        (uncreated step.exchange (mem_talkOf.mpr ⟨step, member, isOwn, rfl⟩) _)
    · obtain ⟨_, _, _, _, _, puts⟩ := settles _ _ created
      cases puts with
      | created record => exact ⟨_, rfl, rfl⟩

end

section

variable {operations : List Operation} {turns : List (Nat × Circumstances)} {client : Nat}

theorem stored_of_changeAt {change : Change}
    (changed : change ∈ (pastOf {} operations turns).filterMap changeAt) :
    ∃ current, ((operationPool operations).run World.perform turns).moment.state.store.find?
        change.current.reference = some current ∧ current.money = change.current.money := by
  obtain ⟨step, member, isChange⟩ := List.mem_filterMap.mp changed
  obtain ⟨current, stored, same⟩ :=
    (lineage_of_run {} operations turns change.current.reference).2.sameCharge change.current
      (mem_recordsOf_of_changeAt member isChange)
  exact ⟨current, stored, same.money.symm⟩

variable {change : Change}
  (finished : (((operationPool operations).run World.perform turns).result? client).isSome)
  (changed : change ∈ changesIn
    (talkOf client ((operationPool operations).run World.perform turns).moment.past))

include finished changed

theorem document_of_change (healthy : ∀ turn ∈ turns, turn.2.outages .search = none) :
    ∃ document, ((operationPool operations).run World.perform turns).moment.state.index.find?
        change.current.reference.text = some document ∧
      document.amount = change.current.money.amount ∧
      document.currency = change.current.money.currency.code := by
  let now := ((operationPool operations).run World.perform turns).moment
  have heard : (change.report (originOf operations client)).document ∈
      now.past.filterMap indexListener.heardAt := indexListener.heard_of_done finished changed
  have held : now.state.index = _ := index_of_heard healthy
  cases found : now.state.index.find? change.current.reference.text with
  | none =>
      rw [held, SearchIndex.find?_upsertAll_eq_none_iff] at found
      exact absurd rfl (found _ heard)
  | some document =>
      obtain ⟨other, isOther, rfl⟩ := (run_reports {} operations turns).reached.documents rfl
        document (List.mem_of_find?_eq_some found)
      have own : other.current.reference = change.current.reference :=
        Reference.text_inj.mp (SearchIndex.find?_reference found)
      obtain ⟨current, stored, first⟩ := stored_of_changeAt isOther
      obtain ⟨_, stored', second⟩ := stored_of_changeAt (mem_changesIn_talkOf changed)
      rw [own] at stored
      cases stored.symm.trans stored'
      have same : other.current.money = change.current.money := first.symm.trans second
      exact ⟨_, rfl, congrArg Money.amount same, congrArg (·.currency.code) same⟩

theorem event_of_change (healthy : ∀ turn ∈ turns, turn.2.outages .bus = none) :
    (change.report (originOf operations client)).event ∈
      ((operationPool operations).run World.perform turns).moment.state.published := by
  have published : ((operationPool operations).run World.perform turns).moment.state.published = _ :=
    published_of_run healthy
  rw [published]
  exact List.mem_append_right _ (busListener.heard_of_done finished changed)

theorem entry_of_change (healthy : ∀ turn ∈ turns, turn.2.outages .audit = none) :
    ∃ stamp, (change.report (originOf operations client)).auditEntry stamp ∈
      ((operationPool operations).run World.perform turns).moment.state.audit.entries := by
  have entries : ((operationPool operations).run World.perform turns).moment.state.audit.entries = _ :=
    entries_of_run healthy
  have heard := auditListener.heard_of_done finished changed
  obtain ⟨step, member, announced⟩ := List.mem_filterMap.mp heard
  refine ⟨step.choice.stamp, ?_⟩
  rw [entries]
  refine List.mem_append_right _ (List.mem_filterMap.mpr ⟨step, member, ?_⟩)
  have isAnnounced : announcedAt step = some (change.report (originOf operations client)) :=
    announced
  rw [entryAt, isAnnounced]
  rfl

end

/-- What is sent to the gateway is the amount that was asked for, counted in smallest units. If the
gateway repeats it under a reference that is not on record, then the record, the answer to the client and
whatever the sinks show of it hold that amount, with as many places as the currency has. -/
theorem charge_keeps_money :
    (∀ (limits : ChargeLimits) (request : ChargeRequest) (valid : ValidCharge),
      limits.validate request = .ok valid →
      0 < valid.minor.toInt ∧
      request.amount.value * 10 ^ (if valid.money.currency.isZeroDecimal then 0 else 2) =
        valid.minor.toInt ∧
      valid.money.currency.code =
        String.ofList ((Text.trim request.currency).toList.map Char.toUpper)) ∧
    (∀ (operations : List Operation) (turns : List (Nat × Circumstances)) (client : Nat)
        (service : PaymentService) (request : ChargeRequest) (origin : Origin) (valid : ValidCharge),
      operations[client]? = some (.charge service request origin) →
      service.client.limits.validate request = .ok valid →
      let pool := (operationPool operations).run World.perform turns
      let world := pool.moment.state
      let talk := talkOf client pool.moment.past
      (∀ attempt ∈ attemptsIn (gatewayTalk talk),
        ∃ id, attempt.call = .create (orderOf valid) (idempotencyKey id)) ∧
      ∀ (charge : Charge) (answer : Answer),
        Concludes (attemptsIn (gatewayTalk talk)) (.ok charge) →
        charge.Repeats (orderOf valid) →
        Unrecorded client charge.reference pool.moment.past →
        pool.result? client = some answer →
        ∃ money record current receipt,
          money.IsRequested request ∧ money.currency = valid.money.currency ∧
          changesIn talk = [⟨none, record⟩] ∧
          requestsIn talk = (Change.report ⟨none, record⟩ origin).requests ∧
          record.reference = charge.reference ∧ record.money = money ∧
          world.store.find? charge.reference = some current ∧ current.money = money ∧
          answer = .receipt (.ok receipt) ∧ receipt.money = money ∧
          ((∀ turn ∈ turns, turn.2.outages .search = none) →
            ∃ document, world.index.find? charge.reference.text = some document ∧
              document.amount = money.amount ∧ document.currency = money.currency.code) ∧
          ((∀ turn ∈ turns, turn.2.outages .bus = none) →
            ∃ event ∈ world.published, event.eventType = .created ∧
              event.reference = charge.reference.text ∧ event.money = money) ∧
          ((∀ turn ∈ turns, turn.2.outages .audit = none) →
            ∃ entry ∈ world.audit.entries, entry.eventType = .created ∧
              entry.reference = charge.reference.text ∧
              entry.metadata.get? "amount" = some (.str money.amount.text) ∧
              entry.metadata.get? "currency" = some (.str money.currency.code))) := by
  constructor
  · intro limits request valid accepted
    have validated := ChargeLimits.validated_of_ok accepted
    exact ⟨validated.minor_pos, validated.value_mul, validated.code⟩
  intro operations turns client service request origin valid isCharge accepted pool world talk
  refine ⟨fun attempt member => order_of_attempt isCharge accepted member, ?_⟩
  intro charge answer concludes repeats unrecorded isResult
  obtain ⟨record, paid, own, money⟩ : ∃ record, PaidInto origin talk answer record ∧
      record.reference = charge.reference ∧ record.money = _ :=
    paidInto_of_charge isCharge accepted concludes repeats unrecorded isResult
  obtain ⟨receipt, answered, shown⟩ := paid.answered
  have changed : ⟨none, record⟩ ∈ changesIn talk := by
    rw [paid.changes]
    exact List.mem_singleton_self _
  have finished : (pool.result? client).isSome := by
    rw [isResult]
    rfl
  obtain ⟨current, stored, kept⟩ := stored_of_changeAt (mem_changesIn_talkOf changed)
  have requested := (ChargeLimits.validated_of_ok accepted).isRequested
  refine ⟨_, record, current, receipt, requested, rfl, paid.changes, paid.requests, own, money,
    own ▸ stored, kept.trans money, answered, shown.trans money, ?_, ?_, ?_⟩
  · intro healthy
    obtain ⟨document, held, amount, currency⟩ := document_of_change finished changed healthy
    rw [← money, ← own]
    exact ⟨document, held, amount, currency⟩
  · intro healthy
    rw [← money, ← own]
    exact ⟨_, event_of_change finished changed healthy, rfl, rfl, rfl⟩
  · intro healthy
    obtain ⟨stamp, written⟩ := entry_of_change finished changed healthy
    rw [← money, ← own]
    exact ⟨_, written, rfl, rfl, rfl, rfl⟩

def roundShopping : ChargeRequest :=
  { shopping with currency := " eur", amount := { units := 100000, scale := 3 } }

def roundCharge : ValidCharge :=
  ⟨"user", "plan", "pm", "user@example.org", ⟨roundShopping.amount, euro⟩, 10000, false⟩

def asksToCreate (step : ServiceStep) : Bool :=
  match step.action with
  | .here (.store (.create _)) => true
  | _ => false

theorem charge_keeps_money_round :
    let pool := (operationPool [.charge shop roundShopping ⟨.system, none⟩]).run World.perform
      (List.replicate 10 (0, cooperative))
    ∃ current document, pool.moment.state.store.find? (cardCharge .processing).reference =
        some current ∧ current.money.amount.scale = 2 ∧
      pool.moment.state.index.find? (cardCharge .processing).reference.text = some document ∧
      document.amount = current.money.amount ∧ document.currency = "EUR" := by
  intro pool
  obtain ⟨answer, isResult⟩ := Option.isSome_iff_exists.mp
    (show (pool.result? 0).isSome by decide +kernel)
  have attempts : ∃ call limit, attemptsIn (gatewayTalk (talkOf 0 pool.moment.past)) =
      [] ++ [⟨call, limit, some (.ok (cardCharge .processing))⟩] := ⟨_, _, rfl⟩
  obtain ⟨call, limit, made⟩ := attempts
  have concludes : Concludes (attemptsIn (gatewayTalk (talkOf 0 pool.moment.past)))
      (.ok (cardCharge .processing)) := made ▸ .charged (by simp)
  have repeats : (cardCharge .processing).Repeats (orderOf roundCharge) :=
    ⟨rfl, [], "EUR".toList, [], by decide +kernel, by simp, by simp, by decide +kernel⟩
  have absent : ∀ step ∈ pool.moment.past, asksToCreate step = true →
      step.before.store.find? (cardCharge .processing).reference = none := by decide +kernel
  have unrecorded : Unrecorded 0 (cardCharge .processing).reference pool.moment.past := by
    rintro step member _ ⟨payment, isCreate, _⟩
    exact absent step member (by rw [asksToCreate, isCreate])
  have healthy : ∀ turn ∈ List.replicate 10 (0, cooperative), turn.2.outages .search = none := by
    simp [cooperative, Outages.none]
  obtain ⟨money, record, current, receipt, requested, isEuro, _, _, _, _, stored, kept, _, _,
      indexed, _⟩ :=
    (charge_keeps_money.2 _ _ 0 shop roundShopping ⟨.system, none⟩ roundCharge rfl
      (by decide +kernel)).2 _ answer concludes repeats unrecorded isResult
  obtain ⟨document, held, amount, currency⟩ := indexed healthy
  refine ⟨current, document, stored, ?_, held, ?_, ?_⟩
  · rw [kept, requested.scale, isEuro]
    decide +kernel
  · rw [kept, amount]
  · rw [currency, isEuro]
    rfl

end Interleaving

end Payments
