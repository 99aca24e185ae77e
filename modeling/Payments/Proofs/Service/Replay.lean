import Payments.Proofs.Audit.Trail
import Payments.Proofs.Service.Put

/-!
Charges whose answers from the gateway carry the same reference, amid any other operations. The first
of them to reach the store creates the record, which is reported once and stays a record of that
charge; every other one answers from the record that it then finds.
-/

namespace Payments

theorem Change.countP_through (records : List Payment) :
    (through none records).countP (·.previous.isNone) = min 1 records.length := by
  have later : ∀ (record : Payment) (records : List Payment),
      (through (some record) records).countP (·.previous.isNone) = 0 := by
    intro record records
    induction records generalizing record with
    | nil => rfl
    | cons next records ih => simpa [through] using ih next
  cases records with
  | nil => rfl
  | cons record records =>
      rw [through, List.countP_cons, later, List.length_cons]
      simp

section

variable (reference : Reference)

def Commit.isCreation (commit : Commit) : Bool :=
  commit.eventType = .created && commit.payment.reference = reference

def LifecycleEvent.isCreation (event : LifecycleEvent) : Bool :=
  event.eventType = .created && event.reference = reference.text

def AuditEntry.isCreation (entry : AuditEntry) : Bool :=
  entry.eventType = .created && entry.reference = reference.text

theorem Commit.isCreation_event (commit : Commit) :
    commit.event.isCreation reference = commit.isCreation reference :=
  congrArg (decide (commit.eventType = .created) && ·) (decide_eq_decide.mpr Reference.text_inj)

theorem Commit.isCreation_auditEntry (commit : Commit) (stamp : Stamp) :
    (commit.auditEntry stamp).isCreation reference = commit.isCreation reference :=
  congrArg (decide (commit.eventType = .created) && ·) (decide_eq_decide.mpr Reference.text_inj)

end

namespace Interleaving

open Gateway

def AsksFor (reference : Reference) (step : ServiceStep) : Prop :=
  ∃ payment, step.action = .here (.store (.create payment)) ∧ payment.reference = reference

def creates (reference : Reference) (step : ServiceStep) : Bool :=
  (changeAt step).any fun change =>
    change.previous.isNone && decide (change.current.reference = reference)

/-- This step, and no other one, has created the payment of the reference: for a charge, from its own
request and from what its attempts at the gateway had come to before. -/
structure CreatedBy (operations : List Operation) (past : List ServiceStep) (reference : Reference)
    (creating : ServiceStep) (record : Payment) : Prop where
  created : changeAt creating = some ⟨none, record⟩
  about : record.reference = reference
  only : past.filter (creates reference) = [creating]
  charged : ∃ earlier later service request origin valid charge result,
    past = earlier ++ creating :: later ∧
    operations[creating.client]? = some (.charge service request origin) ∧
    Charged service request (talkOf creating.client earlier) valid charge result ∧
    record = (newPayment valid result).record creating.choice.stamp

theorem CreatedBy.mem_past {operations : List Operation} {past : List ServiceStep}
    {reference : Reference} {creating : ServiceStep} {record : Payment}
    (created : CreatedBy operations past reference creating record) : creating ∈ past :=
  (List.mem_filter.mp (created.only ▸ List.mem_singleton_self creating)).1

theorem CreatedBy.mem_recordsOf {operations : List Operation} {past : List ServiceStep}
    {reference : Reference} {creating : ServiceStep} {record : Payment}
    (created : CreatedBy operations past reference creating record) :
    record ∈ worldAccess.recordsOf reference past := by
  rw [← created.about]
  exact mem_recordsOf_of_changeAt created.mem_past created.created

theorem countP_creates (reference : Reference) (past : List ServiceStep) :
    past.countP (creates reference) = (changesOf reference past).countP (·.previous.isNone) := by
  rw [changesOf, List.countP_filter, List.countP_filterMap]
  refine List.countP_congr fun step _ => ?_
  cases changed : changeAt step <;> simp [creates, changed]

section

variable {may : Nat → ServiceMoment → Action → Prop} {who : Nat → Prop} {now : ServiceMoment}
  {world : World} {reference : Reference} {step : ServiceStep}

theorem exchange_eq {earlier : List ServiceStep}
    (faithful : step = Moment.step World.perform ⟨step.before, earlier⟩ step.client step.choice
      step.action) :
    step.exchange = ⟨step.action, (World.perform step.choice step.action step.before).1⟩ :=
  congrArg Step.exchange faithful

theorem exchange_create {earlier : List ServiceStep} {payment : NewPayment}
    (faithful : step = Moment.step World.perform ⟨step.before, earlier⟩ step.client step.choice
      step.action)
    (isCreate : step.action = .here (.store (.create payment))) :
    step.before.store.find? payment.reference = none ∧
        step.exchange = creation payment (.ok (payment.record step.choice.stamp)) ∨
      (∃ current, step.before.store.find? payment.reference = some current) ∧
        step.exchange = creation payment (.error (.duplicate payment.reference.text)) := by
  have said := exchange_eq faithful
  rw [isCreate] at said
  cases stored : step.before.store.find? payment.reference with
  | none =>
      have acted := congrArg Prod.fst (Store.act_create_absent stored step.choice.stamp)
      exact .inl ⟨rfl, said.trans (congrArg (creation payment) acted)⟩
  | some current =>
      have acted := congrArg Prod.fst (Store.act_create_present stored step.choice.stamp)
      exact .inr ⟨⟨current, rfl⟩, said.trans (congrArg (creation payment) acted)⟩

theorem lineage_of_absent (absent : world.store.find? reference = none)
    (reached : Leads World.perform may who ⟨world, []⟩ now) :
    Payment.Lineage none (worldAccess.recordsOf reference now.past)
      (now.state.store.find? reference) :=
  absent ▸ lineage_of_reached reached reference

theorem stored_of_asked (absent : world.store.find? reference = none)
    (reached : Leads World.perform may who ⟨world, []⟩ now) (member : step ∈ now.past)
    (asked : AsksFor reference step) :
    ∃ current, now.state.store.find? reference = some current ∧
      current ∈ worldAccess.recordsOf reference now.past := by
  obtain ⟨payment, isCreate, rfl⟩ := asked
  obtain ⟨earlier, later, split⟩ := List.append_of_mem member
  obtain ⟨before, faithful, _⟩ := reached.at_step earlier step later split (Nat.zero_le _)
  have committed : ∃ record, record ∈ worldAccess.recordsOf payment.reference now.past := by
    rcases exchange_create faithful isCreate with ⟨_, said⟩ | ⟨⟨current, stored⟩, said⟩
    · refine ⟨payment.record step.choice.stamp,
        worldAccess.mem_recordsOf.mpr ⟨⟨step, member, ?_⟩, rfl⟩⟩
      exact congrArg (fun said => said.action.committed? said.reply) said
    · have lineage := lineage_of_absent absent before
      rw [show (Moment.state ⟨step.before, earlier⟩).store.find? payment.reference = _ from stored]
        at lineage
      refine ⟨current, ?_⟩
      rw [split, worldAccess.recordsOf_append]
      exact List.mem_append_left _ lineage.mem_of_stored
  obtain ⟨record, isRecord⟩ := committed
  have lineage := lineage_of_absent absent reached
  obtain ⟨current, stored, _⟩ := lineage.sameCharge record isRecord
  rw [stored] at lineage
  exact ⟨current, stored, lineage.mem_of_stored⟩

end

section

variable {world : World} {operations : List Operation} {turns : List (Nat × Circumstances)}
  {reference : Reference}

theorem run_puts (world : World) (operations : List Operation)
    (turns : List (Nat × Circumstances)) :
    Kept World.perform
      (allowedBy fun client talk action =>
        ∃ operation, operations[client]? = some operation ∧ MayPut operation talk action)
      (metBy fun client talk answer =>
        ∃ operation, operations[client]? = some operation ∧ AnsweredByStore operation talk answer)
      (operationsOn world operations).moment
      ((operationsOn world operations).run World.perform turns) := by
  refine run_keeps (fun client operation known => ?_) world turns
  exact ((operation_puts operation).permit fun _ _ may => ⟨operation, known, may⟩).mono
    fun _ _ answered => ⟨operation, known, answered⟩

theorem found_of_charge (absent : world.store.find? reference = none) {step : ServiceStep}
    {service : PaymentService} {request : ChargeRequest} {origin : Origin}
    (member : step ∈ pastOf world operations turns)
    (known : operations[step.client]? = some (.charge service request origin))
    (isFind : step.action = .here (.store (.find reference))) :
    ∃ found, step.exchange = reading reference (.ok (some found)) ∧
      found ∈ worldAccess.recordsOf reference (pastOf world operations turns) := by
  obtain ⟨earlier, later, split⟩ := List.append_of_mem member
  obtain ⟨before, faithful, _, operation, isOperation, may⟩ :=
    (run_puts world operations turns).reached.at_step earlier step later split (Nat.zero_le _)
  obtain ⟨payment, text, rfl, refused⟩ :=
    may.find service request origin (Option.some.inj (isOperation.symm.trans known)) _ isFind
  obtain ⟨asking, isEarlier, _, said⟩ := mem_talkOf.mp refused
  have asked : AsksFor payment.reference asking := ⟨payment, congrArg Exchange.action said, rfl⟩
  obtain ⟨found, stored, isRecord⟩ := stored_of_asked absent before isEarlier asked
  refine ⟨found, ?_, ?_⟩
  · have answered := exchange_eq faithful
    rw [isFind] at answered
    exact answered.trans (congrArg (fun found => reading payment.reference (.ok found)) stored)
  · rw [split, worldAccess.recordsOf_append]
    exact List.mem_append_left _ isRecord

theorem eq_creation {step : ServiceStep} {record : Payment}
    (created : changeAt step = some ⟨none, record⟩) :
    ∃ payment, step.exchange = creation payment (.ok record) := by
  obtain ⟨client, choice, action, reply, before, after⟩ := step
  cases action with
  | gateway action => cases created
  | here action =>
      cases action with
      | store action =>
          cases action with
          | create payment =>
              cases reply with
              | error error => cases created
              | ok made =>
                  cases created
                  exact ⟨payment, rfl⟩
          | find reference => cases created
          | ofUser userId page => cases created
          | update reference expected update =>
              cases reply with
              | error error => cases created
              | ok outcome => cases outcome <;> cases created
      | _ => cases created

theorem countP_creates_of_run (absent : world.store.find? reference = none)
    (operations : List Operation) (turns : List (Nat × Circumstances)) :
    (pastOf world operations turns).countP (creates reference) =
      min 1 (worldAccess.recordsOf reference (pastOf world operations turns)).length := by
  have chained := (lineage_of_run world operations turns reference).1
  rw [absent] at chained
  rw [countP_creates, chained, Change.countP_through]

theorem created_of_asked (absent : world.store.find? reference = none)
    (asked : ∃ step ∈ pastOf world operations turns, AsksFor reference step) :
    ∃ creating record,
      CreatedBy operations (pastOf world operations turns) reference creating record := by
  obtain ⟨step, member, asks⟩ := asked
  have reached := (run_puts world operations turns).reached
  obtain ⟨_, _, isRecord⟩ := stored_of_asked absent reached member asks
  have one := (countP_creates_of_run absent operations turns).trans
    (Nat.min_eq_left (List.length_pos_of_mem isRecord))
  rw [List.countP_eq_length_filter] at one
  obtain ⟨creating, only⟩ := List.length_eq_one_iff.mp one
  obtain ⟨earlier, later, split, _, isCreation, _⟩ := List.filter_eq_cons_iff.mp only
  obtain ⟨⟨previous, record⟩, created, first⟩ := (Option.any_eq_true _ _).mp isCreation
  obtain ⟨rfl, own⟩ : previous = none ∧ record.reference = reference := by simpa using first
  obtain ⟨payment, said⟩ := eq_creation created
  have isCreate : creating.action = .here (.store (.create payment)) :=
    congrArg Exchange.action said
  obtain ⟨_, faithful, _, operation, known, may⟩ :=
    reached.at_step earlier creating later split (Nat.zero_le _)
  obtain ⟨service, request, origin, valid, charge, result, rfl, charged, rfl⟩ :=
    may.create payment isCreate
  refine ⟨creating, record, created, own, only, earlier, later, service, request, origin, valid,
    charge, result, split, known, charged, ?_⟩
  rcases exchange_create faithful isCreate with ⟨_, made⟩ | ⟨_, refused⟩
  · cases said.symm.trans made
    rfl
  · cases said.symm.trans refused

theorem CreatedBy.more (absent : world.store.find? reference = none) {creating : ServiceStep}
    {record : Payment}
    (created : CreatedBy operations (pastOf world operations turns) reference creating record)
    (more : List (Nat × Circumstances)) :
    CreatedBy operations (pastOf world operations (turns ++ more)) reference creating record := by
  obtain ⟨steps, grown⟩ := past_of_more world operations turns more
  have bound := (countP_creates_of_run absent operations (turns ++ more)).trans_le
    (Nat.min_le_left _ _)
  rw [grown] at bound ⊢
  rw [List.countP_eq_length_filter, List.filter_append, created.only] at bound
  have none : steps.filter (creates reference) = [] := by
    simpa using bound
  obtain ⟨earlier, later, service, request, origin, valid, charge, result, split, charged⟩ :=
    created.charged
  refine ⟨created.created, created.about, ?_, earlier, later ++ steps, service, request, origin,
    valid, charge, result, ?_, charged⟩
  · rw [List.filter_append, created.only, none, List.append_nil]
  · rw [split, List.append_assoc, List.cons_append]

def creationsAudited (reference : Reference) (past : List ServiceStep) : Nat :=
  (past.filterMap entryAt).countP (·.isCreation reference)

def creationsPublished (reference : Reference) (past : List ServiceStep) : Nat :=
  (past.filterMap busListener.heardAt).countP (·.isCreation reference)

/-- From a version of the record that was committed by then, and from what its attempts at the gateway
came to, the charge of a client was answered. -/
def AnsweredFrom (record : Payment) (past : List ServiceStep) (client : Nat) (answer : Answer) :
    Prop :=
  ∃ receipt known charge, answer = .receipt (.ok receipt) ∧
    known ∈ worldAccess.recordsOf record.reference past ∧ record.SameCharge known ∧
    Concludes (attemptsIn (gatewayTalk (talkOf client past))) (.ok charge) ∧
    charge.reference = record.reference ∧ receipt.Shows known charge

namespace Listener

variable {β γ : Type} (listener : Listener β γ) (isCreation : β → Bool)
  (told : ∀ commit : Commit, isCreation (listener.told commit) = commit.isCreation reference)
  (absent : world.store.find? reference = none)

include told

theorem countP_due (past : List ServiceStep) :
    (past.filterMap fun step => (dueAt operations step).map listener.told).countP isCreation =
      past.countP (creates reference) := by
  rw [List.countP_filterMap]
  refine List.countP_congr fun step _ => ?_
  cases changed : changeAt step with
  | none => simp [dueAt, creates, changed]
  | some change =>
      obtain ⟨_ | previous, current⟩ := change <;>
        simp [dueAt, creates, changed, told, Commit.isCreation, Change.report, Change.eventType]

include absent in
theorem countP_heard_le (operations : List Operation) (turns : List (Nat × Circumstances)) :
    ((pastOf world operations turns).filterMap listener.heardAt).countP isCreation ≤ 1 := by
  obtain ⟨more, finished⟩ :=
    ((operationsOn world operations).run World.perform turns).can_finish World.perform cooperative
  rw [← Pool.run_append] at finished
  obtain ⟨steps, grown⟩ := past_of_more world operations turns more
  have heard : ((pastOf world operations (turns ++ more)).filterMap listener.heardAt).Perm _ :=
    listener.heard_perm finished.atRest
  have ended := (heard.countP_eq isCreation).trans ((listener.countP_due isCreation told _).trans
    (countP_creates_of_run absent operations (turns ++ more)))
  rw [grown, List.filterMap_append, List.countP_append] at ended
  exact (Nat.le_add_right _ _).trans (ended.le.trans (Nat.min_le_left _ _))

include absent in
theorem creation_heard {creating : ServiceStep} {record : Payment}
    (created : CreatedBy operations (pastOf world operations turns) reference creating record) :
    let pool := (operationsOn world operations).run World.perform turns
    let heard := (pastOf world operations turns).filterMap listener.heardAt
    heard.countP isCreation ≤ 1 ∧
      ((pool.result? creating.client).isSome → heard.countP isCreation = 1) := by
  have once := listener.countP_heard_le isCreation told absent operations turns
  refine ⟨once, fun finished => ?_⟩
  have heard := listener.heard_of_done finished (List.mem_filterMap.mpr ⟨creating.exchange,
    mem_talkOf.mpr ⟨creating, created.mem_past, rfl, rfl⟩, created.created⟩)
  refine Nat.le_antisymm once (List.countP_pos_iff.mpr ⟨_, heard, ?_⟩)
  rw [told]
  simp [Commit.isCreation, Change.report, Change.eventType, created.about]

end Listener

theorem creationsAudited_eq (reference : Reference) (past : List ServiceStep) :
    creationsAudited reference past =
      (past.filterMap auditListener.heardAt).countP (·.isCreation reference) := by
  rw [creationsAudited, List.countP_filterMap, List.countP_filterMap]
  refine List.countP_congr fun step _ => ?_
  have heard : auditListener.heardAt step = announcedAt step := rfl
  rw [heard, entryAt]
  cases announcedAt step with
  | none => rfl
  | some commit => exact Bool.eq_iff_iff.mp (Commit.isCreation_auditEntry reference commit _)

theorem lookedUp_of_charge (absent : world.store.find? reference = none) {client : Nat}
    {service : PaymentService} {request : ChargeRequest} {origin : Origin}
    {reply : Except StoreError (Option Payment)}
    (known : operations[client]? = some (.charge service request origin))
    (member : reading reference reply ∈ talkOf client (pastOf world operations turns)) :
    ∃ found, reply = .ok (some found) ∧
      found ∈ worldAccess.recordsOf reference (pastOf world operations turns) := by
  obtain ⟨step, isStep, rfl, said⟩ := mem_talkOf.mp member
  obtain ⟨found, answered, isRecord⟩ :=
    found_of_charge absent isStep known (congrArg Exchange.action said)
  cases said.symm.trans answered
  exact ⟨found, rfl, isRecord⟩

/-- A charge that reached the store is answered from the record of its payment. -/
theorem answered_of_asked (absent : world.store.find? reference = none)
    {creating step : ServiceStep} {record : Payment} {answer : Answer}
    (created : CreatedBy operations (pastOf world operations turns) reference creating record)
    (member : step ∈ pastOf world operations turns) (asked : AsksFor reference step)
    (isResult : ((operationsOn world operations).run World.perform turns).result? step.client =
      some answer) :
    AnsweredFrom record (pastOf world operations turns) step.client answer := by
  obtain ⟨payment, isCreate, rfl⟩ := asked
  have kept := run_puts world operations turns
  obtain ⟨operation, isOperation, uncreated | ⟨service, request, origin, put, rfl, rfl, settles⟩⟩ :=
    kept.talk_of_result? isResult
  · exact absurd isCreate
      (uncreated step.exchange (mem_talkOf.mpr ⟨step, member, rfl, rfl⟩) payment)
  have lineage := lineage_of_absent absent kept.reached
  have shown : ∀ {known valid charge result}, put = .ok (receiptFor known result) →
      known ∈ worldAccess.recordsOf payment.reference (pastOf world operations turns) →
      Charged service request (talkOf step.client (pastOf world operations turns)) valid charge
        result → payment = newPayment valid result →
      AnsweredFrom record (pastOf world operations turns) step.client (.receipt put) := by
    rintro known valid charge result rfl isRecord charged rfl
    obtain ⟨current, stored, first⟩ := lineage.sameCharge record created.mem_recordsOf
    obtain ⟨_, stored', second⟩ := lineage.sameCharge known isRecord
    cases stored.symm.trans stored'
    refine ⟨_, known, charge, rfl, created.about ▸ isRecord, first.trans second.symm,
      charged.concludes, ?_, shows_receiptFor charged.isResult known⟩
    rw [created.about]
    exact reference_of_result charged.isResult
  obtain ⟨earlier, later, split⟩ := List.append_of_mem member
  obtain ⟨_, faithful, _⟩ := kept.reached.at_step earlier step later split (Nat.zero_le _)
  rcases exchange_create faithful isCreate with ⟨_, said⟩ | ⟨_, said⟩
  · obtain ⟨valid, charge, result, charged, isPayment, puts⟩ :=
      settles payment _ (mem_talkOf.mpr ⟨step, member, rfl, said⟩)
    cases puts with
    | created =>
        refine shown rfl (worldAccess.mem_recordsOf.mpr ⟨⟨step, member, ?_⟩, rfl⟩) charged isPayment
        exact congrArg (fun said => said.action.committed? said.reply) said
  · obtain ⟨valid, charge, result, charged, rfl, puts⟩ :=
      settles payment _ (mem_talkOf.mpr ⟨step, member, rfl, said⟩)
    cases puts with
    | repeated known found =>
        obtain ⟨_, same, isRecord⟩ := lookedUp_of_charge absent isOperation found
        cases same
        exact shown rfl isRecord charged rfl
    | missing found =>
        obtain ⟨_, same, _⟩ := lookedUp_of_charge absent isOperation found
        cases same
    | unread found =>
        obtain ⟨_, same, _⟩ := lookedUp_of_charge absent isOperation found
        cases same
    | refused other => exact absurd rfl (other _)

/-- Charges whose answers from the gateway carry the same reference create one payment between them.
As soon as one of them has reached the store, a charge has created it, and its record stays a record
of that charge; the sinks are told of it once; and every charge that reaches the store finds the
record there and answers from it. -/
theorem replays_create_once (world : World) (operations : List Operation)
    (turns : List (Nat × Circumstances)) (reference : Reference)
    (absent : world.store.find? reference = none)
    (asked : ∃ step ∈ pastOf world operations turns, AsksFor reference step) :
    ∃ creating record, ∀ more,
      let pool := (operationsOn world operations).run World.perform (turns ++ more)
      let past := pool.moment.past
      let now := pool.moment.state
      CreatedBy operations past reference creating record ∧
      (∃ current, now.store.find? reference = some current ∧ record.SameCharge current) ∧
      (creationsAudited reference past ≤ 1 ∧ creationsPublished reference past ≤ 1 ∧
        ((pool.result? creating.client).isSome →
          creationsAudited reference past = 1 ∧ creationsPublished reference past = 1) ∧
        ((∀ turn ∈ turns ++ more, turn.2.outages .audit = none) →
          now.audit.entries = world.audit.entries ++ past.filterMap entryAt) ∧
        ((∀ turn ∈ turns ++ more, turn.2.outages .bus = none) →
          now.published = world.published ++ past.filterMap busListener.heardAt)) ∧
      (∀ step ∈ past, AsksFor reference step →
        (∀ answer, pool.result? step.client = some answer →
          AnsweredFrom record past step.client answer) ∧
        ∀ ahead, GetsTurns step.client ahead →
          ∃ n, ((pool.run World.perform ((List.range n).map ahead)).result? step.client).isSome) ∧
      ∀ step ∈ past, ∀ service request origin,
        operations[step.client]? = some (.charge service request origin) →
        step.action = .here (.store (.find reference)) →
        ∃ known ∈ worldAccess.recordsOf reference past,
          step.exchange = reading reference (.ok (some known)) := by
  obtain ⟨creating, record, once⟩ := created_of_asked absent asked
  refine ⟨creating, record, fun more => ?_⟩
  intro pool past now
  have created : CreatedBy operations past reference creating record := once.more absent more
  refine ⟨created, ?_, ?_, ?_, ?_⟩
  · exact (lineage_of_run world operations (turns ++ more) reference).2.sameCharge record
      created.mem_recordsOf
  · obtain ⟨audited, auditedOnce⟩ :=
      auditListener.creation_heard (Commit.isCreation reference) (fun _ => rfl) absent created
    obtain ⟨published, publishedOnce⟩ := busListener.creation_heard
      (LifecycleEvent.isCreation reference) (Commit.isCreation_event reference) absent created
    rw [creationsAudited_eq]
    exact ⟨audited, published, fun finished => ⟨auditedOnce finished, publishedOnce finished⟩,
      entries_of_run, published_of_run⟩
  · intro step member asks
    refine ⟨fun answer => answered_of_asked absent created member asks, fun ahead again => ?_⟩
    have known : step.client < pool.clients.length := by
      rw [Pool.length_clients_run]
      simpa [operationsOn] using (past_of_run world operations (turns ++ more)).2 step member
    exact Pool.done_of_turns World.perform (List.getElem?_eq_getElem known) again
  · intro step member service request origin isCharge isFind
    obtain ⟨known, said, isRecord⟩ := found_of_charge absent member isCharge isFind
    exact ⟨known, isRecord, said⟩

end

def rivals : List Operation :=
  [.charge shop shopping ⟨.system, none⟩,
    .charge shop { shopping with userId := "rival" } ⟨.system, none⟩]

/-- The second charge creates the payment, and the first one is refused. -/
def raced : List (Nat × Circumstances) :=
  List.replicate 5 (1, cooperative) ++ List.replicate 5 (0, cooperative)

def afterRace : List (Nat × Circumstances) :=
  List.replicate 3 (0, cooperative) ++ List.replicate 5 (1, cooperative)

theorem replays_create_once_raced :
    let pool := (operationsOn {} rivals).run World.perform (raced ++ afterRace)
    let reference := (cardCharge .processing).reference
    ∃ creating record current receipt,
      CreatedBy rivals pool.moment.past reference creating record ∧ creating.client = 1 ∧
      pool.moment.state.store.find? reference = some current ∧ record.SameCharge current ∧
      current.userId = "rival" ∧
      creationsAudited reference pool.moment.past = 1 ∧
      creationsPublished reference pool.moment.past = 1 ∧
      pool.result? 0 = some (.receipt (.ok receipt)) ∧ receipt.createdAt = record.createdAt := by
  intro pool reference
  have asked : ∃ step ∈ pastOf {} rivals raced, AsksFor reference step :=
    ⟨_, List.mem_of_getElem? (i := 9) rfl, _, rfl, rfl⟩
  obtain ⟨creating, record, once⟩ := replays_create_once {} rivals raced reference rfl asked
  obtain ⟨created, ⟨current, stored, same⟩, ⟨_, _, reported, _⟩, answered, _⟩ := once afterRace
  have only : pool.moment.past.filter (creates reference) = [creating] := created.only
  have second : (pool.moment.past.filter (creates reference)).map (·.client) = [1] := by
    decide +kernel
  have own : creating.client = 1 := by
    rw [only] at second
    exact List.singleton_inj.mp second
  have isStored : pool.moment.state.store.find? reference = some current := stored
  have user : (pool.moment.state.store.find? reference).map (·.userId) = some "rival" := by
    decide +kernel
  rw [isStored] at user
  obtain ⟨audited, published⟩ := reported (by rw [own]; decide +kernel)
  obtain ⟨answer, isResult⟩ := Option.isSome_iff_exists.mp
    (show (pool.result? 0).isSome by decide +kernel)
  obtain ⟨receipt, known, _, rfl, _, other, _, _, shows⟩ :=
    (answered _ (List.mem_of_getElem? (i := 9) rfl) ⟨_, rfl, rfl⟩).1 answer isResult
  exact ⟨creating, record, current, receipt, created, own, stored, same, Option.some.inj user,
    audited, published, isResult, shows.createdAt.trans other.createdAt.symm⟩

end Interleaving

end Payments
