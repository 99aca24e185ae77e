import Payments.Proofs.Service.Charge

/-!
One confirmation with nobody else at work. The gateway's word moves the stored record, if the move is
open to it, and nothing else; what the client is told about the payment is read off the record that
is stored afterwards.
-/

namespace Payments

def confirmationOf (charge : Gateway.Charge) : StatusUpdate where
  status := charge.status
  receiptUrl := charge.receiptUrl
  customerId := charge.customerId

theorem confirmedUpdate_of_result {charge : Gateway.Charge} {result : Gateway.ChargeResult}
    (isResult : charge.result = .ok result) :
    PaymentService.confirmedUpdate result = confirmationOf charge := by
  unfold Gateway.Charge.result at isResult
  split at isResult
  · cases isResult
  · cases isResult
    rfl

namespace Interleaving

open Gateway ServiceWorkflow

variable {service : PaymentService} {reference : Reference} {origin : Origin}
  {result : ChargeResult} {current : Payment} {course : ServiceCourse}

/-- The record of one reference was moved on, and nothing else in the store; the sinks were told of it
once. -/
structure Moved (before after : World) (talk : ServiceTalk) (reference : Reference)
    (change : Change) (origin : Origin) : Prop where
  lookups : ∀ other, after.store.find? other =
    if other = reference then some change.current else before.store.find? other
  reported : requestsIn talk = (change.report origin).requests

theorem follow_eq (service : PaymentService) (reference : Reference) (origin : Origin)
    (result : ChargeResult) :
    service.follow reference result origin =
      (ofStore (Settlement.settle reference (PaymentService.confirmedUpdate result)
        service.updateAttempts)).bind fun
        | .error error => .done (.error (PaymentService.contention error))
        | .ok .missing => .done (.error (.notFound reference.text))
        | .ok (.unchanged payment) | .ok (.rejected payment _) =>
          .done (.ok (receiptFor payment result))
        | .ok (.applied previous payment) =>
          (fanOut (Change.report ⟨some previous, payment⟩ origin)).bind fun _ =>
            .done (.ok (receiptFor payment result)) := by
  rfl

def confirmed (service : PaymentService) (reference : Reference) (course : ServiceCourse) :
    Option (Except ClientError Charge) × ServiceCourse :=
  alone World.perform (ofGateway (Retry.run service.client.confirmPolicy (.confirm reference)))
    (course.next World.perform (.here (.store (.find reference))))

theorem confirm_eq (service : PaymentService) (reference : Reference) (origin : Origin) :
    service.confirm reference origin = .ask (.here (.store (.find reference))) fun
      | .error error => .done (some (.error (.store error)))
      | .ok none => .done (some (.error (.notFound reference.text)))
      | .ok (some _) => (ofGateway (service.client.confirm reference)).bind fun
        | none => .done none
        | some (.error error) => .done (some (.error (.ofClient error)))
        | some (.ok result) =>
          (service.follow reference result origin).bind fun followed => .done (some followed) := by
  rfl

theorem confirm_absent (origin : Origin)
    (absent : course.moment.state.store.find? reference = none) :
    alone World.perform (service.confirm reference origin) course =
      (some (.error (.notFound reference.text)),
        course.next World.perform (.here (.store (.find reference)))) := by
  have replied : course.reply World.perform (.here (.store (.find reference))) = .ok none :=
    congrArg Except.ok absent
  rw [confirm_eq, alone_ask, replied, alone_done]

theorem confirm_stored (origin : Origin)
    (stored : course.moment.state.store.find? reference = some current) :
    alone World.perform (service.confirm reference origin) course =
      match (confirmed service reference course).1.map withMoney with
      | none => (none, (confirmed service reference course).2)
      | some (.error error) =>
        (some (.error (.ofClient error)), (confirmed service reference course).2)
      | some (.ok result) =>
        let followed := alone World.perform (service.follow reference result origin)
          (confirmed service reference course).2
        (some followed.1, followed.2) := by
  have replied : course.reply World.perform (.here (.store (.find reference))) =
    .ok (some current) := congrArg Except.ok stored
  have asked : alone World.perform (ofGateway (service.client.confirm reference))
      (course.next World.perform (.here (.store (.find reference)))) =
      ((confirmed service reference course).1.map withMoney,
        (confirmed service reference course).2) := by
    rw [Client.confirm, ofGateway_bind, alone_bind]
    rfl
  rw [confirm_eq, alone_ask, replied]
  simp only [alone_bind, asked]
  rcases (confirmed service reference course).1.map withMoney with _ | error | result
  · rfl
  · rfl
  · exact alone_bind _ _ _

theorem confirmed_state :
    (confirmed service reference course).2.moment.state = course.moment.state :=
  (state_ofGateway _).trans rfl

theorem confirmed_halts (quiet : gatewayTalk course.talk = []) :
    (∃ told, Halts service.client.confirmPolicy
        (gatewayTalk (confirmed service reference course).2.talk) told
        (confirmed service reference course).1) ∧
      ∀ attempt ∈ attemptsIn (gatewayTalk (confirmed service reference course).2.talk),
        attempt.call = .confirm reference := by
  have none : gatewayTalk
      (course.next World.perform (.here (.store (.find reference)))).talk = [] := by
    rw [talk_next, gatewayTalk_append, quiet]
    rfl
  exact retry_alone none

theorem confirmed_tells (told : Tells course.talk [] []) :
    Tells (confirmed service reference course).2.talk [] [] := by
  have asked : Tells (course.next World.perform (.here (.store (.find reference)))).talk [] [] := by
    rw [talk_next]
    exact told.silent _ rfl rfl
  exact ofGateway_tells asked _

theorem offline_follow (service : PaymentService) (reference : Reference) (origin : Origin)
    (result : ChargeResult) : Offline (service.follow reference result origin) := by
  refine (offline_ofStore _).bind fun settled => ?_
  cases settled with
  | error error => trivial
  | ok settled =>
      cases settled with
      | applied previous payment => exact (offline_fanOut _).bind fun _ => trivial
      | _ => trivial

theorem follow_refused (origin : Origin) (told : Tells course.talk [] [])
    (stored : course.moment.state.store.find? reference = some current)
    (noMove : current.status.canMoveTo result.status = false) :
    ∃ final, alone World.perform (service.follow reference result origin) course =
        (.ok (receiptFor current result), final) ∧
      final.moment.state = course.moment.state ∧ requestsIn final.talk = [] := by
  have tells := settle_tells reference (PaymentService.confirmedUpdate result)
    service.updateAttempts told
  have state : (worldAccess.settled course reference
    (PaymentService.confirmedUpdate result)).moment.state = _ := state_settled reference _
  simp only [follow_eq, alone_bind, settle_alone, stored] at tells state ⊢
  have noMove : current.status.canMoveTo (PaymentService.confirmedUpdate result).status = false :=
    noMove
  rcases Settlement.undisturbed_of_not_canMoveTo noMove (course.ahead 1).stamp.now with
    settled | ⟨illegal, settled⟩
  · rw [settled] at state ⊢
    exact ⟨_, rfl, state, tells.requests⟩
  · rw [settled] at state ⊢
    exact ⟨_, rfl, state, tells.requests⟩

theorem follow_moves (origin : Origin) (told : Tells course.talk [] [])
    (stored : course.moment.state.store.find? reference = some current)
    (legal : current.status.canMoveTo result.status = true) :
    let record := current.apply (PaymentService.confirmedUpdate result) (course.ahead 1).stamp.now
    ∃ final, alone World.perform (service.follow reference result origin) course =
        (.ok (receiptFor record result), final) ∧
      Moved course.moment.state final.moment.state final.talk reference ⟨some current, record⟩
        origin ∧
      (course.Healthy → course.moment.state.IndexFollows →
        course.moment.state.Announced final.moment.state ⟨some current, record⟩ origin) := by
  intro record
  have tells := settle_tells reference (PaymentService.confirmedUpdate result)
    service.updateAttempts told
  have legal : current.status.canMoveTo (PaymentService.confirmedUpdate result).status = true :=
    legal
  have settled := Settlement.undisturbed_of_canMoveTo legal (course.ahead 1).stamp.now
  obtain ⟨store, announced⟩ := fanOut_settled _ stored legal origin
  simp only [follow_eq, alone_bind, settle_alone, stored, settled] at tells ⊢
  refine ⟨_, rfl, ⟨fun other => ?_, ?_⟩, announced⟩
  · exact (congrArg (·.find? other) store).trans (Store.find?_replace_apply stored _ _ other)
  · exact (fanOut_tells tells List.mem_cons_self).requests

section

variable {charge : Charge} {currency : Currency}

theorem confirm_kept (origin : Origin) (told : Tells course.talk [] [])
    (answered : (confirmed service reference course).1 = some (.ok charge))
    (usable : Currency.ofText charge.currency = .ok currency)
    (stored : course.moment.state.store.find? reference = some current)
    (noMove : current.status.canMoveTo charge.status = false) :
    let ended := alone World.perform (service.confirm reference origin) course
    ∃ receipt, ended.1 = some (.ok receipt) ∧ receipt.Shows current charge ∧
      requestsIn ended.2.talk = [] ∧ ended.2.moment.state = course.moment.state := by
  intro ended
  obtain ⟨result, money, isResult, _⟩ := withMoney_of_usable usable
  have whole : ended = _ := confirm_stored origin stored
  have status : result.status = charge.status :=
    congrArg StatusUpdate.status (confirmedUpdate_of_result isResult)
  have found : (confirmed service reference course).2.moment.state.store.find? reference =
    some current := by rw [confirmed_state, stored]
  obtain ⟨final, followed, state, quiet⟩ := @follow_refused service _ result _ _ origin
    (confirmed_tells told) found (status ▸ noMove)
  rw [answered, Option.map_some, money] at whole
  simp only [followed] at whole
  rw [whole]
  exact ⟨_, rfl, shows_receiptFor isResult current, quiet, state.trans confirmed_state⟩

theorem confirm_moves (origin : Origin) (told : Tells course.talk [] [])
    (answered : (confirmed service reference course).1 = some (.ok charge))
    (usable : Currency.ofText charge.currency = .ok currency)
    (stored : course.moment.state.store.find? reference = some current)
    (legal : current.status.canMoveTo charge.status = true) :
    let ended := alone World.perform (service.confirm reference origin) course
    ∃ receipt now, ended.1 = some (.ok receipt) ∧
      receipt.Shows (current.apply (confirmationOf charge) now) charge ∧
      Moved course.moment.state ended.2.moment.state ended.2.talk reference
        ⟨some current, current.apply (confirmationOf charge) now⟩ origin ∧
      (course.Healthy → course.moment.state.IndexFollows →
        course.moment.state.Announced ended.2.moment.state
          ⟨some current, current.apply (confirmationOf charge) now⟩ origin) := by
  intro ended
  obtain ⟨result, money, isResult, _⟩ := withMoney_of_usable usable
  have whole : ended = _ := confirm_stored origin stored
  have update := confirmedUpdate_of_result isResult
  have status : result.status = charge.status := congrArg StatusUpdate.status update
  have found : (confirmed service reference course).2.moment.state.store.find? reference =
    some current := by rw [confirmed_state, stored]
  obtain ⟨final, followed, moved, announced⟩ := @follow_moves service _ result _ _ origin
    (confirmed_tells told) found (status ▸ legal)
  rw [update, confirmed_state] at moved announced
  rw [answered, Option.map_some, money] at whole
  simp only [followed] at whole
  rw [whole]
  have asked (healthy : course.Healthy) :
      (course.next World.perform (.here (.store (.find reference)))).Healthy :=
    fun n => healthy (n + 1)
  exact ⟨_, _, rfl, update ▸ shows_receiptFor isResult _, moved,
    fun healthy => announced ((asked healthy).alone _)⟩

end

/-- A confirmation that finds nobody else at work follows the record. Without one, or without a
charge that can be used, nothing happens; otherwise the record takes the status that the gateway
reports, if that is a move it can make, and the receipt shows what is stored then. -/
theorem confirm_follows_record (world : World) (service : PaymentService) (reference : Reference)
    (origin : Origin) (ahead : Nat → Circumstances) :
    let ended := alone World.perform (service.confirm reference origin) (.start world ahead)
    let after := ended.2.moment.state
    let attempts := attemptsIn (gatewayTalk ended.2.talk)
    (world.store.find? reference = none →
      ended.1 = some (.error (.notFound reference.text)) ∧ gatewayTalk ended.2.talk = [] ∧
        after = world) ∧
    (∀ current, world.store.find? reference = some current →
      ∃ told, Concludes attempts told ∧
        (∀ attempt ∈ attempts, attempt.call = .confirm reference) ∧
        (∀ error, GatewayFails told error →
          Reports service.client.confirmPolicy (gatewayTalk ended.2.talk) error ended.1 ∧
            after = world) ∧
        (∀ charge currency, told = .ok charge → Currency.ofText charge.currency = .ok currency →
          ∃ receipt record, ended.1 = some (.ok receipt) ∧
            after.store.find? reference = some record ∧ receipt.Shows record charge ∧
            (current.status.canMoveTo charge.status = true →
              (∃ now, record = current.apply (confirmationOf charge) now) ∧
              Moved world after ended.2.talk reference ⟨some current, record⟩ origin ∧
              ((∀ n, (ahead n).outages = Outages.none) → world.IndexFollows →
                world.Announced after ⟨some current, record⟩ origin)) ∧
            (current.status.canMoveTo charge.status = false →
              requestsIn ended.2.talk = [] ∧ after = world))) := by
  intro ended after attempts
  refine ⟨fun absent => ?_, fun current stored => ?_⟩
  · have whole : ended = _ := @confirm_absent service reference (.start world ahead) origin absent
    rw [show after = ended.2.moment.state from rfl, whole]
    exact ⟨rfl, rfl, rfl⟩
  have whole : ended = _ := @confirm_stored service reference _ (.start world ahead) origin stored
  have state : (confirmed service reference (.start world ahead)).2.moment.state = world :=
    confirmed_state
  obtain ⟨⟨told, halts⟩, same⟩ := @confirmed_halts service reference (.start world ahead) rfl
  have asked : gatewayTalk ended.2.talk =
      gatewayTalk (confirmed service reference (.start world ahead)).2.talk := by
    rw [whole]
    rcases (confirmed service reference (.start world ahead)).1.map withMoney with
      _ | error | result
    · rfl
    · rfl
    · exact (offline_follow service reference origin result).gatewayTalk
  rw [← asked] at halts same
  refine ⟨told, halts.concludes, same, fun error fails => ?_, ?_⟩
  · obtain ⟨clientError, failed, rfl⟩ := withMoney_of_fails fails
    refine halts.reports (fun answered => ?_) fun broken => ?_
    · rw [answered, Option.map_some, failed] at whole
      rw [show after = ended.2.moment.state from rfl, whole]
      exact ⟨rfl, state⟩
    · rw [broken] at whole
      rw [show after = ended.2.moment.state from rfl, whole]
      exact ⟨rfl, state⟩
  rintro charge currency rfl usable
  have answered := halts.ending_of_charged halts.concludes
  have silent : Tells (Course.start world ahead).talk [] [] := .nil
  cases legal : current.status.canMoveTo charge.status with
  | false =>
      obtain ⟨receipt, isOk, shows, quiet, same⟩ :=
        confirm_kept origin silent answered usable stored legal
      have kept : after = world := same
      exact ⟨receipt, current, isOk, by rw [kept, stored], shows, Bool.noConfusion,
        fun _ => ⟨quiet, kept⟩⟩
  | true =>
      obtain ⟨receipt, now, isOk, shows, moved, announced⟩ :=
        confirm_moves origin silent answered usable stored legal
      exact ⟨receipt, _, isOk, by rw [moved.lookups, if_pos rfl], shows,
        fun _ => ⟨⟨now, rfl⟩, moved, announced⟩, Bool.noConfusion⟩

def openPayment : Payment := CacheUser.openCharge.record default

/-- The gateway reports another reference than it was asked about; the record that was asked about
moves. -/
theorem confirm_follows_record_paid :
    let world : World := { store := ⟨[openPayment]⟩ }
    let ended := alone World.perform (shop.confirm openPayment.reference ⟨.system, none⟩)
      (.start world fun _ => cooperative)
    ∃ receipt record, ended.1 = some (.ok receipt) ∧
      ended.2.moment.state.store.find? openPayment.reference = some record ∧
      receipt.Shows record (cardCharge .succeeded) ∧ record.status = .succeeded ∧
      world.Announced ended.2.moment.state ⟨some openPayment, record⟩ ⟨.system, none⟩ := by
  intro world ended
  have stored : world.store.find? openPayment.reference = some openPayment := by decide +kernel
  obtain ⟨answer, concludes, _, _, charged⟩ :=
    (confirm_follows_record world shop openPayment.reference ⟨.system, none⟩
      fun _ => cooperative).2 openPayment stored
  have attempts : ∃ call limit, attemptsIn (gatewayTalk ended.2.talk) =
      [] ++ [⟨call, limit, some (.ok (cardCharge .succeeded))⟩] := ⟨_, _, rfl⟩
  obtain ⟨call, limit, made⟩ := attempts
  have answered : Concludes (attemptsIn (gatewayTalk ended.2.talk))
      (.ok (cardCharge .succeeded)) := made ▸ .charged (by simp)
  obtain ⟨receipt, record, isOk, held, shows, moves, _⟩ :=
    charged _ euro (concludes.unique answered) (by decide +kernel)
  obtain ⟨⟨now, isRecord⟩, _, announced⟩ := moves rfl
  refine ⟨receipt, record, isOk, held, shows, by rw [isRecord]; rfl, ?_⟩
  exact announced (fun _ => rfl) (by intro document member; cases member)

end Interleaving

end Payments
