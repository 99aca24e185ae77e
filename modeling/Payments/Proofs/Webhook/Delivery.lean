import Payments.Proofs.Service.Alone

/-!
One delivery with nobody else at work. It makes the move that its event asks for, if the delivery is
genuine and the move is open to the stored payment, and in every other case nothing but a counter
changes.
-/

namespace Payments

namespace Webhook

structure Genuine (endpoint : Endpoint) (delivery : Delivery) (now : Int64) (event : Event) :
    Prop where
  signed : ∃ header, delivery.signature = some header ∧
    verify delivery.payload header endpoint.secret endpoint.tolerance now = .ok ()
  carried : ∃ envelope, Json.Reader.parse Envelope.reader delivery.payload = .ok envelope ∧
    envelope.event = .ok event

def Carries (endpoint : Endpoint) (delivery : Delivery) (now : Int64) (change : StatusChange) :
    Prop :=
  ∃ event, Genuine endpoint delivery now event ∧ event.change = some change

theorem decode_eq_ok_iff {endpoint : Endpoint} {delivery : Delivery} {now : Int64} {event : Event} :
    decode endpoint delivery.payload delivery.signature now = .ok event ↔
      Genuine endpoint delivery now event := by
  unfold decode
  constructor
  · intro decoded
    split at decoded
    · cases decoded
    · rename_i header isHeader
      split at decoded
      · cases decoded
      · rename_i verified
        split at decoded
        · cases decoded
        · rename_i envelope parsed
          split at decoded
          · cases decoded
          · rename_i event isEvent
            cases decoded
            exact ⟨⟨header, isHeader, verified⟩, envelope, parsed, isEvent⟩
  · rintro ⟨⟨header, isHeader, verified⟩, envelope, parsed, isEvent⟩
    simp only [isHeader, verified, parsed, isEvent]

theorem Genuine.eq {endpoint : Endpoint} {delivery : Delivery} {now : Int64} {event other : Event}
    (genuine : Genuine endpoint delivery now event)
    (genuineOther : Genuine endpoint delivery now other) : event = other :=
  Except.ok.inj ((decode_eq_ok_iff.mpr genuine).symm.trans (decode_eq_ok_iff.mpr genuineOther))

section

variable {endpoint : Endpoint} {delivery : Delivery} {now : Int64} {change other : StatusChange}

theorem Carries.eq (carries : Carries endpoint delivery now change)
    (carriesOther : Carries endpoint delivery now other) : change = other := by
  obtain ⟨event, genuine, carried⟩ := carries
  obtain ⟨event', genuine', carried'⟩ := carriesOther
  rw [genuine.eq genuine', carried'] at carried
  exact (Option.some.inj carried).symm

theorem Carries.decode_ne_error (carries : Carries endpoint delivery now change)
    {error : DeliveryError} :
    decode endpoint delivery.payload delivery.signature now ≠ .error error := by
  obtain ⟨event, genuine, _⟩ := carries
  rw [decode_eq_ok_iff.mpr genuine]
  exact fun failed => nomatch failed

end

end Webhook

namespace Interleaving

open Webhook

def timeAhead (ahead : Nat → Circumstances) : Int64 := Int64.ofInt (ahead 0).stamp.now.seconds

/-- What one delivery comes to and leaves behind. -/
inductive Handled (receiver : Receiver) (delivery : Delivery) (ahead : Nat → Circumstances)
    (before : World) : Except DeliveryError Outcome → World → Prop
  | refused {error : DeliveryError} {after : World} :
      decode receiver.endpoint delivery.payload delivery.signature (timeAhead ahead) =
        .error error →
      before.Untouched after → Handled receiver delivery ahead before (.error error) after
  | ignored {event : Event} {after : World} :
      Genuine receiver.endpoint delivery (timeAhead ahead) event → event.change = none →
      before.Untouched after → Handled receiver delivery ahead before (.ok .ignored) after
  | unknown {change : StatusChange} {after : World} :
      Carries receiver.endpoint delivery (timeAhead ahead) change →
      before.store.find? change.reference = none →
      before.Untouched after → Handled receiver delivery ahead before (.ok .unknownReference) after
  | unchanged {change : StatusChange} {current : Payment} {after : World} :
      Carries receiver.endpoint delivery (timeAhead ahead) change →
      before.store.find? change.reference = some current →
      current.status = change.update.status →
      before.Untouched after → Handled receiver delivery ahead before (.ok .unchanged) after
  | rejected {change : StatusChange} {current : Payment} {after : World} :
      Carries receiver.endpoint delivery (timeAhead ahead) change →
      before.store.find? change.reference = some current →
      current.status ≠ change.update.status →
      current.status.canMoveTo change.update.status = false →
      before.Untouched after → Handled receiver delivery ahead before (.ok .rejected) after
  | applied {change : StatusChange} {current : Payment} {after : World} :
      Carries receiver.endpoint delivery (timeAhead ahead) change →
      before.store.find? change.reference = some current →
      current.status.canMoveTo change.update.status = true →
      after.store = before.store.replace (current.apply change.update (ahead 2).stamp.now) →
      ((∀ n, (ahead n).outages = Outages.none) → (before.IndexFollows →
        before.Announced after ⟨some current, current.apply change.update (ahead 2).stamp.now⟩
          ⟨.stripe, delivery.sourceIp⟩)) →
      Handled receiver delivery ahead before (.ok .applied) after

section

variable {receiver : Receiver} {delivery : Delivery} {ahead : Nat → Circumstances}
  {course : ServiceCourse} {before middle after : World}

theorem Handled.untouched {result : Except DeliveryError Outcome}
    (handled : Handled receiver delivery ahead before result middle)
    (untouched : middle.Untouched after) : Handled receiver delivery ahead before result after := by
  cases handled with
  | refused decoded same => exact .refused decoded (same.trans untouched)
  | ignored genuine noChange same => exact .ignored genuine noChange (same.trans untouched)
  | unknown carries absent same => exact .unknown carries absent (same.trans untouched)
  | unchanged carries stored equal same => exact .unchanged carries stored equal (same.trans untouched)
  | rejected carries stored different noMove same =>
      exact .rejected carries stored different noMove (same.trans untouched)
  | applied carries stored legal written told =>
      exact .applied carries stored legal (untouched.store.trans written) fun healthy follows =>
        (told healthy follows).untouched untouched

theorem applyChange_handled {change : StatusChange}
    (carries : Carries receiver.endpoint delivery (timeAhead ahead) change)
    (onward : course.ahead = fun n => ahead (n + 1)) (state : course.moment.state = before) :
    Handled receiver delivery ahead before
      (alone World.perform (applyChange receiver change delivery.sourceIp) course).1
      (alone World.perform (applyChange receiver change delivery.sourceIp) course).2.moment.state := by
  subst state
  have moment : (course.ahead 1).stamp.now = (ahead 2).stamp.now := by rw [onward]
  have world : (worldAccess.settled course change.reference change.update).moment.state = _ :=
    state_settled change.reference change.update
  simp only [applyChange, Workflow.bind_eq, alone_bind, settle_alone]
  rw [moment] at world ⊢
  rcases Settlement.undisturbed_cases (course.moment.state.store.find? change.reference)
      change.update (ahead 2).stamp.now with
    ⟨absent, settled⟩ |
    ⟨current, stored, ⟨same, settled⟩ | ⟨different, noMove, settled⟩ | ⟨legal, settled⟩⟩
  · rw [settled] at world ⊢
    exact .unknown carries absent (world ▸ .refl _)
  · rw [settled] at world ⊢
    exact .unchanged carries stored same (world ▸ .refl _)
  · rw [settled] at world ⊢
    exact .rejected carries stored different noMove (world ▸ .refl _)
  · rw [settled]
    simp only [alone_bind, Workflow.pure_eq_done, alone_done]
    have onwardHealthy : (∀ n, (ahead n).outages = Outages.none) → course.Healthy :=
      fun healthy n => by rw [onward]; exact healthy (n + 1)
    obtain ⟨written, announced⟩ := fanOut_settled change.update stored legal
      ⟨.stripe, delivery.sourceIp⟩
    rw [moment] at written announced
    exact .applied carries stored legal written fun healthy => announced (onwardHealthy healthy)

theorem handle_handled (receiver : Receiver) (delivery : Delivery) (world : World)
    (ahead : Nat → Circumstances) :
    Handled receiver delivery ahead world
      (alone World.perform (handle receiver delivery) (.start world ahead)).1
      (alone World.perform (handle receiver delivery) (.start world ahead)).2.moment.state := by
  simp only [handle, Workflow.bind_eq, alone_bind, ServiceWorkflow.locally, Workflow.ask_bind,
    Workflow.done_bind, Workflow.pure_eq_done, alone_ask, alone_done]
  refine Handled.untouched ?_ (untouched_count _)
  simp only [reconcile, Workflow.bind_eq, ServiceWorkflow.locally, Workflow.ask_bind,
    Workflow.done_bind, alone_ask]
  have time : (Course.start world ahead).reply World.perform (.here .time) = timeAhead ahead := rfl
  rw [time]
  cases decoded : decode receiver.endpoint delivery.payload delivery.signature (timeAhead ahead) with
  | error error => exact .refused decoded ⟨rfl, rfl, rfl, rfl, rfl⟩
  | ok event =>
      have genuine := decode_eq_ok_iff.mp decoded
      simp only
      cases carried : event.change with
      | none => exact .ignored genuine carried ⟨rfl, rfl, rfl, rfl, rfl⟩
      | some change => exact applyChange_handled ⟨event, genuine, carried⟩ rfl rfl

theorem Handled.not_applied {result : Except DeliveryError Outcome}
    (handled : Handled receiver delivery ahead before result after)
    (notApplied : result ≠ .ok .applied) : before.Untouched after := by
  cases handled with
  | refused _ same | ignored _ _ same | unknown _ _ same | unchanged _ _ _ same
  | rejected _ _ _ _ same => exact same
  | applied => exact absurd rfl notApplied

theorem Handled.applied_iff {result : Except DeliveryError Outcome}
    (handled : Handled receiver delivery ahead before result after) :
    result = .ok .applied ↔ ∃ change current,
      Carries receiver.endpoint delivery (timeAhead ahead) change ∧
      before.store.find? change.reference = some current ∧
      current.status.canMoveTo change.update.status = true := by
  constructor
  · intro isApplied
    cases handled with
    | applied carries stored legal _ _ => exact ⟨_, _, carries, stored, legal⟩
    | _ => cases isApplied
  · rintro ⟨change, current, carries, stored, legal⟩
    cases handled with
    | refused decoded _ => exact absurd decoded carries.decode_ne_error
    | ignored genuine noChange _ =>
        obtain ⟨event, genuine', carried⟩ := carries
        rw [genuine.eq genuine', carried] at noChange
        cases noChange
    | unknown carries' absent _ =>
        rw [carries'.eq carries, stored] at absent
        cases absent
    | unchanged carries' stored' same _ =>
        rw [carries'.eq carries, stored] at stored'
        cases stored'
        rw [carries'.eq carries] at same
        simp [Status.canMoveTo, same] at legal
    | rejected carries' stored' _ noMove _ =>
        rw [carries'.eq carries, stored] at stored'
        cases stored'
        rw [carries'.eq carries, legal] at noMove
        cases noMove
    | applied => rfl

/-- A delivery that finds nobody else at work moves its payment once, or changes nothing. -/
theorem handle_applies_once {world : World} (reachable : Reachable world) (receiver : Receiver)
    (delivery : Delivery) (ahead : Nat → Circumstances) :
    let ended := alone World.perform (handle receiver delivery) (.start world ahead)
    let after := ended.2.moment.state
    (ended.1 = .ok .applied ↔ ∃ change current,
      Carries receiver.endpoint delivery (timeAhead ahead) change ∧
      world.store.find? change.reference = some current ∧
      current.status.canMoveTo change.update.status = true) ∧
    (∀ change current, Carries receiver.endpoint delivery (timeAhead ahead) change →
      world.store.find? change.reference = some current →
      current.status.canMoveTo change.update.status = true →
      let record := current.apply change.update (ahead 2).stamp.now
      (∀ reference, after.store.find? reference =
        if reference = change.reference then some record else world.store.find? reference) ∧
      ((∀ n, (ahead n).outages = Outages.none) →
        world.Announced after ⟨some current, record⟩ ⟨.webhook "stripe", delivery.sourceIp⟩)) ∧
    (ended.1 ≠ .ok .applied → world.Untouched after) := by
  intro ended after
  have handled : Handled receiver delivery ahead world ended.1 after :=
    handle_handled receiver delivery world ahead
  refine ⟨handled.applied_iff, ?_, ?_⟩
  · intro change current carries stored legal
    have isApplied := handled.applied_iff.mpr ⟨change, current, carries, stored, legal⟩
    rw [isApplied] at handled
    cases handled with
    | @applied change' current' _ carries' stored' _ written announced =>
        obtain rfl := carries'.eq carries
        obtain rfl : current' = current := Option.some.inj (stored'.symm.trans stored)
        refine ⟨fun reference => ?_, fun healthy => announced healthy reachable.indexFollows⟩
        rw [written, Store.find?_replace_apply stored]
  · exact handled.not_applied

end

def intentEvent (id type : String) : List UInt8 :=
  Text.bytesOf ("\x7b\"id\":\"" ++ id ++ "\",\"type\":\"" ++ type ++
    "\",\"data\":\x7b\"object\":\x7b\"id\":\"pi_3\"\x7d\x7d\x7d")

def postbox : Receiver where
  endpoint := ⟨"whsec", 300⟩

def signedDelivery (payload : List UInt8) : Delivery :=
  ⟨payload, some (signatureHeader payload postbox.endpoint.secret 0), none⟩

def charged : OperationPool :=
  (operationPool [.charge shop shopping ⟨.system, none⟩]).run World.perform
    (List.replicate 10 (0, cooperative))

theorem charged_stored :
    ∃ current, charged.moment.state.store.find? (cardCharge .processing).reference =
      some current ∧ current.status = .processing := by
  have pending : (charged.moment.state.store.find? (cardCharge .processing).reference).map
      (·.status) = some .processing := by decide +kernel
  exact Option.map_eq_some_iff.mp pending

def paid : Delivery := signedDelivery (intentEvent "evt_1" "payment_intent.succeeded")

theorem paid_carries :
    Carries postbox.endpoint paid (timeAhead fun _ => cooperative)
      ⟨(cardCharge .processing).reference, { status := .succeeded }⟩ := by
  have decoded : decode postbox.endpoint paid.payload paid.signature
      (timeAhead fun _ => cooperative) =
    .ok ⟨⟨"evt_1", by decide⟩, "payment_intent.succeeded",
      some ⟨(cardCharge .processing).reference, { status := .succeeded }⟩⟩ := by decide +kernel
  exact ⟨_, decode_eq_ok_iff.mp decoded, rfl⟩

theorem handle_applies_once_paid :
    ∃ current, charged.moment.state.store.find? (cardCharge .processing).reference = some current ∧
      let ended := alone World.perform (handle postbox paid)
        (.start charged.moment.state fun _ => cooperative)
      ended.1 = .ok .applied ∧
      charged.moment.state.Announced ended.2.moment.state
        ⟨some current, current.apply { status := .succeeded } cooperative.stamp.now⟩
        ⟨.webhook "stripe", none⟩ := by
  obtain ⟨current, stored, status⟩ := charged_stored
  have legal : current.status.canMoveTo .succeeded = true := by rw [status]; rfl
  have reachable : Reachable charged.moment.state := ⟨_, _, rfl⟩
  obtain ⟨applied, effects, _⟩ :=
    handle_applies_once reachable postbox paid fun _ => cooperative
  refine ⟨current, stored, ?_, ?_⟩
  · exact applied.mpr ⟨_, current, paid_carries, stored, legal⟩
  · exact (effects _ current paid_carries stored legal).2 fun _ => rfl

end Interleaving

end Payments
