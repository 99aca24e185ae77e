import Payments.Proofs.Gateway.Attempts
import Payments.Proofs.Interleaving.Alone
import Payments.Stripe.Wire

/-!
When a payment intent is asked to be confirmed. Main statement: only right after it was looked up and
still asked for that, within one attempt, and then under a key of the intent's own, so that asking
once more cannot charge once more.
-/

namespace Payments.Stripe

open Interleaving

def IsIntentId (text : String) : Prop := "pi_".toList <+: text.toList

/-- Asks how this intent and its last charge stand. -/
structure Request.Retrieves (request : Request) (id : String) : Prop where
  method : request.method = "GET"
  path : request.path = "/v1/payment_intents/" ++ id
  parameters : request.parameters = [("expand[0]", "latest_charge")]
  unkeyed : request.idempotencyKey = none

/-- Asks for this intent to be confirmed. -/
def Request.Confirms (request : Request) (id : String) : Prop :=
  request.method = "POST" ∧ request.path = "/v1/payment_intents/" ++ id ++ "/confirm"

/-- Asks for it in such a way that asking again does nothing more. -/
structure Request.ConfirmsOnce (request : Request) (id : String) : Prop where
  confirms : request.Confirms id
  parameters : request.parameters = []
  key : request.idempotencyKey = some ("confirm_" ++ id)

/-- The answer is a success and shows this intent. -/
def Shows (answer : Except ExchangeFault Reply) (intent : Intent) : Prop :=
  ∃ reply value, answer = .ok reply ∧ reply.isSuccess = true ∧ reply.json? = some value ∧
    Intent.ofJson? value = some intent

/-- The answer shows this intent, which is still to be confirmed. -/
def AsksToConfirm (answer : Except ExchangeFault Reply) (id : String) : Prop :=
  ∃ intent, Shows answer intent ∧ intent.status = .requiresConfirmation ∧ intent.id = id

/-- What is wrong with an answer that shows no intent. -/
inductive Fails (answer : Except ExchangeFault Reply) : ExchangeFault → Prop
  | lost {fault : ExchangeFault} (lost : answer = .error fault) : Fails answer fault
  | refused {reply : Reply} {value : Json} {message : Option String} (replied : answer = .ok reply)
      (fails : reply.isSuccess = false) (parsed : reply.json? = some value)
      (explained : errorMessage? value = some message) :
      Fails answer (.refused reply.httpStatus message)
  | unreadable {reply : Reply} (replied : answer = .ok reply)
      (unread : ∀ value, reply.json? = some value →
        if reply.isSuccess then Intent.ofJson? value = none else errorMessage? value = none) :
      Fails answer .unreadableBody

/-- The charge holds what the intent says. -/
structure Intent.IsToldBy (intent : Intent) (charge : Gateway.Charge) : Prop where
  reference : charge.reference.text = intent.id
  minor : charge.minor = intent.amount
  currency : charge.currency.toList = intent.currency.toList.map Char.toUpper
  status : charge.status = intent.status
  clientSecret : charge.clientSecret = intent.clientSecret
  receiptUrl : charge.receiptUrl = intent.receiptUrl
  customer : charge.customerId = intent.customer
  description : charge.description = intent.description
  metadata : charge.metadata = intent.metadata

/-- What the caller is told of an answer. -/
inductive Tells (answer : Except ExchangeFault Reply) :
    Except Gateway.Failure Gateway.Charge → Prop
  | charge {intent : Intent} {charge : Gateway.Charge} (shows : Shows answer intent)
      (told : intent.IsToldBy charge) : Tells answer (.ok charge)
  | unusable {intent : Intent} (shows : Shows answer intent)
      (unusable : ∀ reference : Reference, reference.text ≠ intent.id) :
      Tells answer (.error ⟨.api,
        "unusable PaymentIntent id: " ++ (Refusal.invalidReference intent.id).message⟩)
  | fault {fault : ExchangeFault} (fails : Fails answer fault) : Tells answer (.error fault.classify)

def outcome (answer : Except ExchangeFault Reply) : Except Gateway.Failure Gateway.Charge :=
  (received answer).bind Intent.charge

/-- One call to confirm: `talk` is all that was sent and answered, `result` what the caller is told. -/
structure Confirmation (reference : Reference) (talk : List (Interleaving.Exchange Answer))
    (result : Except Gateway.Failure Gateway.Charge) : Prop where
  unsent : ¬ IsIntentId reference.text → talk = [] ∧
    result = .error (invalidRequest ("invalid PaymentIntent id: " ++ intentId.complaint))
  sent : IsIntentId reference.text →
    ∃ request answer more, talk = ⟨request, answer⟩ :: more ∧ request.Retrieves reference.text ∧
      ((∃ id confirming last, AsksToConfirm answer id ∧ confirming.ConfirmsOnce id ∧
          more = [⟨confirming, last⟩]) ∨
        (∀ id, ¬ AsksToConfirm answer id) ∧ more = [])
  last : ∀ said ∈ talk.getLast?, Tells said.reply result ∧ result = outcome said.reply

abbrev WireTalk := List (Interleaving.Exchange WireAction.Reply)

/-- A call has just begun, and has learned that this intent is still to be confirmed. -/
def Due (reference : Reference) (talk : WireTalk) (id : String) : Prop :=
  ∃ before span request answer, request.Retrieves reference.text ∧ AsksToConfirm answer id ∧
    talk = before ++ [⟨.allow span, ()⟩, ⟨.send request, some answer⟩]

/-- A whole operation that confirms, with all its attempts. -/
structure ConfirmsWhenDue (reference : Reference) (talk : WireTalk) : Prop where
  confirms : ∀ before request answer after id, request.Confirms id →
    talk = before ++ ⟨.send request, answer⟩ :: after →
    Due reference before id ∧ request.idempotencyKey = some ("confirm_" ++ id)
  carriedOut : ∀ before said after id, talk = before ++ said :: after → Due reference before id →
    ∃ request, said.action = .send request ∧ request.ConfirmsOnce id
  notLeft : ∀ id, ¬ Due reference talk id
  others : ∀ said ∈ talk, ∀ request, said.action = .send request →
    request.Retrieves reference.text ∨ ∃ id, request.ConfirmsOnce id

section

variable {answer : Except ExchangeFault Reply} {id : String} {reference : Reference}
  {intent : Intent} {request : Request}

theorem accepts_iff_isIntentId {text : String} : intentId.accepts text = true ↔ IsIntentId text := by
  simp [IdKind.accepts, intentId, IsIntentId]

theorem retrieves_iff : request.Retrieves id ↔ request = retrieveRequest id := by
  constructor
  · rintro ⟨method, path, parameters, unkeyed⟩
    cases request
    simp_all [retrieveRequest, expandCharge]
  · rintro rfl
    exact ⟨rfl, rfl, rfl, rfl⟩

theorem confirmsOnce_iff : request.ConfirmsOnce id ↔ request = confirmRequest id := by
  constructor
  · rintro ⟨⟨method, path⟩, parameters, key⟩
    cases request
    simp_all [confirmRequest, confirmationKey]
  · rintro rfl
    exact ⟨⟨rfl, rfl⟩, rfl, rfl⟩

theorem Reply.intent_eq_ok_iff {reply : Reply} :
    reply.intent = .ok intent ↔
      reply.isSuccess = true ∧ ∃ value, reply.json? = some value ∧ Intent.ofJson? value = some intent := by
  unfold Reply.intent
  cases reply.json? with
  | none => simp
  | some value =>
      cases success : reply.isSuccess with
      | false => cases message : errorMessage? value <;> simp [message]
      | true => cases read : Intent.ofJson? value <;> simp [read]

theorem Reply.fails_of_intent {reply : Reply} {fault : ExchangeFault}
    (read : reply.intent = .error fault) : Fails (.ok reply) fault := by
  unfold Reply.intent at read
  split at read
  · rename_i unparsed
    cases read
    exact .unreadable rfl fun value parsed => by simp [unparsed] at parsed
  · rename_i value parsed
    split at read
    · rename_i success
      split at read
      · cases read
      · rename_i unread
        cases read
        refine .unreadable rfl fun other same => ?_
        cases parsed.symm.trans same
        rwa [if_pos success]
    · rename_i failed
      split at read
      · rename_i message explained
        cases read
        exact .refused rfl (Bool.eq_false_iff.mpr failed) parsed explained
      · rename_i unexplained
        cases read
        refine .unreadable rfl fun other same => ?_
        cases parsed.symm.trans same
        rwa [if_neg failed]

theorem received_eq_ok_iff : received answer = .ok intent ↔ Shows answer intent := by
  cases answer with
  | error fault => simp [received, Shows, Except.bind, Except.mapError]
  | ok reply =>
      have shows : Shows (.ok reply) intent ↔ reply.intent = .ok intent := by
        simp [Shows, Reply.intent_eq_ok_iff]
      rw [shows]
      cases read : reply.intent <;> simp [received, Except.bind, Except.mapError, read]

theorem fails_of_received {failure : Gateway.Failure} (failed : received answer = .error failure) :
    ∃ fault, Fails answer fault ∧ failure = fault.classify := by
  cases answer with
  | error fault =>
      cases failed
      exact ⟨fault, .lost rfl, rfl⟩
  | ok reply =>
      cases read : reply.intent with
      | error fault =>
          simp only [received, Except.bind, Except.mapError, read, Except.error.injEq] at failed
          exact ⟨fault, reply.fails_of_intent read, failed.symm⟩
      | ok intent => simp [received, Except.bind, Except.mapError, read] at failed

theorem tells_charge (shows : Shows answer intent) : Tells answer intent.charge := by
  unfold Intent.charge
  split
  · rename_i refusal refused
    have unusable : ∀ reference : Reference, reference.text ≠ intent.id := by
      intro reference same
      cases (Reference.ofText_eq_ok_iff.mpr same).symm.trans refused
    obtain rfl : refusal = .invalidReference intent.id := by
      unfold Reference.ofText at refused
      split at refused
      · cases refused
      · exact (Except.error.inj refused).symm
    exact .unusable shows unusable
  · rename_i reference usable
    exact .charge shows ⟨Reference.ofText_eq_ok_iff.mp usable, rfl, String.toList_ofList, rfl, rfl,
      rfl, rfl, rfl, rfl⟩

theorem tells_outcome (answer : Except ExchangeFault Reply) : Tells answer (outcome answer) := by
  unfold outcome
  cases read : received answer with
  | error failure =>
      obtain ⟨fault, fails, rfl⟩ := fails_of_received read
      exact .fault fails
  | ok intent => exact tells_charge (received_eq_ok_iff.mp read)

theorem tells_of_outcome {result : Except Gateway.Failure Gateway.Charge}
    (same : result = outcome answer) : Tells answer result ∧ result = outcome answer :=
  ⟨same ▸ tells_outcome answer, same⟩

theorem asksToConfirm_iff :
    AsksToConfirm answer id ↔
      ∃ intent, received answer = .ok intent ∧ intent.status = .requiresConfirmation ∧
        intent.id = id := by
  simp only [received_eq_ok_iff, AsksToConfirm]

theorem not_asksToConfirm_of_error {failure : Gateway.Failure}
    (failed : received answer = .error failure) (id : String) : ¬ AsksToConfirm answer id := by
  rw [asksToConfirm_iff, failed]
  nofun

theorem not_asksToConfirm_of_status (read : received answer = .ok intent)
    (other : intent.status ≠ .requiresConfirmation) (id : String) : ¬ AsksToConfirm answer id := by
  rw [asksToConfirm_iff, read]
  rintro ⟨_, ⟨⟩, asks, _⟩
  exact other asks

theorem confirmation_of_retrieved {result : Except Gateway.Failure Gateway.Charge}
    (isId : IsIntentId reference.text) (quiet : ∀ id, ¬ AsksToConfirm answer id)
    (same : result = outcome answer) :
    Confirmation reference [⟨retrieveRequest reference.text, answer⟩] result where
  unsent := absurd isId
  sent := fun _ => ⟨_, answer, [], rfl, retrieves_iff.mpr rfl, .inr ⟨quiet, rfl⟩⟩
  last := by
    rintro said ⟨⟩
    exact tells_of_outcome same

theorem confirmation_of_confirmed {last : Except ExchangeFault Reply}
    (isId : IsIntentId reference.text) (asks : AsksToConfirm answer id) :
    Confirmation reference
      [⟨retrieveRequest reference.text, answer⟩, ⟨confirmRequest id, last⟩] (outcome last) where
  unsent := absurd isId
  sent := fun _ => ⟨_, answer, _, rfl, retrieves_iff.mpr rfl,
    .inl ⟨id, _, last, asks, confirmsOnce_iff.mpr rfl, rfl⟩⟩
  last := by
    rintro said ⟨⟩
    exact tells_of_outcome rfl

theorem confirm_confirmation (reference : Reference) :
    Keeps (fun _ _ => True) (Confirmation reference) (confirm reference) [] := by
  unfold confirm
  split
  · rename_i accepted
    have isId := accepts_iff_isIntentId.mp accepted
    refine ⟨trivial, fun answer => ?_⟩
    cases read : received answer with
    | error failure =>
        simp only [read]
        refine confirmation_of_retrieved isId (not_asksToConfirm_of_error read) ?_
        rw [outcome, read]
        rfl
    | ok intent =>
        simp only [read]
        split
        · rename_i asks
          exact ⟨trivial, fun last => confirmation_of_confirmed isId
            (asksToConfirm_iff.mpr ⟨intent, read, asks, rfl⟩)⟩
        · rename_i other
          refine confirmation_of_retrieved isId (not_asksToConfirm_of_status read other) ?_
          rw [outcome, read]
          rfl
  · rename_i refused
    have noId : ¬ IsIntentId reference.text := fun isId => refused (accepts_iff_isIntentId.mpr isId)
    exact
      { unsent := fun _ => ⟨rfl, rfl⟩
        sent := fun isId => absurd isId noId
        last := nofun }

theorem confirms_confirmRequest_iff {other : String} :
    (confirmRequest other).Confirms id ↔ other = id := by
  simp [Request.Confirms, confirmRequest]

theorem confirmRequest_inj {other : String} : confirmRequest id = confirmRequest other ↔ id = other := by
  constructor
  · intro same
    rw [← confirms_confirmRequest_iff, same, confirms_confirmRequest_iff]
  · rintro rfl
    rfl

theorem not_confirms_retrieveRequest (text id : String) : ¬ (retrieveRequest text).Confirms id := by
  simp [Request.Confirms, retrieveRequest]

theorem retrieveRequest_ne_confirmRequest (text : String) :
    retrieveRequest text ≠ confirmRequest id := by
  intro same
  refine not_confirms_retrieveRequest text id ?_
  rw [same, confirms_confirmRequest_iff]

variable {talk : WireTalk} {span : Duration}

theorem not_due_nil (id : String) : ¬ Due reference [] id := by
  rintro ⟨before, span, request, answer, _, _, same⟩
  cases before <;> cases same

theorem not_due_of_last {said : Interleaving.Exchange WireAction.Reply}
    (other : ∀ answer, said ≠ ⟨.send (retrieveRequest reference.text), some answer⟩) (id : String) :
    ¬ Due reference (talk ++ [said]) id := by
  rintro ⟨before, span, request, answer, retrieves, _, same⟩
  obtain rfl := retrieves_iff.mp retrieves
  rw [List.append_cons before] at same
  exact other answer (List.singleton_inj.mp (List.append_inj' same rfl).2)

theorem due_of_retrieved_iff :
    Due reference (talk ++ [⟨.allow span, ()⟩] ++
      [⟨.send (retrieveRequest reference.text), some answer⟩]) id ↔ AsksToConfirm answer id := by
  constructor
  · rintro ⟨before, other, request, shown, retrieves, asks, same⟩
    obtain rfl := retrieves_iff.mp retrieves
    rw [List.append_cons before] at same
    cases List.singleton_inj.mp (List.append_inj' same rfl).2
    exact asks
  · intro asks
    exact ⟨talk, span, _, answer, retrieves_iff.mpr rfl, asks, List.append_assoc _ _ _⟩

def InOrder (reference : Reference) (talk : WireTalk) (action : WireAction) : Prop :=
  (∀ id, action = .send (confirmRequest id) ↔ Due reference talk id) ∧
  ∀ request, action = .send request →
    request = retrieveRequest reference.text ∨ ∃ id, request = confirmRequest id

def Settled (reference : Reference) (talk : WireTalk) : Prop := ∀ id, ¬ Due reference talk id

theorem inOrder_of_quiet {action : WireAction} (settled : Settled reference talk)
    (quiet : ∀ request, action ≠ .send request) : InOrder reference talk action :=
  ⟨fun id => iff_of_false (quiet _) (settled id), fun request sends => absurd sends (quiet request)⟩

theorem inOrder_retrieve (settled : Settled reference talk) :
    InOrder reference talk (.send (retrieveRequest reference.text)) := by
  refine ⟨fun id => iff_of_false ?_ (settled id), ?_⟩
  · exact fun same => retrieveRequest_ne_confirmRequest _ (WireAction.send.inj same)
  · rintro request ⟨⟩
    exact .inl rfl

theorem inOrder_confirm (due : ∀ other, Due reference talk other ↔ other = id) :
    InOrder reference talk (.send (confirmRequest id)) := by
  refine ⟨fun other => ?_, ?_⟩
  · rw [due other, WireAction.send.injEq, confirmRequest_inj, eq_comm]
  · rintro request ⟨⟩
    exact .inr ⟨id, rfl⟩

theorem inTime_confirm_keeps :
    Keeps (InOrder reference) (fun later _ => Settled reference later)
      (inTime (confirm reference)) (talk ++ [⟨.allow span, ()⟩]) := by
  have begun : Settled reference (talk ++ [⟨.allow span, ()⟩]) := not_due_of_last nofun
  unfold confirm
  split
  · rw [inTime]
    refine ⟨inOrder_retrieve begun, ?_⟩
    rintro (_ | answer)
    · exact not_due_of_last nofun
    · cases read : received answer with
      | error failure =>
          simp only [read]
          exact fun id due => not_asksToConfirm_of_error read id (due_of_retrieved_iff.mp due)
      | ok intent =>
          simp only [read]
          split
          · rename_i asks
            rw [inTime]
            refine ⟨inOrder_confirm fun other => ?_, ?_⟩
            · rw [due_of_retrieved_iff, asksToConfirm_iff, read]
              constructor
              · rintro ⟨_, ⟨⟩, _, same⟩
                exact same.symm
              · rintro rfl
                exact ⟨intent, rfl, asks, rfl⟩
            · have last : ∀ reply, Settled reference (talk ++ [⟨.allow span, ()⟩] ++
                  [⟨.send (retrieveRequest reference.text), some answer⟩] ++
                  [⟨.send (confirmRequest intent.id), reply⟩]) := by
                refine fun reply => not_due_of_last fun answer same => ?_
                exact retrieveRequest_ne_confirmRequest _
                  (WireAction.send.inj (congrArg Interleaving.Exchange.action same)).symm
              rintro (_ | confirmed)
              · exact last none
              · exact last (some confirmed)
          · rename_i other
            exact fun id due =>
              not_asksToConfirm_of_status read other id (due_of_retrieved_iff.mp due)
  · exact begun

theorem onWire_confirm_keeps (client : Gateway.Client) (reference : Reference) :
    Keeps (InOrder reference) (fun later _ => Settled reference later)
      (onWire (client.confirm reference)) [] := by
  have makes : Asks (Makes (.confirm reference)) (client.confirm reference) :=
    makes_retry.bind fun _ => trivial
  refine makes.keeps_interpret ?_ not_due_nil
  intro action talk makes settled
  cases action with
  | call call span =>
      cases makes call span rfl
      exact ⟨inOrder_of_quiet settled nofun, fun _ => inTime_confirm_keeps⟩
  | sleep span => exact ⟨inOrder_of_quiet settled nofun, fun _ => not_due_of_last nofun⟩
  | clock => exact ⟨inOrder_of_quiet settled nofun, fun _ => not_due_of_last nofun⟩

theorem confirmsWhenDue_of_inOrder (settled : Settled reference talk)
    (inOrder : ∀ before said after, talk = before ++ said :: after →
      InOrder reference before said.action) : ConfirmsWhenDue reference talk where
  confirms := by
    intro before request answer after id confirms split
    obtain ⟨due, others⟩ := inOrder before _ after split
    rcases others request rfl with rfl | ⟨other, rfl⟩
    · exact absurd confirms (not_confirms_retrieveRequest _ _)
    · obtain rfl := confirms_confirmRequest_iff.mp confirms
      exact ⟨(due other).mp rfl, rfl⟩
  carriedOut := fun before said after id split due =>
    ⟨_, ((inOrder before said after split).1 id).mpr due, confirmsOnce_iff.mpr rfl⟩
  notLeft := settled
  others := by
    intro said member request sends
    obtain ⟨before, after, split⟩ := List.append_of_mem member
    rcases (inOrder before said after split).2 request sends with rfl | ⟨id, rfl⟩
    · exact .inl (retrieves_iff.mpr rfl)
    · exact .inr ⟨id, confirmsOnce_iff.mpr rfl⟩

end

def CarriesKey (key : String) (action : WireAction) : Prop :=
  ∀ request, action = .send request → request.idempotencyKey = some key

theorem inTime_create_carriesKey (order : Gateway.Order) (key : String) :
    Asks (CarriesKey key) (inTime (create order key)) := by
  unfold create
  split
  · split
    · trivial
    · rw [inTime]
      refine ⟨?_, ?_⟩
      · rintro request ⟨⟩
        rfl
      · rintro (_ | answer) <;> trivial
  · trivial

theorem onWire_submit_carriesKey (client : Gateway.Client) (charge : ValidCharge) (id : Uuid) :
    Asks (CarriesKey (Gateway.idempotencyKey id)) (onWire (client.submit charge id)) := by
  have makes : Asks (Makes (.create (Gateway.orderOf charge) (Gateway.idempotencyKey id)))
      (client.submit charge id) := makes_retry.bind fun _ => trivial
  refine makes.interpret fun action makes => ?_
  cases action with
  | call call span =>
      cases makes call span rfl
      exact ⟨nofun, fun _ => inTime_create_carriesKey _ _⟩
  | sleep span => exact ⟨nofun, fun _ => trivial⟩
  | clock => exact ⟨nofun, fun _ => trivial⟩

theorem confirmationKey_ne_idempotencyKey (intent : String) (id : Uuid) :
    "confirm_" ++ intent ≠ Gateway.idempotencyKey id := by
  intro same
  have chars := congrArg String.toList same
  simp [Gateway.idempotencyKey] at chars

/-- A confirmation is asked for exactly where it is due: in a single call, whatever is answered, and in
a whole operation, whatever is answered in time or lost. Its key is the intent's and no key of a new
charge. -/
theorem confirms_only_when_due (reference : Reference) {Choice σ : Type} (state : σ)
    (ahead : Nat → Choice) :
    (∀ network : Choice → (request : Request) → σ → Answer request × σ,
      let ended := alone network (confirm reference) (.start state ahead)
      Confirmation reference ended.2.talk ended.1) ∧
    ∀ (wire : Choice → (action : WireAction) → σ → action.Reply × σ) (client : Gateway.Client),
      ConfirmsWhenDue reference
        (alone wire (onWire (client.confirm reference)) (.start state ahead)).2.talk ∧
      ∀ charge id,
        ∀ said ∈ (alone wire (onWire (client.submit charge id)) (.start state ahead)).2.talk,
          ∀ request, said.action = .send request → ∃ key, request.idempotencyKey = some key ∧
            ∀ intent, key ≠ "confirm_" ++ intent := by
  refine ⟨fun network => (confirm_confirmation reference).alone_start network state ahead,
    fun wire client => ⟨?_, ?_⟩⟩
  · have keeps := (onWire_confirm_keeps client reference).each (by simp)
    obtain ⟨settled, inOrder⟩ := keeps.alone_start wire state ahead
    exact confirmsWhenDue_of_inOrder settled inOrder
  · intro charge id said member request sends
    have carries : CarriesKey (Gateway.idempotencyKey id) said.action :=
      (onWire_submit_carriesKey client charge id).alone_start wire state ahead said member
    exact ⟨_, carries request sends, fun intent same =>
      confirmationKey_ne_idempotencyKey intent id same.symm⟩

def unconfirmed : Reply :=
  ⟨200, Text.bytesOf ("\x7b\"id\":\"pi_9\",\"amount\":1999,\"amount_capturable\":0," ++
    "\"amount_received\":0,\"capture_method\":\"automatic\",\"confirmation_method\":\"automatic\"," ++
    "\"created\":1,\"currency\":\"usd\",\"livemode\":false,\"metadata\":\x7b\x7d," ++
    "\"payment_method_types\":[],\"status\":\"requires_confirmation\"\x7d")⟩

def lossy (answer : Option (Except ExchangeFault Reply)) (action : WireAction) (_ : Unit) :
    action.Reply × Unit :=
  match action with
  | .send _ => (answer, ())
  | .allow _ | .sleep _ => ((), ())
  | .clock => (0, ())

def request? (said : Interleaving.Exchange WireAction.Reply) : Option Request :=
  match said.action with
  | .send request => some request
  | _ => none

/-- The answer to the first confirmation is lost, so the intent is looked up before the second one. -/
example :
    let client : Gateway.Client := ⟨⟨.million, []⟩, .charge, .confirmation⟩
    let reference : Reference := ⟨"pi_9", by decide, by simp [Text.isBlank]⟩
    let talk := (alone lossy (onWire (client.confirm reference))
      (.start () fun place => if place = 3 ∨ place = 9 then some (.ok unconfirmed) else none)).2.talk
    talk.filterMap request? =
      [ retrieveRequest "pi_9", confirmRequest "pi_9", retrieveRequest "pi_9"
      , confirmRequest "pi_9" ] := by
  decide +kernel

end Payments.Stripe
