import Payments.Proofs.Service.Charge

/-!
Which operations put payments on record. Only a charge ever creates a payment, from its own request and
what its attempts at the gateway came to. It looks a payment up only after the store has refused to
create it a second time, and is answered by what the store said.
-/

namespace Payments.Interleaving

open Gateway ServiceWorkflow

abbrev creation (payment : NewPayment) (reply : Except StoreError Payment) :
    Exchange Action.Reply :=
  ⟨.here (.store (.create payment)), reply⟩

abbrev reading (reference : Reference) (reply : Except StoreError (Option Payment)) :
    Exchange Action.Reply :=
  ⟨.here (.store (.find reference)), reply⟩

/-- What a charge goes by when it puts its payment on record. -/
structure Charged (service : PaymentService) (request : ChargeRequest) (talk : ServiceTalk)
    (valid : ValidCharge) (charge : Charge) (result : ChargeResult) : Prop where
  acceptable : acceptable service.client.limits request = .ok valid
  concludes : Concludes (attemptsIn (gatewayTalk talk)) (.ok charge)
  isResult : charge.result = .ok result

/-- A charge creates what it was charged for, and looks up what it was told is there already; no
other operation creates anything. -/
structure MayPut (operation : Operation) (talk : ServiceTalk) (action : Action) : Prop where
  create : ∀ payment, action = .here (.store (.create payment)) →
    ∃ service request origin valid charge result,
      operation = .charge service request origin ∧
      Charged service request talk valid charge result ∧ payment = newPayment valid result
  find : ∀ service request origin, operation = .charge service request origin →
    ∀ reference, action = .here (.store (.find reference)) →
      ∃ payment text, payment.reference = reference ∧
        creation payment (.error (.duplicate text)) ∈ talk

inductive Puts (result : ChargeResult) (talk : ServiceTalk) :
    Except StoreError Payment → Except PaymentError Receipt → Prop
  | created (record : Payment) : Puts result talk (.ok record) (.ok (receiptFor record result))
  | repeated {text : String} (known : Payment) :
      reading result.reference (.ok (some known)) ∈ talk →
      Puts result talk (.error (.duplicate text)) (.ok (receiptFor known result))
  | missing {text : String} {put : Except PaymentError Receipt} :
      reading result.reference (.ok none) ∈ talk →
      Puts result talk (.error (.duplicate text)) put
  | unread {text : String} {error : StoreError} {put : Except PaymentError Receipt} :
      reading result.reference (.error error) ∈ talk →
      Puts result talk (.error (.duplicate text)) put
  | refused {error : StoreError} {put : Except PaymentError Receipt} :
      (∀ text, error ≠ .duplicate text) → Puts result talk (.error error) put

def Uncreating (action : Action) : Prop := ∀ payment, action ≠ .here (.store (.create payment))

def Uncreated (talk : ServiceTalk) : Prop := ∀ said ∈ talk, Uncreating said.action

def Settles (service : PaymentService) (request : ChargeRequest) (talk : ServiceTalk)
    (put : Except PaymentError Receipt) : Prop :=
  ∀ payment reply, creation payment reply ∈ talk →
    ∃ valid charge result, Charged service request talk valid charge result ∧
      payment = newPayment valid result ∧ Puts result talk reply put

def AnsweredByStore (operation : Operation) (talk : ServiceTalk) (answer : Answer) : Prop :=
  Uncreated talk ∨
    ∃ service request origin put, operation = .charge service request origin ∧
      answer = .receipt put ∧ Settles service request talk put

section

variable {service : PaymentService} {request : ChargeRequest} {origin : Origin}
  {valid : ValidCharge} {charge : Charge} {result : ChargeResult} {talk more : ServiceTalk}
  {operation : Operation} {action : Action}

def Aside (action : Action) : Prop := (∀ asked, action ≠ .gateway asked) ∧ Uncreating action

theorem gatewayTalk_away (away : ∀ said ∈ more, ∀ asked, said.action ≠ .gateway asked) :
    gatewayTalk (talk ++ more) = gatewayTalk talk := by
  have none : more.filterMap toGateway? = [] := by
    refine List.filterMap_eq_nil_iff.mpr fun said member => ?_
    obtain ⟨action, reply⟩ := said
    cases action with
    | gateway asked => exact absurd rfl (away _ member asked)
    | here action => rfl
  rw [gatewayTalk, List.filterMap_append, none, List.append_nil, gatewayTalk]

theorem gatewayTalk_aside (aside : ∀ said ∈ more, Aside said.action) :
    gatewayTalk (talk ++ more) = gatewayTalk talk :=
  gatewayTalk_away fun said member => (aside said member).1

theorem Uncreated.append (uncreated : Uncreated talk)
    (quiet : Uncreated more) : Uncreated (talk ++ more) := by
  intro said member
  rcases List.mem_append.mp member with old | new
  · exact uncreated said old
  · exact quiet said new

theorem settles_of_puts {reply : Except StoreError Payment} {put : Except PaymentError Receipt}
    (uncreated : Uncreated talk) (charged : Charged service request talk valid charge result)
    (aside : ∀ said ∈ more, Aside said.action)
    (puts : Puts result
      (talk ++ [creation (newPayment valid result) reply] ++ more) reply put) :
    Settles service request
      (talk ++ [creation (newPayment valid result) reply] ++ more) put := by
  intro payment other member
  have same : payment = newPayment valid result ∧ other = reply := by
    rcases List.mem_append.mp member with member | late
    · rcases List.mem_append.mp member with early | itself
      · exact absurd rfl (uncreated _ early payment)
      · cases List.mem_singleton.mp itself
        exact ⟨rfl, rfl⟩
    · exact absurd rfl ((aside _ late).2 payment)
  obtain ⟨rfl, rfl⟩ := same
  refine ⟨valid, charge, result, ⟨charged.acceptable, ?_, charged.isResult⟩, rfl, puts⟩
  rw [gatewayTalk_aside aside, gatewayTalk_append]
  simpa [toGateway?] using charged.concludes

theorem mayPut_of_store_free (free : ∀ asked, action ≠ .here (.store asked)) :
    MayPut operation talk action :=
  ⟨fun _ isCreate => absurd isCreate (free _), fun _ _ _ _ _ isFind => absurd isFind (free _)⟩

theorem aside_of_isAside (isAside : action.isAside = true) : Aside action := by
  refine ⟨?_, ?_⟩
  · rintro asked rfl
    cases isAside
  · rintro payment rfl
    cases isAside

theorem mayPut_of_isAside (isAside : action.isAside = true) : MayPut operation talk action := by
  refine mayPut_of_store_free ?_
  rintro asked rfl
  cases isAside

theorem putOnRecord_settles (uncreated : Uncreated talk)
    (charged : Charged service request talk valid charge result) :
    Keeps (MayPut (.charge service request origin)) (Settles service request)
      (putOnRecord valid result origin) talk := by
  have mayCreate : MayPut (.charge service request origin) talk
      (.here (.store (.create (newPayment valid result)))) := by
    refine ⟨?_, ?_⟩
    · rintro payment ⟨⟩
      exact ⟨service, request, origin, valid, charge, result, rfl, charged, rfl⟩
    · rintro _ _ _ _ reference ⟨⟩
  have alone : ∀ reply put, (∀ talk, Puts result talk reply put) → Settles service request
      (talk ++ [creation (newPayment valid result) reply]) put := by
    intro reply put puts
    have nothing : ∀ said ∈ ([] : ServiceTalk), Aside said.action := by simp
    simpa using settles_of_puts uncreated charged nothing (puts _)
  refine ⟨mayCreate, ?_⟩
  rintro (error | record)
  · cases error with
    | duplicate text =>
        have found : ∀ reply put,
            (∀ talk, reading result.reference reply ∈ talk →
              Puts result talk (.error (.duplicate text)) put) →
            Settles service request
              (talk ++ [creation (newPayment valid result) (.error (.duplicate text))] ++
                [reading result.reference reply]) put := by
          intro reply put puts
          refine settles_of_puts uncreated charged ?_ (puts _ List.mem_concat_self)
          intro said member
          rw [List.mem_singleton.mp member]
          exact ⟨fun _ => Action.noConfusion, fun payment => by simp⟩
        refine ⟨⟨?_, ?_⟩, ?_⟩
        · rintro payment ⟨⟩
        · rintro _ _ _ _ reference ⟨⟩
          exact ⟨newPayment valid result, text, rfl, List.mem_concat_self⟩
        · rintro (error | _ | known)
          · exact found _ _ fun _ => .unread
          · exact found _ _ fun _ => .missing
          · exact found _ _ fun _ => .repeated known
    | notFound _ => exact alone _ _ fun _ => .refused fun _ => StoreError.noConfusion
    | conflict _ _ _ => exact alone _ _ fun _ => .refused fun _ => StoreError.noConfusion
    | illegalMove _ => exact alone _ _ fun _ => .refused fun _ => StoreError.noConfusion
    | database _ => exact alone _ _ fun _ => .refused fun _ => StoreError.noConfusion
    | corrupt _ => exact alone _ _ fun _ => .refused fun _ => StoreError.noConfusion
  · change Keeps _ _ ((fanOut (Change.report ⟨none, record⟩ origin)).bind _) _
    refine Keeps.bind (((asks_fanOut _).keeps.permit fun _ _ => mayPut_of_isAside).mono ?_)
    rintro _ _ ⟨more, rfl, aside⟩
    exact settles_of_puts uncreated charged
      (fun said member => aside_of_isAside (aside said member)) (.created record)

theorem Puts.append {reply : Except StoreError Payment} {put : Except PaymentError Receipt}
    (puts : Puts result talk reply put) : Puts result (talk ++ more) reply put := by
  cases puts with
  | created record => exact .created record
  | repeated known found => exact .repeated known (List.mem_append_left _ found)
  | missing found => exact .missing (List.mem_append_left _ found)
  | unread found => exact .unread (List.mem_append_left _ found)
  | refused other => exact .refused other

theorem Settles.append {put : Except PaymentError Receipt}
    (settles : Settles service request talk put) (aside : ∀ said ∈ more, Aside said.action) :
    Settles service request (talk ++ more) put := by
  intro payment reply member
  rcases List.mem_append.mp member with old | new
  · obtain ⟨valid, charge, result, charged, isPayment, puts⟩ := settles payment reply old
    refine ⟨valid, charge, result, ⟨charged.acceptable, ?_, charged.isResult⟩, isPayment,
      puts.append⟩
    rw [gatewayTalk_aside aside]
    exact charged.concludes
  · exact absurd rfl ((aside _ new).2 payment)

theorem eq_ok_of_withMoney {answer : Except ClientError Charge}
    (money : withMoney answer = .ok result) :
    ∃ charge, answer = .ok charge ∧ charge.result = .ok result := by
  cases answer with
  | error error => cases money
  | ok charge =>
      refine ⟨charge, rfl, ?_⟩
      cases isResult : charge.result with
      | error failure => simp [withMoney, Except.bind, isResult, Except.mapError] at money
      | ok other => simpa [withMoney, Except.bind, isResult, Except.mapError] using money

theorem submit_halts {client : Client} {id : Uuid} (quiet : gatewayTalk talk = []) :
    Keeps (MayPut operation)
      (fun later answer => (∃ told ending,
          Halts client.chargePolicy (gatewayTalk later) told ending ∧
            answer = ending.map withMoney) ∧
        ∃ more, later = talk ++ more ∧ ∀ said ∈ more, ∃ asked, said.action = .gateway asked)
      (ofGateway (client.submit valid id)) talk := by
  have halts : Keeps _ _ (ofGateway (client.submit valid id)) talk := keeps_retry quiet
  have calls : Asks (fun action => ∃ asked, action = .gateway asked)
      (ofGateway (client.submit valid id)) := asks_ofGateway (fun asked => ⟨asked, rfl⟩) _
  refine (halts.and calls.keeps).permit ?_
  rintro _ _ ⟨_, asked, rfl⟩
  exact mayPut_of_store_free fun _ => Action.noConfusion

theorem submit_charged {client : Client} {id : Uuid} (quiet : gatewayTalk talk = []) :
    Keeps (MayPut operation)
      (fun later answer => (∀ result, answer = some (.ok result) →
          ∃ charge, Concludes (attemptsIn (gatewayTalk later)) (.ok charge) ∧
            charge.result = .ok result) ∧
        ∃ more, later = talk ++ more ∧ ∀ said ∈ more, ∃ asked, said.action = .gateway asked)
      (ofGateway (client.submit valid id)) talk := by
  refine (submit_halts quiet).mono ?_
  rintro later _ ⟨⟨told, ending, halts, rfl⟩, made⟩
  refine ⟨fun result answered => ?_, made⟩
  obtain ⟨answer, isEnding, money⟩ := Option.map_eq_some_iff.mp answered
  obtain ⟨charge, rfl, isResult⟩ := eq_ok_of_withMoney money
  exact ⟨charge, halts.eq_of_answered isEnding ▸ halts.concludes, isResult⟩

def SettlesAny (service : PaymentService) (request : ChargeRequest) (talk : ServiceTalk)
    (ending : Option (Except PaymentError Receipt)) : Prop :=
  Uncreated talk ∨ ∃ put, ending = some put ∧ Settles service request talk put

theorem charge_settles (service : PaymentService) (request : ChargeRequest) (origin : Origin) :
    Keeps (MayPut (.charge service request origin)) (SettlesAny service request)
      (service.charge request origin) [] := by
  unfold PaymentService.charge
  split
  · exact .inl fun _ member => absurd member List.not_mem_nil
  · rename_i valid accepted
    refine ⟨mayPut_of_isAside rfl, fun id => ?_⟩
    change Keeps _ _ ((ofGateway (service.client.submit valid id)).bind _) _
    refine Keeps.bind ((submit_charged rfl).mono ?_)
    rintro _ answer ⟨charged, more, rfl, calls⟩
    have first : Uncreated [⟨.here .fresh, id⟩] := by simp [Uncreated, Uncreating]
    have uncreated : Uncreated ([⟨.here .fresh, id⟩] ++ more) := by
      refine first.append fun said member payment isCreate => ?_
      obtain ⟨asked, isCall⟩ := calls said member
      cases isCall.symm.trans isCreate
    rcases answer with _ | error | result
    · exact .inl uncreated
    · exact .inl uncreated
    · obtain ⟨charge, concludes, isResult⟩ := charged result rfl
      exact Keeps.bind ((putOnRecord_settles uncreated ⟨accepted, concludes, isResult⟩).mono
        fun _ put settles => .inr ⟨put, rfl, settles⟩)

theorem process_settles (service : PaymentService) (request : ChargeRequest) (origin : Origin) :
    Keeps (MayPut (.charge service request origin)) (SettlesAny service request)
      (service.process request origin) [] := by
  refine Keeps.bind ((charge_settles service request origin).mono fun talk ending settles => ?_)
  have counted : ∀ counter,
      SettlesAny service request (talk ++ [⟨.here (.count counter), ()⟩]) ending := by
    intro counter
    have aside : ∀ said ∈ [(⟨.here (.count counter), ()⟩ : Exchange Action.Reply)],
        Aside said.action := by
      intro said member
      rw [List.mem_singleton.mp member]
      exact aside_of_isAside rfl
    refine settles.imp (fun uncreated => uncreated.append fun said member => (aside said member).2) ?_
    rintro ⟨put, isPut, settled⟩
    exact ⟨put, isPut, settled.append aside⟩
  rcases ending with _ | error | receipt
  · exact settles
  · exact ⟨mayPut_of_isAside rfl, fun _ => counted _⟩
  · exact ⟨mayPut_of_isAside rfl, fun _ => counted _⟩

section

variable {reference : Reference} {update : StatusUpdate} {only : StoreAction → Prop}

theorem asks_once {onConflict : StoreError → StoreWorkflow (Except StoreError Settlement)}
    (reads : only (.find reference)) (writes : ∀ expected, only (.update reference expected update))
    (onward : ∀ conflict, Asks only (onConflict conflict)) :
    Asks only (Settlement.once reference update onConflict) := by
  refine ⟨reads, ?_⟩
  rintro (error | _ | read)
  · trivial
  · trivial
  · refine ⟨writes read.version, ?_⟩
    rintro (error | outcome)
    · cases error with
      | conflict _ _ _ => exact onward _
      | _ => trivial
    · cases outcome <;> trivial

theorem asks_attempts (reads : only (.find reference))
    (writes : ∀ expected, only (.update reference expected update)) (attempts : Nat) :
    Asks only (Settlement.settle reference update attempts) := by
  unfold Settlement.settle
  induction attempts - 1 with
  | zero => exact asks_once reads writes fun _ => trivial
  | succ more ih => exact asks_once reads writes fun _ => ih

end

theorem asks_settle (reference : Reference) (update : StatusUpdate) (attempts : Nat) :
    Asks Uncreating (ofStore (Settlement.settle reference update attempts)) := by
  have settles : Asks (fun action => ∀ payment, action ≠ .create payment)
      (Settlement.settle reference update attempts) :=
    asks_attempts (fun _ => StoreAction.noConfusion) (fun _ _ => StoreAction.noConfusion) attempts
  refine asks_ofStore ?_ settles
  rintro asked other payment ⟨⟩
  exact other payment rfl

theorem uncreating_fanOut (commit : Commit) : Asks Uncreating (fanOut commit) :=
  (asks_fanOut commit).mono fun _ isAside => (aside_of_isAside isAside).2

theorem uncreating_ofGateway {α : Type} (workflow : GatewayWorkflow α) :
    Asks Uncreating (ofGateway workflow) :=
  asks_ofGateway (fun _ _ => Action.noConfusion) workflow

theorem uncreating_follow (service : PaymentService) (reference : Reference) (result : ChargeResult)
    (origin : Origin) : Asks Uncreating (service.follow reference result origin) := by
  refine (asks_settle _ _ _).bind fun settled => ?_
  cases settled with
  | error error => trivial
  | ok settled =>
      cases settled with
      | applied previous payment => exact (uncreating_fanOut _).bind fun _ => trivial
      | _ => trivial

theorem uncreating_confirm (service : PaymentService) (reference : Reference) (origin : Origin) :
    Asks Uncreating (service.confirm reference origin) := by
  refine ⟨fun _ => by simp, ?_⟩
  rintro (error | _ | payment)
  · trivial
  · trivial
  · refine (uncreating_ofGateway _).bind fun answer => ?_
    rcases answer with _ | error | result
    · trivial
    · trivial
    · exact (uncreating_follow service reference result origin).bind fun _ => trivial

theorem uncreating_lookUp (reference : Reference) : Asks Uncreating (lookUp reference) := by
  have stored : Asks Uncreating (lookUpStored reference) := by
    refine ⟨fun _ => by simp, ?_⟩
    rintro (error | _ | payment)
    · trivial
    · trivial
    · exact ⟨fun _ => by simp, fun _ => trivial⟩
  rw [lookUp_eq]
  refine ⟨fun _ => by simp, ?_⟩
  rintro (error | _ | payment)
  · exact stored
  · exact stored
  · trivial

theorem uncreating_handle (receiver : Webhook.Receiver) (delivery : Webhook.Delivery) :
    Asks Uncreating (Webhook.handle receiver delivery) := by
  have reconciled : Asks Uncreating (Webhook.reconcile receiver delivery) := by
    refine asks_locally (fun _ => by simp) fun now => ?_
    split
    · trivial
    · split
      · trivial
      · refine (asks_settle _ _ _).bind fun settled => ?_
        cases settled with
        | error error => trivial
        | ok settled =>
            cases settled with
            | applied previous payment => exact (uncreating_fanOut _).bind fun _ => trivial
            | _ => trivial
  exact reconciled.bind fun _ => ⟨fun _ => by simp, fun _ => trivial⟩

theorem answered_of_uncreating {workflow : ServiceWorkflow Answer}
    (asks : Asks Uncreating workflow)
    (other : ∀ service request origin, operation ≠ .charge service request origin) :
    Keeps (MayPut operation) (AnsweredByStore operation) workflow [] := by
  refine (asks.keeps.permit ?_).mono ?_
  · intro _ _ uncreating
    exact ⟨fun payment isCreate => absurd isCreate (uncreating payment),
      fun service request origin isCharge => absurd isCharge (other service request origin)⟩
  · rintro _ _ ⟨more, rfl, uncreated⟩
    exact .inl uncreated

theorem operation_puts (operation : Operation) :
    Keeps (MayPut operation) (AnsweredByStore operation) operation.workflow [] := by
  cases operation with
  | charge service request origin =>
      refine Keeps.bind ((process_settles service request origin).mono fun talk ending settles => ?_)
      refine settles.imp_right ?_
      rintro ⟨put, rfl, settled⟩
      exact ⟨service, request, origin, put, rfl, rfl, settled⟩
  | confirm service reference origin =>
      exact answered_of_uncreating
        ((uncreating_confirm service reference origin).bind fun _ => trivial)
        fun _ _ _ => Operation.noConfusion
  | lookUp reference =>
      exact answered_of_uncreating ((uncreating_lookUp reference).bind fun _ => trivial)
        fun _ _ _ => Operation.noConfusion
  | deliver receiver delivery =>
      exact answered_of_uncreating ((uncreating_handle receiver delivery).bind fun _ => trivial)
        fun _ _ _ => Operation.noConfusion

end

end Payments.Interleaving
