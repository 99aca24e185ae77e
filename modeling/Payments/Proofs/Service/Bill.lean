import Payments.Proofs.Service.Alone

/-!
What a single operation has counted by the time it is done: every request that failed, under its
sink, and then the operation itself, under its result. A charge that was accepted created a record
or found one; no other operation creates any, and none commits more than once. An operation that
breaks down at the gateway is counted nowhere, and has done nothing yet.
-/

namespace Payments

open ServiceWorkflow

namespace Counter

def ofSink (sink : Sink) : Counter := .sinkFailure sink.name

def ofCharge : Counter → Bool
  | .processed | .failed _ => true
  | _ => false

def ofDelivery : Counter → Bool
  | .delivery _ => true
  | _ => false

end Counter

namespace Change

def creates (change : Change) : Bool := change.previous.isNone

end Change

namespace Action

def counter? : Action → Option Counter
  | .here (.count counter) => some counter
  | _ => none

/-- The sink that an answer to a report of a commit is missing from. -/
def lost? : (action : Action) → action.Reply → Option Sink
  | .here (.evict _ _), .error _ => some .cache
  | .here (.append _), .error _ => some .audit
  | .here (.index _), .error _ => some .search
  | .here (.publish _), .error _ => some .bus
  | _, _ => none

def found? : (action : Action) → action.Reply → Option Payment
  | .here (.store (.find _)), .ok (some payment) => some payment
  | _, _ => none

end Action

namespace Operation

def isCharge : Operation → Bool
  | .charge _ _ _ => true
  | _ => false

def isDelivery : Operation → Bool
  | .deliver _ _ => true
  | _ => false

def policy? : Operation → Option Gateway.RetryPolicy
  | .charge service _ _ => some service.client.chargePolicy
  | .confirm service _ _ => some service.client.confirmPolicy
  | _ => none

end Operation

/-- An operation that has come back with an answer. -/
structure Served where
  operation : Operation
  answer : Answer

namespace Served

def counter? : Served → Option Counter
  | ⟨.charge _ _ _, .receipt (.ok _)⟩ => some .processed
  | ⟨.charge _ _ _, .receipt (.error error)⟩ => some (.failed error.code)
  | ⟨.deliver _ _, .outcome result⟩ => some (.delivery (Webhook.label result))
  | _ => none

theorem counter?_ne_sinkFailure (served : Served) (sink : String) :
    served.counter? ≠ some (.sinkFailure sink) := by
  unfold counter?
  split <;> simp

def isLabelled (label : String) (served : Served) : Bool :=
  match served.answer with
  | .outcome result => Webhook.label result = label
  | _ => false

structure Fits (served : Served) : Prop where
  charge : served.operation.isCharge = served.counter?.any Counter.ofCharge
  delivery : served.operation.isDelivery = served.counter?.any Counter.ofDelivery
  label : ∀ label, served.isLabelled label = served.counter?.any (· = .delivery label)

section

variable {service : PaymentService} {request : ChargeRequest} {origin : Origin}
  {reference : Reference} {receiver : Webhook.Receiver} {delivery : Webhook.Delivery}

theorem fits_charge (result : Except PaymentError Receipt) :
    Fits ⟨.charge service request origin, .receipt result⟩ := by
  cases result <;> exact ⟨rfl, rfl, fun _ => rfl⟩

theorem fits_confirm (result : Except PaymentError Receipt) :
    Fits ⟨.confirm service reference origin, .receipt result⟩ := ⟨rfl, rfl, fun _ => rfl⟩

theorem fits_lookUp (result : Except PaymentError Payment) :
    Fits ⟨.lookUp reference, .payment result⟩ := ⟨rfl, rfl, fun _ => rfl⟩

theorem fits_deliver (result : Except DeliveryError Webhook.Outcome) :
    Fits ⟨.deliver receiver delivery, .outcome result⟩ :=
  ⟨rfl, rfl, fun label => by simp [isLabelled, counter?]⟩

end

end Served

namespace Interleaving

def countersIn (talk : ServiceTalk) : List Counter := talk.filterMap (·.action.counter?)

def lostIn (talk : ServiceTalk) : List Sink :=
  talk.filterMap fun said => said.action.lost? said.reply

def foundIn (talk : ServiceTalk) : List Payment :=
  talk.filterMap fun said => said.action.found? said.reply

/-- The counters of a talk: all failures but those of `owed` are counted, and nothing else is. -/
structure Books (talk : ServiceTalk) (owed : List Sink) (changes : List Change)
    (found : List Payment) : Prop where
  counters : countersIn talk ++ owed.map Counter.ofSink = (lostIn talk).map Counter.ofSink
  changes : changesIn talk = changes
  found : foundIn talk = found

section

variable {talk : ServiceTalk} {owed : List Sink} {changes : List Change} {found : List Payment}
  {α : Type} {goal : ServiceTalk → α → Prop}

theorem Books.nil : Books [] [] [] [] := ⟨rfl, rfl, rfl⟩

theorem Books.append (books : Books talk owed changes found) (said : Exchange Action.Reply)
    (uncounted : said.action.counter? = none) :
    Books (talk ++ [said]) (owed ++ (said.action.lost? said.reply).toList)
      (changes ++ (said.action.change? said.reply).toList)
      (found ++ (said.action.found? said.reply).toList) := by
  refine ⟨?_, ?_, ?_⟩
  · have lost : lostIn (talk ++ [said]) = lostIn talk ++ (said.action.lost? said.reply).toList := by
      rw [lostIn, List.filterMap_append, ← lostIn]
      cases loses : said.action.lost? said.reply <;> simp [loses]
    have counters : countersIn (talk ++ [said]) = countersIn talk := by
      simp [countersIn, uncounted]
    rw [lost, counters, List.map_append, List.map_append, ← List.append_assoc, books.counters]
  · rw [changesIn, List.filterMap_append, ← changesIn, books.changes]
    cases change : said.action.change? said.reply <;> simp [change]
  · rw [foundIn, List.filterMap_append, ← foundIn, books.found]
    cases finds : said.action.found? said.reply <;> simp [finds]

theorem Books.count {sink : Sink} (books : Books talk (sink :: owed) changes found) :
    Books (talk ++ [⟨.here (.count (.sinkFailure sink.name)), ()⟩]) owed changes found := by
  refine ⟨?_, ?_, ?_⟩
  · have counters := books.counters
    simp only [countersIn, lostIn, List.filterMap_append] at counters ⊢
    simpa [Action.counter?, Action.lost?, Counter.ofSink] using counters
  · simpa [changesIn, Action.change?] using books.changes
  · simpa [foundIn, Action.found?] using books.found

def lossOf (sink : Sink) : Except SinkError Unit → Option Sink
  | .ok _ => none
  | .error _ => some sink

theorem request_books {action : Action} {next : action.Reply → ServiceWorkflow α}
    (books : Books talk owed changes found) (uncounted : action.counter? = none)
    (unchanged : ∀ reply, action.change? reply = none)
    (unread : ∀ reply, action.found? reply = none)
    (onward : ∀ talk reply, Books talk (owed ++ (action.lost? reply).toList) changes found →
      Keeps (fun _ _ => True) goal (next reply) talk) :
    Keeps (fun _ _ => True) goal (.ask action next) talk := by
  refine ⟨trivial, fun reply => onward _ reply ?_⟩
  simpa [unchanged reply, unread reply] using books.append ⟨action, reply⟩ uncounted

theorem countFailure_books {sink : Sink} {reply : Except SinkError Unit} {lost : Option Sink}
    {goal : ServiceTalk → Unit → Prop} (isLost : lost = lossOf sink reply)
    (books : Books talk (lost.toList ++ owed) changes found)
    (met : ∀ talk, Books talk owed changes found → goal talk ()) :
    Keeps (fun _ _ => True) goal (countFailure sink reply) talk := by
  subst isLost
  cases reply with
  | ok _ => exact met talk books
  | error _ => exact ⟨trivial, fun _ => met _ books.count⟩

theorem fanOut_books (commit : Commit) {goal : ServiceTalk → Unit → Prop}
    (books : Books talk [] changes found)
    (met : ∀ talk, Books talk [] changes found → goal talk ()) :
    Keeps (fun _ _ => True) goal (fanOut commit) talk := by
  refine request_books books rfl (fun _ => rfl) (fun _ => rfl) fun talk cache books => ?_
  refine request_books books rfl (fun _ => rfl) (fun _ => rfl) fun talk audit books => ?_
  refine request_books books rfl (fun _ => rfl) (fun _ => rfl) fun talk search books => ?_
  refine request_books books rfl (fun _ => rfl) (fun _ => rfl) fun talk bus books => ?_
  rw [List.nil_append, List.append_assoc, List.append_assoc,
    ← List.append_nil (Option.toList (Action.lost? (.here (.publish commit.event)) bus))] at books
  change Keeps _ goal ((countFailure .cache cache).bind _) _
  refine Keeps.bind (countFailure_books (by cases cache <;> rfl) books fun talk books => ?_)
  refine Keeps.bind (countFailure_books (by cases audit <;> rfl) books fun talk books => ?_)
  refine Keeps.bind (countFailure_books (by cases search <;> rfl) books fun talk books => ?_)
  exact countFailure_books (by cases bus <;> rfl) books met

theorem ofGateway_books (workflow : Gateway.GatewayWorkflow α)
    (books : Books talk [] changes found)
    (met : ∀ talk result, Books talk [] changes found → goal talk result) :
    Keeps (fun _ _ => True) goal (ofGateway workflow) talk := by
  induction workflow generalizing talk with
  | done result => exact met talk result books
  | ask action next ih =>
      refine ⟨trivial, fun reply => ih reply ?_⟩
      simpa [Action.lost?, Action.change?, Action.found?] using
        books.append ⟨.gateway action, reply⟩ rfl

theorem ofStore_books (workflow : StoreWorkflow α) (books : Books talk [] changes found) :
    Keeps (fun _ _ => True)
      (fun talk _ => ∃ changes found, Books talk [] changes found) (ofStore workflow) talk := by
  induction workflow generalizing talk changes found with
  | done result => exact ⟨changes, found, books⟩
  | ask action next ih =>
      exact ⟨trivial, fun reply => ih reply (books.append ⟨.here (.store action), reply⟩ rfl)⟩

theorem settle_books {reference : Reference} {update : StatusUpdate} (attempts : Nat)
    {goal : ServiceTalk → Except StoreError Settlement → Prop}
    (books : Books talk [] [] found)
    (met : ∀ talk found result, Books talk [] (settledChange result) found → goal talk result) :
    Keeps (fun _ _ => True) goal (ofStore (Settlement.settle reference update attempts)) talk := by
  have told : Tells talk [] (requestsIn talk) := ⟨books.changes, rfl⟩
  have changed := @keeps_settle _ _ _ ⟨.system, none⟩ reference update attempts
    (fun talk result => changesIn talk = settledChange result) told fun _ _ told => told.changes
  have both := (ofStore_books (Settlement.settle reference update attempts) books).and changed
  refine (both.mono ?_).permit fun _ _ _ => trivial
  rintro talk result ⟨⟨changes, found, books⟩, same⟩
  exact met talk found result ⟨books.counters, same, books.found⟩

inductive ChargeBooks (talk : ServiceTalk) : Except PaymentError Receipt → Prop
  | created {payment : Payment} {receipt : Receipt} :
      Books talk [] [⟨none, payment⟩] [] → ChargeBooks talk (.ok receipt)
  | replayed {payment : Payment} {receipt : Receipt} :
      Books talk [] [] [payment] → ChargeBooks talk (.ok receipt)
  | failed {error : PaymentError} : Books talk [] [] [] → ChargeBooks talk (.error error)

inductive EndedBooks (talk : ServiceTalk) : Option (Except PaymentError Receipt) → Prop
  | broken : Books talk [] [] [] → EndedBooks talk none
  | answered {result : Except PaymentError Receipt} :
      ChargeBooks talk result → EndedBooks talk (some result)

theorem putOnRecord_books (charge : ValidCharge) (result : Gateway.ChargeResult) (origin : Origin)
    (books : Books talk [] [] []) :
    Keeps (fun _ _ => True) ChargeBooks (putOnRecord charge result origin) talk := by
  refine ⟨trivial, ?_⟩
  rintro (error | payment)
  · have refused := books.append
      ⟨.here (.store (.create (newPayment charge result))), .error error⟩ rfl
    cases error with
    | duplicate reference =>
        refine ⟨trivial, ?_⟩
        rintro (error | _ | payment)
        · exact .failed (refused.append _ rfl)
        · exact .failed (refused.append _ rfl)
        · exact .replayed (refused.append _ rfl)
    | _ => exact .failed refused
  · have created := books.append
      ⟨.here (.store (.create (newPayment charge result))), .ok payment⟩ rfl
    change Keeps _ _ ((fanOut _).bind _) _
    exact Keeps.bind (fanOut_books _ created fun _ books => .created books)

end

structure Account (talk : ServiceTalk) (own : Option Counter) (changes : List Change)
    (found : List Payment) : Prop where
  counters : countersIn talk = (lostIn talk).map Counter.ofSink ++ own.toList
  changes : changesIn talk = changes
  found : foundIn talk = found

/-- What an operation has counted, created and found by the time it comes back. -/
structure Billed (served : Served) (talk : ServiceTalk) : Prop where
  fits : served.Fits
  counters : countersIn talk = (lostIn talk).map Counter.ofSink ++ served.counter?.toList
  once : (changesIn talk).length ≤ 1
  accepted : (changesIn talk).countP Change.creates +
      (if served.operation.isCharge then (foundIn talk).length else 0) =
    served.counter?.toList.countP (· = .processed)

structure Idle (operation : Operation) (talk : ServiceTalk) : Prop where
  counters : countersIn talk = (lostIn talk).map Counter.ofSink
  changes : changesIn talk = []
  found : operation.isCharge = true → foundIn talk = []

def Booked (operation : Operation) (talk : ServiceTalk) (answer : Answer) : Prop :=
  if answer.isGiven then Billed ⟨operation, answer⟩ talk else Idle operation talk

section

variable {talk : ServiceTalk} {changes : List Change} {found : List Payment} {origin : Origin}

theorem Books.uncounted (books : Books talk [] changes found) :
    Account talk none changes found :=
  ⟨by simpa using books.counters, books.changes, books.found⟩

theorem Books.counted (books : Books talk [] changes found) (counter : Counter) :
    Account (talk ++ [⟨.here (.count counter), ()⟩]) (some counter) changes found where
  counters := by
    have counters := books.counters
    simp only [countersIn, lostIn, List.filterMap_append] at counters ⊢
    simpa [Action.counter?, Action.lost?] using counters
  changes := by simpa [changesIn, Action.change?] using books.changes
  found := by simpa [foundIn, Action.found?] using books.found

theorem Account.billed {own : Option Counter} (account : Account talk own changes found)
    {served : Served} (fits : served.Fits) (isOwn : served.counter? = own)
    (once : changes.length ≤ 1)
    (accepted : changes.countP Change.creates +
        (if served.operation.isCharge then found.length else 0) =
      own.toList.countP (· = .processed)) :
    Billed served talk := by
  subst isOwn
  refine ⟨fits, account.counters, ?_, ?_⟩
  · rwa [account.changes]
  · rwa [account.changes, account.found]

theorem Idle.nil (operation : Operation) : Idle operation [] := ⟨rfl, rfl, fun _ => rfl⟩

theorem Books.idle {operation : Operation} (books : Books talk [] [] found)
    (unfound : operation.isCharge = true → found = []) : Idle operation talk where
  counters := by simpa using books.counters
  changes := books.changes
  found := fun isCharge => books.found.trans (unfound isCharge)

theorem ChargeBooks.billed {result : Except PaymentError Receipt}
    (charged : ChargeBooks talk result) {service : PaymentService} {request : ChargeRequest}
    {counter : Counter}
    (own : Served.counter? ⟨.charge service request origin, .receipt result⟩ = some counter) :
    Billed ⟨.charge service request origin, .receipt result⟩
      (talk ++ [⟨.here (.count counter), ()⟩]) := by
  cases charged with
  | created books =>
      cases own
      exact (books.counted _).billed (Served.fits_charge _) rfl (Nat.le_refl 1) rfl
  | replayed books =>
      cases own
      exact (books.counted _).billed (Served.fits_charge _) rfl (Nat.zero_le 1) rfl
  | failed books =>
      cases own
      exact (books.counted _).billed (Served.fits_charge _) rfl (Nat.zero_le 1) rfl

theorem process_booked (service : PaymentService) (request : ChargeRequest) :
    Keeps (fun _ _ => True)
      (fun talk result => Booked (.charge service request origin) talk (.ofReceipt result))
      (service.process request origin) [] := by
  refine Keeps.bind (Keeps.mono (fun talk result (charged : EndedBooks talk result) => ?_) ?_)
  · cases charged with
    | broken books => exact books.idle fun _ => rfl
    | @answered result charged =>
        cases result with
        | ok receipt => exact ⟨trivial, fun _ => charged.billed rfl⟩
        | error error => exact ⟨trivial, fun _ => charged.billed rfl⟩
  · unfold PaymentService.charge
    split
    · exact .answered (.failed .nil)
    · rename_i charge _
      have begun : ∀ id, Books [⟨.here .fresh, id⟩] [] [] [] := fun id => Books.nil.append _ rfl
      refine ⟨trivial, fun id => ?_⟩
      change Keeps _ _ ((ofGateway (service.client.submit charge id)).bind _) _
      refine Keeps.bind (ofGateway_books (service.client.submit charge id) (begun id)
        fun talk answer books => ?_)
      rcases answer with _ | error | result
      · exact .broken books
      · exact .answered (.failed books)
      · exact Keeps.bind ((putOnRecord_books charge result origin books).mono fun _ _ => .answered)

def MoveBooks (talk : ServiceTalk) : Prop :=
  ∃ settled found, Books talk [] (settledChange settled) found

theorem moved_of_books (books : Books talk [] [] found) : MoveBooks talk :=
  ⟨.ok .missing, found, books⟩

theorem settledChange_once (settled : Except StoreError Settlement) :
    (settledChange settled).length ≤ 1 ∧ (settledChange settled).countP Change.creates = 0 := by
  rcases settled with error | settled
  · exact ⟨Nat.zero_le 1, rfl⟩
  · cases settled
    · exact ⟨Nat.le_refl 1, rfl⟩
    all_goals exact ⟨Nat.zero_le 1, rfl⟩

theorem MoveBooks.billed (moved : MoveBooks talk) {served : Served} (fits : served.Fits)
    (uncounted : served.counter? = none) : Billed served talk := by
  obtain ⟨settled, found, books⟩ := moved
  obtain ⟨once, uncreated⟩ := settledChange_once settled
  have uncharged := fits.charge
  rw [uncounted] at uncharged
  refine books.uncounted.billed fits uncounted once ?_
  rw [uncreated, uncharged]
  rfl

theorem MoveBooks.billed_delivery (moved : MoveBooks talk) (receiver : Webhook.Receiver)
    (delivery : Webhook.Delivery) (result : Except DeliveryError Webhook.Outcome) :
    Billed ⟨.deliver receiver delivery, .outcome result⟩
      (talk ++ [⟨.here (.count (.delivery (Webhook.label result))), ()⟩]) := by
  obtain ⟨settled, found, books⟩ := moved
  obtain ⟨once, uncreated⟩ := settledChange_once settled
  refine (books.counted _).billed (Served.fits_deliver result) rfl once ?_
  rw [uncreated]
  rfl

theorem follow_moved (service : PaymentService) (reference : Reference)
    (result : Gateway.ChargeResult) (books : Books talk [] [] found) :
    Keeps (fun _ _ => True) (fun talk _ => MoveBooks talk)
      (service.follow reference result origin) talk := by
  refine Keeps.bind (settle_books _ books fun talk found settled books => ?_)
  rcases settled with error | settled
  · exact ⟨_, found, books⟩
  · cases settled with
    | applied previous payment =>
        exact Keeps.bind (fanOut_books _ books fun talk books => ⟨_, found, books⟩)
    | _ => exact ⟨_, found, books⟩

theorem confirm_booked (service : PaymentService) (reference : Reference) :
    Keeps (fun _ _ => True)
      (fun talk result => Booked (.confirm service reference origin) talk (.ofReceipt result))
      (service.confirm reference origin) [] := by
  have moved : ∀ {talk result}, MoveBooks talk →
      Booked (.confirm service reference origin) talk (.ofReceipt (some result)) :=
    fun moved => moved.billed (Served.fits_confirm _) rfl
  refine ⟨trivial, ?_⟩
  rintro (error | _ | payment)
  · exact moved (moved_of_books (Books.nil.append _ rfl))
  · exact moved (moved_of_books (Books.nil.append _ rfl))
  have reading : Books [⟨.here (.store (.find reference)), .ok (some payment)⟩] [] [] [payment] :=
    Books.nil.append _ rfl
  change Keeps _ _ ((ofGateway (service.client.confirm reference)).bind _) _
  refine Keeps.bind (ofGateway_books _ reading fun talk answer books => ?_)
  rcases answer with _ | error | result
  · exact books.idle Bool.noConfusion
  · exact moved (moved_of_books books)
  · exact Keeps.bind ((follow_moved service reference result books).mono fun _ _ => moved)

theorem lookUpStored_moved (reference : Reference) (books : Books talk [] [] []) :
    Keeps (fun _ _ => True) (fun talk _ => MoveBooks talk) (lookUpStored reference) talk := by
  refine ⟨trivial, ?_⟩
  rintro (error | _ | payment)
  · exact moved_of_books (books.append _ rfl)
  · exact moved_of_books (books.append _ rfl)
  have read := books.append ⟨.here (.store (.find reference)), .ok (some payment)⟩ rfl
  exact ⟨trivial, fun filled => moved_of_books (read.append ⟨.here (.fill payment), filled⟩ rfl)⟩

theorem lookUp_moved (reference : Reference) :
    Keeps (fun _ _ => True) (fun talk _ => MoveBooks talk) (lookUp reference) [] := by
  rw [lookUp_eq]
  refine ⟨trivial, ?_⟩
  rintro (error | _ | payment)
  · exact lookUpStored_moved reference (Books.nil.append _ rfl)
  · exact lookUpStored_moved reference (Books.nil.append _ rfl)
  · exact moved_of_books (Books.nil.append _ rfl)

theorem locally_books {α : Type} {goal : ServiceTalk → α → Prop} {action : LocalAction}
    {next : action.Reply → ServiceWorkflow α}
    (onward : ∀ reply, Keeps (fun _ _ => True) goal (next reply) (talk ++ [⟨.here action, reply⟩])) :
    Keeps (fun _ _ => True) goal ((locally action).bind next) talk := ⟨trivial, onward⟩

theorem reconcile_moved (receiver : Webhook.Receiver) (delivery : Webhook.Delivery) :
    Keeps (fun _ _ => True) (fun talk _ => MoveBooks talk) (Webhook.reconcile receiver delivery)
      [] := by
  refine locally_books fun now => ?_
  have timed : Books [⟨.here .time, now⟩] [] [] [] := Books.nil.append _ rfl
  split
  · exact moved_of_books timed
  · split
    · exact moved_of_books timed
    · refine Keeps.bind (settle_books _ timed fun talk found settled books => ?_)
      rcases settled with error | settled
      · exact ⟨_, found, books⟩
      · cases settled with
        | applied previous payment =>
            exact Keeps.bind (fanOut_books _ books fun talk books => ⟨_, found, books⟩)
        | _ => exact ⟨_, found, books⟩

def Excused {α : Type} (policy : Gateway.RetryPolicy) (talk : ServiceTalk) (result : Option α) :
    Prop :=
  result = none → OutOfRange policy (gatewayTalk talk)

theorem excused_some {α : Type} {policy : Gateway.RetryPolicy} (result : α) :
    Excused policy talk (some result) := nofun

theorem excused_gateway {policy : Gateway.RetryPolicy} {call : Gateway.Call}
    (quiet : gatewayTalk talk = []) :
    Keeps (fun _ _ => True) (Excused policy)
      (ofGateway ((Gateway.Retry.run policy call).bind fun ending =>
        .done (ending.map Gateway.withMoney))) talk := by
  refine (keeps_retry quiet).mono ?_
  rintro later _ ⟨told, ending, halts, rfl⟩ unanswered
  rw [Option.map_eq_none_iff.mp unanswered] at halts
  exact halts.outOfRange

theorem excused_of_some {α : Type} {policy : Gateway.RetryPolicy} (workflow : ServiceWorkflow α) :
    Keeps (fun _ _ => True) (Excused policy) (workflow.bind fun result => .done (some result))
      talk :=
  Keeps.bind ((asks_any workflow).keeps.mono fun _ result _ => excused_some result)

theorem process_excused (service : PaymentService) (request : ChargeRequest) :
    Keeps (fun _ _ => True) (Excused service.client.chargePolicy) (service.process request origin)
      [] := by
  refine Keeps.bind (Keeps.mono (fun talk result
    (excused : Excused service.client.chargePolicy talk result) => ?_) ?_)
  · rcases result with _ | error | receipt
    · exact excused
    · exact ⟨trivial, fun _ => excused_some _⟩
    · exact ⟨trivial, fun _ => excused_some _⟩
  · unfold PaymentService.charge
    split
    · exact excused_some _
    · rename_i charge _
      refine ⟨trivial, fun id => ?_⟩
      change Keeps _ _ ((ofGateway (service.client.submit charge id)).bind _) _
      refine Keeps.bind ((excused_gateway rfl).mono fun talk answer excused => ?_)
      rcases answer with _ | error | result
      · exact fun _ => excused rfl
      · exact excused_some _
      · exact excused_of_some _

theorem confirm_excused (service : PaymentService) (reference : Reference) :
    Keeps (fun _ _ => True) (Excused service.client.confirmPolicy)
      (service.confirm reference origin) [] := by
  refine ⟨trivial, ?_⟩
  rintro (error | _ | payment)
  · exact excused_some _
  · exact excused_some _
  change Keeps _ _ ((ofGateway (service.client.confirm reference)).bind _) _
  refine Keeps.bind ((excused_gateway rfl).mono fun talk answer excused => ?_)
  rcases answer with _ | error | result
  · exact fun _ => excused rfl
  · exact excused_some _
  · exact excused_of_some _

theorem Operation.excused (operation : Operation) :
    Keeps (fun _ _ => True)
      (fun talk answer => answer.isGiven = false →
        ∃ policy, operation.policy? = some policy ∧ OutOfRange policy (gatewayTalk talk))
      operation.workflow [] := by
  have given : ∀ {talk : ServiceTalk} {policy : Gateway.RetryPolicy}
      {result : Option (Except PaymentError Receipt)}, Excused policy talk result →
      (Answer.ofReceipt result).isGiven = false → OutOfRange policy (gatewayTalk talk) := by
    rintro talk policy (_ | result) excused unanswered
    · exact excused rfl
    · cases unanswered
  cases operation with
  | charge service request origin =>
      exact Keeps.bind ((process_excused service request).mono fun _ _ excused unanswered =>
        ⟨_, rfl, given excused unanswered⟩)
  | confirm service reference origin =>
      exact Keeps.bind ((confirm_excused service reference).mono fun _ _ excused unanswered =>
        ⟨_, rfl, given excused unanswered⟩)
  | lookUp reference => exact Keeps.bind ((asks_any _).keeps.mono fun _ _ _ => nofun)
  | deliver receiver delivery => exact Keeps.bind ((asks_any _).keeps.mono fun _ _ _ => nofun)

theorem Operation.booked (operation : Operation) :
    Keeps (fun _ _ => True) (Booked operation) operation.workflow [] := by
  cases operation with
  | charge service request origin => exact Keeps.bind (process_booked service request)
  | confirm service reference origin => exact Keeps.bind (confirm_booked service reference)
  | lookUp reference =>
      exact Keeps.bind ((lookUp_moved reference).mono fun _ result moved =>
        moved.billed (Served.fits_lookUp result) rfl)
  | deliver receiver delivery =>
      refine Keeps.bind (Keeps.bind ((reconcile_moved receiver delivery).mono ?_))
      exact fun _ result moved => ⟨trivial, fun _ => moved.billed_delivery receiver delivery result⟩

end

end Interleaving

end Payments
