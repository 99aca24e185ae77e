import Payments.Proofs.Cache.Readers
import Payments.Proofs.Service.Operation

/-!
The operations of the service, by what they ask their surroundings for. Whatever an operation is
told, it reports each of its commits to every sink, once and in a fixed order, and asks the sinks for
nothing else.
-/

namespace Payments

/-- A commit to the store: the record before it, if there was one, and the record that it wrote. -/
structure Change where
  previous : Option Payment
  current : Payment

namespace Change

def eventType (change : Change) : EventType :=
  match change.previous with
  | none => .created
  | some _ => .updated

def report (change : Change) (origin : Origin) : Commit :=
  { payment := change.current
    eventType := change.eventType
    previous := change.previous
    origin }

end Change

def Commit.requests (commit : Commit) : List LocalAction :=
  [ .evict commit.payment.reference commit.payment.version
  , .append commit
  , .index commit.document
  , .publish commit.event ]

def StoreAction.change? : (action : StoreAction) → action.Reply → Option Change
  | .create _, .ok record => some ⟨none, record⟩
  | .update _ _ _, .ok (.applied previous current) => some ⟨some previous, current⟩
  | _, _ => none

namespace Action

def change? : (action : Action) → action.Reply → Option Change
  | .here (.store action), reply => action.change? reply
  | _, _ => none

def request? : Action → Option LocalAction
  | .here (.evict reference version) => some (.evict reference version)
  | .here (.append commit) => some (.append commit)
  | .here (.index document) => some (.index document)
  | .here (.publish event) => some (.publish event)
  | _ => none

def isAside : Action → Bool
  | .gateway _ | .here (.store _) => false
  | _ => true

end Action

namespace Interleaving

abbrev ServiceTalk := List (Exchange Action.Reply)

def changesIn (talk : ServiceTalk) : List Change :=
  talk.filterMap fun said => said.action.change? said.reply

def requestsIn (talk : ServiceTalk) : List LocalAction :=
  talk.filterMap fun said => said.action.request?

def reportsOf (origin : Origin) (changes : List Change) : List LocalAction :=
  changes.flatMap fun change => (change.report origin).requests

def mayReport (origin : Origin) (talk : ServiceTalk) (action : Action) : Prop :=
  ∀ request, action.request? = some request → request ∈ reportsOf origin (changesIn talk)

structure Tells (talk : ServiceTalk) (changes : List Change) (requests : List LocalAction) :
    Prop where
  changes : changesIn talk = changes
  requests : requestsIn talk = requests

section

variable {talk : ServiceTalk} {changes : List Change} {requests : List LocalAction}
  {origin : Origin} {α : Type} {goal : ServiceTalk → α → Prop}

theorem Tells.nil : Tells [] [] [] := ⟨rfl, rfl⟩

theorem Tells.append (told : Tells talk changes requests) (said : Exchange Action.Reply) :
    Tells (talk ++ [said]) (changes ++ (said.action.change? said.reply).toList)
      (requests ++ said.action.request?.toList) := by
  refine ⟨?_, ?_⟩
  · rw [changesIn, List.filterMap_append, ← changesIn, told.changes]
    cases change : said.action.change? said.reply <;> simp [change]
  · rw [requestsIn, List.filterMap_append, ← requestsIn, told.requests]
    cases request : said.action.request? <;> simp [request]

theorem Tells.silent (told : Tells talk changes requests) (said : Exchange Action.Reply)
    (noChange : said.action.change? said.reply = none) (noRequest : said.action.request? = none) :
    Tells (talk ++ [said]) changes requests := by
  simpa [noChange, noRequest] using told.append said

theorem Tells.request (told : Tells talk changes requests) {said : Exchange Action.Reply}
    {request : LocalAction} (noChange : said.action.change? said.reply = none)
    (asked : said.action.request? = some request) :
    Tells (talk ++ [said]) changes (requests ++ [request]) := by
  simpa [noChange, asked] using told.append said

theorem mayReport_of_none {action : Action} (noRequest : action.request? = none) :
    mayReport origin talk action := by
  intro request asked
  rw [noRequest] at asked
  cases asked

theorem keeps_locally {action : LocalAction} {next : action.Reply → ServiceWorkflow α}
    (noRequest : (Action.here action).request? = none)
    (onward : ∀ reply, Keeps (mayReport origin) goal (next reply)
      (talk ++ [⟨.here action, reply⟩])) :
    Keeps (mayReport origin) goal ((ServiceWorkflow.locally action).bind next) talk :=
  ⟨mayReport_of_none noRequest, onward⟩

theorem keeps_ofGateway (workflow : Gateway.GatewayWorkflow α)
    (told : Tells talk changes requests)
    (met : ∀ talk result, Tells talk changes requests → goal talk result) :
    Keeps (mayReport origin) goal (ServiceWorkflow.ofGateway workflow) talk := by
  induction workflow generalizing talk with
  | done result => exact met talk result told
  | ask action next ih => exact ⟨mayReport_of_none rfl, fun reply => ih reply (told.silent _ rfl rfl)⟩

theorem asks_locally {only : Action → Prop} {action : LocalAction}
    {next : action.Reply → ServiceWorkflow α} (may : only (.here action))
    (onward : ∀ reply, Asks only (next reply)) :
    Asks only ((ServiceWorkflow.locally action).bind next) :=
  ⟨may, onward⟩

theorem asks_ofGateway {only : Action → Prop} (each : ∀ asked, only (.gateway asked))
    (workflow : Gateway.GatewayWorkflow α) : Asks only (ServiceWorkflow.ofGateway workflow) :=
  (asks_any workflow).interpret fun asked _ => ⟨each asked, fun _ => trivial⟩

theorem asks_ofStore {only : Action → Prop} {only' : StoreAction → Prop}
    (each : ∀ asked, only' asked → only (.here (.store asked))) {workflow : StoreWorkflow α}
    (asks : Asks only' workflow) : Asks only (ServiceWorkflow.ofStore workflow) :=
  asks.interpret fun asked may => ⟨each asked may, fun _ => trivial⟩

def settledChange : Except StoreError Settlement → List Change
  | .ok (.applied previous current) => [⟨some previous, current⟩]
  | _ => []

theorem keeps_once {reference : Reference} {update : StatusUpdate}
    {onConflict : StoreError → StoreWorkflow (Except StoreError Settlement)}
    {goal : ServiceTalk → Except StoreError Settlement → Prop}
    (told : Tells talk changes requests)
    (met : ∀ talk result, Tells talk (changes ++ settledChange result) requests → goal talk result)
    (again : ∀ talk conflict, Tells talk changes requests →
      Keeps (mayReport origin) goal (ServiceWorkflow.ofStore (onConflict conflict)) talk) :
    Keeps (mayReport origin) goal
      (ServiceWorkflow.ofStore (Settlement.once reference update onConflict)) talk := by
  have unchanged : ∀ talk result, settledChange result = [] → Tells talk changes requests →
      goal talk result := by
    intro talk result none told
    refine met talk result ?_
    rwa [none, List.append_nil]
  refine ⟨mayReport_of_none rfl, ?_⟩
  rintro (error | read)
  · exact unchanged _ _ rfl (told.silent _ rfl rfl)
  have reading := told.silent ⟨.here (.store (.find reference)), .ok read⟩ rfl rfl
  cases read with
  | none => exact unchanged _ _ rfl reading
  | some read =>
      refine ⟨mayReport_of_none rfl, ?_⟩
      rintro (error | outcome)
      · have refused := reading.silent
          ⟨.here (.store (.update reference read.version update)), .error error⟩ rfl rfl
        cases error with
        | conflict reference expected found => exact again _ _ refused
        | duplicate _ => exact unchanged _ _ rfl refused
        | notFound _ => exact unchanged _ _ rfl refused
        | illegalMove _ => exact unchanged _ _ rfl refused
        | database _ => exact unchanged _ _ rfl refused
        | corrupt _ => exact unchanged _ _ rfl refused
      · cases outcome with
        | unchanged payment => exact unchanged _ _ rfl (reading.silent _ rfl rfl)
        | applied previous current =>
            have applied := reading.append ⟨.here (.store (.update reference read.version update)),
              .ok (.applied previous current)⟩
            refine met _ _ ?_
            simpa [settledChange, Action.change?, StoreAction.change?, Action.request?] using applied

theorem keeps_settle {reference : Reference} {update : StatusUpdate} (attempts : Nat)
    {goal : ServiceTalk → Except StoreError Settlement → Prop}
    (told : Tells talk changes requests)
    (met : ∀ talk result, Tells talk (changes ++ settledChange result) requests →
      goal talk result) :
    Keeps (mayReport origin) goal
      (ServiceWorkflow.ofStore (Settlement.settle reference update attempts)) talk := by
  unfold Settlement.settle
  induction attempts - 1 generalizing talk with
  | zero =>
      refine keeps_once told met fun talk conflict told => ?_
      exact met talk (.error conflict) (by simpa [settledChange] using told)
  | succ more ih => exact keeps_once told met fun talk conflict told => ih told

theorem keeps_countFailure (sink : Sink) (reply : Except SinkError Unit)
    {goal : ServiceTalk → Unit → Prop} (told : Tells talk changes requests)
    (met : ∀ talk, Tells talk changes requests → goal talk ()) :
    Keeps (mayReport origin) goal (countFailure sink reply) talk := by
  cases reply with
  | ok result => exact met talk told
  | error error => exact ⟨mayReport_of_none rfl, fun reply => met _ (told.silent _ rfl rfl)⟩

theorem keeps_request {action : Action} {request : LocalAction} {change : Change}
    {next : action.Reply → ServiceWorkflow α} (told : Tells talk changes requests)
    (member : change ∈ changes) (asked : action.request? = some request)
    (isReport : request ∈ (change.report origin).requests)
    (noChange : ∀ reply, action.change? reply = none)
    (onward : ∀ talk reply, Tells talk changes (requests ++ [request]) →
      Keeps (mayReport origin) goal (next reply) talk) :
    Keeps (mayReport origin) goal (.ask action next) talk := by
  refine ⟨?_, fun reply => onward _ reply (told.request (noChange reply) asked)⟩
  intro other isOther
  rw [asked] at isOther
  cases isOther
  rw [told.changes]
  exact List.mem_flatMap.mpr ⟨change, member, isReport⟩

theorem keeps_fanOut {change : Change} {goal : ServiceTalk → Unit → Prop}
    (told : Tells talk changes requests) (member : change ∈ changes)
    (met : ∀ talk, Tells talk changes (requests ++ (change.report origin).requests) →
      goal talk ()) :
    Keeps (mayReport origin) goal (fanOut (change.report origin)) talk := by
  refine keeps_request told member rfl (by simp [Commit.requests]) (fun _ => rfl) ?_
  intro talk cache told
  refine keeps_request told member rfl (by simp [Commit.requests]) (fun _ => rfl) ?_
  intro talk audit told
  refine keeps_request told member rfl (by simp [Commit.requests]) (fun _ => rfl) ?_
  intro talk search told
  refine keeps_request told member rfl (by simp [Commit.requests]) (fun _ => rfl) ?_
  intro talk bus told
  change Keeps _ goal ((countFailure .cache cache).bind _) talk
  refine Keeps.bind (keeps_countFailure .cache cache told fun talk told => ?_)
  refine Keeps.bind (keeps_countFailure .audit audit told fun talk told => ?_)
  refine Keeps.bind (keeps_countFailure .search search told fun talk told => ?_)
  refine keeps_countFailure .bus bus told fun talk told => met talk ?_
  simpa [Commit.requests] using told

theorem asks_countFailure (sink : Sink) (reply : Except SinkError Unit) :
    Asks (fun action => action.isAside = true) (countFailure sink reply) := by
  cases reply with
  | ok _ => trivial
  | error _ => exact ⟨rfl, fun _ => trivial⟩

theorem asks_fanOut (commit : Commit) :
    Asks (fun action => action.isAside = true) (fanOut commit) := by
  refine ⟨rfl, fun cache => ⟨rfl, fun audit => ⟨rfl, fun search => ⟨rfl, fun bus => ?_⟩⟩⟩⟩
  exact (asks_countFailure .cache cache).bind fun _ => (asks_countFailure .audit audit).bind fun _ =>
    (asks_countFailure .search search).bind fun _ => asks_countFailure .bus bus

/-- Every commit was reported to every sink, and nothing else was. -/
def Reported (origin : Origin) (talk : ServiceTalk) : Prop :=
  requestsIn talk = reportsOf origin (changesIn talk)

theorem reported_nil (told : Tells talk [] []) : Reported origin talk := by
  rw [Reported, told.changes, told.requests]
  rfl

theorem reported_singleton {change : Change}
    (told : Tells talk [change] (change.report origin).requests) : Reported origin talk := by
  rw [Reported, told.changes, told.requests, reportsOf, List.flatMap_singleton]

theorem putOnRecord_keeps (charge : ValidCharge) (result : Gateway.ChargeResult)
    (told : Tells talk [] []) :
    Keeps (mayReport origin) (fun talk _ => Reported origin talk)
      (putOnRecord charge result origin) talk := by
  refine ⟨mayReport_of_none rfl, ?_⟩
  rintro (error | payment)
  · have refused := told.silent
      ⟨.here (.store (.create (newPayment charge result))), .error error⟩ rfl rfl
    cases error with
    | duplicate reference =>
        refine ⟨mayReport_of_none rfl, ?_⟩
        rintro (error | found)
        · exact reported_nil (refused.silent _ rfl rfl)
        · cases found <;> exact reported_nil (refused.silent _ rfl rfl)
    | notFound _ => exact reported_nil refused
    | conflict _ _ _ => exact reported_nil refused
    | illegalMove _ => exact reported_nil refused
    | database _ => exact reported_nil refused
    | corrupt _ => exact reported_nil refused
  · have created := told.append
      ⟨.here (.store (.create (newPayment charge result))), .ok payment⟩
    change Keeps _ _ ((fanOut (Change.report ⟨none, payment⟩ origin)).bind _) _
    refine Keeps.bind (keeps_fanOut created List.mem_cons_self fun talk told => ?_)
    exact reported_singleton told

theorem Reported.silent (reported : Reported origin talk) (said : Exchange Action.Reply)
    (noChange : said.action.change? said.reply = none) (noRequest : said.action.request? = none) :
    Reported origin (talk ++ [said]) := by
  have told : Tells talk (changesIn talk) (reportsOf origin (changesIn talk)) := ⟨rfl, reported⟩
  have still := told.silent said noChange noRequest
  rw [Reported, still.requests, still.changes]

theorem process_keeps (service : PaymentService) (request : ChargeRequest) :
    Keeps (mayReport origin) (fun talk _ => Reported origin talk)
      (service.process request origin) [] := by
  refine Keeps.bind (Keeps.mono (fun talk result (reported : Reported origin talk) => ?_) ?_)
  · rcases result with _ | error | receipt
    · exact reported
    · exact ⟨mayReport_of_none rfl, fun reply => reported.silent _ rfl rfl⟩
    · exact ⟨mayReport_of_none rfl, fun reply => reported.silent _ rfl rfl⟩
  · unfold PaymentService.charge
    split
    · exact reported_nil .nil
    · rename_i charge _
      refine keeps_locally rfl fun id => ?_
      refine Keeps.bind (keeps_ofGateway (service.client.submit charge id)
        (Tells.nil.silent _ rfl rfl) fun talk answer told => ?_)
      rcases answer with _ | error | result
      · exact reported_nil told
      · exact reported_nil told
      · exact Keeps.bind (putOnRecord_keeps charge result told)

theorem follow_keeps (service : PaymentService) (reference : Reference)
    (result : Gateway.ChargeResult) (told : Tells talk [] []) :
    Keeps (mayReport origin) (fun talk _ => Reported origin talk)
      (service.follow reference result origin) talk := by
  refine Keeps.bind (keeps_settle service.updateAttempts told fun talk settled told => ?_)
  rcases settled with error | settled
  · exact reported_nil told
  · cases settled with
    | applied previous payment =>
        refine Keeps.bind (keeps_fanOut told List.mem_cons_self fun talk told => ?_)
        exact reported_singleton told
    | _ => exact reported_nil told

theorem confirm_keeps (service : PaymentService) (reference : Reference) :
    Keeps (mayReport origin) (fun talk _ => Reported origin talk)
      (service.confirm reference origin) [] := by
  refine keeps_locally rfl ?_
  rintro (error | found)
  · exact reported_nil (Tells.nil.silent _ rfl rfl)
  have reading := Tells.nil.silent ⟨.here (.store (.find reference)), .ok found⟩ rfl rfl
  cases found with
  | none => exact reported_nil reading
  | some payment =>
      refine Keeps.bind (keeps_ofGateway (service.client.confirm reference) reading
        fun talk answer told => ?_)
      rcases answer with _ | error | result
      · exact reported_nil told
      · exact reported_nil told
      · exact Keeps.bind (follow_keeps service reference result told)

theorem lookUpStored_keeps (reference : Reference) (told : Tells talk [] []) :
    Keeps (mayReport origin) (fun talk _ => Reported origin talk) (lookUpStored reference) talk := by
  refine ⟨mayReport_of_none rfl, ?_⟩
  rintro (error | found)
  · exact reported_nil (told.silent _ rfl rfl)
  · cases found with
    | none => exact reported_nil (told.silent _ rfl rfl)
    | some payment =>
        have reading := told.silent ⟨.here (.store (.find reference)), .ok (some payment)⟩ rfl rfl
        exact ⟨mayReport_of_none rfl, fun reply => reported_nil (reading.silent _ rfl rfl)⟩

theorem lookUp_keeps (reference : Reference) :
    Keeps (mayReport origin) (fun talk _ => Reported origin talk) (lookUp reference) [] := by
  rw [lookUp_eq]
  refine ⟨mayReport_of_none rfl, ?_⟩
  rintro (error | cached)
  · exact lookUpStored_keeps reference (Tells.nil.silent _ rfl rfl)
  · cases cached with
    | none => exact lookUpStored_keeps reference (Tells.nil.silent _ rfl rfl)
    | some payment => exact reported_nil (Tells.nil.silent _ rfl rfl)

theorem applyChange_keeps (receiver : Webhook.Receiver) (change : Webhook.StatusChange)
    (sourceIp : Option String) (told : Tells talk [] []) :
    Keeps (mayReport ⟨.stripe, sourceIp⟩) (fun talk _ => Reported ⟨.stripe, sourceIp⟩ talk)
      (Webhook.applyChange receiver change sourceIp) talk := by
  refine Keeps.bind (keeps_settle receiver.attempts told fun talk settled told => ?_)
  cases settled with
  | error error => exact reported_nil told
  | ok settled =>
      cases settled with
      | missing => exact reported_nil told
      | unchanged payment => exact reported_nil told
      | rejected payment illegal => exact reported_nil told
      | applied previous payment =>
          refine Keeps.bind (keeps_fanOut told List.mem_cons_self fun talk told => ?_)
          exact reported_singleton told

theorem handle_keeps (receiver : Webhook.Receiver) (delivery : Webhook.Delivery) :
    Keeps (mayReport ⟨.stripe, delivery.sourceIp⟩)
      (fun talk _ => Reported ⟨.stripe, delivery.sourceIp⟩ talk)
      (Webhook.handle receiver delivery) [] := by
  refine Keeps.bind (Keeps.mono
    (fun talk result (reported : Reported ⟨.stripe, delivery.sourceIp⟩ talk) =>
      ⟨mayReport_of_none rfl, fun reply => reported.silent _ rfl rfl⟩) ?_)
  refine keeps_locally rfl fun now => ?_
  have told := Tells.nil.silent ⟨.here .time, now⟩ rfl rfl
  split
  · exact reported_nil told
  · rename_i event _
    split
    · exact reported_nil told
    · exact applyChange_keeps receiver _ delivery.sourceIp told

theorem Operation.keeps (operation : Operation) :
    Keeps (mayReport operation.origin) (fun talk _ => Reported operation.origin talk)
      operation.workflow [] := by
  cases operation with
  | charge service request origin => exact Keeps.bind (process_keeps service request)
  | confirm service reference origin => exact Keeps.bind (confirm_keeps service reference)
  | lookUp reference => exact Keeps.bind (lookUp_keeps reference)
  | deliver receiver delivery => exact Keeps.bind (handle_keeps receiver delivery)

end

end Interleaving

end Payments
