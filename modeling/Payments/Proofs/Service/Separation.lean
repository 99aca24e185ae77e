import Payments.Proofs.Service.Confined
import Payments.Proofs.Service.Confirm
import Payments.Proofs.Webhook.Delivery

/-!
Operations on different references keep out of each other's way. They are carried out one after
another, each with its own supply of identifiers, times and replies of the gateway. Without those on
other references a run goes the same way for a reference, and two next to each other may change
places.
-/

namespace Payments.Interleaving

open Gateway ServiceWorkflow

def toldAhead {α : Type} (workflow : GatewayWorkflow α) (ahead : Nat → Circumstances) : α :=
  (workflow.run (fun action ahead => ((ahead 0).gateway action, fun n => ahead (n + 1))) ahead).1

/-- The reference under which the gateway charges for a request, if it comes to that. -/
def chargedReference? (service : PaymentService) (request : ChargeRequest)
    (ahead : Nat → Circumstances) : Option Reference :=
  (acceptable service.client.limits request).toOption.bind fun charge =>
    ((toldAhead (service.client.submit charge (ahead 0).stamp.id) fun n =>
      ahead (n + 1)).bind Except.toOption).map (·.reference)

/-- The reference that a delivery asks a change of, if it is taken at its word. -/
def deliveredReference? (receiver : Webhook.Receiver) (delivery : Webhook.Delivery)
    (ahead : Nat → Circumstances) : Option Reference :=
  (Webhook.decode receiver.endpoint delivery.payload delivery.signature
    (timeAhead ahead)).toOption.bind fun event => event.change.map (·.reference)

/-- The reference that an operation is about: its request, the gateway or a payload names it. -/
def referenceOf? (ahead : Nat → Circumstances) : Operation → Option Reference
  | .charge service request _ => chargedReference? service request ahead
  | .confirm _ reference _ | .lookUp reference => some reference
  | .deliver receiver delivery => deliveredReference? receiver delivery ahead

inductive Job
  | act (action : LocalAction) (known : action.about?.isSome = true)
  | serve (operation : Operation)

namespace Job

abbrev Result : Job → Type
  | .act action _ => action.Reply
  | .serve _ => Answer

def workflow : (job : Job) → ServiceWorkflow job.Result
  | .act action _ => locally action
  | .serve operation => operation.workflow

end Job

/-- A job, and what its actions will meet with, one after another. -/
structure Task where
  job : Job
  ahead : Nat → Circumstances

structure Done where
  task : Task
  result : task.job.Result

namespace Task

def about? (task : Task) : Option String :=
  match task.job with
  | .act action _ => action.about?
  | .serve operation => (referenceOf? task.ahead operation).map Reference.text

def isElsewhere (text : String) (task : Task) : Bool := task.about?.any (· ≠ text)

def carryOut (task : Task) (world : World) : task.job.Result × World :=
  let (result, ended) := alone World.perform task.job.workflow (.start world task.ahead)
  (result, ended.moment.state)

end Task

def carryOutAll : List Task → World → List Done × World
  | [], world => ([], world)
  | task :: tasks, world =>
    let (result, after) := task.carryOut world
    let (later, ended) := carryOutAll tasks after
    (⟨task, result⟩ :: later, ended)

section

variable {α : Type} {scope : Option String} {course : ServiceCourse} {reference : Reference}

theorem Confined.ask {action : Action} {next : action.Reply → ServiceWorkflow α}
    (within : action.Within scope)
    (onward : ∀ reply, course.reply World.perform action = reply →
      Confined scope (next reply) (course.next World.perform action)) :
    Confined scope (.ask action next) course := ⟨within, onward _ rfl⟩

theorem Confined.locally {action : LocalAction} {next : action.Reply → ServiceWorkflow α}
    (within : Action.Within scope (.here action))
    (onward : ∀ reply, course.reply World.perform (.here action) = reply →
      Confined scope (next reply) (course.next World.perform (.here action))) :
    Confined scope ((locally action).bind next) course := ⟨within, onward _ rfl⟩

theorem within_own {action : LocalAction} (about : action.about? = some reference.text) :
    Action.Within (some reference.text) (.here action) := .inr ⟨_, about, rfl⟩

theorem alone_ofGateway (workflow : GatewayWorkflow α) :
    (alone World.perform (ofGateway workflow) course).1 = toldAhead workflow course.ahead := by
  induction workflow generalizing course with
  | done result => rfl
  | ask action next ih => exact ih _

theorem confined_announce {commit : Commit} (own : commit.payment.reference = reference)
    (result : α) :
    Confined (some reference.text) ((fanOut commit).bind fun _ => .done result) course := by
  subst own
  exact (confined_fanOut commit).bind trivial

theorem confined_putOnRecord (valid : ValidCharge) (result : ChargeResult) (origin : Origin) :
    Confined (some result.reference.text) (putOnRecord valid result origin) course := by
  refine Confined.ask (within_own rfl) fun reply created => ?_
  cases stored : course.moment.state.store.find? result.reference with
  | some record =>
      have acted := @Store.act_create_present _ (newPayment valid result) record stored
        (course.ahead 0).stamp
      have replied : reply = .error (.duplicate result.reference.text) := by
        rw [← created]
        exact congrArg Prod.fst acted
      subst replied
      refine Confined.ask (within_own rfl) fun reply _ => ?_
      rcases reply with error | _ | record <;> trivial
  | none =>
      have acted := @Store.act_create_absent _ (newPayment valid result) stored
        (course.ahead 0).stamp
      have replied : reply = .ok ((newPayment valid result).record (course.ahead 0).stamp) := by
        rw [← created]
        exact congrArg Prod.fst acted
      subst replied
      exact confined_announce rfl _

theorem confined_charge (service : PaymentService) (request : ChargeRequest) (origin : Origin) :
    Confined ((chargedReference? service request course.ahead).map Reference.text)
      (service.charge request origin) course := by
  unfold PaymentService.charge chargedReference?
  cases acceptable service.client.limits request with
  | error refusal => trivial
  | ok valid =>
      refine ⟨.inl rfl, (confined_ofGateway _).bind ?_⟩
      have told := @alone_ofGateway _ (course.next World.perform (.here .fresh))
        (service.client.submit valid (course.reply World.perform (.here .fresh)))
      rw [told]
      change Confined (Option.map Reference.text (Option.map (·.reference)
        ((toldAhead (service.client.submit valid (course.reply World.perform (.here .fresh)))
          (course.next World.perform (.here .fresh)).ahead).bind Except.toOption))) _ _
      rcases toldAhead (service.client.submit valid (course.reply World.perform (.here .fresh)))
          (course.next World.perform (.here .fresh)).ahead with _ | error | result
      · trivial
      · trivial
      · exact (confined_putOnRecord valid result origin).bind trivial

theorem confined_process (service : PaymentService) (request : ChargeRequest) (origin : Origin) :
    Confined ((chargedReference? service request course.ahead).map Reference.text)
      (service.process request origin) course := by
  refine (confined_charge service request origin).bind ?_
  rcases (alone World.perform (service.charge request origin) course).1 with _ | error | receipt
  · trivial
  · exact ⟨.inl rfl, trivial⟩
  · exact ⟨.inl rfl, trivial⟩

theorem confined_follow (service : PaymentService) (reference : Reference) (result : ChargeResult)
    (origin : Origin) :
    Confined (some reference.text) (service.follow reference result origin) course := by
  refine Confined.settle fun settlement later own => ?_
  cases settlement with
  | applied previous current => exact confined_announce (own previous current rfl) _
  | _ => trivial

theorem confined_confirm (service : PaymentService) (reference : Reference) (origin : Origin) :
    Confined (some reference.text) (service.confirm reference origin) course := by
  rw [confirm_eq]
  refine Confined.ask (within_own rfl) fun reply _ => ?_
  rcases reply with error | _ | record
  · trivial
  · trivial
  refine (confined_ofGateway _).bind ?_
  rcases (alone World.perform (ofGateway (service.client.confirm reference)) _).1 with
    _ | error | result
  · trivial
  · trivial
  · exact (confined_follow service reference result origin).bind trivial

theorem confined_lookUp (reference : Reference) :
    Confined (some reference.text) (lookUp reference) course := by
  have stored : ∀ later : ServiceCourse,
      Confined (some reference.text) (lookUpStored reference) later := by
    intro later
    refine Confined.ask (within_own rfl) fun reply found => ?_
    rcases reply with error | _ | payment
    · trivial
    · trivial
    · have own : payment.reference = reference := Store.find?_reference (Except.ok.inj found)
      exact ⟨within_own (congrArg (some ∘ Reference.text) own), trivial⟩
  rw [lookUp_eq]
  refine Confined.ask (within_own rfl) fun reply _ => ?_
  rcases reply with error | _ | payment
  · exact stored _
  · exact stored _
  · trivial

theorem confined_handle (receiver : Webhook.Receiver) (delivery : Webhook.Delivery) :
    Confined ((deliveredReference? receiver delivery course.ahead).map Reference.text)
      (Webhook.handle receiver delivery) course := by
  refine Confined.bind ?_ ⟨.inl rfl, trivial⟩
  refine Confined.locally (.inl rfl) fun now isNow => ?_
  have time : timeAhead course.ahead = now := isNow
  rw [deliveredReference?, time]
  cases Webhook.decode receiver.endpoint delivery.payload delivery.signature now with
  | error error => trivial
  | ok event =>
      dsimp only [Except.toOption, Option.bind_some]
      cases event.change with
      | none => trivial
      | some change =>
          refine Confined.settle fun settlement later own => ?_
          cases settlement with
          | applied previous current => exact confined_announce (own previous current rfl) _
          | _ => trivial

theorem Task.confined (task : Task) (world : World) :
    Confined task.about? task.job.workflow (.start world task.ahead) := by
  obtain ⟨job, ahead⟩ := task
  cases job with
  | act action known =>
      obtain ⟨text, about⟩ := Option.isSome_iff_exists.mp known
      exact ⟨.inr ⟨text, about, about⟩, trivial⟩
  | serve operation =>
      cases operation with
      | charge service request origin =>
          have confined := @confined_process (.start world ahead) service request origin
          exact confined.bind trivial
      | confirm service reference origin =>
          have confined := @confined_confirm (.start world ahead) service reference origin
          exact confined.bind trivial
      | lookUp reference =>
          have confined := @confined_lookUp (.start world ahead) reference
          exact confined.bind trivial
      | deliver receiver delivery =>
          have confined := @confined_handle (.start world ahead) receiver delivery
          exact confined.bind trivial

/-- A charge is about the reference that the gateway answers with. -/
example : Task.about? ⟨.serve (.charge shop shopping ⟨.system, none⟩), fun _ => cooperative⟩ =
    some "pi_3" := by rfl

end

section

variable {text : String} {world other : World} {task : Task}

theorem Task.not_isElsewhere_iff :
    task.isElsewhere text = false ↔ ∀ known, task.about? = some known → known = text := by
  unfold isElsewhere
  cases task.about? <;> simp

theorem Task.about?_ne_of_isElsewhere (elsewhere : task.isElsewhere text = true) :
    task.about? ≠ some text := by
  intro about
  simp [isElsewhere, about] at elsewhere

theorem Task.agrees (apart : task.about? ≠ some text) (world : World) :
    world.Agrees text (task.carryOut world).2 := (task.confined world).agrees apart

theorem Task.beside (own : task.isElsewhere text = false) (agrees : world.Agrees text other) :
    (task.carryOut world).1 = (task.carryOut other).1 ∧
      (task.carryOut world).2.Agrees text (task.carryOut other).2 := by
  obtain ⟨same, beside⟩ := (task.confined world).beside (Task.not_isElsewhere_iff.mp own)
    (⟨rfl, agrees⟩ : (Course.start world task.ahead).Beside text (.start other task.ahead))
  exact ⟨same, beside.agrees⟩

theorem carryOutAll_filter (tasks : List Task) (agrees : other.Agrees text world) :
    (carryOutAll (tasks.filter fun task => !task.isElsewhere text) other).1 =
        (carryOutAll tasks world).1.filter (fun done => !done.task.isElsewhere text) ∧
      (carryOutAll (tasks.filter fun task => !task.isElsewhere text) other).2.Agrees text
        (carryOutAll tasks world).2 := by
  induction tasks generalizing world other with
  | nil => exact ⟨rfl, agrees⟩
  | cons task tasks ih =>
      cases elsewhere : task.isElsewhere text with
      | true =>
          have onward := agrees.trans (task.agrees (Task.about?_ne_of_isElsewhere elsewhere) world)
          simpa [carryOutAll, elsewhere] using ih onward
      | false =>
          obtain ⟨same, onward⟩ := Task.beside elsewhere agrees
          simpa [carryOutAll, elsewhere, same] using ih onward

theorem Task.result_eq_of_apart {earlier : Task} (about : task.about? = some text)
    (apart : earlier.about? ≠ some text) (world : World) :
    (task.carryOut (earlier.carryOut world).2).1 = (task.carryOut world).1 := by
  have own : task.isElsewhere text = false := by simp [isElsewhere, about]
  exact (Task.beside own (earlier.agrees apart world)).1.symm

end

/-- References do not interfere. If the tasks on other references are left out of a run, the others
come to the same, and of this reference the same is held at the end; two tasks on different
references come to the same in either order, and leave the same behind of every reference. -/
theorem references_separate (world : World) (tasks : List Task) (reference : Reference) :
    (let whole := carryOutAll tasks world
      let own := carryOutAll (tasks.filter fun task => !task.isElsewhere reference.text) world
      own.1 = whole.1.filter (fun done => !done.task.isElsewhere reference.text) ∧
        own.2.Agrees reference.text whole.2) ∧
    ∀ (first second : Task) (one another : String), first.about? = some one →
      second.about? = some another → one ≠ another →
      let onward := carryOutAll [first, second] world
      let swapped := carryOutAll [second, first] world
      onward.1 = swapped.1.reverse ∧ ∀ text, onward.2.Agrees text swapped.2 := by
  refine ⟨carryOutAll_filter tasks (.refl _ _), ?_⟩
  intro first second one another aboutFirst aboutSecond different onward swapped
  refine ⟨?_, fun text => ?_⟩
  · have firstApart : first.about? ≠ some another := by simpa [aboutFirst] using different
    have secondApart : second.about? ≠ some one := by simpa [aboutSecond] using different.symm
    have firstSame := Task.result_eq_of_apart aboutFirst secondApart world
    have secondSame := Task.result_eq_of_apart aboutSecond firstApart world
    simp [onward, swapped, carryOutAll, firstSame, secondSame]
  · have left : ([first, second].filter fun task => !task.isElsewhere text) =
        [second, first].filter fun task => !task.isElsewhere text := by
      by_cases own : one = text
      · have elsewhere : second.isElsewhere text = true := by
          simpa [Task.isElsewhere, aboutSecond, ← own] using different.symm
        simp [List.filter_cons, elsewhere]
      · have elsewhere : first.isElsewhere text = true := by
          simpa [Task.isElsewhere, aboutFirst] using own
        simp [List.filter_cons, elsewhere]
    have kept := (carryOutAll_filter [first, second] (.refl text world)).2
    rw [left] at kept
    exact kept.symm.trans (carryOutAll_filter [second, first] (.refl text world)).2

end Payments.Interleaving
