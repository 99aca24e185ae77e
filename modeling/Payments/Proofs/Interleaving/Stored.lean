import Payments.Proofs.Interleaving.Basic
import Payments.Proofs.Store.Lineage
import Payments.Store.Settle

/-!
Interleavings over a state that holds a store. Between any two moments the stored record of a
reference goes through a lineage, namely through the records that the steps in between committed.
-/

namespace Payments.Interleaving

variable {Action : Type} {Reply : Action → Type} {Choice σ : Type}
  {perform : Choice → (action : Action) → σ → Reply action × σ}

/-- The store within a state, and the record that each action commits to it. -/
structure StoreView (perform : Choice → (action : Action) → σ → Reply action × σ) where
  store : σ → Store
  committed? : (action : Action) → Reply action → Option Payment
  commit : ∀ choice action state,
    (store state).Commit (committed? action (perform choice action state).1)
      (store (perform choice action state).2)

namespace StoreView

variable (view : StoreView perform)

def stored (state : σ) (reference : Reference) : Option Payment :=
  (view.store state).find? reference

def record? (step : Step Reply Choice σ) : Option Payment :=
  view.committed? step.action step.reply

def commits (reference : Reference) (step : Step Reply Choice σ) : Bool :=
  (view.record? step).any (·.reference = reference)

def recordsOf (reference : Reference) (steps : List (Step Reply Choice σ)) : List Payment :=
  Store.recordsOf reference (steps.filterMap view.record?)

@[simp] theorem recordsOf_append (reference : Reference)
    (earlier later : List (Step Reply Choice σ)) :
    view.recordsOf reference (earlier ++ later) =
      view.recordsOf reference earlier ++ view.recordsOf reference later := by
  simp [recordsOf]

theorem recordsOf_singleton (reference : Reference) (step : Step Reply Choice σ) :
    view.recordsOf reference [step] = Store.recordsOf reference (view.record? step).toList := by
  cases recorded : view.record? step <;> simp [recordsOf, recorded]

theorem mem_recordsOf {reference : Reference} {steps : List (Step Reply Choice σ)}
    {record : Payment} :
    record ∈ view.recordsOf reference steps ↔
      (∃ step ∈ steps, view.record? step = some record) ∧ record.reference = reference := by
  simp [recordsOf, Store.mem_recordsOf]

theorem length_recordsOf (reference : Reference) (steps : List (Step Reply Choice σ)) :
    (view.recordsOf reference steps).length = steps.countP (view.commits reference) := by
  induction steps with
  | nil => rfl
  | cons step steps ih =>
      rw [← List.singleton_append, recordsOf_append, List.length_append, ih, List.countP_append,
        recordsOf_singleton]
      congr 1
      cases recorded : view.record? step with
      | none => simp [commits, recorded]
      | some record =>
          by_cases own : record.reference = reference <;>
            simp [Store.recordsOf, commits, recorded, own]

theorem commit_step (moment : Moment Reply Choice σ) (client : Nat) (choice : Choice)
    (action : Action) :
    (view.store moment.state).Commit (view.record? (moment.step perform client choice action))
      (view.store (moment.next perform client choice action).state) :=
  view.commit choice action moment.state

end StoreView

theorem Leads.lineage {may : Nat → Moment Reply Choice σ → Action → Prop} {who : Nat → Prop}
    {start moment : Moment Reply Choice σ} (leads : Leads perform may who start moment)
    (view : StoreView perform) (reference : Reference) :
    ∃ steps, moment.past = start.past ++ steps ∧ (∀ step ∈ steps, who step.client) ∧
      Payment.Lineage (view.stored start.state reference) (view.recordsOf reference steps)
        (view.stored moment.state reference) := by
  induction leads with
  | refl => exact ⟨[], by simp, by simp, .refl⟩
  | @step moment client action choice _ chosen _ ih =>
      obtain ⟨steps, grown, selected, lineage⟩ := ih
      refine ⟨steps ++ [moment.step perform client choice action], ?_, ?_, ?_⟩
      · simp only [Moment.next, grown, List.append_assoc]
      · intro step member
        rcases List.mem_append.mp member with old | new
        · exact selected step old
        · rw [List.mem_singleton.mp new]
          exact chosen
      · rw [view.recordsOf_append, view.recordsOf_singleton]
        exact lineage.trans
          ((view.commit_step moment client choice action).lineage reference)

theorem Leads.lineage_past {may : Nat → Moment Reply Choice σ → Action → Prop} {who : Nat → Prop}
    {state : σ} {moment : Moment Reply Choice σ} (leads : Leads perform may who ⟨state, []⟩ moment)
    (view : StoreView perform) (reference : Reference) :
    Payment.Lineage (view.stored state reference) (view.recordsOf reference moment.past)
      (view.stored moment.state reference) := by
  obtain ⟨steps, grown, _, lineage⟩ := leads.lineage view reference
  have whole : moment.past = steps := grown
  rwa [whole]

def StoreView.advances (view : StoreView perform) (reference : Reference)
    (step : Step Reply Choice σ) : Bool :=
  view.commits reference step && (view.stored step.before reference).isSome

namespace StoreView

variable {view : StoreView perform} {step : Step Reply Choice σ} {record : Payment}

theorem advances_eq_of_stored {own : Reference} {previous : Payment}
    (recorded : view.record? step = some record) (same : record.reference = own)
    (stored : view.stored step.before own = some previous) (reference : Reference) :
    view.advances reference step = decide (own = reference) := by
  by_cases hit : own = reference
  · subst hit
    simp [advances, commits, recorded, same, stored]
  · simp [advances, commits, recorded, same, hit]

theorem advances_eq_of_absent (recorded : view.record? step = some record)
    (absent : view.stored step.before record.reference = none) (reference : Reference) :
    view.advances reference step = false := by
  by_cases hit : record.reference = reference
  · subst hit
    simp [advances, absent]
  · simp [advances, commits, recorded, hit]

end StoreView

theorem Leads.counted {may : Nat → Moment Reply Choice σ → Action → Prop} {who : Nat → Prop}
    {start moment : Moment Reply Choice σ} (leads : Leads perform may who start moment)
    (view : StoreView perform) (reference : Reference) :
    ∃ steps, moment.past = start.past ++ steps ∧
      Payment.Counted (view.stored start.state reference)
        (steps.countP (view.advances reference)) (view.stored moment.state reference) := by
  induction leads with
  | refl => exact ⟨[], by simp, .refl _⟩
  | @step moment client action choice _ _ _ ih =>
      obtain ⟨steps, grown, counted⟩ := ih
      refine ⟨steps ++ [moment.step perform client choice action], ?_, ?_⟩
      · simp only [Moment.next, grown, List.append_assoc]
      have commit := view.commit_step moment client choice action
      rw [List.countP_append, List.countP_singleton]
      cases recorded : view.record? (moment.step perform client choice action) with
      | none =>
          rw [recorded] at commit
          have same : view.stored (moment.next perform client choice action).state reference =
            view.stored moment.state reference := congrArg (·.find? reference) commit.eq_of_none
          rw [same]
          simpa [StoreView.advances, StoreView.commits, recorded] using counted
      | some record =>
          rw [recorded] at commit
          have found : view.stored (moment.next perform client choice action).state reference =
            if record.reference = reference then some record
            else view.stored moment.state reference := commit.find? reference
          rw [found]
          by_cases own : record.reference = reference
          · have follows := commit.follows
            rw [own] at follows
            have before : (moment.step perform client choice action).before = moment.state := rfl
            simpa [StoreView.advances, StoreView.commits, recorded, own, before] using
              counted.follows follows
          · simpa [StoreView.advances, StoreView.commits, recorded, own] using counted

/-- How the store within a state is asked: which action asks for a store action, and how its reply
answers it. -/
structure StoreAccess (perform : Choice → (action : Action) → σ → Reply action × σ) extends
    StoreView perform where
  stamp : Choice → Stamp
  ask : StoreAction → Action
  answer : (action : StoreAction) → Reply (ask action) → action.Reply
  asked : ∀ choice action state,
    (store state).act (stamp choice) action =
      (answer action (perform choice (ask action) state).1,
        store (perform choice (ask action) state).2)
  recorded : ∀ action reply,
    committed? (ask action) reply = action.committed? (answer action reply)

namespace StoreAccess

def carryOut (access : StoreAccess perform) (action : StoreAction) :
    Workflow Action Reply action.Reply :=
  .ask (access.ask action) fun reply => .done (access.answer action reply)

def within {α : Type} (access : StoreAccess perform) (workflow : StoreWorkflow α) :
    Workflow Action Reply α :=
  workflow.interpret access.carryOut

def reply (access : StoreAccess perform) (state : σ) (choice : Choice) (action : StoreAction) :
    action.Reply :=
  ((access.store state).act (access.stamp choice) action).1

def next (access : StoreAccess perform) (moment : Moment Reply Choice σ) (client : Nat)
    (choice : Choice) (action : StoreAction) : Moment Reply Choice σ :=
  moment.next perform client choice (access.ask action)

def step (access : StoreAccess perform) (moment : Moment Reply Choice σ) (client : Nat)
    (choice : Choice) (action : StoreAction) : Step Reply Choice σ :=
  moment.step perform client choice (access.ask action)

section

variable (access : StoreAccess perform)

theorem past_next (moment : Moment Reply Choice σ) (client : Nat) (choice : Choice)
    (action : StoreAction) :
    (access.next moment client choice action).past =
      moment.past ++ [access.step moment client choice action] := rfl

theorem store_next (moment : Moment Reply Choice σ) (client : Nat) (choice : Choice)
    (action : StoreAction) :
    access.store (access.next moment client choice action).state =
      ((access.store moment.state).act (access.stamp choice) action).2 := by
  rw [access.asked]
  rfl

theorem record?_step (moment : Moment Reply Choice σ) (client : Nat) (choice : Choice)
    (action : StoreAction) :
    access.record? (access.step moment client choice action) =
      action.committed? (access.reply moment.state choice action) := by
  rw [reply, access.asked]
  exact access.recorded action _

end

variable {access : StoreAccess perform} {may : Nat → Moment Reply Choice σ → Action → Prop}
  {client : Nat}

theorem abides_ask {α : Type} {goal : α → Moment Reply Choice σ → Prop} {action : StoreAction}
    {resume : action.Reply → StoreWorkflow α} {moment : Moment Reply Choice σ}
    (abides : ∀ later, Leads perform may (· ≠ client) moment later →
      may client later (access.ask action) ∧
      ∀ choice, Abides perform may client goal
        (access.within (resume (access.reply later.state choice action)))
        (access.next later client choice action)) :
    Abides perform may client goal (access.within (.ask action resume)) moment := by
  intro later others
  obtain ⟨permitted, onward⟩ := abides later others
  refine ⟨permitted, ?_⟩
  intro choice
  have answered := onward choice
  rw [reply, access.asked] at answered
  exact answered

end StoreAccess

def storeAccess : StoreAccess Store.act where
  store := id
  committed? := StoreAction.committed?
  commit := fun stamp action store => store.act_commit stamp action
  stamp := id
  ask := id
  answer := fun _ reply => reply
  asked := fun _ _ _ => rfl
  recorded := fun _ _ => rfl

theorem within_storeAccess {α : Type} (workflow : StoreWorkflow α) :
    storeAccess.within workflow = workflow := by
  induction workflow with
  | done result => rfl
  | ask action next ih =>
      have resumed : (fun reply => storeAccess.within (next reply)) = next := funext ih
      exact congrArg (Workflow.ask action) resumed

end Payments.Interleaving
