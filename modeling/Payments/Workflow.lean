/-!
Workflows: computations that ask their surroundings to act, one action at a time, and go on with
each reply. What an action does is not part of the workflow, so that the same workflow can run on
its own, between the steps of others, or against surroundings that answer as they like.
-/

namespace Payments

inductive Workflow (Action : Type) (Reply : Action → Type) (α : Type) : Type
  | done (result : α)
  | ask (action : Action) (next : Reply action → Workflow Action Reply α)

namespace Workflow

variable {Action : Type} {Reply : Action → Type} {α β σ : Type}

def bind (workflow : Workflow Action Reply α) (next : α → Workflow Action Reply β) :
    Workflow Action Reply β :=
  match workflow with
  | .done result => next result
  | .ask action resume => .ask action fun reply => (resume reply).bind next

instance : Monad (Workflow Action Reply) where
  pure := .done
  bind := bind

/-- Every action carried out by a workflow over other actions. -/
def interpret {Action' : Type} {Reply' : Action' → Type}
    (carryOut : (action : Action) → Workflow Action' Reply' (Reply action)) :
    Workflow Action Reply α → Workflow Action' Reply' α
  | .done result => .done result
  | .ask action next => (carryOut action).bind fun reply => (next reply).interpret carryOut

def run (step : (action : Action) → σ → Reply action × σ) : Workflow Action Reply α → σ → α × σ
  | .done result, state => (result, state)
  | .ask action next, state =>
    let (reply, state) := step action state
    (next reply).run step state

@[simp] theorem pure_eq_done (result : α) :
    (pure result : Workflow Action Reply α) = .done result := rfl

@[simp] theorem bind_eq (workflow : Workflow Action Reply α)
    (next : α → Workflow Action Reply β) : workflow >>= next = workflow.bind next := rfl

@[simp] theorem done_bind (result : α) (next : α → Workflow Action Reply β) :
    (done result : Workflow Action Reply α).bind next = next result := rfl

@[simp] theorem ask_bind (action : Action) (reply : Reply action → Workflow Action Reply α)
    (next : α → Workflow Action Reply β) :
    (ask action reply).bind next = .ask action fun r => (reply r).bind next := rfl

theorem run_bind (step : (action : Action) → σ → Reply action × σ)
    (workflow : Workflow Action Reply α) (next : α → Workflow Action Reply β) (state : σ) :
    (workflow.bind next).run step state =
      (next (workflow.run step state).1).run step (workflow.run step state).2 := by
  induction workflow generalizing state with
  | done result => rfl
  | ask action resume ih => simp only [ask_bind, run, ih]

end Workflow

end Payments
