import Payments.Proofs.Interleaving.Conversation
import Payments.Proofs.Interleaving.Stored

/-!
A workflow on its own: nobody acts between its actions. Each of them still meets with circumstances
of its own. A settlement on its own is decided by the record it finds, at its first attempt.
-/

namespace Payments

namespace Settlement

def undisturbed (stored : Option Payment) (update : StatusUpdate) (now : Instant) : Settlement :=
  match stored with
  | none => .missing
  | some current =>
    match current.status.check update.status with
    | .error illegal => .rejected current illegal
    | .ok .unchanged => .unchanged current
    | .ok .advance => .applied current (current.apply update now)

theorem undisturbed_cases (stored : Option Payment) (update : StatusUpdate) (now : Instant) :
    stored = none ∧ undisturbed stored update now = .missing ∨
    ∃ current, stored = some current ∧
      (current.status = update.status ∧
          undisturbed stored update now = .unchanged current ∨
        current.status ≠ update.status ∧ current.status.canMoveTo update.status = false ∧
          undisturbed stored update now = .rejected current ⟨current.status, update.status⟩ ∨
        current.status.canMoveTo update.status = true ∧
          undisturbed stored update now = .applied current (current.apply update now)) := by
  cases stored with
  | none => exact .inl ⟨rfl, rfl⟩
  | some current =>
      refine .inr ⟨current, rfl, ?_⟩
      rw [undisturbed]
      cases checked : current.status.check update.status with
      | error illegal =>
          obtain ⟨different, noMove, rfl⟩ := Status.check_eq_error_iff.mp checked
          exact .inr (.inl ⟨different, noMove, rfl⟩)
      | ok move =>
          cases move with
          | unchanged => exact .inl ⟨Status.check_eq_unchanged_iff.mp checked, rfl⟩
          | advance => exact .inr (.inr ⟨Status.check_eq_advance_iff.mp checked, rfl⟩)

theorem undisturbed_of_canMoveTo {current : Payment} {update : StatusUpdate}
    (legal : current.status.canMoveTo update.status = true) (now : Instant) :
    undisturbed (some current) update now = .applied current (current.apply update now) := by
  simp only [undisturbed, Status.check_eq_advance_iff.mpr legal]

theorem undisturbed_of_not_canMoveTo {current : Payment} {update : StatusUpdate}
    (noMove : current.status.canMoveTo update.status = false) (now : Instant) :
    undisturbed (some current) update now = .unchanged current ∨
      ∃ illegal, undisturbed (some current) update now = .rejected current illegal := by
  by_cases same : current.status = update.status
  · simp only [undisturbed, Status.check_eq_unchanged_iff.mpr same]
    exact .inl trivial
  · simp only [undisturbed, Status.check_eq_error_iff.mpr ⟨same, noMove, rfl⟩]
    exact .inr ⟨_, rfl⟩

def commit (store : Store) : Settlement → Store
  | .applied _ current => store.replace current
  | _ => store

end Settlement

namespace Interleaving

variable {Action : Type} {Reply : Action → Type} {Choice σ α β : Type}

/-- A moment, and what the actions from there on will meet with, one after another. -/
structure Course (Reply : Action → Type) (Choice σ : Type) where
  moment : Moment Reply Choice σ
  ahead : Nat → Choice

def Course.start (state : σ) (ahead : Nat → Choice) : Course Reply Choice σ :=
  ⟨⟨state, []⟩, ahead⟩

section

variable (perform : Choice → (action : Action) → σ → Reply action × σ)

def Course.reply (course : Course Reply Choice σ) (action : Action) : Reply action :=
  (perform (course.ahead 0) action course.moment.state).1

def Course.next (course : Course Reply Choice σ) (action : Action) : Course Reply Choice σ where
  moment := course.moment.next perform 0 (course.ahead 0) action
  ahead := fun n => course.ahead (n + 1)

def alone (workflow : Workflow Action Reply α) (course : Course Reply Choice σ) :
    α × Course Reply Choice σ :=
  workflow.run (fun action course => (course.reply perform action, course.next perform action))
    course

end

section

variable {perform : Choice → (action : Action) → σ → Reply action × σ}

@[simp] theorem alone_done (result : α) (course : Course Reply Choice σ) :
    alone perform (.done result) course = (result, course) := rfl

@[simp] theorem alone_ask (action : Action) (next : Reply action → Workflow Action Reply α)
    (course : Course Reply Choice σ) :
    alone perform (.ask action next) course =
      alone perform (next (course.reply perform action)) (course.next perform action) := rfl

@[simp] theorem alone_bind (workflow : Workflow Action Reply β)
    (next : β → Workflow Action Reply α) (course : Course Reply Choice σ) :
    alone perform (workflow.bind next) course =
      alone perform (next (alone perform workflow course).1) (alone perform workflow course).2 :=
  workflow.run_bind _ next course

theorem ahead_alone (workflow : Workflow Action Reply α) (course : Course Reply Choice σ) :
    ∃ count, (alone perform workflow course).2.ahead = fun n => course.ahead (n + count) := by
  induction workflow generalizing course with
  | done result => exact ⟨0, rfl⟩
  | ask action next ih =>
      obtain ⟨count, onward⟩ := ih (course.reply perform action) (course.next perform action)
      exact ⟨count + 1, onward⟩

theorem Abides.alone {may : Nat → Moment Reply Choice σ → Action → Prop}
    {goal : α → Moment Reply Choice σ → Prop} {workflow : Workflow Action Reply α}
    {course : Course Reply Choice σ}
    (abides : Abides perform may 0 goal workflow course.moment) :
    Leads perform may (· = 0) course.moment (alone perform workflow course).2.moment ∧
      goal (alone perform workflow course).1 (alone perform workflow course).2.moment := by
  induction workflow generalizing course with
  | done result => exact ⟨.refl, abides⟩
  | ask action next ih =>
      obtain ⟨permitted, onward⟩ := abides course.moment .refl
      have rest := @ih (course.reply perform action) (course.next perform action)
        (onward (course.ahead 0))
      exact ⟨.trans (.step _ .refl rfl permitted) rest.1, rest.2⟩

end

def Course.talk (course : Course Reply Choice σ) : List (Exchange Reply) :=
  talkOf 0 course.moment.past

section

variable {perform : Choice → (action : Action) → σ → Reply action × σ}

@[simp] theorem talk_next (course : Course Reply Choice σ) (action : Action) :
    (course.next perform action).talk = course.talk ++ [⟨action, course.reply perform action⟩] :=
  talkOf_next course.moment 0 (course.ahead 0) action

theorem talk_prefix_alone (workflow : Workflow Action Reply α) (course : Course Reply Choice σ) :
    course.talk <+: (alone perform workflow course).2.talk := by
  induction workflow generalizing course with
  | done result => exact List.prefix_rfl
  | ask action next ih =>
      have asked : course.talk <+: (course.next perform action).talk := by
        rw [talk_next]
        exact List.prefix_append _ _
      exact asked.trans (ih _ _)

theorem Keeps.alone {may : List (Exchange Reply) → Action → Prop}
    {goal : List (Exchange Reply) → α → Prop} {workflow : Workflow Action Reply α}
    {course : Course Reply Choice σ} (keeps : Keeps may goal workflow course.talk) :
    goal (alone perform workflow course).2.talk (alone perform workflow course).1 := by
  have abides : Abides perform (allowedBy fun _ => may) 0 (metBy (fun _ => goal) 0) workflow
    course.moment := Keeps.abides keeps
  exact abides.alone.2

theorem Keeps.alone_start {may : List (Exchange Reply) → Action → Prop}
    {goal : List (Exchange Reply) → α → Prop} {workflow : Workflow Action Reply α}
    (keeps : Keeps may goal workflow []) (perform : Choice → (action : Action) → σ → Reply action × σ)
    (state : σ) (ahead : Nat → Choice) :
    let ended := Interleaving.alone perform workflow (.start state ahead)
    goal ended.2.talk ended.1 := by
  have begun : Keeps may goal workflow (Course.start state ahead : Course Reply Choice σ).talk := keeps
  exact begun.alone

theorem Asks.alone_start {only : Action → Prop} {workflow : Workflow Action Reply α}
    (asks : Asks only workflow) (perform : Choice → (action : Action) → σ → Reply action × σ)
    (state : σ) (ahead : Nat → Choice) :
    ∀ said ∈ (alone perform workflow (.start state ahead)).2.talk, only said.action := by
  obtain ⟨more, all, each⟩ := asks.keeps.alone_start perform state ahead
  rw [all]
  exact each

end

namespace StoreAccess

variable {perform : Choice → (action : Action) → σ → Reply action × σ}

def settled (access : StoreAccess perform) (course : Course Reply Choice σ) (reference : Reference)
    (update : StatusUpdate) : Course Reply Choice σ :=
  match access.stored course.moment.state reference with
  | none => course.next perform (access.ask (.find reference))
  | some current =>
    (course.next perform (access.ask (.find reference))).next perform
      (access.ask (.update reference current.version update))

variable (access : StoreAccess perform) (course : Course Reply Choice σ) (reference : Reference)
  (update : StatusUpdate)

theorem alone_within_ask (action : StoreAction) (resume : action.Reply → StoreWorkflow α) :
    alone perform (access.within (.ask action resume)) course =
      alone perform
        (access.within (resume (access.reply course.moment.state (course.ahead 0) action)))
        (course.next perform (access.ask action)) := by
  rw [reply, access.asked]
  rfl

theorem store_of_next (action : StoreAction) :
    access.store (course.next perform (access.ask action)).moment.state =
      ((access.store course.moment.state).act (access.stamp (course.ahead 0)) action).2 :=
  access.store_next course.moment 0 (course.ahead 0) action

theorem once_alone (onConflict : StoreError → StoreWorkflow (Except StoreError Settlement)) :
    alone perform (access.within (Settlement.once reference update onConflict)) course =
      (.ok (.undisturbed (access.stored course.moment.state reference) update
          (access.stamp (course.ahead 1)).now),
        access.settled course reference update) := by
  have found : access.reply course.moment.state (course.ahead 0) (.find reference) =
    .ok (access.stored course.moment.state reference) := rfl
  rw [Settlement.once, alone_within_ask, found, settled]
  cases stored : access.stored course.moment.state reference with
  | none => rfl
  | some current =>
      have still := access.store_of_next course (.find reference)
      have acted := Store.act_update stored current.version update (access.stamp (course.ahead 1))
      rw [if_pos rfl] at acted
      have replied : access.reply (course.next perform (access.ask (.find reference))).moment.state
          ((course.next perform (access.ask (.find reference))).ahead 0)
          (.update reference current.version update) = _ :=
        congrArg Prod.fst ((congrArg (Store.act _ _) still).trans acted)
      simp only
      rw [alone_within_ask, replied, Settlement.undisturbed]
      cases current.status.check update.status with
      | error illegal => rfl
      | ok move => cases move <;> rfl

theorem settle_alone (attempts : Nat) :
    alone perform (access.within (Settlement.settle reference update attempts)) course =
      (.ok (.undisturbed (access.stored course.moment.state reference) update
          (access.stamp (course.ahead 1)).now),
        access.settled course reference update) := by
  unfold Settlement.settle
  cases attempts - 1 with
  | zero => exact access.once_alone course reference update _
  | succ more => exact access.once_alone course reference update _

theorem store_settled :
    access.store (access.settled course reference update).moment.state =
      (Settlement.undisturbed (access.stored course.moment.state reference) update
        (access.stamp (course.ahead 1)).now).commit (access.store course.moment.state) := by
  have still : access.store (course.next perform (access.ask (.find reference))).moment.state =
    access.store course.moment.state := access.store_of_next course (.find reference)
  rw [settled]
  cases stored : access.stored course.moment.state reference with
  | none => exact still
  | some current =>
      have acted := Store.act_update stored current.version update (access.stamp (course.ahead 1))
      rw [if_pos rfl] at acted
      simp only
      rw [store_of_next, still]
      change (Store.act (access.stamp (course.ahead 1)) _ _).2 = _
      rw [acted, Settlement.undisturbed]
      cases current.status.check update.status with
      | error illegal => rfl
      | ok move => cases move <;> rfl

end StoreAccess

end Interleaving

end Payments
