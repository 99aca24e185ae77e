import Payments.Proofs.Interleaving.Basic

/-!
What a single client asks for and is told, apart from all others. Whatever a workflow keeps to under
any replies it keeps to in every interleaving, so such promises are read off the workflow alone. What
happened in a run is made up of what happened to each of its clients.
-/

namespace Payments.Interleaving

variable {Action : Type} {Reply : Action → Type} {Choice σ α β : Type}

structure Exchange (Reply : Action → Type) where
  action : Action
  reply : Reply action

def Step.exchange (step : Step Reply Choice σ) : Exchange Reply := ⟨step.action, step.reply⟩

def stepsOf (client : Nat) (past : List (Step Reply Choice σ)) : List (Step Reply Choice σ) :=
  past.filter (·.client = client)

def talkOf (client : Nat) (past : List (Step Reply Choice σ)) : List (Exchange Reply) :=
  (stepsOf client past).map Step.exchange

/-- Whatever it is told, the workflow only asks for what it may, and comes to a result that meets
its goal; both may depend on what was said so far. -/
def Keeps (may : List (Exchange Reply) → Action → Prop) (goal : List (Exchange Reply) → α → Prop) :
    Workflow Action Reply α → List (Exchange Reply) → Prop
  | .done result, talk => goal talk result
  | .ask action next, talk =>
    may talk action ∧ ∀ reply, Keeps may goal (next reply) (talk ++ [⟨action, reply⟩])

section

variable {past steps : List (Step Reply Choice σ)} {client : Nat}

theorem talkOf_append :
    talkOf client (past ++ steps) = talkOf client past ++ talkOf client steps := by
  simp [talkOf, stepsOf]

theorem mem_talkOf {said : Exchange Reply} :
    said ∈ talkOf client past ↔ ∃ step ∈ past, step.client = client ∧ step.exchange = said := by
  simp [talkOf, stepsOf, and_assoc]

theorem talkOf_others (others : ∀ step ∈ steps, step.client ≠ client) :
    talkOf client steps = [] := by
  simpa [talkOf, stepsOf] using others

theorem talkOf_own {step : Step Reply Choice σ} (own : step.client = client) :
    talkOf client [step] = [step.exchange] := by
  simp [talkOf, stepsOf, own]

end

section

variable {may : List (Exchange Reply) → Action → Prop} {goal : List (Exchange Reply) → α → Prop}
  {talk : List (Exchange Reply)}

theorem Keeps.mono {weaker : List (Exchange Reply) → α → Prop}
    (implies : ∀ talk result, goal talk result → weaker talk result)
    {workflow : Workflow Action Reply α} (keeps : Keeps may goal workflow talk) :
    Keeps may weaker workflow talk := by
  induction workflow generalizing talk with
  | done result => exact implies talk result keeps
  | ask action next ih => exact ⟨keeps.1, fun reply => ih reply (keeps.2 reply)⟩

theorem Keeps.bind {workflow : Workflow Action Reply β} {next : β → Workflow Action Reply α}
    (keeps : Keeps may (fun talk result => Keeps may goal (next result) talk) workflow talk) :
    Keeps may goal (workflow.bind next) talk := by
  induction workflow generalizing talk with
  | done result => exact keeps
  | ask action resume ih => exact ⟨keeps.1, fun reply => ih reply (keeps.2 reply)⟩

theorem Keeps.permit {wider : List (Exchange Reply) → Action → Prop}
    (implies : ∀ talk action, may talk action → wider talk action)
    {workflow : Workflow Action Reply α} (keeps : Keeps may goal workflow talk) :
    Keeps wider goal workflow talk := by
  induction workflow generalizing talk with
  | done result => exact keeps
  | ask action next ih => exact ⟨implies _ _ keeps.1, fun reply => ih reply (keeps.2 reply)⟩

theorem Keeps.and {may' : List (Exchange Reply) → Action → Prop}
    {goal' : List (Exchange Reply) → α → Prop} {workflow : Workflow Action Reply α}
    (first : Keeps may goal workflow talk) (second : Keeps may' goal' workflow talk) :
    Keeps (fun talk action => may talk action ∧ may' talk action)
      (fun talk result => goal talk result ∧ goal' talk result) workflow talk := by
  induction workflow generalizing talk with
  | done result => exact ⟨first, second⟩
  | ask action next ih =>
      exact ⟨⟨first.1, second.1⟩, fun reply => ih reply (first.2 reply) (second.2 reply)⟩

theorem Keeps.each {workflow : Workflow Action Reply α} (keeps : Keeps may goal workflow talk)
    (each : ∀ before said after, talk = before ++ said :: after → may before said.action) :
    Keeps may
      (fun talk result => goal talk result ∧
        ∀ before said after, talk = before ++ said :: after → may before said.action)
      workflow talk := by
  induction workflow generalizing talk with
  | done result => exact ⟨keeps, each⟩
  | ask action next ih =>
      refine ⟨keeps.1, fun reply => ih reply (keeps.2 reply) fun before said after split => ?_⟩
      rcases List.eq_nil_or_concat after with rfl | ⟨between, last, rfl⟩
      · obtain ⟨rfl, same⟩ := List.append_inj' split rfl
        cases same
        exact keeps.1
      · rw [List.concat_eq_append, ← List.cons_append, ← List.append_assoc] at split
        obtain ⟨rfl, _⟩ := List.append_inj' split rfl
        exact each before said between rfl

end

/-- Whatever it is told, the workflow asks for nothing but this. -/
def Asks (only : Action → Prop) : Workflow Action Reply α → Prop
  | .done _ => True
  | .ask action next => only action ∧ ∀ reply, Asks only (next reply)

section

variable {only : Action → Prop} {talk : List (Exchange Reply)}

theorem asks_any (workflow : Workflow Action Reply α) : Asks (fun _ => True) workflow := by
  induction workflow with
  | done result => trivial
  | ask action next ih => exact ⟨trivial, ih⟩

theorem Asks.mono {wider : Action → Prop} (implies : ∀ action, only action → wider action)
    {workflow : Workflow Action Reply α} (asks : Asks only workflow) : Asks wider workflow := by
  induction workflow with
  | done result => trivial
  | ask action next ih => exact ⟨implies _ asks.1, fun reply => ih reply (asks.2 reply)⟩

theorem Asks.bind {workflow : Workflow Action Reply β} {next : β → Workflow Action Reply α}
    (asks : Asks only workflow) (onward : ∀ result, Asks only (next result)) :
    Asks only (workflow.bind next) := by
  induction workflow with
  | done result => exact onward result
  | ask action resume ih => exact ⟨asks.1, fun reply => ih reply (asks.2 reply)⟩

theorem Asks.interpret {Action' : Type} {Reply' : Action' → Type} {only' : Action' → Prop}
    {carryOut : (action : Action) → Workflow Action' Reply' (Reply action)}
    {workflow : Workflow Action Reply α} (asks : Asks only workflow)
    (each : ∀ action, only action → Asks only' (carryOut action)) :
    Asks only' (workflow.interpret carryOut) := by
  induction workflow with
  | done result => trivial
  | ask action next ih =>
      exact Asks.bind (each action asks.1) fun reply => ih reply (asks.2 reply)

theorem Asks.keeps_interpret {Action' : Type} {Reply' : Action' → Type}
    {carryOut : (action : Action) → Workflow Action' Reply' (Reply action)}
    {may : List (Exchange Reply') → Action' → Prop} {holds : List (Exchange Reply') → Prop}
    {workflow : Workflow Action Reply α} (asks : Asks only workflow)
    (each : ∀ action talk, only action → holds talk →
      Keeps may (fun later _ => holds later) (carryOut action) talk)
    {talk : List (Exchange Reply')} (now : holds talk) :
    Keeps may (fun later _ => holds later) (workflow.interpret carryOut) talk := by
  induction workflow generalizing talk with
  | done result => exact now
  | ask action next ih =>
      refine Keeps.bind ((each action talk asks.1 now).mono ?_)
      exact fun later reply held => ih reply (asks.2 reply) held

theorem Asks.keeps {workflow : Workflow Action Reply α} (asks : Asks only workflow) :
    Keeps (fun _ action => only action)
      (fun later _ => ∃ more, later = talk ++ more ∧ ∀ said ∈ more, only said.action) workflow
      talk := by
  induction workflow generalizing talk with
  | done result => exact ⟨[], by simp⟩
  | ask action next ih =>
      refine ⟨asks.1, fun reply => (ih reply (asks.2 reply)).mono ?_⟩
      rintro later result ⟨more, rfl, each⟩
      refine ⟨⟨action, reply⟩ :: more, by simp, ?_⟩
      intro said member
      rcases List.mem_cons.mp member with rfl | member
      · exact asks.1
      · exact each said member

end

section

variable {perform : Choice → (action : Action) → σ → Reply action × σ}
  {may : Nat → List (Exchange Reply) → Action → Prop}
  {goal : Nat → List (Exchange Reply) → α → Prop}

def allowedBy (may : Nat → List (Exchange Reply) → Action → Prop) (client : Nat)
    (now : Moment Reply Choice σ) (action : Action) : Prop :=
  may client (talkOf client now.past) action

def metBy (goal : Nat → List (Exchange Reply) → α → Prop) (client : Nat) (result : α)
    (now : Moment Reply Choice σ) : Prop :=
  goal client (talkOf client now.past) result

theorem Leads.talkOf_eq {allowed : Nat → Moment Reply Choice σ → Action → Prop} {client : Nat}
    {moment later : Moment Reply Choice σ}
    (others : Leads perform allowed (· ≠ client) moment later) :
    talkOf client later.past = talkOf client moment.past := by
  obtain ⟨steps, grown, foreign⟩ := others.past
  rw [grown, talkOf_append, talkOf_others fun step member => (foreign step member).1,
    List.append_nil]

theorem talkOf_next (moment : Moment Reply Choice σ) (client : Nat) (choice : Choice)
    (action : Action) :
    talkOf client (moment.next perform client choice action).past =
      talkOf client moment.past ++ [⟨action, (perform choice action moment.state).1⟩] := by
  have own : (moment.step perform client choice action).client = client := rfl
  rw [Moment.next, talkOf_append, talkOf_own own]
  rfl

theorem Keeps.abides {client : Nat} {workflow : Workflow Action Reply α}
    {moment : Moment Reply Choice σ}
    (keeps : Keeps (may client) (goal client) workflow (talkOf client moment.past)) :
    Abides perform (allowedBy may) client (metBy goal client) workflow moment := by
  induction workflow generalizing moment with
  | done result => exact keeps
  | ask action next ih =>
      intro later others
      have same := others.talkOf_eq
      refine ⟨?_, fun choice => ih _ ?_⟩
      · rw [allowedBy, same]
        exact keeps.1
      · rw [talkOf_next, same]
        exact keeps.2 _

/-- Every client is done or has not begun. -/
def Pool.AtRest (pool : Pool Action Reply Choice σ α) : Prop :=
  ∀ client < pool.clients.length,
    (pool.result? client).isSome ∨ ∀ step ∈ pool.moment.past, step.client ≠ client

theorem Pool.Finished.atRest {pool : Pool Action Reply Choice σ α} (finished : pool.Finished) :
    pool.AtRest := fun client known => .inl (finished client known)

theorem Pool.length_clients_turn (pool : Pool Action Reply Choice σ α) (client : Nat)
    (choice : Choice) : (pool.turn perform client choice).clients.length = pool.clients.length :=
  Pool.length_clients_run pool [(client, choice)]

theorem Pool.past_run (pool : Pool Action Reply Choice σ α) (turns : List (Nat × Choice)) :
    ∃ steps, (pool.run perform turns).moment.past = pool.moment.past ++ steps ∧
      (steps.map fun step => (step.client, step.choice)).Sublist turns ∧
      ∀ step ∈ steps, step.client < pool.clients.length := by
  induction turns generalizing pool with
  | nil => exact ⟨[], by simp [Pool.run]⟩
  | cons turn turns ih =>
      obtain ⟨steps, grown, taken, known⟩ := ih (pool.turn perform turn.1 turn.2)
      have later : pool.run perform (turn :: turns) =
        (pool.turn perform turn.1 turn.2).run perform turns := rfl
      rw [later, grown]
      simp only [Pool.length_clients_turn] at known
      unfold Pool.turn
      split
      · rename_i action next acting
        have acts : turn.1 < pool.clients.length := (List.getElem?_eq_some_iff.mp acting).1
        refine ⟨pool.moment.step perform turn.1 turn.2 action :: steps, by simp [Moment.next], ?_, ?_⟩
        · exact taken.cons_cons turn
        · intro step member
          rcases List.mem_cons.mp member with rfl | more
          · exact acts
          · exact known step more
      · exact ⟨steps, rfl, taken.cons turn, known⟩

theorem Pool.run_keeps {pool : Pool Action Reply Choice σ α}
    (keeps : ∀ client workflow, pool.clients[client]? = some workflow →
      Keeps (may client) (goal client) workflow (talkOf client pool.moment.past))
    (turns : List (Nat × Choice)) :
    Kept perform (allowedBy may) (metBy goal) pool.moment (pool.run perform turns) :=
  Pool.run_kept (fun client workflow found => (keeps client workflow found).abides) turns

theorem Kept.talk_of_result? {pool start : Pool Action Reply Choice σ α}
    (kept : Kept perform (allowedBy may) (metBy goal) start.moment pool) {client : Nat} {result : α}
    (finished : pool.result? client = some result) :
    goal client (talkOf client pool.moment.past) result := by
  obtain ⟨moment, _, met, others⟩ := kept.goal_met finished
  rwa [metBy, ← others.talkOf_eq] at met

theorem Kept.talk_of_atRest {pool start : Pool Action Reply Choice σ α}
    (kept : Kept perform (allowedBy may) (metBy goal) start.moment pool)
    (rest : pool.AtRest) {client : Nat} (known : client < pool.clients.length) :
    talkOf client pool.moment.past = [] ∨
      ∃ result, goal client (talkOf client pool.moment.past) result := by
  rcases rest client known with finished | idle
  · obtain ⟨result, isResult⟩ := Option.isSome_iff_exists.mp finished
    exact .inr ⟨result, kept.talk_of_result? isResult⟩
  · exact .inl (talkOf_others idle)

end

section

variable {steps : List (Step Reply Choice σ)}

theorem filter_below (count : Nat) :
    (steps.filter (·.client < count + 1)).filter (·.client < count) =
      steps.filter (·.client < count) := by
  rw [List.filter_filter]
  refine List.filter_congr fun step _ => ?_
  rw [Bool.eq_iff_iff, Bool.and_eq_true, decide_eq_true_iff, decide_eq_true_iff]
  omega

theorem filter_not_below (count : Nat) :
    ((steps.filter (·.client < count + 1)).filter fun step => !decide (step.client < count)) =
      stepsOf count steps := by
  rw [List.filter_filter, stepsOf]
  refine List.filter_congr fun step _ => ?_
  rw [Bool.eq_iff_iff, Bool.and_eq_true, Bool.not_eq_true', decide_eq_false_iff_not,
    decide_eq_true_iff, decide_eq_true_iff]
  omega

theorem filter_append_stepsOf_perm (count : Nat) :
    (steps.filter (·.client < count) ++ stepsOf count steps).Perm
      (steps.filter (·.client < count + 1)) := by
  rw [← filter_below, ← filter_not_below]
  exact List.filter_append_perm _ _

theorem filter_append_of_inTurn (count : Nat)
    (inTurn : steps.Pairwise fun step later => step.client ≤ later.client) :
    (steps.filter (·.client < count) ++
      steps.filter fun step => !decide (step.client < count)) = steps := by
  induction steps with
  | nil => rfl
  | cons step steps ih =>
      obtain ⟨first, inTurn⟩ := List.pairwise_cons.mp inTurn
      by_cases below : step.client < count
      · rw [List.filter_cons_of_pos (by simpa using below),
          List.filter_cons_of_neg (by simpa using below), List.cons_append, ih inTurn]
      · have above : ∀ later ∈ step :: steps, ¬ later.client < count := by
          intro later member
          rcases List.mem_cons.mp member with rfl | member
          · exact below
          · exact fun earlier => below (Nat.lt_of_le_of_lt (first later member) earlier)
        rw [List.filter_eq_nil_iff.mpr (by simpa using above),
          List.filter_eq_self.mpr (by simpa using above), List.nil_append]

theorem filter_append_stepsOf (count : Nat)
    (inTurn : steps.Pairwise fun step later => step.client ≤ later.client) :
    steps.filter (·.client < count) ++ stepsOf count steps =
      steps.filter (·.client < count + 1) := by
  rw [← filter_below, ← filter_not_below]
  exact filter_append_of_inTurn count (inTurn.filter _)

theorem flatMap_stepsOf_perm {count : Nat} (known : ∀ step ∈ steps, step.client < count) :
    ((List.range count).flatMap fun client => stepsOf client steps).Perm steps := by
  -- On the clients, of which each takes its steps out; on the steps there would be nothing to add to.
  have upTo : ∀ count, ((List.range count).flatMap fun client => stepsOf client steps).Perm
      (steps.filter (·.client < count)) := by
    intro count
    induction count with
    | zero => simp
    | succ count ih =>
        rw [List.range_succ, List.flatMap_append, List.flatMap_singleton]
        exact (ih.append_right _).trans (filter_append_stepsOf_perm count)
  have all : steps.filter (·.client < count) = steps :=
    List.filter_eq_self.mpr (by simpa using known)
  exact (upTo count).trans (.of_eq all)

theorem flatMap_stepsOf {count : Nat} (known : ∀ step ∈ steps, step.client < count)
    (inTurn : steps.Pairwise fun step later => step.client ≤ later.client) :
    ((List.range count).flatMap fun client => stepsOf client steps) = steps := by
  have upTo : ∀ count, ((List.range count).flatMap fun client => stepsOf client steps) =
      steps.filter (·.client < count) := by
    intro count
    induction count with
    | zero => simp
    | succ count ih =>
        rw [List.range_succ, List.flatMap_append, List.flatMap_singleton, ih]
        exact filter_append_stepsOf count inTurn
  rw [upTo count]
  exact List.filter_eq_self.mpr (by simpa using known)

end

end Payments.Interleaving
