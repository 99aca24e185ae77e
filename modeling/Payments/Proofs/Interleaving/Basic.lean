import Mathlib.Data.Nat.Find
import Payments.Workflow

/-!
Workflows of many clients over one state, interleaved action by action in any order. Each step is
kept, so that what happened can be asked for afterwards. The rule for whole runs is at the end: if
every client keeps to what it may do whatever the others do in between, then so does the run, and
each result is what its client promised.
-/

namespace Payments.Interleaving

variable {Action : Type} {Reply : Action → Type} {Choice σ α β : Type}

/-- An action that was carried out: by which client, with what reply, and the state around it. -/
structure Step (Reply : Action → Type) (Choice σ : Type) where
  client : Nat
  choice : Choice
  action : Action
  reply : Reply action
  before : σ
  after : σ

structure Moment (Reply : Action → Type) (Choice σ : Type) where
  state : σ
  past : List (Step Reply Choice σ) := []

/-- The part of the past from the first step of a client to its last. -/
structure Span (client : Nat) (past before during after : List (Step Reply Choice σ)) : Prop where
  parts : past = before ++ during ++ after
  first : during.head?.map Step.client = some client
  last : during.getLast?.map Step.client = some client
  outside : ∀ step ∈ before ++ after, step.client ≠ client

theorem span_of_ends {client : Nat} {before middle : List (Step Reply Choice σ)}
    {first last : Step Reply Choice σ} (quiet : ∀ step ∈ before, step.client ≠ client)
    (begins : first.client = client) (ends : last.client = client) :
    Span client (before ++ (first :: middle ++ [last])) before (first :: middle ++ [last]) [] where
  parts := by simp
  first := by simp [begins]
  last := by rw [List.getLast?_concat, Option.map_some, ends]
  outside := by simpa using quiet

theorem span_of_step {client : Nat} {before : List (Step Reply Choice σ)}
    {step : Step Reply Choice σ} (quiet : ∀ step ∈ before, step.client ≠ client)
    (own : step.client = client) : Span client (before ++ [step]) before [step] [] where
  parts := by simp
  first := by simp [own]
  last := by simp [own]
  outside := by simpa using quiet

theorem Span.others {client : Nat} {past before during after steps : List (Step Reply Choice σ)}
    (span : Span client past before during after)
    (others : ∀ step ∈ steps, step.client ≠ client) :
    Span client (past ++ steps) before during (after ++ steps) where
  parts := by rw [span.parts, List.append_assoc]
  first := span.first
  last := span.last
  outside := by
    intro step member
    rw [← List.append_assoc] at member
    rcases List.mem_append.mp member with old | new
    · exact span.outside step old
    · exact others step new

structure Pool (Action : Type) (Reply : Action → Type) (Choice σ α : Type) where
  clients : List (Workflow Action Reply α)
  moment : Moment Reply Choice σ

section

variable (perform : Choice → (action : Action) → σ → Reply action × σ)

def Moment.step (moment : Moment Reply Choice σ) (client : Nat) (choice : Choice)
    (action : Action) : Step Reply Choice σ :=
  { client, choice, action
    reply := (perform choice action moment.state).1
    before := moment.state
    after := (perform choice action moment.state).2 }

def Moment.next (moment : Moment Reply Choice σ) (client : Nat) (choice : Choice)
    (action : Action) : Moment Reply Choice σ :=
  { state := (perform choice action moment.state).2
    past := moment.past ++ [moment.step perform client choice action] }

def Pool.turn (pool : Pool Action Reply Choice σ α) (client : Nat) (choice : Choice) :
    Pool Action Reply Choice σ α :=
  match pool.clients[client]? with
  | some (.ask action next) =>
    { clients := pool.clients.set client (next (perform choice action pool.moment.state).1)
      moment := pool.moment.next perform client choice action }
  | _ => pool

def Pool.run (pool : Pool Action Reply Choice σ α) (turns : List (Nat × Choice)) :
    Pool Action Reply Choice σ α :=
  turns.foldl (fun pool turn => pool.turn perform turn.1 turn.2) pool

def Pool.result? (pool : Pool Action Reply Choice σ α) (client : Nat) : Option α :=
  match pool.clients[client]? with
  | some (.done result) => some result
  | _ => none

def Pool.Finished (pool : Pool Action Reply Choice σ α) : Prop :=
  ∀ client < pool.clients.length, (pool.result? client).isSome

/-- However far the run goes, the client gets another turn. -/
def GetsTurns (client : Nat) (ahead : Nat → Nat × Choice) : Prop :=
  ∀ n, ∃ later ≥ n, (ahead later).1 = client

variable (may : Nat → Moment Reply Choice σ → Action → Prop)

/-- From one moment to another by steps of clients that `who` selects, none of which does what it
may not do at that moment. -/
inductive Leads (who : Nat → Prop) (start : Moment Reply Choice σ) :
    Moment Reply Choice σ → Prop
  | refl : Leads who start start
  | step {moment : Moment Reply Choice σ} {client : Nat} {action : Action} (choice : Choice) :
      Leads who start moment → who client → may client moment action →
      Leads who start (moment.next perform client choice action)

/-- Whatever the others do between its actions, the workflow of this client only does what it may,
and comes to a result that meets its goal. -/
def Abides (client : Nat) (goal : α → Moment Reply Choice σ → Prop) :
    Workflow Action Reply α → Moment Reply Choice σ → Prop
  | .done result, moment => goal result moment
  | .ask action next, moment =>
    ∀ later, Leads perform may (· ≠ client) moment later →
      may client later action ∧
      ∀ choice, Abides client goal (next (perform choice action later.state).1)
        (later.next perform client choice action)

end

section

variable {perform : Choice → (action : Action) → σ → Reply action × σ}
  {may : Nat → Moment Reply Choice σ → Action → Prop} {who : Nat → Prop}
  {start middle moment : Moment Reply Choice σ}

theorem Leads.trans (first : Leads perform may who start middle)
    (second : Leads perform may who middle moment) : Leads perform may who start moment := by
  induction second with
  | refl => exact first
  | step choice _ chosen permitted ih => exact .step choice ih chosen permitted

theorem Leads.mono {everyone : Nat → Prop} (wider : ∀ client, who client → everyone client)
    (leads : Leads perform may who start moment) : Leads perform may everyone start moment := by
  induction leads with
  | refl => exact .refl
  | step choice _ chosen permitted ih => exact .step choice ih (wider _ chosen) permitted

theorem Leads.past (leads : Leads perform may who start moment) :
    ∃ steps, moment.past = start.past ++ steps ∧
      ∀ step ∈ steps, who step.client ∧ ∃ before, may step.client before step.action := by
  induction leads with
  | refl => exact ⟨[], by simp⟩
  | @step moment client action choice _ chosen permitted ih =>
      obtain ⟨steps, grown, selected⟩ := ih
      refine ⟨steps ++ [moment.step perform client choice action], ?_, ?_⟩
      · simp only [Moment.next, grown, List.append_assoc]
      · intro step member
        rcases List.mem_append.mp member with old | new
        · exact selected step old
        · rw [List.mem_singleton.mp new]
          exact ⟨chosen, moment, permitted⟩

theorem Leads.at_step (leads : Leads perform may who start moment) :
    ∀ earlier step later, moment.past = earlier ++ step :: later →
      start.past.length ≤ earlier.length →
      Leads perform may who start ⟨step.before, earlier⟩ ∧
      step = Moment.step perform ⟨step.before, earlier⟩ step.client step.choice step.action ∧
      Leads perform may who ⟨step.after, earlier ++ [step]⟩ moment ∧
      may step.client ⟨step.before, earlier⟩ step.action := by
  induction leads with
  | refl =>
      intro earlier step later split bound
      have length := congrArg List.length split
      simp only [List.length_append, List.length_cons] at length
      omega
  | @step moment client action choice reached chosen permitted ih =>
      intro earlier step later split bound
      rcases List.eq_nil_or_concat later with rfl | ⟨kept, newest, rfl⟩
      · obtain ⟨rfl, last⟩ := List.append_inj' split rfl
        cases last
        exact ⟨reached, rfl, .refl, permitted⟩
      · rw [List.concat_eq_append, ← List.cons_append, ← List.append_assoc] at split
        obtain ⟨before, faithful, onward, allowed⟩ :=
          ih earlier step kept (List.append_inj' split rfl).1 bound
        exact ⟨before, faithful, onward.step choice chosen permitted, allowed⟩

variable {client : Nat} {goal : α → Moment Reply Choice σ → Prop}

theorem Abides.mono {weaker : α → Moment Reply Choice σ → Prop}
    (implies : ∀ result moment, goal result moment → weaker result moment)
    {workflow : Workflow Action Reply α}
    (abides : Abides perform may client goal workflow moment) :
    Abides perform may client weaker workflow moment := by
  induction workflow generalizing moment with
  | done result => exact implies result moment abides
  | ask action next ih =>
      intro later leads
      exact ⟨(abides later leads).1, fun choice => ih _ ((abides later leads).2 choice)⟩

theorem Abides.bind {workflow : Workflow Action Reply β} {next : β → Workflow Action Reply α}
    (abides : Abides perform may client
      (fun result moment => Abides perform may client goal (next result) moment) workflow moment) :
    Abides perform may client goal (workflow.bind next) moment := by
  induction workflow generalizing moment with
  | done result => exact abides
  | ask action resume ih =>
      intro later leads
      exact ⟨(abides later leads).1, fun choice => ih _ ((abides later leads).2 choice)⟩

/-- What holds of a pool whose clients abide: only permitted steps led to it, and each client
abides from the moment of its last own action on. -/
structure Kept (perform : Choice → (action : Action) → σ → Reply action × σ)
    (may : Nat → Moment Reply Choice σ → Action → Prop)
    (goal : Nat → α → Moment Reply Choice σ → Prop) (start : Moment Reply Choice σ)
    (pool : Pool Action Reply Choice σ α) : Prop where
  reached : Leads perform may (fun _ => True) start pool.moment
  clients : ∀ client workflow, pool.clients[client]? = some workflow →
    ∃ moment, Leads perform may (fun _ => True) start moment ∧
      Abides perform may client (goal client) workflow moment ∧
      Leads perform may (· ≠ client) moment pool.moment

theorem Kept.turn {goal : Nat → α → Moment Reply Choice σ → Prop}
    {pool : Pool Action Reply Choice σ α} (kept : Kept perform may goal start pool)
    (client : Nat) (choice : Choice) :
    Kept perform may goal start (pool.turn perform client choice) := by
  unfold Pool.turn
  split
  · rename_i action next acting
    obtain ⟨moment, _, abides, others⟩ := kept.clients client _ acting
    obtain ⟨permitted, onward⟩ := abides pool.moment others
    have reached := kept.reached.step choice trivial permitted
    refine ⟨reached, ?_⟩
    intro other workflow found
    simp only [List.getElem?_set] at found
    split at found
    · rename_i same
      subst same
      split at found
      · simp only [Option.some.injEq] at found
        subst found
        exact ⟨_, reached, onward choice, .refl⟩
      · simp at found
    · rename_i different
      obtain ⟨moment, known, abides, others⟩ := kept.clients other workflow found
      exact ⟨moment, known, abides, others.step choice different permitted⟩
  · exact kept

theorem Pool.clients_of_result? {pool : Pool Action Reply Choice σ α} {client : Nat} {result : α}
    (finished : pool.result? client = some result) :
    pool.clients[client]? = some (.done result) := by
  unfold Pool.result? at finished
  split at finished
  · rename_i found
    cases finished
    exact found
  · simp at finished

theorem Kept.goal_met {goal : Nat → α → Moment Reply Choice σ → Prop}
    {pool : Pool Action Reply Choice σ α} (kept : Kept perform may goal start pool) {result : α}
    (finished : pool.result? client = some result) :
    ∃ moment, Leads perform may (fun _ => True) start moment ∧ goal client result moment ∧
      Leads perform may (· ≠ client) moment pool.moment :=
  kept.clients client _ (Pool.clients_of_result? finished)

/-- The rule for interleaved clients. -/
theorem Pool.run_kept {goal : Nat → α → Moment Reply Choice σ → Prop}
    {pool : Pool Action Reply Choice σ α}
    (abide : ∀ client workflow, pool.clients[client]? = some workflow →
      Abides perform may client (goal client) workflow pool.moment)
    (turns : List (Nat × Choice)) :
    Kept perform may goal pool.moment (pool.run perform turns) := by
  have initial : Kept perform may goal pool.moment pool :=
    ⟨.refl, fun client workflow found => ⟨_, .refl, abide client workflow found, .refl⟩⟩
  exact List.foldlRecOn turns _ initial fun _ kept turn _ => kept.turn turn.1 turn.2

theorem Pool.length_clients_run (pool : Pool Action Reply Choice σ α)
    (turns : List (Nat × Choice)) :
    (pool.run perform turns).clients.length = pool.clients.length := by
  induction turns generalizing pool with
  | nil => rfl
  | cons turn turns ih =>
      refine (ih _).trans ?_
      simp only [Pool.turn]
      split
      · exact List.length_set
      · rfl

theorem Pool.turn_leads (pool : Pool Action Reply Choice σ α) (client : Nat) (choice : Choice) :
    Leads perform (fun _ _ _ => True) (fun _ => True) pool.moment
      (pool.turn perform client choice).moment := by
  unfold Pool.turn
  split
  · exact .step choice .refl trivial trivial
  · exact .refl

theorem Pool.run_leads (pool : Pool Action Reply Choice σ α) (turns : List (Nat × Choice)) :
    Leads perform (fun _ _ _ => True) (fun _ => True) pool.moment
      (pool.run perform turns).moment := by
  induction turns generalizing pool with
  | nil => exact .refl
  | cons turn turns ih => exact (pool.turn_leads turn.1 turn.2).trans (ih _)

theorem Pool.run_append (pool : Pool Action Reply Choice σ α) (turns more : List (Nat × Choice)) :
    pool.run perform (turns ++ more) = (pool.run perform turns).run perform more :=
  List.foldl_append

theorem Pool.run_others {client : Nat} {turns : List (Nat × Choice)}
    (others : ∀ turn ∈ turns, turn.1 ≠ client) (pool : Pool Action Reply Choice σ α) :
    (pool.run perform turns).clients[client]? = pool.clients[client]? := by
  induction turns generalizing pool with
  | nil => rfl
  | cons turn turns ih =>
      refine (ih (fun later member => others later (List.mem_cons_of_mem _ member)) _).trans ?_
      simp only [Pool.turn]
      split
      · exact List.getElem?_set_ne (others turn List.mem_cons_self)
      · rfl

theorem GetsTurns.after {client : Nat} {ahead : Nat → Nat × Choice}
    (again : GetsTurns client ahead) (gone : Nat) :
    GetsTurns client fun n => ahead (gone + n) := by
  intro n
  obtain ⟨later, bound, own⟩ := again (gone + n)
  obtain ⟨more, rfl⟩ := Nat.exists_eq_add_of_le bound
  exact ⟨n + more, Nat.le_add_right n more, by simpa only [Nat.add_assoc] using own⟩

end

section

variable (perform : Choice → (action : Action) → σ → Reply action × σ)

theorem Pool.turn_own {pool : Pool Action Reply Choice σ α} {client : Nat} {action : Action}
    {next : Reply action → Workflow Action Reply α}
    (found : pool.clients[client]? = some (.ask action next)) (choice : Choice) :
    (pool.turn perform client choice).clients[client]? =
      some (next (perform choice action pool.moment.state).1) := by
  rw [turn, found]
  exact List.getElem?_set_self (List.getElem?_eq_some_iff.mp found).1

theorem Pool.done_of_turns {pool : Pool Action Reply Choice σ α} {client : Nat}
    {workflow : Workflow Action Reply α} (found : pool.clients[client]? = some workflow)
    {ahead : Nat → Nat × Choice} (again : GetsTurns client ahead) :
    ∃ n, ((pool.run perform ((List.range n).map ahead)).result? client).isSome := by
  induction workflow generalizing pool ahead with
  | done result => exact ⟨0, by simp [run, result?, found]⟩
  | ask action next ih =>
      have comes : ∃ later, (ahead later).1 = client :=
        (again 0).imp fun _ turn => turn.2
      obtain ⟨first, isOwn, others⟩ : ∃ first, (ahead first).1 = client ∧
          ∀ earlier < first, (ahead earlier).1 ≠ client :=
        ⟨Nat.find comes, Nat.find_spec comes, fun _ => Nat.find_min comes⟩
      have waiting : (pool.run perform ((List.range first).map ahead)).clients[client]? =
          some (.ask action next) := by
        refine (run_others ?_ pool).trans found
        simpa using others
      have onward := turn_own perform waiting (ahead first).2
      obtain ⟨n, finished⟩ := ih _ onward (again.after (first + 1))
      refine ⟨first + 1 + n, ?_⟩
      have turns : (List.range (first + 1 + n)).map ahead =
          (List.range first).map ahead ++ (client, (ahead first).2) ::
            (List.range n).map fun n => ahead (first + 1 + n) := by
        rw [List.range_add, List.range_succ, ← isOwn]
        simp [Function.comp_def]
      rw [turns, run_append]
      exact finished

theorem Pool.finish_client (choice : Choice) {pool : Pool Action Reply Choice σ α} {client : Nat}
    {workflow : Workflow Action Reply α} (found : pool.clients[client]? = some workflow) :
    ∃ turns, ((pool.run perform turns).result? client).isSome ∧
      ∀ other ≠ client, (pool.run perform turns).clients[other]? = pool.clients[other]? := by
  have again : GetsTurns client fun _ => (client, choice) := fun n => ⟨n, Nat.le_refl n, rfl⟩
  obtain ⟨n, finished⟩ := done_of_turns perform found again
  refine ⟨_, finished, fun other different => run_others (fun turn member => ?_) pool⟩
  obtain ⟨_, _, rfl⟩ := List.mem_map.mp member
  exact Ne.symm different

theorem Pool.can_finish (choice : Choice) (pool : Pool Action Reply Choice σ α) :
    ∃ turns, (pool.run perform turns).Finished := by
  have upTo : ∀ count ≤ pool.clients.length, ∃ turns, ∀ client < count,
      ((pool.run perform turns).result? client).isSome := by
    intro count
    induction count with
    | zero => exact fun _ => ⟨[], fun client below => absurd below (Nat.not_lt_zero client)⟩
    | succ count ih =>
        intro bound
        obtain ⟨turns, finished⟩ := ih (Nat.le_of_succ_le bound)
        have present : count < (pool.run perform turns).clients.length := by
          rw [Pool.length_clients_run]
          exact bound
        obtain ⟨more, last, kept⟩ := finish_client perform choice
          (List.getElem?_eq_getElem present)
        refine ⟨turns ++ more, fun client below => ?_⟩
        rw [run_append]
        by_cases newest : client = count
        · exact newest ▸ last
        · have earlier := finished client (by omega)
          rw [result?] at earlier ⊢
          rwa [kept client newest]
  obtain ⟨turns, finished⟩ := upTo _ (Nat.le_refl _)
  refine ⟨turns, fun client known => finished client ?_⟩
  rwa [Pool.length_clients_run] at known

end

end Payments.Interleaving
