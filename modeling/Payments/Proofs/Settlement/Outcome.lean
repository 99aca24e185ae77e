import Mathlib.Data.List.TakeWhile
import Payments.Proofs.Interleaving.Stored

/-!
What can be said afterwards of one settlement amid other clients: how the last call it made
accounts for its result, what it committed, and how often others committed to its reference in the
meantime. A guarded update on a stored record always accounts for the result that follows it.
-/

namespace Payments.Interleaving

variable {Action : Type} {Reply : Action → Type} {Choice σ α : Type}
  {perform : Choice → (action : Action) → σ → Reply action × σ}

/-- How the last call of a settlement accounts for its result. -/
inductive Explains (access : StoreAccess perform) (reference : Reference) (update : StatusUpdate)
    (last : Step Reply Choice σ) : Except StoreError Settlement → Prop
  | applied {previous : Payment} :
      last.action = access.ask (.update reference previous.version update) →
      access.stored last.before reference = some previous →
      previous.status.canMoveTo update.status = true →
      access.store last.after = (access.store last.before).replace
        (previous.apply update (access.stamp last.choice).now) →
      access.record? last = some (previous.apply update (access.stamp last.choice).now) →
      Explains access reference update last
        (.ok (.applied previous (previous.apply update (access.stamp last.choice).now)))
  | unchanged {record : Payment} :
      last.action = access.ask (.update reference record.version update) →
      access.stored last.before reference = some record →
      record.status = update.status →
      access.store last.after = access.store last.before →
      Explains access reference update last (.ok (.unchanged record))
  | rejected {record : Payment} :
      last.action = access.ask (.update reference record.version update) →
      access.stored last.before reference = some record →
      record.status ≠ update.status →
      record.status.canMoveTo update.status = false →
      access.store last.after = access.store last.before →
      Explains access reference update last
        (.ok (.rejected record ⟨record.status, update.status⟩))
  | missing :
      last.action = access.ask (.find reference) →
      access.stored last.before reference = none →
      access.store last.after = access.store last.before →
      Explains access reference update last (.ok .missing)
  | conflict {read : Int} {found : Payment} :
      last.action = access.ask (.update reference read update) →
      access.stored last.before reference = some found →
      found.version ≠ read →
      access.store last.after = access.store last.before →
      Explains access reference update last
        (.error (.conflict reference.text read found.version))

def StoreView.commitsBy (view : StoreView perform) (client : Nat)
    (past : List (Step Reply Choice σ)) : List (Step Reply Choice σ) :=
  past.filter fun step => step.client = client && (view.record? step).isSome

def isApplied : Except StoreError Settlement → Bool
  | .ok (.applied _ _) => true
  | _ => false

/-- The last step of a client accounts for what it came to, and was its only commit if it made
one. -/
def LastStep (view : StoreView perform) (client : Nat) (committed : Bool)
    (accounts : Step Reply Choice σ → Prop) (past : List (Step Reply Choice σ)) : Prop :=
  ∃ earlier last later, past = earlier ++ last :: later ∧ last.client = client ∧
    (∀ step ∈ later, step.client ≠ client) ∧ accounts last ∧
    view.commitsBy client past = if committed then [last] else []

def Settled (access : StoreAccess perform) (client : Nat) (reference : Reference)
    (update : StatusUpdate) (result : Except StoreError Settlement) :
    List (Step Reply Choice σ) → Prop :=
  LastStep access.toStoreView client (isApplied result) (Explains access reference update · result)

/-- Between the first step of a client and its last, others committed to the reference at least so
often. -/
def Contended (view : StoreView perform) (client : Nat) (reference : Reference) (count : Nat)
    (past : List (Step Reply Choice σ)) : Prop :=
  ∃ before during after, Span client past before during after ∧
    count ≤ during.countP fun step => step.client ≠ client && view.commits reference step

section

variable {access : StoreAccess perform} {view : StoreView perform} {client : Nat}
  {reference : Reference} {update : StatusUpdate} {result : Except StoreError Settlement}
  {past steps : List (Step Reply Choice σ)}

theorem commitsBy_append (past steps : List (Step Reply Choice σ)) :
    view.commitsBy client (past ++ steps) =
      view.commitsBy client past ++ view.commitsBy client steps :=
  List.filter_append ..

theorem commitsBy_others (others : ∀ step ∈ steps, step.client ≠ client) :
    view.commitsBy client steps = [] := by
  refine List.filter_eq_nil_iff.mpr ?_
  intro step member
  simp [others step member]

theorem commitsBy_own {step : Step Reply Choice σ} (own : step.client = client) :
    view.commitsBy client [step] = if (view.record? step).isSome then [step] else [] := by
  simp [StoreView.commitsBy, own, List.filter_singleton]

theorem Settled.commits {error : StoreError}
    (settled : Settled access client reference update (.error error) past) :
    access.commitsBy client past = [] := by
  obtain ⟨_, _, _, _, _, _, _, commits⟩ := settled
  exact commits

theorem LastStep.others {committed : Bool} {accounts : Step Reply Choice σ → Prop}
    (last : LastStep view client committed accounts past)
    (others : ∀ step ∈ steps, step.client ≠ client) :
    LastStep view client committed accounts (past ++ steps) := by
  obtain ⟨earlier, last, later, split, own, quiet, accounts, commits⟩ := last
  refine ⟨earlier, last, later ++ steps, ?_, own, ?_, accounts, ?_⟩
  · rw [split, List.append_assoc, List.cons_append]
  · intro step member
    rcases List.mem_append.mp member with old | new
    · exact quiet step old
    · exact others step new
  · rw [commitsBy_append, commits, commitsBy_others others, List.append_nil]

theorem Contended.others {count : Nat} (contended : Contended view client reference count past)
    (others : ∀ step ∈ steps, step.client ≠ client) :
    Contended view client reference count (past ++ steps) := by
  obtain ⟨before, during, after, span, enough⟩ := contended
  exact ⟨before, during, after ++ steps, span.others others, enough⟩

def StoreView.rivals (view : StoreView perform) (client : Nat) (reference : Reference)
    (past : List (Step Reply Choice σ)) : Nat :=
  (past.dropWhile fun step => step.client ≠ client).countP fun step =>
    step.client ≠ client && view.commits reference step

theorem rivals_append_of_own (own : ∃ step ∈ past, step.client = client) :
    view.rivals client reference (past ++ steps) = view.rivals client reference past +
      steps.countP fun step => step.client ≠ client && view.commits reference step := by
  have started : (past.dropWhile fun step => step.client ≠ client).isEmpty = false := by
    refine Bool.eq_false_iff.mpr fun empty => ?_
    obtain ⟨step, member, isOwn⟩ := own
    have foreign := List.dropWhile_eq_nil_iff.mp (List.isEmpty_iff.mp empty) step member
    simp [isOwn] at foreign
  simp only [StoreView.rivals, List.dropWhile_append, started, Bool.false_eq_true, if_false,
    List.countP_append]

theorem rivals_le_append :
    view.rivals client reference past ≤ view.rivals client reference (past ++ steps) := by
  by_cases own : ∃ step ∈ past, step.client = client
  · rw [rivals_append_of_own own]
    exact Nat.le_add_right _ _
  · have unstarted : (past.dropWhile fun step => step.client ≠ client) = [] := by
      refine List.dropWhile_eq_nil_iff.mpr ?_
      intro step member
      simpa using fun isOwn => own ⟨step, member, isOwn⟩
    simp only [StoreView.rivals, unstarted, List.countP_nil]
    exact Nat.zero_le _

theorem contended_of_rivals {last : Step Reply Choice σ} (own : last.client = client) {count : Nat}
    (enough : count ≤ view.rivals client reference (past ++ [last])) :
    Contended view client reference count (past ++ [last]) := by
  have member : ∃ step ∈ past ++ [last], ¬ (decide (step.client ≠ client)) = true :=
    ⟨last, by simp, by simp [own]⟩
  refine ⟨(past ++ [last]).takeWhile fun step => step.client ≠ client,
    (past ++ [last]).dropWhile fun step => step.client ≠ client, [], ⟨?_, ?_, ?_, ?_⟩, enough⟩
  · rw [List.append_nil, List.takeWhile_append_dropWhile]
  · cases rest : (past ++ [last]).dropWhile fun step => step.client ≠ client with
    | nil =>
        obtain ⟨step, held, isOwn⟩ := member
        exact absurd (List.dropWhile_eq_nil_iff.mp rest step held) isOwn
    | cons first others =>
        have stopped := List.head?_dropWhile_not
          (fun step : Step Reply Choice σ => decide (step.client ≠ client)) (past ++ [last])
        rw [rest] at stopped
        simpa using stopped
  · have kept : ((past ++ [last]).dropWhile fun step => step.client ≠ client).getLast? =
        some last := by
      rw [List.dropWhile_append]
      split
      · simp [own]
      · exact List.getLast?_concat
    rw [kept, Option.map_some, own]
  · intro step held
    rw [List.append_nil] at held
    simpa using List.mem_takeWhile_imp held

theorem rivals_append_records (own : ∃ step ∈ past, step.client = client)
    (others : ∀ step ∈ steps, step.client ≠ client) :
    view.rivals client reference (past ++ steps) =
      view.rivals client reference past + (view.recordsOf reference steps).length := by
  rw [rivals_append_of_own own, view.length_recordsOf]
  congr 1
  refine List.countP_congr fun step member => ?_
  simp [others step member]

section

variable {may : Nat → Moment Reply Choice σ → Action → Prop} {moment : Moment Reply Choice σ}
  {goal : Except StoreError Settlement → Moment Reply Choice σ → Prop}

theorem Leads.commitsBy_eq_nil {later : Moment Reply Choice σ}
    (others : Leads perform may (· ≠ client) moment later)
    (idle : view.commitsBy client moment.past = []) : view.commitsBy client later.past = [] := by
  obtain ⟨steps, grown, foreign⟩ := others.past
  rw [grown, commitsBy_append, idle, commitsBy_others fun step member => (foreign step member).1]
  rfl

theorem StoreAccess.lastStep_next (access : StoreAccess perform) {choice : Choice}
    {action : StoreAction} {committed : Bool} {accounts : Step Reply Choice σ → Prop}
    (idle : access.commitsBy client moment.past = [])
    (accounted : accounts (access.step moment client choice action))
    (isCommit :
      committed = (action.committed? (access.reply moment.state choice action)).isSome) :
    LastStep access.toStoreView client committed accounts
      (access.next moment client choice action).past := by
  refine ⟨moment.past, _, [], rfl, rfl, by simp, accounted, ?_⟩
  have own : (access.step moment client choice action).client = client := rfl
  rw [access.past_next, commitsBy_append, idle, commitsBy_own own, access.record?_step, isCommit]
  rfl

inductive Answered (settled : Except StoreError Settlement → Prop) (reference : Reference)
    (read : Int) (current : Payment) : Except StoreError UpdateOutcome → Prop
  | applied {later : Payment} : current.version = read →
      settled (.ok (.applied current later)) →
      Answered settled reference read current (.ok (.applied current later))
  | unchanged : current.version = read → settled (.ok (.unchanged current)) →
      Answered settled reference read current (.ok (.unchanged current))
  | rejected {illegal : Status.IllegalMove} : current.version = read →
      settled (.ok (.rejected current illegal)) →
      Answered settled reference read current (.error (.illegalMove illegal))
  | conflict : current.version ≠ read →
      settled (.error (.conflict reference.text read current.version)) →
      Answered settled reference read current
        (.error (.conflict reference.text read current.version))

theorem update_answered {current : Payment} (idle : access.commitsBy client moment.past = [])
    (stored : access.stored moment.state reference = some current) (choice : Choice) (read : Int)
    (update : StatusUpdate) :
    Answered
      (fun result => Settled access client reference update result
        (access.next moment client choice (.update reference read update)).past)
      reference read current
      (access.reply moment.state choice (.update reference read update)) := by
  have acted := Store.act_update stored read update (access.stamp choice)
  have store := access.store_next moment client choice (.update reference read update)
  have record := access.record?_step moment client choice (.update reference read update)
  have replied : access.reply moment.state choice (.update reference read update) =
    ((access.store moment.state).act (access.stamp choice) (.update reference read update)).1 := rfl
  split at acted
  · rename_i version
    subst version
    cases checked : current.status.check update.status with
    | error illegal =>
        obtain ⟨different, noMove, rfl⟩ := Status.check_eq_error_iff.mp checked
        simp only [checked] at acted
        rw [acted] at replied store
        rw [replied]
        exact .rejected rfl (access.lastStep_next idle (.rejected rfl stored different noMove store)
          (by rw [replied]; rfl))
    | ok move =>
        cases move with
        | unchanged =>
            have same := Status.check_eq_unchanged_iff.mp checked
            simp only [checked] at acted
            rw [acted] at replied store
            rw [replied]
            exact .unchanged rfl (access.lastStep_next idle (.unchanged rfl stored same store)
              (by rw [replied]; rfl))
        | advance =>
            have legal := Status.check_eq_advance_iff.mp checked
            simp only [checked] at acted
            rw [acted] at replied store
            rw [replied] at record ⊢
            exact .applied rfl (access.lastStep_next idle (.applied rfl stored legal store record)
              (by rw [replied]; rfl))
  · rename_i stale
    rw [acted] at replied store
    rw [replied]
    exact .conflict stale (access.lastStep_next idle (.conflict rfl stored stale store)
      (by rw [replied]; rfl))

end

end

end Payments.Interleaving
