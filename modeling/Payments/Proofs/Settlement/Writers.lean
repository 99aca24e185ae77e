import Mathlib.Algebra.BigOperators.Group.Finset.Piecewise
import Payments.Proofs.Settlement.Run

/-!
Clients that write to one store, each creating a payment or settling a status. No update is lost
and none happens twice: each result is accounted for by the last call of its client, and a version
counts how many settlements came out applied.
-/

namespace Payments.Interleaving

inductive Writer
  | create (payment : NewPayment)
  | settle (reference : Reference) (update : StatusUpdate) (attempts : Nat)

inductive Written
  | created (result : Except StoreError Payment)
  | settled (result : Except StoreError Settlement)

abbrev StoreStep := Step StoreAction.Reply Stamp Store

abbrev WriterPool := Pool StoreAction StoreAction.Reply Stamp Store Written

inductive Creates (payment : NewPayment) (last : StoreStep) : Except StoreError Payment → Prop
  | created : last.action = .create payment →
      last.before.find? payment.reference = none →
      last.after = ⟨last.before.payments ++ [payment.record last.choice]⟩ →
      storeAccess.record? last = some (payment.record last.choice) →
      Creates payment last (.ok (payment.record last.choice))
  | duplicate {current : Payment} : last.action = .create payment →
      last.before.find? payment.reference = some current →
      last.after = last.before →
      Creates payment last (.error (.duplicate payment.reference.text))

namespace Writer

def workflow : Writer → StoreWorkflow Written
  | .create payment => .ask (.create payment) fun result => .done (.created result)
  | .settle reference update attempts =>
    (Settlement.settle reference update attempts).bind fun result => .done (.settled result)

def may : Writer → StoreAction → Prop
  | .create payment, action => action = .create payment
  | .settle reference update _, action =>
    action = .find reference ∨ ∃ read, action = .update reference read update

/-- The result of a writer is accounted for by the last step it took, and this was its only commit
if it made one. -/
def Accounted (client : Nat) (past : List StoreStep) : Writer → Written → Prop
  | .create payment, .created result =>
    LastStep storeAccess.toStoreView client result.isOk (Creates payment · result) past
  | .settle reference update _, .settled result =>
    Settled storeAccess client reference update result past
  | _, _ => False

def pool (writers : List Writer) (store : Store) : WriterPool :=
  { clients := writers.map workflow, moment := ⟨store, []⟩ }

def applies (reference : Reference) : Writer → Written → Bool
  | .settle own _ _, .settled result => decide (own = reference) && isApplied result
  | _, _ => false

def applied (writers : List Writer) (pool : WriterPool) (reference : Reference) : Finset Nat :=
  (Finset.range writers.length).filter fun client =>
    (writers[client]?.bind fun writer => (pool.result? client).map (writer.applies reference)) =
      some true

structure Goal (writer : Writer) (client : Nat) (written : Written) (past : List StoreStep) :
    Prop where
  accounted : writer.Accounted client past written
  contended : ∀ reference update attempts error, writer = .settle reference update attempts →
    written = .settled (.error error) →
    Contended storeAccess.toStoreView client reference (max 1 attempts) past

section

variable {writers : List Writer} {writer : Writer} {client : Nat} {written : Written}
  {past steps : List StoreStep}

theorem Accounted.others (accounted : writer.Accounted client past written)
    (others : ∀ step ∈ steps, step.client ≠ client) :
    writer.Accounted client (past ++ steps) written := by
  cases writer <;> cases written
  · exact LastStep.others accounted others
  · exact accounted
  · exact accounted
  · exact LastStep.others accounted others

theorem Goal.others (goal : writer.Goal client written past)
    (others : ∀ step ∈ steps, step.client ≠ client) :
    writer.Goal client written (past ++ steps) := by
  refine ⟨goal.accounted.others others, ?_⟩
  intro reference update attempts error isSettle failed
  exact (goal.contended reference update attempts error isSettle failed).others others

def allowed (writers : List Writer) (client : Nat) (_ : Moment StoreAction.Reply Stamp Store)
    (action : StoreAction) : Prop :=
  ∃ writer, writers[client]? = some writer ∧ writer.may action

abbrev Reached (writers : List Writer) (store : Store)
    (now : Moment StoreAction.Reply Stamp Store) : Prop :=
  Leads Store.act (allowed writers) (fun _ => True) ⟨store, []⟩ now

theorem create_abides {payment : NewPayment} {moment : Moment StoreAction.Reply Stamp Store}
    (known : writers[client]? = some (.create payment))
    (idle : storeAccess.commitsBy client moment.past = []) :
    Abides Store.act (allowed writers) client
      (fun written now => (Writer.create payment).Goal client written now.past)
      (Writer.create payment).workflow moment := by
  intro later others
  refine ⟨⟨_, known, rfl⟩, fun stamp => ⟨?_, by simp⟩⟩
  have committed := storeAccess.record?_step later client stamp (.create payment)
  have replied : storeAccess.reply later.state stamp (.create payment) =
    (later.state.act stamp (.create payment)).1 := rfl
  refine storeAccess.lastStep_next (others.commitsBy_eq_nil idle) ?_ ?_
  · cases found : later.state.find? payment.reference with
    | none =>
        have acted := Store.act_create_absent found stamp
        rw [replied, acted] at committed
        rw [acted]
        exact .created rfl found (congrArg Prod.snd acted) committed
    | some current =>
        have acted := Store.act_create_present found stamp
        rw [acted]
        exact .duplicate rfl found (congrArg Prod.snd acted)
  · rw [replied]
    cases (later.state.act stamp (.create payment)).1 <;> rfl

theorem settle_abides {reference : Reference} {update : StatusUpdate} {attempts : Nat}
    {moment : Moment StoreAction.Reply Stamp Store}
    (known : writers[client]? = some (.settle reference update attempts))
    (idle : storeAccess.commitsBy client moment.past = []) :
    Abides Store.act (allowed writers) client
      (fun written now => (Writer.settle reference update attempts).Goal client written now.past)
      (Writer.settle reference update attempts).workflow moment := by
  have permits : MaySettle storeAccess reference update (allowed writers client) :=
    ⟨fun _ => ⟨_, known, .inl rfl⟩, fun _ read => ⟨_, known, .inr ⟨read, rfl⟩⟩⟩
  have settles := Interleaving.settle_abides permits attempts idle
  rw [within_storeAccess] at settles
  refine Abides.bind (Abides.mono ?_ settles)
  intro result now goal
  refine ⟨goal.settled, ?_⟩
  rintro _ _ _ error ⟨⟩ ⟨⟩
  exact goal.contended error rfl

theorem abides {moment : Moment StoreAction.Reply Stamp Store}
    (known : writers[client]? = some writer)
    (idle : storeAccess.commitsBy client moment.past = []) :
    Abides Store.act (allowed writers) client
      (fun written now => writer.Goal client written now.past) writer.workflow moment := by
  cases writer with
  | create payment => exact create_abides known idle
  | settle reference update attempts => exact settle_abides known idle

def GoalOf (writers : List Writer) (client : Nat) (written : Written)
    (now : Moment StoreAction.Reply Stamp Store) : Prop :=
  ∀ writer, writers[client]? = some writer → writer.Goal client written now.past

theorem run_kept (writers : List Writer) (store : Store) (turns : List (Nat × Stamp)) :
    Kept Store.act (allowed writers) (GoalOf writers) (pool writers store).moment
      ((pool writers store).run Store.act turns) := by
  refine Pool.run_kept ?_ turns
  intro client workflow found
  simp only [pool, List.getElem?_map, Option.map_eq_some_iff] at found
  obtain ⟨writer, known, rfl⟩ := found
  refine Abides.mono ?_ (abides known rfl)
  intro written now goal writer' known'
  rw [known] at known'
  cases known'
  exact goal

theorem goal_of_result {store : Store} {turns : List (Nat × Stamp)}
    (known : writers[client]? = some writer)
    (finished : ((pool writers store).run Store.act turns).result? client = some written) :
    writer.Goal client written ((pool writers store).run Store.act turns).moment.past := by
  obtain ⟨moment, _, goal, others⟩ := (run_kept writers store turns).goal_met finished
  obtain ⟨steps, grown, foreign⟩ := others.past
  rw [grown]
  exact (goal writer known).others fun step member => (foreign step member).1

theorem countP_clients {count : Nat} (bound : ∀ step ∈ steps, step.client < count)
    (counts : StoreStep → Bool) :
    steps.countP counts = ∑ client ∈ Finset.range count,
      steps.countP fun step => step.client = client && counts step := by
  induction steps with
  | nil => simp
  | cons step steps ih =>
      have known : step.client < count := bound step List.mem_cons_self
      simp only [List.countP_cons, Finset.sum_add_distrib]
      rw [ih fun step member => bound step (List.mem_cons_of_mem _ member)]
      congr 1
      cases counted : counts step <;> simp [known]

theorem countP_own (counts : StoreStep → Bool)
    (committed : ∀ step, counts step = true → (storeAccess.record? step).isSome) :
    (past.countP fun step => step.client = client && counts step) =
      (storeAccess.commitsBy client past).countP counts := by
  rw [StoreView.commitsBy, List.countP_filter]
  refine List.countP_congr fun step _ => ?_
  cases counted : counts step with
  | false => simp
  | true => simp [committed step counted]

theorem record?_of_advances {reference : Reference} (step : StoreStep)
    (advances : storeAccess.advances reference step = true) :
    (storeAccess.record? step).isSome := by
  simp only [StoreView.advances, StoreView.commits, Bool.and_eq_true, Option.any_eq_true]
    at advances
  obtain ⟨⟨record, recorded, _⟩, _⟩ := advances
  rw [recorded]
  rfl

theorem Accounted.countP_advances (accounted : writer.Accounted client past written)
    (reference : Reference) :
    (past.countP fun step => step.client = client && storeAccess.advances reference step) =
      if writer.applies reference written then 1 else 0 := by
  rw [countP_own _ record?_of_advances]
  cases writer with
  | create payment =>
      cases written with
      | created result =>
          obtain ⟨_, last, _, _, _, _, creates, commits⟩ := accounted
          rw [commits]
          cases creates with
          | created _ absent _ recorded =>
              have still := StoreView.advances_eq_of_absent recorded absent reference
              simp [Except.isOk, Except.toBool, applies, still]
          | duplicate => simp [Except.isOk, Except.toBool, applies]
      | settled result => exact accounted.elim
  | settle own update attempts =>
      cases written with
      | created result => exact accounted.elim
      | settled result =>
          obtain ⟨_, last, _, _, _, _, explains, commits⟩ := accounted
          rw [commits]
          cases explains with
          | @applied previous _ stored _ _ recorded =>
              have same : previous.reference = own := Store.find?_reference stored
              have once := StoreView.advances_eq_of_stored recorded same stored reference
              simp [isApplied, applies, once]
          | unchanged => simp [isApplied, applies]
          | rejected => simp [isApplied, applies]
          | missing => simp [isApplied, applies]
          | conflict => simp [isApplied, applies]

theorem countP_advances_of_finished {store : Store} {turns : List (Nat × Stamp)}
    (finished : ((pool writers store).run Store.act turns).Finished) (reference : Reference) :
    ((pool writers store).run Store.act turns).moment.past.countP (storeAccess.advances reference) =
      (applied writers ((pool writers store).run Store.act turns) reference).card := by
  have bound : ∀ step ∈ ((pool writers store).run Store.act turns).moment.past,
      step.client < writers.length := by
    intro step member
    obtain ⟨steps, grown, permitted⟩ := (run_kept writers store turns).reached.past
    rw [grown] at member
    obtain ⟨_, _, _, known, _⟩ := permitted step member
    exact (List.getElem?_eq_some_iff.mp known).1
  rw [countP_clients bound, applied, Finset.card_filter]
  refine Finset.sum_congr rfl fun client member => ?_
  have isWriter := Finset.mem_range.mp member
  have known : writers[client]? = some writers[client] := List.getElem?_eq_getElem isWriter
  have isClient : client < ((pool writers store).run Store.act turns).clients.length := by
    rw [Pool.length_clients_run]
    simpa [pool] using isWriter
  obtain ⟨written, result⟩ := Option.isSome_iff_exists.mp (finished client isClient)
  rw [(goal_of_result known result).accounted.countP_advances reference, known, result]
  simp

/-- Writers over one store, interleaved call by call: every result is that of one guarded update or
creation at the last call of its client, which is its only commit if it made one. When all are
done, the version of a stored record counts the settlements of its reference that came out applied,
from the version that it started with. -/
theorem run_linearizes (writers : List Writer) (store : Store) (turns : List (Nat × Stamp)) :
    let pool := (pool writers store).run Store.act turns
    (∀ client writer written, writers[client]? = some writer →
      pool.result? client = some written →
      writer.Accounted client pool.moment.past written) ∧
    (pool.Finished → ∀ reference,
      Payment.Counted (store.find? reference) (applied writers pool reference).card
        (pool.moment.state.find? reference)) := by
  intro pool
  refine ⟨fun client writer written known result => (goal_of_result known result).accounted, ?_⟩
  intro finished reference
  obtain ⟨steps, grown, counted⟩ :=
    (run_kept writers store turns).reached.counted storeAccess.toStoreView reference
  have whole : pool.moment.past = steps := grown
  rw [← whole, countP_advances_of_finished finished reference] at counted
  exact counted

end

def openPayment : Payment where
  id := ⟨0⟩
  reference := ⟨"pi_1", by decide, by simp [Text.isBlank]⟩
  userId := "user"
  planId := "plan"
  money := ⟨.hundred, ⟨"USD", by simp, by simp⟩⟩
  status := .processing
  receiptUrl := none
  customerId := none
  description := none
  createdAt := ⟨0, 0⟩
  updatedAt := ⟨0, 0⟩
  version := 1

def twoRacers : List Writer :=
  [ .settle openPayment.reference { status := .succeeded } 2
  , .settle openPayment.reference { status := .canceled } 2 ]

/-- Both racers read before either writes. -/
def closeRace : WriterPool :=
  (pool twoRacers ⟨[openPayment]⟩).run Store.act
    [(0, default), (1, default), (0, default), (1, default), (1, default), (1, default)]

theorem closeRace_finished : closeRace.Finished := by
  intro client bound
  match client with
  | 0 => rfl
  | 1 => rfl
  | client + 2 => exact absurd bound (by simp [closeRace, Pool.length_clients_run, pool, twoRacers])

theorem run_linearizes_closeRace :
    ∃ record, closeRace.moment.state.find? openPayment.reference = some record ∧
      record.version = openPayment.version +
        (applied twoRacers closeRace openPayment.reference).card := by
  have counted := (run_linearizes twoRacers ⟨[openPayment]⟩ _).2 closeRace_finished
    openPayment.reference
  exact ⟨_, rfl, counted⟩

end Writer

end Payments.Interleaving
