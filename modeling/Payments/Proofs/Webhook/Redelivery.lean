import Mathlib.Logic.Relation
import Payments.Proofs.Webhook.Delivery

/-!
The same event delivered again, after any other deliveries. It finds its payment somewhere on the
way on from the status that it brought the first time. Open statuses lead back to each other, so the
event moves a payment again that others have moved to another open status; otherwise it does nothing.
-/

namespace Payments

namespace Status

def Reaches : Status → Status → Prop :=
  Relation.ReflTransGen fun source target => source.canMoveTo target = true

variable {source target : Status}

theorem isTerminal_of_canMoveTo (legal : source.canMoveTo target = true)
    (terminal : source.isTerminal = true) : target.isTerminal = true := by
  cases source <;> cases target <;> simp_all [canMoveTo, isTerminal]

theorem Reaches.isTerminal (reaches : source.Reaches target) (terminal : source.isTerminal = true) :
    target.isTerminal = true := by
  induction reaches with
  | refl => exact terminal
  | tail _ legal ih => exact isTerminal_of_canMoveTo legal ih

theorem eq_refunded_of_reaches (reaches : refunded.Reaches target) : target = refunded := by
  induction reaches with
  | refl => rfl
  | tail _ legal ih =>
      rw [ih] at legal
      simp [canMoveTo, Status.isTerminal] at legal

theorem Reaches.canMoveBack_iff (reaches : target.Reaches source) :
    source.canMoveTo target = true ↔ source ≠ target ∧ source.isTerminal = false := by
  have notRefunded : source ≠ target → target ≠ refunded := by
    intro different isRefunded
    subst isRefunded
    exact different (eq_refunded_of_reaches reaches)
  by_cases same : source = target
  · simp [canMoveTo, same]
  · have notRefunded := notRefunded same
    cases terminal : source.isTerminal <;> simp [canMoveTo, same, notRefunded, terminal]

end Status

namespace Interleaving

open Webhook

structure Arrival where
  delivery : Delivery
  ahead : Nat → Circumstances

namespace Arrival

def outcome (receiver : Receiver) (world : World) (arrival : Arrival) :
    Except DeliveryError Outcome :=
  (alone World.perform (handle receiver arrival.delivery) (.start world arrival.ahead)).1

def after (receiver : Receiver) (world : World) (arrival : Arrival) : World :=
  (alone World.perform (handle receiver arrival.delivery) (.start world arrival.ahead)).2.moment.state

def afterAll (receiver : Receiver) (world : World) (arrivals : List Arrival) : World :=
  arrivals.foldl (after receiver) world

/-- Its signature is right at the time when it arrives. -/
def Signed (receiver : Receiver) (arrival : Arrival) : Prop :=
  ∃ header, arrival.delivery.signature = some header ∧
    verify arrival.delivery.payload header receiver.endpoint.secret receiver.endpoint.tolerance
      (timeAhead arrival.ahead) = .ok ()

end Arrival

def MovedOn (world : World) (reference : Reference) (status : Status) : Prop :=
  ∃ record, world.store.find? reference = some record ∧ status.Reaches record.status

section

variable {receiver : Receiver} {world : World} {reference : Reference} {status : Status}

theorem Handled.movedOn {delivery : Delivery} {ahead : Nat → Circumstances} {after : World}
    {result : Except DeliveryError Outcome}
    (handled : Handled receiver delivery ahead world result after)
    (moved : MovedOn world reference status) : MovedOn after reference status := by
  obtain ⟨record, stored, reaches⟩ := moved
  by_cases applied : result = .ok .applied
  · subst applied
    cases handled with
    | @applied change current _ _ held legal written _ =>
        rw [MovedOn, written]
        simp only [Store.find?_replace_apply held]
        by_cases own : reference = change.reference
        · subst own
          rw [held] at stored
          cases stored
          exact ⟨_, if_pos rfl, reaches.tail legal⟩
        · exact ⟨record, by rw [if_neg own, stored], reaches⟩
  · have same := handled.not_applied applied
    exact ⟨record, by rw [same.store, stored], reaches⟩

theorem movedOn_afterAll (arrivals : List Arrival) (moved : MovedOn world reference status) :
    MovedOn (Arrival.afterAll receiver world arrivals) reference status := by
  induction arrivals generalizing world with
  | nil => exact moved
  | cons arrival arrivals ih =>
      exact ih ((handle_handled receiver arrival.delivery world arrival.ahead).movedOn moved)

theorem movedOn_of_outcome {arrival : Arrival}
    (taken : arrival.outcome receiver world = .ok .applied ∨
      arrival.outcome receiver world = .ok .unchanged) :
    ∃ change, Carries receiver.endpoint arrival.delivery (timeAhead arrival.ahead) change ∧
      MovedOn (arrival.after receiver world) change.reference change.update.status := by
  have handled : Handled receiver arrival.delivery arrival.ahead world
      (arrival.outcome receiver world) (arrival.after receiver world) :=
    handle_handled receiver arrival.delivery world arrival.ahead
  rcases taken with applied | unchanged
  · rw [applied] at handled
    cases handled with
    | @applied change current _ carries stored _ written _ =>
        refine ⟨change, carries, current.apply change.update (arrival.ahead 2).stamp.now, ?_, .refl⟩
        rw [written, Store.find?_replace_apply stored, if_pos rfl]
  · rw [unchanged] at handled
    cases handled with
    | @unchanged change current _ carries stored same untouched =>
        refine ⟨change, carries, current, ?_, same ▸ .refl⟩
        rw [untouched.store, stored]

theorem carries_again {first second : Arrival} {change : StatusChange}
    (carries : Carries receiver.endpoint first.delivery (timeAhead first.ahead) change)
    (same : second.delivery.payload = first.delivery.payload) (signed : second.Signed receiver) :
    Carries receiver.endpoint second.delivery (timeAhead second.ahead) change := by
  obtain ⟨event, genuine, carried⟩ := carries
  exact ⟨event, ⟨signed, by rw [same]; exact genuine.carried⟩, carried⟩

theorem applied_of_carries {arrival : Arrival} {change : StatusChange} {current : Payment}
    (carries : Carries receiver.endpoint arrival.delivery (timeAhead arrival.ahead) change)
    (stored : world.store.find? change.reference = some current)
    (legal : current.status.canMoveTo change.update.status = true) :
    arrival.outcome receiver world = .ok .applied ∧
      (arrival.after receiver world).store.find? change.reference =
        some (current.apply change.update (arrival.ahead 2).stamp.now) := by
  have handled : Handled receiver arrival.delivery arrival.ahead world
      (arrival.outcome receiver world) (arrival.after receiver world) :=
    handle_handled receiver arrival.delivery world arrival.ahead
  have applied := handled.applied_iff.mpr ⟨change, current, carries, stored, legal⟩
  refine ⟨applied, ?_⟩
  rw [applied] at handled
  cases handled with
  | applied carries' stored' _ written _ =>
      obtain rfl := carries'.eq carries
      rw [stored] at stored'
      cases stored'
      rw [written, Store.find?_replace_apply stored, if_pos rfl]

/-- An event that was applied, or found nothing to do, is delivered once more after any others. It
is applied again just if it finds its payment open and in another status, which cannot be if it
closes payments; otherwise nothing changes. -/
theorem redelivery (receiver : Receiver) (world : World) (first second : Arrival)
    (between : List Arrival) (same : second.delivery.payload = first.delivery.payload)
    (signed : second.Signed receiver)
    (taken : first.outcome receiver world = .ok .applied ∨
      first.outcome receiver world = .ok .unchanged) :
    let found := Arrival.afterAll receiver (first.after receiver world) between
    ∃ change record,
      Carries receiver.endpoint first.delivery (timeAhead first.ahead) change ∧
      found.store.find? change.reference = some record ∧
      (second.outcome receiver found = .ok .applied ↔
        record.status ≠ change.update.status ∧ record.status.isTerminal = false) ∧
      (record.status = change.update.status ∨ record.status.isTerminal = true →
        found.Untouched (second.after receiver found)) ∧
      (change.update.status.isTerminal = true →
        found.Untouched (second.after receiver found)) := by
  intro found
  obtain ⟨change, carries, moved⟩ := movedOn_of_outcome taken
  have movedOn : MovedOn found change.reference change.update.status :=
    movedOn_afterAll between moved
  obtain ⟨record, stored, reaches⟩ := movedOn
  have handled : Handled receiver second.delivery second.ahead found
      (second.outcome receiver found) (second.after receiver found) :=
    handle_handled receiver second.delivery found second.ahead
  have again := carries_again carries same signed
  have applied : second.outcome receiver found = .ok .applied ↔
      record.status ≠ change.update.status ∧ record.status.isTerminal = false := by
    rw [handled.applied_iff, ← reaches.canMoveBack_iff]
    constructor
    · rintro ⟨other, current, carriesOther, storedOther, legal⟩
      obtain rfl := carriesOther.eq again
      obtain rfl : current = record := Option.some.inj (storedOther.symm.trans stored)
      exact legal
    · intro legal
      exact ⟨change, record, again, stored, legal⟩
  have settled : record.status = change.update.status ∨ record.status.isTerminal = true →
      found.Untouched (second.after receiver found) := by
    intro closed
    refine handled.not_applied fun isApplied => ?_
    obtain ⟨different, isOpen⟩ := applied.mp isApplied
    rcases closed with same | terminal
    · exact different same
    · rw [terminal] at isOpen
      cases isOpen
  exact ⟨change, record, carries, stored, applied, settled,
    fun terminal => settled (.inr (reaches.isTerminal terminal))⟩

end

def signedArrival (id type : String) : Arrival :=
  ⟨signedDelivery (intentEvent id type), fun _ => cooperative⟩

def succeeded : Arrival := ⟨paid, fun _ => cooperative⟩

def actionRequired : Arrival := signedArrival "evt_2" "payment_intent.requires_action"

def inProcess : Arrival := signedArrival "evt_3" "payment_intent.processing"

theorem actionRequired_carries :
    Carries postbox.endpoint actionRequired.delivery (timeAhead actionRequired.ahead)
      ⟨(cardCharge .processing).reference, { status := .requiresAction }⟩ := by
  have decoded : decode postbox.endpoint actionRequired.delivery.payload
      actionRequired.delivery.signature (timeAhead actionRequired.ahead) =
    .ok ⟨⟨"evt_2", by decide⟩, "payment_intent.requires_action",
      some ⟨(cardCharge .processing).reference, { status := .requiresAction }⟩⟩ := by
    decide +kernel
  exact ⟨_, decode_eq_ok_iff.mp decoded, rfl⟩

theorem inProcess_carries :
    Carries postbox.endpoint inProcess.delivery (timeAhead inProcess.ahead)
      ⟨(cardCharge .processing).reference, { status := .processing }⟩ := by
  have decoded : decode postbox.endpoint inProcess.delivery.payload
      inProcess.delivery.signature (timeAhead inProcess.ahead) =
    .ok ⟨⟨"evt_3", by decide⟩, "payment_intent.processing",
      some ⟨(cardCharge .processing).reference, { status := .processing }⟩⟩ := by
    decide +kernel
  exact ⟨_, decode_eq_ok_iff.mp decoded, rfl⟩

theorem redelivery_succeeded :
    let found := Arrival.afterAll postbox (succeeded.after postbox charged.moment.state)
      [actionRequired, inProcess]
    found.Untouched (succeeded.after postbox found) := by
  obtain ⟨current, stored, status⟩ := charged_stored
  have legal : current.status.canMoveTo .succeeded = true := by rw [status]; rfl
  have taken : succeeded.outcome postbox charged.moment.state = .ok .applied :=
    (applied_of_carries paid_carries stored legal).1
  obtain ⟨event, genuine, _⟩ := paid_carries
  obtain ⟨change, _, carries, _, _, _, closed⟩ := redelivery postbox charged.moment.state succeeded
    succeeded [actionRequired, inProcess] rfl genuine.signed (.inl taken)
  obtain rfl := carries.eq paid_carries
  exact closed rfl

/-- Between two deliveries of one event another may move its payment away, and the second then moves
it back: open statuses lead to each other, and nobody remembers which events there were. -/
theorem redelivery_not_idempotent :
    ¬ ∀ (receiver : Receiver) (world : World) (first : Arrival) (between : List Arrival),
      (∀ arrival ∈ first :: between, arrival.Signed receiver) →
      (first.outcome receiver world = .ok .applied ∨
        first.outcome receiver world = .ok .unchanged) →
      let found := Arrival.afterAll receiver (first.after receiver world) between
      ∀ change, Carries receiver.endpoint first.delivery (timeAhead first.ahead) change →
        (first.after receiver found).store.find? change.reference =
          found.store.find? change.reference := by
  intro idempotent
  have signed : ∀ arrival ∈ [actionRequired, inProcess], arrival.Signed postbox := by
    obtain ⟨_, required, _⟩ := actionRequired_carries
    obtain ⟨_, inProcess, _⟩ := inProcess_carries
    simpa using ⟨required.signed, inProcess.signed⟩
  obtain ⟨current, stored, status⟩ := charged_stored
  have legal : current.status.canMoveTo .requiresAction = true := by rw [status]; rfl
  obtain ⟨first, required⟩ := applied_of_carries actionRequired_carries stored legal
  obtain ⟨_, before⟩ := applied_of_carries inProcess_carries required rfl
  obtain ⟨_, after⟩ := applied_of_carries actionRequired_carries before rfl
  have same := idempotent postbox charged.moment.state actionRequired [inProcess] signed
    (.inl first) _ actionRequired_carries
  rw [Arrival.afterAll, List.foldl_cons, List.foldl_nil, after, before] at same
  have version := congrArg Payment.version (Option.some.inj same)
  simp only [Payment.apply] at version
  omega

end Interleaving

end Payments
