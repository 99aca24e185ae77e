import Payments.Store.Action

/-!
What one action can do to a store: it commits the first version of a payment, commits the next
version of a stored one, or leaves the store as it is. Everything later that is said about stores
follows from this and from how a commit changes the lookups.
-/

namespace Payments

/-- The record that an action brought into the store: the one it created or the next version it
wrote. Errors, `unchanged` and the reads bring none. -/
def StoreAction.committed? : (action : StoreAction) → action.Reply → Option Payment
  | .create _, .ok record => some record
  | .update _ _ _, .ok (.applied _ current) => some current
  | _, _ => none

namespace Payment

@[simp] theorem reference_record (payment : NewPayment) (stamp : Stamp) :
    (payment.record stamp).reference = payment.reference := rfl

@[simp] theorem reference_apply (payment : Payment) (update : StatusUpdate) (now : Instant) :
    (payment.apply update now).reference = payment.reference := rfl

end Payment

namespace Store

@[simp] theorem find?_empty (reference : Reference) : Store.find? {} reference = none := rfl

theorem find?_reference {store : Store} {reference : Reference} {payment : Payment}
    (found : store.find? reference = some payment) : payment.reference = reference := by
  simpa using List.find?_some found

theorem references_replace (store : Store) (record : Payment) :
    (store.replace record).payments.map (·.reference) = store.payments.map (·.reference) := by
  simp only [replace, List.map_map]
  refine List.map_congr_left fun p _ => ?_
  by_cases hit : p.reference = record.reference <;> simp [hit]

theorem find?_insert {store : Store} {record : Payment}
    (absent : store.find? record.reference = none) (reference : Reference) :
    (Store.mk (store.payments ++ [record])).find? reference =
      if record.reference = reference then some record else store.find? reference := by
  simp only [find?, List.find?_append, List.find?_singleton, decide_eq_true_eq]
  split
  · rename_i same
    subst reference
    rw [show store.payments.find? (·.reference = record.reference) = none from absent]
    rfl
  · simp

theorem find?_replace {store : Store} {record current : Payment}
    (present : store.find? record.reference = some current) (reference : Reference) :
    (store.replace record).find? reference =
      if record.reference = reference then some record else store.find? reference := by
  have found : (store.replace record).find? reference = (store.find? reference).map fun p =>
      if p.reference = record.reference then record else p := by
    simp only [find?, replace, List.find?_map]
    congr 2
    funext p
    by_cases hit : p.reference = record.reference <;> simp [hit]
  rw [found]
  split
  · rename_i same
    subst reference
    simp [present, find?_reference present]
  · rename_i different
    cases stored : store.find? reference with
    | none => rfl
    | some p => simp [find?_reference stored, Ne.symm different]

theorem find?_replace_apply {store : Store} {reference : Reference} {current : Payment}
    (stored : store.find? reference = some current) (update : StatusUpdate) (now : Instant)
    (other : Reference) :
    (store.replace (current.apply update now)).find? other =
      if other = reference then some (current.apply update now) else store.find? other := by
  have own := find?_reference stored
  have present : store.find? (current.apply update now).reference = some current := by
    rw [Payment.reference_apply, own, stored]
  rw [find?_replace present, Payment.reference_apply, own]
  simp only [eq_comm]

/-- What a store may be after one action, and the record that the action committed. -/
inductive Commit (store : Store) : Option Payment → Store → Prop
  | nothing : Commit store none store
  | first {payment : NewPayment} {stamp : Stamp} :
      store.find? payment.reference = none →
      Commit store (some (payment.record stamp)) ⟨store.payments ++ [payment.record stamp]⟩
  | next {current : Payment} {update : StatusUpdate} {now : Instant} :
      store.find? current.reference = some current →
      current.status.canMoveTo update.status = true →
      Commit store (some (current.apply update now)) (store.replace (current.apply update now))

theorem act_update {store : Store} {reference : Reference} {current : Payment}
    (found : store.find? reference = some current) (expected : Int) (update : StatusUpdate)
    (stamp : Stamp) :
    store.act stamp (.update reference expected update) =
      if current.version = expected then
        match current.status.check update.status with
        | .error illegal => (.error (.illegalMove illegal), store)
        | .ok .unchanged => (.ok (.unchanged current), store)
        | .ok .advance =>
          (.ok (.applied current (current.apply update stamp.now)),
            store.replace (current.apply update stamp.now))
      else (.error (.conflict reference.text expected current.version), store) := by
  simp only [act, Store.update, found]
  by_cases version : current.version = expected
  · simp only [version, ne_eq, not_true, if_false, if_true]
    cases current.status.check update.status with
    | error illegal => rfl
    | ok move => cases move <;> rfl
  · simp only [version, ne_eq, not_false_eq_true, if_true, if_false]
    rfl

theorem act_update_absent {store : Store} {reference : Reference}
    (absent : store.find? reference = none) (expected : Int) (update : StatusUpdate)
    (stamp : Stamp) :
    store.act stamp (.update reference expected update) =
      (.error (.notFound reference.text), store) := by
  simp only [act, Store.update, absent]
  rfl

theorem act_create_present {store : Store} {payment : NewPayment} {current : Payment}
    (found : store.find? payment.reference = some current) (stamp : Stamp) :
    store.act stamp (.create payment) = (.error (.duplicate payment.reference.text), store) := by
  simp only [act, create, found]
  rfl

theorem act_create_absent {store : Store} {payment : NewPayment}
    (absent : store.find? payment.reference = none) (stamp : Stamp) :
    store.act stamp (.create payment) =
      (.ok (payment.record stamp), ⟨store.payments ++ [payment.record stamp]⟩) := by
  simp only [act, create, absent]
  rfl

theorem committed_create {store : Store} {payment : NewPayment} {stamp : Stamp} {record : Payment}
    (committed : (StoreAction.create payment).committed? (store.act stamp (.create payment)).1 =
      some record) :
    store.find? payment.reference = none ∧ record = payment.record stamp := by
  cases found : store.find? payment.reference with
  | none =>
      rw [act_create_absent found] at committed
      exact ⟨rfl, (Option.some.inj committed).symm⟩
  | some current =>
      rw [act_create_present found] at committed
      simp [StoreAction.committed?] at committed

theorem committed_update {store : Store} {reference : Reference} {expected : Int}
    {update : StatusUpdate} {stamp : Stamp} {record : Payment}
    (committed : (StoreAction.update reference expected update).committed?
      (store.act stamp (.update reference expected update)).1 = some record) :
    ∃ current, store.find? reference = some current ∧ current.version = expected ∧
      current.status.canMoveTo update.status = true ∧ record = current.apply update stamp.now := by
  cases found : store.find? reference with
  | none =>
      rw [act_update_absent found] at committed
      simp [StoreAction.committed?] at committed
  | some current =>
      rw [act_update found] at committed
      split at committed
      · rename_i version
        split at committed
        · simp [StoreAction.committed?] at committed
        · simp [StoreAction.committed?] at committed
        · rename_i advance
          exact ⟨current, rfl, version, Status.check_eq_advance_iff.mp advance,
            (Option.some.inj committed).symm⟩
      · simp [StoreAction.committed?] at committed

theorem act_commit (store : Store) (stamp : Stamp) (action : StoreAction) :
    store.Commit (action.committed? (store.act stamp action).1) (store.act stamp action).2 := by
  cases action with
  | create payment =>
      cases found : store.find? payment.reference with
      | none =>
          rw [act_create_absent found]
          exact .first found
      | some current =>
          rw [act_create_present found]
          exact .nothing
  | find reference => exact .nothing
  | ofUser userId page => exact .nothing
  | update reference expected update =>
      cases found : store.find? reference with
      | none =>
          rw [act_update_absent found]
          exact .nothing
      | some current =>
          rw [act_update found]
          have known := find?_reference found
          split
          · split
            · exact .nothing
            · exact .nothing
            · rename_i advance
              exact .next (known ▸ found) (Status.check_eq_advance_iff.mp advance)
          · exact .nothing

theorem Commit.eq_of_none {store after : Store} (commit : store.Commit none after) :
    after = store := by
  cases commit
  rfl

theorem Commit.find? {store after : Store} {record : Payment}
    (commit : store.Commit (some record) after) (reference : Reference) :
    after.find? reference =
      if record.reference = reference then some record else store.find? reference := by
  cases commit with
  | first absent => exact find?_insert absent reference
  | @next current update now present legal =>
      have replaced : store.find? (current.apply update now).reference = some current := present
      exact find?_replace replaced reference

end Store

end Payments
