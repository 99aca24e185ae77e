import Mathlib.Data.List.Induction
import Payments.Proofs.Store.Lineage

/-!
Updates applied to a payment one after another. Main statement: what they make of it, told by the
list of updates alone. Its length is counted on top of the version, its last update decides the
status and the time, and each text is the last one any update brought, so that a text once there is
never lost.
-/

namespace Payments.Payment

def applyAll (payment : Payment) (updates : List (StatusUpdate × Instant)) : Payment :=
  updates.foldl (fun record step => record.apply step.1 step.2) payment

def lastText? (text : StatusUpdate → Option String) (updates : List (StatusUpdate × Instant)) :
    Option String :=
  (updates.filterMap fun step => text step.1).getLast?

/-- What a payment is after updates in this order. -/
structure IsAfter (payment : Payment) (updates : List (StatusUpdate × Instant))
    (after : Payment) : Prop where
  version : after.version = payment.version + updates.length
  status : after.status = (updates.getLast?.map fun step => step.1.status).getD payment.status
  updatedAt : after.updatedAt = (updates.getLast?.map Prod.snd).getD payment.updatedAt
  sameCharge : payment.SameCharge after
  receiptUrl : after.receiptUrl = (lastText? StatusUpdate.receiptUrl updates).or payment.receiptUrl
  customerId : after.customerId = (lastText? StatusUpdate.customerId updates).or payment.customerId
  description :
    after.description = (lastText? StatusUpdate.description updates).or payment.description

/-- No text of the earlier payment is missing in the later one. -/
structure KeepsTexts (earlier later : Payment) : Prop where
  receiptUrl : earlier.receiptUrl.isSome = true → later.receiptUrl.isSome = true
  customerId : earlier.customerId.isSome = true → later.customerId.isSome = true
  description : earlier.description.isSome = true → later.description.isSome = true

section

variable {payment after other : Payment} {updates more : List (StatusUpdate × Instant)}

theorem applyAll_append :
    payment.applyAll (updates ++ more) = (payment.applyAll updates).applyAll more :=
  List.foldl_append

theorem lastText?_append (text : StatusUpdate → Option String) :
    lastText? text (updates ++ more) = (lastText? text more).or (lastText? text updates) := by
  rw [lastText?, List.filterMap_append, List.getLast?_append]
  rfl

theorem lastText?_singleton (text : StatusUpdate → Option String) (update : StatusUpdate)
    (now : Instant) : lastText? text [(update, now)] = text update := by
  cases brought : text update <;> simp [lastText?, brought]

theorem lastText?_concat_or (text : StatusUpdate → Option String) (initial : Option String)
    (update : StatusUpdate) (now : Instant) :
    (lastText? text (updates ++ [(update, now)])).or initial =
      (text update <|> (lastText? text updates).or initial) := by
  rw [lastText?_append, lastText?_singleton, Option.or_assoc]
  cases text update <;> rfl

theorem IsAfter.refl (payment : Payment) : payment.IsAfter [] payment where
  version := (Int.add_zero _).symm
  status := rfl
  updatedAt := rfl
  sameCharge := .refl payment
  receiptUrl := rfl
  customerId := rfl
  description := rfl

theorem IsAfter.apply (isAfter : payment.IsAfter updates after) (update : StatusUpdate)
    (now : Instant) : payment.IsAfter (updates ++ [(update, now)]) (after.apply update now) where
  version := by
    rw [Payment.apply, isAfter.version, List.length_append, List.length_singleton, Int.natCast_add,
      Int.add_assoc]
    rfl
  status := by rw [List.getLast?_concat]; rfl
  updatedAt := by rw [List.getLast?_concat]; rfl
  sameCharge := isAfter.sameCharge.trans (sameCharge_apply after update now)
  receiptUrl := by rw [lastText?_concat_or, ← isAfter.receiptUrl]; rfl
  customerId := by rw [lastText?_concat_or, ← isAfter.customerId]; rfl
  description := by rw [lastText?_concat_or, ← isAfter.description]; rfl

theorem isAfter_applyAll (payment : Payment) (updates : List (StatusUpdate × Instant)) :
    payment.IsAfter updates (payment.applyAll updates) := by
  induction updates using List.reverseRecOn with
  | nil => exact .refl payment
  | append_singleton updates step ih =>
      rw [applyAll_append]
      exact ih.apply step.1 step.2

theorem IsAfter.unique (isAfter : payment.IsAfter updates after)
    (isOther : payment.IsAfter updates other) : after = other := by
  obtain ⟨id, reference, userId, planId, money, createdAt⟩ :=
    isAfter.sameCharge.symm.trans isOther.sameCharge
  have version := isAfter.version.trans isOther.version.symm
  have status := isAfter.status.trans isOther.status.symm
  have updatedAt := isAfter.updatedAt.trans isOther.updatedAt.symm
  have receiptUrl := isAfter.receiptUrl.trans isOther.receiptUrl.symm
  have customerId := isAfter.customerId.trans isOther.customerId.symm
  have description := isAfter.description.trans isOther.description.symm
  cases after
  cases other
  simp_all only

theorem IsAfter.keepsTexts (isAfter : payment.IsAfter updates after) :
    payment.KeepsTexts after where
  receiptUrl := by
    intro present
    rw [isAfter.receiptUrl, Option.isSome_or, present, Bool.or_true]
  customerId := by
    intro present
    rw [isAfter.customerId, Option.isSome_or, present, Bool.or_true]
  description := by
    intro present
    rw [isAfter.description, Option.isSome_or, present, Bool.or_true]

end

/-- Updates in order make of a payment what the list of them tells, and nothing else; and whatever
text it has on the way it keeps. Versions are counted without a bound. -/
theorem applyAll_told_by_updates (payment : Payment) (updates : List (StatusUpdate × Instant)) :
    (∀ after, payment.applyAll updates = after ↔ payment.IsAfter updates after) ∧
    ∀ more, (payment.applyAll updates).KeepsTexts (payment.applyAll (updates ++ more)) := by
  refine ⟨fun after => ⟨?_, (isAfter_applyAll payment updates).unique⟩, fun more => ?_⟩
  · rintro rfl
    exact isAfter_applyAll payment updates
  · rw [applyAll_append]
    exact (isAfter_applyAll _ more).keepsTexts

/-- A receipt stays with an update that brings none; the description is the later one. -/
example (payment : Payment) (first second : Instant) :
    let after := payment.applyAll
      [ ({ status := .requiresAction, receiptUrl := some "https://pay.example/r/1",
           description := some "Plan" }, first)
      , ({ status := .succeeded, description := some "Premium plan" }, second) ]
    after.receiptUrl = some "https://pay.example/r/1" ∧ after.description = some "Premium plan" :=
  ⟨rfl, rfl⟩

end Payments.Payment
