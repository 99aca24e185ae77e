import Payments.Payment.Record

/-!
A read-through cache of payments. An eviction leaves behind the version that was committed, so that
a reader who saw an older record cannot fill it in again.
-/

namespace Payments

inductive CacheSlot
  | cached (payment : Payment)
  | evicted (version : Int)
deriving DecidableEq, Repr

namespace CacheSlot

def version : CacheSlot → Int
  | .cached payment => payment.version
  | .evicted version => version

def payment? : CacheSlot → Option Payment
  | .cached payment => some payment
  | .evicted _ => none

end CacheSlot

/-- One slot for every reference that was ever filled or evicted. -/
structure Cache where
  slots : List (Reference × CacheSlot) := []

namespace Cache

def slot? (cache : Cache) (reference : Reference) : Option CacheSlot :=
  (cache.slots.find? (·.1 = reference)).map (·.2)

def setSlot (cache : Cache) (reference : Reference) (slot : CacheSlot) : Cache :=
  ⟨(reference, slot) :: cache.slots.filter (·.1 ≠ reference)⟩

def get? (cache : Cache) (reference : Reference) : Option Payment :=
  (cache.slot? reference).bind CacheSlot.payment?

/-- Fills a record in, unless the slot has seen a newer one. -/
def put (cache : Cache) (payment : Payment) : Cache :=
  match cache.slot? payment.reference with
  | some slot =>
    if slot.version ≤ payment.version then cache.setSlot payment.reference (.cached payment)
    else cache
  | none => cache.setSlot payment.reference (.cached payment)

/-- Drops the record after that version of it was committed. -/
def evict (cache : Cache) (reference : Reference) (version : Int) : Cache :=
  match cache.slot? reference with
  | some slot => cache.setSlot reference (.evicted (max slot.version version))
  | none => cache.setSlot reference (.evicted version)

@[simp] theorem slot?_setSlot_self (cache : Cache) (reference : Reference) (slot : CacheSlot) :
    (cache.setSlot reference slot).slot? reference = some slot := by
  simp [slot?, setSlot]

theorem slot?_setSlot_of_ne {cache : Cache} {reference other : Reference} {slot : CacheSlot}
    (different : other ≠ reference) :
    (cache.setSlot reference slot).slot? other = cache.slot? other := by
  have apart : ¬ reference = other := fun same => different same.symm
  simp only [slot?, setSlot, List.find?_cons, apart, decide_false, List.find?_filter]
  congr 2
  funext entry
  by_cases same : entry.1 = other <;> simp [same, different]

end Cache

end Payments
