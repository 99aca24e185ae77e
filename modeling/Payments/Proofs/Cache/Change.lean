import Payments.Cache

/-!
What one action can do to a cache: it fills a record in, evicts a version, or leaves the cache as it
is. None of these takes a slot back to an older version.
-/

namespace Payments.Cache

theorem slot?_put_self (cache : Cache) (payment : Payment) :
    (cache.put payment).slot? payment.reference =
      match cache.slot? payment.reference with
      | some slot => if slot.version ≤ payment.version then some (.cached payment) else some slot
      | none => some (.cached payment) := by
  cases held : cache.slot? payment.reference with
  | none => simp [put, held]
  | some slot => by_cases older : slot.version ≤ payment.version <;> simp [put, held, older]

theorem slot?_put_of_ne {cache : Cache} {payment : Payment} {reference : Reference}
    (different : reference ≠ payment.reference) :
    (cache.put payment).slot? reference = cache.slot? reference := by
  unfold put
  split
  · split
    · exact slot?_setSlot_of_ne different
    · rfl
  · exact slot?_setSlot_of_ne different

theorem slot?_evict_self (cache : Cache) (reference : Reference) (version : Int) :
    (cache.evict reference version).slot? reference =
      match cache.slot? reference with
      | some slot => some (.evicted (max slot.version version))
      | none => some (.evicted version) := by
  cases held : cache.slot? reference <;> simp [evict, held]

theorem slot?_evict_of_ne {cache : Cache} {reference other : Reference} {version : Int}
    (different : other ≠ reference) :
    (cache.evict reference version).slot? other = cache.slot? other := by
  unfold evict
  split
  · exact slot?_setSlot_of_ne different
  · exact slot?_setSlot_of_ne different

theorem get?_evict_self (cache : Cache) (reference : Reference) (version : Int) :
    (cache.evict reference version).get? reference = none := by
  rw [get?, slot?_evict_self]
  cases cache.slot? reference <;> rfl

theorem get?_evict_of_ne {cache : Cache} {reference other : Reference} {version : Int}
    (different : other ≠ reference) :
    (cache.evict reference version).get? other = cache.get? other := by
  rw [get?, slot?_evict_of_ne different, get?]

theorem slot?_of_get? {cache : Cache} {reference : Reference} {payment : Payment}
    (held : cache.get? reference = some payment) :
    cache.slot? reference = some (.cached payment) := by
  simp only [get?, Option.bind_eq_some_iff] at held
  obtain ⟨slot, found, isCached⟩ := held
  cases slot with
  | cached other =>
      cases isCached
      exact found
  | evicted version => cases isCached

/-- What a cache may be after one action, the record that the action filled in, and the version
that it evicted. -/
inductive Change (cache : Cache) :
    Option Payment → Option (Reference × Int) → Cache → Prop
  | nothing : Change cache none none cache
  | fill (payment : Payment) : Change cache (some payment) none (cache.put payment)
  | evict (reference : Reference) (version : Int) :
      Change cache none (some (reference, version)) (cache.evict reference version)

variable {cache after : Cache} {filled : Option Payment} {evicted : Option (Reference × Int)}

theorem Change.cached (change : cache.Change filled evicted after) {reference : Reference}
    {payment : Payment} (held : after.slot? reference = some (.cached payment)) :
    cache.slot? reference = some (.cached payment) ∨
      filled = some payment ∧ payment.reference = reference := by
  cases change with
  | nothing => exact .inl held
  | fill newest =>
      by_cases own : reference = newest.reference
      · subst own
        rw [slot?_put_self] at held
        split at held
        · rename_i slot before
          split at held
          · cases held
            exact .inr ⟨rfl, rfl⟩
          · exact .inl (before.trans held)
        · cases held
          exact .inr ⟨rfl, rfl⟩
      · rw [slot?_put_of_ne own] at held
        exact .inl held
  | evict other version =>
      by_cases own : reference = other
      · subst own
        rw [slot?_evict_self] at held
        split at held <;> cases held
      · rw [slot?_evict_of_ne own] at held
        exact .inl held

theorem Change.version_le (change : cache.Change filled evicted after) {reference : Reference}
    {slot : CacheSlot} (held : cache.slot? reference = some slot) :
    ∃ later, after.slot? reference = some later ∧ slot.version ≤ later.version := by
  cases change with
  | nothing => exact ⟨slot, held, Int.le_refl _⟩
  | fill newest =>
      by_cases own : reference = newest.reference
      · subst own
        rw [slot?_put_self, held]
        simp only
        split
        · rename_i older
          exact ⟨_, rfl, older⟩
        · exact ⟨slot, rfl, Int.le_refl _⟩
      · rw [slot?_put_of_ne own]
        exact ⟨slot, held, Int.le_refl _⟩
  | evict other version =>
      by_cases own : reference = other
      · subst own
        rw [slot?_evict_self, held]
        exact ⟨_, rfl, Int.le_max_left _ _⟩
      · rw [slot?_evict_of_ne own]
        exact ⟨slot, held, Int.le_refl _⟩

theorem Change.evicted_le {reference : Reference} {version : Int}
    (change : cache.Change filled (some (reference, version)) after) :
    ∃ later, after.slot? reference = some later ∧ version ≤ later.version := by
  cases change with
  | evict _ _ =>
      rw [slot?_evict_self]
      split
      · exact ⟨_, rfl, Int.le_max_right _ _⟩
      · exact ⟨_, rfl, Int.le_refl _⟩

end Payments.Cache
