import Mathlib.Data.List.TakeDrop
import Payments.Paging

/-!
The pages of one list. They follow each other without a gap and without an overlap, so that enough of
them joined are the list.
-/

namespace Payments

/-- The pages from number 0 on are the listing, cut into pieces of `limit` items. -/
structure Paged {α : Type} (pages : ℕ → List α) (listing : List α) (limit : ℕ) : Prop where
  whole : ∀ count, listing.length ≤ count * limit → (List.range count).flatMap pages = listing
  full : ∀ number later, number < later → pages later ≠ [] → (pages number).length = limit
  empty_iff : ∀ number, pages number = [] ↔ listing.length ≤ number * limit

namespace PageRequest

variable {α : Type} {request : PageRequest} {items : List α} {page size : ℕ}

theorem limit_pos : 0 < request.limit := by
  unfold limit
  omega

theorem limit_le : request.limit ≤ maxSize := by
  unfold limit maxSize
  omega

theorem offset_lt (isPage : page < 2 ^ 32) : (PageRequest.mk page size).offset < 2 ^ 64 := by
  have atMost : (PageRequest.mk page size).limit ≤ 100 := limit_le
  calc page * (PageRequest.mk page size).limit
      ≤ 2 ^ 32 * 100 := Nat.mul_le_mul (Nat.le_of_lt isPage) atMost
    _ < 2 ^ 64 := by decide

theorem length_slice :
    (request.slice items).length = min request.limit (items.length - request.offset) := by
  simp [slice]

theorem slice_eq_nil_iff : request.slice items = [] ↔ items.length ≤ request.offset := by
  have positive := request.limit_pos
  rw [← List.length_eq_zero_iff, length_slice]
  omega

theorem flatMap_slice (count : ℕ) :
    (List.range count).flatMap (fun page => (PageRequest.mk page size).slice items) =
      items.take (count * (PageRequest.mk 0 size).limit) := by
  induction count with
  | zero => simp
  | succ count ih =>
      rw [List.range_succ, List.flatMap_append, ih, List.flatMap_singleton, Nat.succ_mul,
        List.take_add]
      rfl

theorem paged_slice (size : ℕ) (items : List α) :
    Paged (fun page => (PageRequest.mk page size).slice items) items
      (PageRequest.mk 0 size).limit where
  whole count enough := by rw [flatMap_slice, List.take_of_length_le enough]
  full number later before nonempty := by
    rw [Ne, slice_eq_nil_iff, Nat.not_le] at nonempty
    have next : (number + 1) * (PageRequest.mk 0 size).limit ≤
        later * (PageRequest.mk 0 size).limit := Nat.mul_le_mul_right _ before
    have remaining : number * (PageRequest.mk 0 size).limit + (PageRequest.mk 0 size).limit <
        items.length := by
      rw [← Nat.succ_mul]
      exact Nat.lt_of_le_of_lt next nonempty
    rw [length_slice]
    exact Nat.min_eq_left (Nat.le_sub_of_add_le' (Nat.le_of_lt remaining))
  empty_iff number := slice_eq_nil_iff

end PageRequest

end Payments
