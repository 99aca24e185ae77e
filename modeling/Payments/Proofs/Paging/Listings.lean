import Mathlib.Data.List.Sort
import Mathlib.Data.Prod.Lex
import Mathlib.Data.String.Basic
import Payments.Proofs.Paging.Slices
import Payments.Proofs.Search.Convergence
import Payments.Store.Basic

/-!
The lists that searches and the payments of a user are pages of. Both are sorted, newest first, by a
time and a name that no two items share, so that the order leaves nothing open: whatever order the
items are held in, the list is the same and so are its pages.
-/

namespace Payments

/-- What belongs to the listing is in it once, in the order of `Before`, and nothing else is. -/
structure Listing {α : Type} (Before : α → α → Prop) (Belongs : α → Prop) (listing : List α) :
    Prop where
  nodup : listing.Nodup
  mem_iff : ∀ item, item ∈ listing ↔ Belongs item
  ordered : listing.Pairwise Before

def Instant.Before (x y : Instant) : Prop :=
  x.seconds < y.seconds ∨ x.seconds = y.seconds ∧ x.nanos < y.nanos

/-- Newest first, and of one time the greater name first. -/
def NewestFirst {α ν : Type} [LT ν] (time : α → Instant) (name : α → ν) (x y : α) : Prop :=
  (time y).Before (time x) ∨ time x = time y ∧ name y < name x

section Ranked

/-! Sorting by a rank, the greatest first. -/

variable {α κ : Type} [LinearOrder κ] {rank : α → κ} {precedes : α → α → Bool}
  {items other : List α}

theorem pairwise_rank_mergeSort (agrees : ∀ x y, precedes x y = true ↔ rank y ≤ rank x)
    (items : List α) : (items.mergeSort precedes).Pairwise fun x y => rank y ≤ rank x := by
  have sorted := List.pairwise_mergeSort
    (fun x y z first second => (agrees x z).mpr
      (le_trans ((agrees y z).mp second) ((agrees x y).mp first)))
    (fun x y => by
      rw [Bool.or_eq_true, agrees, agrees]
      exact le_total (rank y) (rank x)) items
  exact sorted.imp (agrees _ _).mp

theorem pairwise_mergeSort_of_nodup (agrees : ∀ x y, precedes x y = true ↔ rank y ≤ rank x)
    (distinct : (items.map rank).Nodup) :
    (items.mergeSort precedes).Pairwise fun x y => rank y < rank x := by
  have apart : ((items.mergeSort precedes).map rank).Nodup :=
    ((List.mergeSort_perm items precedes).map rank).nodup_iff.mpr distinct
  exact ((pairwise_rank_mergeSort agrees items).and (List.pairwise_map.mp apart)).imp
    fun ⟨atMost, different⟩ => lt_of_le_of_ne atMost (Ne.symm different)

theorem mergeSort_eq_of_perm (agrees : ∀ x y, precedes x y = true ↔ rank y ≤ rank x)
    (distinct : (items.map rank).Nodup) (same : items.Perm other) :
    items.mergeSort precedes = other.mergeSort precedes := by
  have permuted : (items.mergeSort precedes).Perm (other.mergeSort precedes) :=
    (List.mergeSort_perm items precedes).trans
      (same.trans (List.mergeSort_perm other precedes).symm)
  refine List.Perm.eq_of_pairwise (fun x y _ _ before after => ?_)
    (pairwise_mergeSort_of_nodup agrees distinct)
    (pairwise_mergeSort_of_nodup agrees ((same.map rank).nodup_iff.mp distinct)) permuted
  exact absurd after (lt_asymm before)

end Ranked

def Instant.rank (x : Instant) : ℤ ×ₗ ℕ := toLex (x.seconds, x.nanos)

theorem Instant.rank_lt_iff {x y : Instant} : x.rank < y.rank ↔ x.Before y :=
  Prod.Lex.toLex_lt_toLex

theorem Instant.rank_inj {x y : Instant} : x.rank = y.rank ↔ x = y := by
  cases x
  cases y
  simp [rank]

theorem Instant.later_iff {x y : Instant} {tie : Bool} :
    (match x.compareTo y with
      | .gt => true
      | .lt => false
      | .eq => tie) = true ↔ y.rank < x.rank ∨ y.rank = x.rank ∧ tie = true := by
  have compared : x.compareTo y = compare x.rank y.rank := rfl
  rw [compared]
  obtain earlier | same | later := lt_trichotomy x.rank y.rank
  · simp [compare_lt_iff_lt.mpr earlier, earlier.not_gt, earlier.ne']
  · simp [same]
  · simp [compare_gt_iff_gt.mpr later, later]

section Named

/-! Sorting by a time, the newest first, and by a name of one's own. -/

variable {α ν : Type} {time : α → Instant} {name : α → ν} {items other : List α}

def nameRank (time : α → Instant) (name : α → ν) (x : α) : (ℤ ×ₗ ℕ) ×ₗ ν :=
  toLex ((time x).rank, name x)

theorem nodup_nameRank_filter (unique : (items.map name).Nodup) (keep : α → Bool) :
    ((items.filter keep).map (nameRank time name)).Nodup := by
  refine List.Nodup.of_map (fun rank => (ofLex rank).2) ?_
  rw [List.map_map]
  exact unique.sublist (List.filter_sublist.map _)

variable [LinearOrder ν] {precedes : α → α → Bool}

theorem nameRank_lt_iff {x y : α} :
    nameRank time name y < nameRank time name x ↔ NewestFirst time name x y :=
  Prod.Lex.toLex_lt_toLex.trans
    (or_congr Instant.rank_lt_iff (and_congr_left' (Instant.rank_inj.trans eq_comm)))

theorem listing_mergeSort_filter
    (agrees : ∀ x y, precedes x y = true ↔ nameRank time name y ≤ nameRank time name x)
    (unique : (items.map name).Nodup) (keep : α → Bool) :
    Listing (NewestFirst time name) (fun item => item ∈ items ∧ keep item = true)
      ((items.filter keep).mergeSort precedes) where
  nodup := (List.mergeSort_perm _ precedes).nodup_iff.mpr
    ((List.Nodup.of_map name unique).filter keep)
  mem_iff _ := List.mem_mergeSort.trans List.mem_filter
  ordered := (pairwise_mergeSort_of_nodup agrees (nodup_nameRank_filter unique keep)).imp
    nameRank_lt_iff.mp

theorem mergeSort_filter_eq_of_perm
    (agrees : ∀ x y, precedes x y = true ↔ nameRank time name y ≤ nameRank time name x)
    (unique : (items.map name).Nodup) (same : items.Perm other) (keep : α → Bool) :
    (items.filter keep).mergeSort precedes = (other.filter keep).mergeSort precedes :=
  mergeSort_eq_of_perm agrees (nodup_nameRank_filter unique keep) (same.filter keep)

end Named

theorem SearchIndex.precedes_iff (x y : SearchDocument) : SearchIndex.precedes x y = true ↔
    nameRank SearchDocument.createdAt SearchDocument.reference y ≤
      nameRank SearchDocument.createdAt SearchDocument.reference x := by
  rw [nameRank, nameRank, Prod.Lex.toLex_le_toLex]
  exact Instant.later_iff.trans (by simp only [decide_eq_true_eq])

theorem SearchIndex.search_eq_of_perm {index other : SearchIndex} (unique : index.OnePerReference)
    (same : index.documents.Perm other.documents) (query : SearchQuery) (request : PageRequest) :
    index.search query request = other.search query request := by
  have hits : index.hits query = other.hits query :=
    mergeSort_filter_eq_of_perm precedes_iff unique same _
  rw [search, search, hits]

namespace Store

variable {store other : Store}

theorem precedes_iff (x y : Payment) : precedes x y = true ↔
    nameRank Payment.createdAt (·.id.value) y ≤ nameRank Payment.createdAt (·.id.value) x := by
  rw [nameRank, nameRank, Prod.Lex.toLex_le_toLex]
  refine Instant.later_iff.trans ?_
  rw [bne_iff_ne, Ne, Uuid.compareTo, compare_lt_iff_lt, not_lt]

def OnePerId (store : Store) : Prop := (store.payments.map (·.id)).Nodup

theorem OnePerId.values (unique : store.OnePerId) : (store.payments.map (·.id.value)).Nodup := by
  refine List.Nodup.of_map Uuid.mk ?_
  rw [List.map_map]
  exact unique

theorem listing_ofUser (unique : store.OnePerId) (userId : String) :
    Listing (NewestFirst Payment.createdAt (·.id.value))
      (fun payment => payment ∈ store.payments ∧ payment.userId = userId)
      ((store.payments.filter (·.userId = userId)).mergeSort precedes) := by
  simpa only [decide_eq_true_eq] using
    listing_mergeSort_filter precedes_iff unique.values (·.userId = userId)

theorem ofUser_eq_of_perm (unique : store.OnePerId) (same : store.payments.Perm other.payments)
    (userId : String) (request : PageRequest) :
    store.ofUser userId request = other.ofUser userId request := by
  rw [ofUser, ofUser, mergeSort_filter_eq_of_perm precedes_iff unique.values same]

end Store

/-- Whatever size is asked for, the pages of a list joined are the list. So the pages of a search are
all documents it accepts, and those of a user all their payments, each of them once, the newest first,
with one total on every page; and the order that the index or the store holds them in changes nothing.
An index that documents were put into holds one for every reference. -/
theorem listings_paged (size : ℕ) :
    (∀ (α : Type) (items : List α),
      Paged (fun page => PageRequest.slice ⟨page, size⟩ items) items (max 1 (min size 100))) ∧
    (∀ page < 2 ^ 32, PageRequest.offset ⟨page, size⟩ < 2 ^ 64) ∧
    (∀ documents, (({} : SearchIndex).upsertAll documents).OnePerReference) ∧
    (∀ index : SearchIndex, index.OnePerReference → ∀ query,
      (∃ listing,
        Paged (fun page => (index.search query ⟨page, size⟩).items) listing
          (max 1 (min size 100)) ∧
        Listing (NewestFirst SearchDocument.createdAt SearchDocument.reference)
          (fun document => document ∈ index.documents ∧ query.accepts document = true) listing ∧
        ∀ page, (index.search query ⟨page, size⟩).total = listing.length) ∧
      ∀ other : SearchIndex, index.documents.Perm other.documents →
        ∀ page, index.search query ⟨page, size⟩ = other.search query ⟨page, size⟩) ∧
    ∀ store : Store, store.OnePerId → ∀ userId,
      (∃ listing,
        Paged (fun page => store.ofUser userId ⟨page, size⟩) listing (max 1 (min size 100)) ∧
        Listing (NewestFirst Payment.createdAt (·.id.value))
          (fun payment => payment ∈ store.payments ∧ payment.userId = userId) listing) ∧
      ∀ other : Store, store.payments.Perm other.payments →
        ∀ page, store.ofUser userId ⟨page, size⟩ = other.ofUser userId ⟨page, size⟩ := by
  refine ⟨fun α items => PageRequest.paged_slice size items, fun page => PageRequest.offset_lt,
    SearchIndex.onePerReference_upsertAll List.nodup_nil, ?_, ?_⟩
  · intro index unique query
    exact ⟨⟨index.hits query, PageRequest.paged_slice size _,
      listing_mergeSort_filter SearchIndex.precedes_iff unique query.accepts, fun page => rfl⟩,
      fun other same page => SearchIndex.search_eq_of_perm unique same query _⟩
  · intro store unique userId
    exact ⟨⟨_, PageRequest.paged_slice size _, Store.listing_ofUser unique userId⟩,
      fun other same page => Store.ofUser_eq_of_perm unique same userId _⟩

def paidAtNoon (id : ℕ) (reference : Reference) : Payment where
  id := ⟨id⟩
  reference := reference
  userId := "42"
  planId := "premium"
  money := .ofMinor 1999 ⟨"GBP", rfl, by simp⟩
  status := .succeeded
  receiptUrl := none
  customerId := none
  description := none
  createdAt := ⟨1760011200, 0⟩
  updatedAt := ⟨1760011200, 0⟩
  version := 1

def paidTogether : Store :=
  ⟨[paidAtNoon 1 ⟨"pi_6", by decide, by simp [Text.isBlank]⟩,
    paidAtNoon 2 ⟨"pi_7", by decide, by simp [Text.isBlank]⟩]⟩

theorem listings_paged_paidTogether :
    (∃ listing,
      Paged (fun page => paidTogether.ofUser "42" ⟨page, 0⟩) listing 1 ∧
      Listing (NewestFirst Payment.createdAt (·.id.value))
        (fun payment => payment ∈ paidTogether.payments ∧ payment.userId = "42") listing) ∧
    ∃ listing,
      Paged (fun page =>
        (SearchIndex.search ⟨paidTogether.payments.map .ofPayment⟩ {} ⟨page, 0⟩).items) listing 1 ∧
      ∀ page,
        (SearchIndex.search ⟨paidTogether.payments.map .ofPayment⟩ {} ⟨page, 0⟩).total =
          listing.length := by
  obtain ⟨-, -, -, searched, listed⟩ := listings_paged 0
  have ids : paidTogether.OnePerId := by
    simp [Store.OnePerId, paidTogether, paidAtNoon]
  have references : SearchIndex.OnePerReference ⟨paidTogether.payments.map .ofPayment⟩ := by
    simp [SearchIndex.OnePerReference, paidTogether, paidAtNoon, SearchDocument.ofPayment]
  obtain ⟨listing, paged, -, total⟩ := (searched _ references {}).1
  exact ⟨(listed _ ids "42").1, listing, paged, total⟩

end Payments
