import Mathlib.Algebra.GroupWithZero.Nat
import Payments.Proofs.Rows.RoundTrip
import Payments.Proofs.Settings.Integers
import Payments.Settings.Basic

/-!
How a single variable is read: which values count as set, and what is read of a secret, of a value
that is trimmed and parsed, of a timeout, and of a list of currencies. Each is told by its text.
-/

namespace Payments.Settings

open Webhook (Denotes)

section

variable {lookup : Lookup} {name value : String}

/-- The variable has a value, and not only blanks. -/
structure IsSet (lookup : Lookup) (name value : String) : Prop where
  given : lookup name = some value
  filled : ∃ c ∈ value.toList, Text.isBlank c = false

theorem trim_eq_empty_iff : Text.trim value = "" ↔ ∀ c ∈ value.toList, Text.isBlank c = true := by
  constructor
  · intro empty
    obtain ⟨front, back, blankFront, blankBack, whole⟩ := Text.padded_trim value
    rw [empty, String.toList_empty, List.append_nil] at whole
    rw [whole, List.forall_mem_append]
    exact ⟨blankFront, blankBack⟩
  · intro blank
    exact Text.trim_eq_of_padded ⟨by simp, by simp⟩ ⟨value.toList, [], blank, by simp, by simp⟩

theorem isSome_nonBlank? (value : String) :
    (Text.nonBlank? value).isSome = decide (Text.trim value ≠ "") := by
  unfold Text.nonBlank?
  split
  · rename_i empty
    simp [empty]
  · rename_i rest
    simp [rest]

theorem get?_eq_some_iff : get? lookup name = some value ↔ IsSet lookup name value := by
  have filled : (Text.nonBlank? value).isSome ↔ ∃ c ∈ value.toList, Text.isBlank c = false := by
    rw [isSome_nonBlank?, decide_eq_true_iff, ne_eq, trim_eq_empty_iff]
    simp
  rw [get?, Option.filter_eq_some_iff, filled]
  exact ⟨fun ⟨given, filled⟩ => ⟨given, filled⟩, fun isSet => ⟨isSet.given, isSet.filled⟩⟩

theorem exists_required_iff :
    (∃ value, required lookup name = .ok value) ↔ ∃ value, IsSet lookup name value := by
  simp only [← get?_eq_some_iff, required]
  cases get? lookup name <;> simp

theorem required_eq_ok (made : required lookup name = .ok value) : IsSet lookup name value := by
  rw [← get?_eq_some_iff]
  unfold required at made
  split at made
  · cases made
    assumption
  · cases made

end

section

variable {lookup : Lookup} {name value text : String} {α : Type} {default result : α}
  {read : String → Except String α}

theorem exists_parsed_and_iff (wanted : α → Prop) (wantsDefault : wanted default) :
    (∃ result, parsed lookup name default read = .ok result ∧ wanted result) ↔
      ∀ value, IsSet lookup name value →
        ∃ result, read (Text.trim value) = .ok result ∧ wanted result := by
  simp only [← get?_eq_some_iff, parsed]
  cases given : get? lookup name with
  | none => simpa using wantsDefault
  | some value => simp [mapError_eq_ok_iff]

theorem exists_parsed_iff :
    (∃ result, parsed lookup name default read = .ok result) ↔
      ∀ value, IsSet lookup name value → ∃ result, read (Text.trim value) = .ok result := by
  simpa only [and_true] using exists_parsed_and_iff (fun _ => True) trivial

theorem parsed_failsOnly {isExpected : Fault → Prop}
    (expected : ∀ reason, isExpected (.invalid name reason)) :
    FailsOnly isExpected (parsed lookup name default read) := by
  unfold parsed
  split
  · exact fun _ failed => nomatch failed
  · exact failsOnly_mapError expected

theorem parsed_eq_ok (wanted : α → Prop) (wantsDefault : wanted default)
    (wantsRead : ∀ text result, read text = .ok result → wanted result)
    (made : parsed lookup name default read = .ok result) : wanted result := by
  unfold parsed at made
  split at made
  · cases made
    exact wantsDefault
  · exact wantsRead _ _ (mapError_eq_ok_iff.mp made)

theorem readAddress_eq_ok_iff {address : SocketAddress} :
    readAddress text = .ok address ↔ SocketAddress.ofText? text = some address := by
  unfold readAddress
  cases SocketAddress.ofText? text <;> simp

theorem readSeconds_eq_ok_iff {n : Nat} :
    readSeconds text = .ok n ↔
      Denotes text.toList n ∧ n < 2 ^ 64 ∧ text.toList.head? ≠ some '-' := by
  have read : readSeconds text = .ok n ↔
      ∃ m : Int, readInteger 0 (2 ^ 64 - 1) text.toList = .ok m ∧ m.toNat = n := by
    rw [readSeconds, mapError_eq_ok_iff]
    cases readInteger 0 (2 ^ 64 - 1) text.toList <;> simp [Except.map]
  rw [read]
  constructor
  · rintro ⟨m, made, rfl⟩
    obtain ⟨denotes, lower, upper, signed⟩ :=
      (readInteger_eq_ok_iff (by decide) (by decide)).mp made
    rw [Int.toNat_of_nonneg lower]
    exact ⟨denotes, by omega, fun first => absurd (signed first) (by decide)⟩
  · rintro ⟨denotes, upper, unsigned⟩
    refine ⟨n, (readInteger_eq_ok_iff (by decide) (by decide)).mpr ?_, by simp⟩
    exact ⟨denotes, by omega, by omega, fun first => absurd first unsigned⟩

theorem readTolerance_eq_ok_iff {n : Int64} :
    readTolerance text = .ok n ↔ Denotes text.toList n.toInt := by
  have read : readTolerance text = .ok n ↔
      ∃ m : Int, readInteger (-2 ^ 63) (2 ^ 63 - 1) text.toList = .ok m ∧ Int64.ofInt m = n := by
    rw [readTolerance, mapError_eq_ok_iff]
    cases readInteger (-2 ^ 63) (2 ^ 63 - 1) text.toList <;> simp [Except.map]
  rw [read]
  constructor
  · rintro ⟨m, made, rfl⟩
    obtain ⟨denotes, lower, upper, _⟩ :=
      (readInteger_eq_ok_iff (by decide) (by decide)).mp made
    rwa [Int64.toInt_ofInt_of_le lower (by omega)]
  · intro denotes
    have lower := n.le_toInt
    have upper := n.toInt_lt
    refine ⟨n.toInt, (readInteger_eq_ok_iff (by decide) (by decide)).mpr ?_, Int64.ofInt_toInt n⟩
    exact ⟨denotes, lower, by omega, fun _ => by decide⟩

section

variable {first : Except Fault α} {bad : α → Prop} [DecidablePred bad] {fault : Fault}

theorem checked_eq_ok_iff :
    (do
      let x ← first
      if bad x then throw fault
      return x) = .ok result ↔ first = .ok result ∧ ¬ bad result := by
  cases first with
  | error other => exact ⟨nofun, fun both => nomatch both.1⟩
  | ok x =>
      have looked : (do
          let x ← (.ok x : Except Fault α)
          if bad x then throw fault
          return x) = if bad x then .error fault else .ok x := rfl
      rw [looked]
      split
      · rename_i isBad
        refine ⟨nofun, ?_⟩
        rintro ⟨same, good⟩
        cases same
        exact absurd isBad good
      · rename_i good
        refine ⟨?_, And.left⟩
        intro same
        cases same
        exact ⟨rfl, good⟩

theorem checked_failsOnly {isExpected : Fault → Prop} (firstFails : FailsOnly isExpected first)
    (expected : isExpected fault) :
    FailsOnly isExpected (do
      let x ← first
      if bad x then throw fault
      return x) := by
  refine firstFails.bind fun x => ?_
  intro error failed
  split at failed
  · cases failed
    exact expected
  · cases failed

end

theorem positiveSeconds_eq_ok_iff {default n : Nat} :
    positiveSeconds lookup name default = .ok n ↔
      parsed lookup name default readSeconds = .ok n ∧ 0 < n := by
  unfold positiveSeconds
  rw [checked_eq_ok_iff, Nat.pos_iff_ne_zero]

/-- A whole number of seconds, at least one, that fits in 64 bits. -/
def IsTimeout (text : String) : Prop :=
  ∃ n : Nat, Denotes text.toList n ∧ 0 < n ∧ n < 2 ^ 64 ∧ text.toList.head? ≠ some '-'

theorem exists_timeout_iff {default : Nat} (positive : 0 < default) :
    (∃ n, positiveSeconds lookup name default = .ok n) ↔
      ∀ value, IsSet lookup name value → IsTimeout (Text.trim value) := by
  simp only [positiveSeconds_eq_ok_iff, exists_parsed_and_iff (0 < ·) positive,
    readSeconds_eq_ok_iff, IsTimeout]
  refine forall_congr' fun value => imp_congr_right fun _ => exists_congr fun n => ?_
  rw [and_assoc, and_assoc, and_comm (a := 0 < n), and_assoc]

theorem timeout_bounds {default n : Nat} (small : default < 2 ^ 64)
    (made : positiveSeconds lookup name default = .ok n) : 1 ≤ n ∧ n < 2 ^ 64 := by
  obtain ⟨made, positive⟩ := positiveSeconds_eq_ok_iff.mp made
  exact ⟨positive, parsed_eq_ok (· < 2 ^ 64) small
    (fun _ _ read => (readSeconds_eq_ok_iff.mp read).2.1) made⟩

theorem maxPaymentAmount_eq_ok_iff {amount : Decimal} :
    maxPaymentAmount lookup = .ok amount ↔
      parsed lookup maxAmountName .million readDecimal = .ok amount ∧ 0 < amount.value := by
  unfold maxPaymentAmount
  rw [checked_eq_ok_iff, Decimal.le_iff_value_le, Decimal.value_zero, not_le]

end

section

variable {lookup : Lookup} {currencies : List Currency} {text : String}

def listed (lookup : Lookup) : List String :=
  (Text.pieces ',' ((get? lookup currenciesName).getD defaultCurrencies).toList).map String.ofList

theorem exists_forall₂_iff {α β : Type} {related : α → β → Prop} {xs : List α} :
    (∃ ys, List.Forall₂ related xs ys) ↔ ∀ x ∈ xs, ∃ y, related x y := by
  induction xs with
  | nil => simp
  | cons x xs ih =>
      rw [List.forall_mem_cons, ← ih]
      constructor
      · rintro ⟨_, all⟩
        cases all with
        | cons first rest => exact ⟨⟨_, first⟩, _, rest⟩
      · rintro ⟨⟨y, first⟩, ys, rest⟩
        exact ⟨y :: ys, .cons first rest⟩

theorem mem_of_forall₂ {α β : Type} {related : α → β → Prop} {xs : List α} {ys : List β}
    (all : List.Forall₂ related xs ys) :
    (∀ x ∈ xs, ∃ y ∈ ys, related x y) ∧ ∀ y ∈ ys, ∃ x ∈ xs, related x y := by
  induction all with
  | nil => simp
  | @cons x y xs ys first _ ih =>
      constructor
      · rw [List.forall_mem_cons]
        refine ⟨⟨y, List.mem_cons_self, first⟩, fun other member => ?_⟩
        obtain ⟨found, among, same⟩ := ih.1 other member
        exact ⟨found, List.mem_cons_of_mem y among, same⟩
      · rw [List.forall_mem_cons]
        refine ⟨⟨x, List.mem_cons_self, first⟩, fun other member => ?_⟩
        obtain ⟨found, among, same⟩ := ih.2 other member
        exact ⟨found, List.mem_cons_of_mem x among, same⟩

theorem supportedCurrencies_eq_ok_iff :
    supportedCurrencies lookup = .ok currencies ↔
      List.Forall₂ (fun text currency => currency.IsNamedBy text) (listed lookup) currencies := by
  rw [supportedCurrencies, listed, List.forall₂_map_left_iff]
  generalize Text.pieces ',' _ = pieces
  induction pieces generalizing currencies with
  | nil =>
      rw [List.mapM_nil, List.forall₂_nil_left_iff]
      exact ⟨fun made => (Except.ok.inj made).symm, fun empty => congrArg Except.ok empty.symm⟩
  | cons piece pieces ih =>
      have named : ∀ {currency : Currency}, readCurrency piece = .ok currency ↔
          currency.IsNamedBy (String.ofList piece) := by
        intro currency
        rw [readCurrency, mapError_eq_ok_iff, Currency.ofText_eq_ok_iff_isNamedBy]
      rw [List.mapM_cons]
      constructor
      · intro made
        obtain ⟨currency, isFirst, made⟩ := eq_ok_of_bind made
        obtain ⟨others, areRest, made⟩ := eq_ok_of_bind made
        cases made
        exact .cons (named.mp isFirst) (ih.mp areRest)
      · intro all
        cases all with
        | cons isFirst areRest =>
            rw [named.mpr isFirst, ih.mpr areRest]
            rfl

theorem supportedCurrencies_failsOnly {isExpected : Fault → Prop}
    (expected : ∀ reason, isExpected (.invalid currenciesName reason)) :
    FailsOnly isExpected (supportedCurrencies lookup) := by
  rw [supportedCurrencies]
  generalize Text.pieces ',' _ = pieces
  induction pieces with
  | nil => exact fun _ failed => nomatch failed
  | cons piece pieces ih =>
      rw [List.mapM_cons]
      refine FailsOnly.bind (failsOnly_mapError fun refusal => expected _) fun currency => ?_
      exact ih.bind fun others _ failed => nomatch failed

theorem isNamedBy_iff {currency : Currency} :
    currency.IsNamedBy text ↔
      (Text.trim text).toList.map Char.toUpper = currency.code.toList := by
  constructor
  · intro named
    rw [named.code, String.toList_ofList]
  · intro same
    refine ⟨?_, ?_, ?_⟩
    · rw [← currency.length_code, ← same, List.length_map]
    · intro c member
      refine Currency.isAlpha_of_toUpper (currency.isUpper_code _ ?_)
      rw [← same]
      exact List.mem_map_of_mem member
    · rw [same, String.ofList_toList]

end

end Payments.Settings
