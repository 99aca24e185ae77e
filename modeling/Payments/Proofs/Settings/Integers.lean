import Payments.Decimal.Basic
import Payments.Proofs.Text.Digits
import Payments.Proofs.Webhook.Signature
import Payments.Settings.Integer

/-!
Which texts are read as integers of a range. The range is looked at after each digit; since digits
only take a number further from zero, that is the same as looking at the whole number.
-/

namespace Payments.Settings

open Decimal (signed)
open Webhook (Denotes)

variable {low high n : Int} {negative : Bool} {chars digits : List Char} {magnitude : Nat}

theorem signed_inRange (lowNegative : low ≤ 0) (highPositive : 0 ≤ high) {smaller : Nat}
    (isSmaller : smaller ≤ magnitude)
    (inRange : low ≤ signed negative magnitude ∧ signed negative magnitude ≤ high) :
    low ≤ signed negative smaller ∧ signed negative smaller ≤ high := by
  cases negative
  · simp only [signed, Bool.false_eq_true, if_false] at inRange ⊢
    omega
  · simp only [signed, if_true] at inRange ⊢
    omega

theorem addDigit_of_digit {c : Char} (digit : c.isDigit = true) :
    addDigit negative low high (signed negative magnitude) c =
      let next := signed negative (10 * magnitude + (c.toNat - '0'.toNat))
      if next < low then .error .tooSmall else if high < next then .error .tooLarge
      else .ok next := by
  have next : (if negative then signed negative magnitude * 10 - ((c.toNat - '0'.toNat : Nat) : Int)
      else signed negative magnitude * 10 + ((c.toNat - '0'.toNat : Nat) : Int)) =
      signed negative (10 * magnitude + (c.toNat - '0'.toNat)) := by
    cases negative
    · simp only [signed, Bool.false_eq_true, if_false]
      omega
    · simp only [signed, if_true]
      omega
  simp only [addDigit, digit, if_true, next]

theorem addDigits_eq_ok_iff (lowNegative : low ≤ 0) (highPositive : 0 ≤ high)
    (inRange : low ≤ signed negative magnitude ∧ signed negative magnitude ≤ high) :
    digits.foldlM (addDigit negative low high) (signed negative magnitude) = .ok n ↔
      (∀ c ∈ digits, c.isDigit) ∧ n = signed negative (Nat.ofDigitChars 10 digits magnitude) ∧
        low ≤ n ∧ n ≤ high := by
  induction digits generalizing magnitude with
  | nil =>
      rw [List.foldlM_nil, Nat.ofDigitChars_nil]
      constructor
      · intro made
        cases made
        exact ⟨nofun, rfl, inRange⟩
      · rintro ⟨_, rfl, _⟩
        rfl
  | cons c digits ih =>
      rw [List.foldlM_cons, Nat.ofDigitChars_cons, List.forall_mem_cons]
      by_cases digit : c.isDigit = true
      · by_cases stays : low ≤ signed negative (10 * magnitude + (c.toNat - '0'.toNat)) ∧
            signed negative (10 * magnitude + (c.toNat - '0'.toNat)) ≤ high
        · have next : addDigit negative low high (signed negative magnitude) c =
              .ok (signed negative (10 * magnitude + (c.toNat - '0'.toNat))) := by
            rw [addDigit_of_digit digit]
            simp only [not_lt.mpr stays.1, not_lt.mpr stays.2, if_false]
          rw [next]
          simp only [digit, true_and]
          exact ih stays
        · have leaves : ∃ fault, addDigit negative low high (signed negative magnitude) c =
              .error fault := by
            rw [addDigit_of_digit digit]
            dsimp only
            split
            · exact ⟨_, rfl⟩
            · split
              · exact ⟨_, rfl⟩
              · exact absurd ⟨not_lt.mp ‹_›, not_lt.mp ‹_›⟩ stays
          obtain ⟨fault, leaves⟩ := leaves
          rw [leaves]
          refine ⟨nofun, ?_⟩
          rintro ⟨_, rfl, inRange⟩
          exact absurd (signed_inRange lowNegative highPositive (le_ofDigitChars _ _) inRange) stays
      · have refused : addDigit negative low high (signed negative magnitude) c =
            .error .invalidDigit := by
          simp only [addDigit, digit, if_false, Bool.false_eq_true]
        rw [refused]
        exact ⟨nofun, fun all => absurd all.1.1 digit⟩

theorem readInteger_eq_ok_iff (lowNegative : low ≤ 0) (highPositive : 0 ≤ high) :
    readInteger low high chars = .ok n ↔
      Denotes chars n ∧ low ≤ n ∧ n ≤ high ∧ (chars.head? = some '-' → low < 0) := by
  have digitsRead : ∀ negative digits,
      digits.foldlM (addDigit negative low high) 0 = .ok n ↔ (∀ c ∈ digits, c.isDigit) ∧
        n = signed negative (Nat.ofDigitChars 10 digits 0) ∧ low ≤ n ∧ n ≤ high := by
    intro negative digits
    have start : signed negative 0 = 0 := by cases negative <;> rfl
    have inRange : low ≤ signed negative 0 ∧ signed negative 0 ≤ high := by
      rw [start]
      exact ⟨lowNegative, highPositive⟩
    rw [← addDigits_eq_ok_iff lowNegative highPositive inRange, start]
  unfold readInteger
  split
  · refine ⟨nofun, ?_⟩
    rintro ⟨denotes, _⟩
    cases denotes with
    | plain some _ => exact absurd rfl some
  · refine ⟨nofun, ?_⟩
    rintro ⟨denotes, _⟩
    exact absurd rfl (Denotes.plus_iff.mp denotes).1
  · refine ⟨nofun, ?_⟩
    rintro ⟨denotes, _⟩
    exact absurd rfl (Denotes.minus_iff.mp denotes).1
  · rename_i digits some
    rw [digitsRead, Denotes.plus_iff]
    exact ⟨fun ⟨digital, value, lower, upper⟩ => ⟨⟨some, digital, value⟩, lower, upper, by simp⟩,
      fun ⟨⟨_, digital, value⟩, lower, upper, _⟩ => ⟨digital, value, lower, upper⟩⟩
  · rename_i digits some
    split
    · rename_i below
      rw [digitsRead, Denotes.minus_iff]
      exact ⟨fun ⟨digital, value, lower, upper⟩ =>
          ⟨⟨some, digital, value⟩, lower, upper, fun _ => below⟩,
        fun ⟨⟨_, digital, value⟩, lower, upper, _⟩ => ⟨digital, value, lower, upper⟩⟩
    · rename_i notBelow
      exact ⟨nofun, fun ⟨_, _, _, allowed⟩ => absurd (allowed rfl) notBelow⟩
  · rename_i some _ _ noPlus noMinus
    rw [digitsRead, Denotes.plain_iff noMinus noPlus]
    have unsigned : ¬ chars.head? = Option.some '-' := by
      intro first
      obtain ⟨rest, whole⟩ := List.head?_eq_some_iff.mp first
      exact noMinus rest whole
    exact ⟨fun ⟨digital, value, lower, upper⟩ =>
        ⟨⟨some, digital, value⟩, lower, upper, fun first => absurd first unsigned⟩,
      fun ⟨⟨_, digital, value⟩, lower, upper, _⟩ => ⟨digital, value, lower, upper⟩⟩

end Payments.Settings
