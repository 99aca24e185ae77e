import Payments.Charge.Limits
import Payments.Proofs.Text.Trim

/-!
What validation has found out about a request that it accepts, and which texts name a currency: its
code in any letter case, with blanks around it.
-/

namespace Payments

theorem eq_ok_of_bind {ε α β : Type} {first : Except ε α} {next : α → Except ε β} {result : β}
    (ok : first >>= next = .ok result) :
    ∃ value, first = .ok value ∧ next value = .ok result := by
  cases first with
  | error error => cases ok
  | ok value => exact ⟨value, rfl, ok⟩

namespace Currency

variable {currency : Currency} {text : String}

theorem eq_of_code {other : Currency} (same : currency.code = other.code) : currency = other := by
  cases currency
  cases other
  cases same
  rfl

theorem ofText_eq_ok_iff :
    ofText text = .ok currency ↔
      (Text.trim text).toList.length = 3 ∧ (Text.trim text).toList.all Char.isAlpha ∧
        currency.code = String.ofList ((Text.trim text).toList.map Char.toUpper) := by
  unfold ofText
  dsimp only
  by_cases empty : Text.trim text = ""
  · rw [if_pos empty, empty]
    simp
  · rw [if_neg empty]
    by_cases letters : (Text.trim text).toList.length = 3 ∧ (Text.trim text).toList.all Char.isAlpha
    · rw [dif_pos letters]
      constructor
      · intro named
        rw [← Except.ok.inj named]
        exact ⟨letters.1, letters.2, rfl⟩
      · rintro ⟨_, _, code⟩
        exact congrArg Except.ok (eq_of_code code.symm)
    · rw [dif_neg letters]
      constructor
      · intro named
        exact absurd named (by simp)
      · rintro ⟨length, all, _⟩
        exact absurd ⟨length, all⟩ letters

theorem code_bounds (currency : Currency) :
    currency.code.toList.length = 3 ∧ ∀ c ∈ currency.code.toList, 'A' ≤ c ∧ c ≤ 'Z' := by
  refine ⟨currency.length_code, fun c member => ?_⟩
  have upper : c.isUpper = true := currency.isUpper_code c member
  delta Char.isUpper at upper
  simpa [Char.le_def] using upper

theorem isAlpha_of_toUpper {c : Char} (upper : c.toUpper.isUpper = true) : c.isAlpha = true := by
  delta Char.toUpper Char.isUpper at upper
  delta Char.isAlpha Char.isUpper Char.isLower
  grind

theorem not_blank_of_isAlpha {c : Char} (letter : c.isAlpha = true) : Text.isBlank c = false := by
  have code : (65 ≤ c.toNat ∧ c.toNat ≤ 90) ∨ (97 ≤ c.toNat ∧ c.toNat ≤ 122) := by
    delta Char.isAlpha Char.isUpper Char.isLower at letter
    simpa [UInt32.le_iff_toNat_le] using letter
  simp [Text.isBlank]
  omega

theorem ofText_surrounded {front word back : List Char}
    (blankFront : ∀ c ∈ front, Text.isBlank c = true)
    (blankBack : ∀ c ∈ back, Text.isBlank c = true)
    (variant : word.map Char.toUpper = currency.code.toList) :
    ofText (String.ofList (front ++ word ++ back)) = .ok currency := by
  have letters : ∀ c ∈ word, c.isAlpha = true := by
    intro c member
    apply isAlpha_of_toUpper
    apply currency.isUpper_code
    rw [← variant]
    exact List.mem_map_of_mem member
  have length : word.length = 3 := by
    rw [← currency.length_code, ← variant, List.length_map]
  have clear : ∀ c ∈ (String.ofList word).toList, Text.isBlank c = false := by
    rw [String.toList_ofList]
    exact fun c member => not_blank_of_isAlpha (letters c member)
  have trimmed : Text.trim (String.ofList (front ++ word ++ back)) = String.ofList word :=
    Text.trim_eq_of_padded (Text.tight_of_not_blank clear)
      ⟨front, back, blankFront, blankBack, by simp⟩
  rw [ofText_eq_ok_iff, trimmed, String.toList_ofList]
  refine ⟨length, List.all_eq_true.mpr letters, ?_⟩
  rw [variant, String.ofList_toList]

end Currency

namespace ChargeLimits

variable {limits : ChargeLimits} {request : ChargeRequest} {valid : ValidCharge}

structure Validated (limits : ChargeLimits) (request : ChargeRequest) (valid : ValidCharge) :
    Prop where
  positive : request.amount.le .zero = false
  withinCeiling : limits.maxAmount.lt request.amount = false
  currency : limits.currency request.currency = .ok valid.money.currency
  paymentMethod : required request.paymentMethod .missingPaymentMethod = .ok valid.paymentMethod
  user : required request.userId .missingUser = .ok valid.userId
  plan : required request.planId .missingPlan = .ok valid.planId
  minor : valid.money.currency.toMinor request.amount = .ok valid.minor
  email : valid.email = Text.trim request.email
  amount : valid.money.amount = request.amount
  saves : valid.savePaymentMethod = request.savePaymentMethod

theorem validated_of_ok (accepted : limits.validate request = .ok valid) :
    limits.Validated request valid := by
  unfold validate at accepted
  dsimp only at accepted
  split at accepted
  · cases accepted
  rename_i positive
  split at accepted
  · cases accepted
  rename_i withinCeiling
  obtain ⟨currency, isCurrency, accepted⟩ := eq_ok_of_bind accepted
  obtain ⟨paymentMethod, isMethod, accepted⟩ := eq_ok_of_bind accepted
  obtain ⟨userId, isUser, accepted⟩ := eq_ok_of_bind accepted
  obtain ⟨planId, isPlan, accepted⟩ := eq_ok_of_bind accepted
  obtain ⟨minor, isMinor, accepted⟩ := eq_ok_of_bind accepted
  cases accepted
  exact
    { positive := by simpa using positive
      withinCeiling := by simpa using withinCeiling
      currency := isCurrency
      paymentMethod := isMethod
      user := isUser
      plan := isPlan
      minor := isMinor
      email := rfl
      amount := rfl
      saves := rfl }

theorem eq_trim_of_required {text trimmed : String} {refusal : Refusal}
    (given : required text refusal = .ok trimmed) : trimmed = Text.trim text := by
  unfold required Text.nonBlank? at given
  by_cases empty : Text.trim text = ""
  · simp [empty] at given
  · simpa [empty, eq_comm] using given

theorem validate_texts (accepted : limits.validate request = .ok valid) :
    valid.userId = Text.trim request.userId ∧ valid.planId = Text.trim request.planId ∧
      valid.email = Text.trim request.email := by
  have validated := validated_of_ok accepted
  exact ⟨eq_trim_of_required validated.user, eq_trim_of_required validated.plan, validated.email⟩

theorem ofText_of_currency {text : String} {currency : Currency}
    (supported : limits.currency text = .ok currency) :
    Currency.ofText text = .ok currency ∧ limits.currencies.contains currency = true := by
  unfold ChargeLimits.currency at supported
  split at supported
  · cases supported
  · cases supported
  · rename_i named isNamed
    split at supported
    · rename_i listed
      cases supported
      exact ⟨isNamed, listed⟩
    · cases supported

end ChargeLimits

end Payments
