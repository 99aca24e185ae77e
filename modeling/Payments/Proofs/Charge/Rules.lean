import Payments.Proofs.Charge.Validation
import Payments.Proofs.Money.SmallestUnits

/-!
The rules of validation, told by the numbers and the trimmed texts of a request. Validation goes through
them in a fixed order: a request that keeps them all is accepted, and any other is refused for the first
rule that it breaks.
-/

namespace Payments

namespace Currency

/-- The text is the code of this currency, in any letter case and with blanks around it. -/
structure IsNamedBy (currency : Currency) (text : String) : Prop where
  length : (Text.trim text).toList.length = 3
  letters : ∀ c ∈ (Text.trim text).toList, c.isAlpha = true
  code : currency.code = String.ofList ((Text.trim text).toList.map Char.toUpper)

/-- The text as a refusal quotes it: in upper case if it has the shape of a code. -/
def quoted (text : String) : String :=
  let code := (Text.trim text).toList
  String.ofList (if code.length = 3 ∧ code.all Char.isAlpha then code.map Char.toUpper else code)

variable {currency other : Currency} {text : String}

theorem ofText_eq_ok_iff_isNamedBy : ofText text = .ok currency ↔ currency.IsNamedBy text := by
  rw [ofText_eq_ok_iff, List.all_eq_true]
  exact ⟨fun ⟨length, letters, code⟩ => ⟨length, letters, code⟩,
    fun named => ⟨named.length, named.letters, named.code⟩⟩

theorem IsNamedBy.unique (named : currency.IsNamedBy text) (otherNamed : other.IsNamedBy text) :
    other = currency :=
  eq_of_code (otherNamed.code.trans named.code.symm)

theorem IsNamedBy.quoted (named : currency.IsNamedBy text) : quoted text = currency.code := by
  have shape : (Text.trim text).toList.length = 3 ∧ (Text.trim text).toList.all Char.isAlpha :=
    ⟨named.length, List.all_eq_true.mpr named.letters⟩
  rw [named.code, Currency.quoted, if_pos shape]

theorem ofText_of_unnamed (given : Text.trim text ≠ "")
    (unnamed : ∀ currency : Currency, ¬ currency.IsNamedBy text) :
    ofText text = .error (.unsupportedCurrency (quoted text) "") := by
  have shapeless : ¬ ((Text.trim text).toList.length = 3 ∧
      (Text.trim text).toList.all Char.isAlpha) := by
    intro shape
    cases named : ofText text with
    | ok currency => exact unnamed currency (ofText_eq_ok_iff_isNamedBy.mp named)
    | error refusal =>
        unfold ofText at named
        dsimp only at named
        rw [if_neg given, dif_pos shape] at named
        cases named
  simp only [ofText, quoted, given, shapeless, if_false, dite_false, String.ofList_toList]

end Currency

/-- What a charge has kept of its request: the texts trimmed, the currency by its code, the amount as
it is and counted in smallest units. -/
structure ValidCharge.Records (valid : ValidCharge) (request : ChargeRequest) : Prop where
  userId : valid.userId = Text.trim request.userId
  planId : valid.planId = Text.trim request.planId
  paymentMethod : valid.paymentMethod = Text.trim request.paymentMethod
  email : valid.email = Text.trim request.email
  currency : valid.money.currency.IsNamedBy request.currency
  amount : valid.money.amount = request.amount
  minor : valid.minor.toInt = request.amount.value * 10 ^ valid.money.currency.places
  minor_pos : 0 < valid.minor.toInt
  saves : valid.savePaymentMethod = request.savePaymentMethod

namespace ChargeLimits

inductive Rule
  | positive
  | withinCeiling
  | currencyGiven
  | currencySupported
  | methodGiven
  | userGiven
  | planGiven
  | representable

def Rule.place : Rule → Nat
  | .positive => 0
  | .withinCeiling => 1
  | .currencyGiven => 2
  | .currencySupported => 3
  | .methodGiven => 4
  | .userGiven => 5
  | .planGiven => 6
  | .representable => 7

def Keeps (limits : ChargeLimits) (request : ChargeRequest) : Rule → Prop
  | .positive => 0 < request.amount.value
  | .withinCeiling => request.amount.value ≤ limits.maxAmount.value
  | .currencyGiven => Text.trim request.currency ≠ ""
  | .currencySupported => ∃ currency ∈ limits.currencies, currency.IsNamedBy request.currency
  | .methodGiven => Text.trim request.paymentMethod ≠ ""
  | .userGiven => Text.trim request.userId ≠ ""
  | .planGiven => Text.trim request.planId ≠ ""
  | .representable => ∃ (currency : Currency) (minor : Int64),
      currency.IsNamedBy request.currency ∧
        request.amount.value * 10 ^ currency.places = minor.toInt

def refusalFor (limits : ChargeLimits) (request : ChargeRequest) : Rule → Refusal
  | .positive => .invalidAmount
  | .withinCeiling => .amountTooLarge limits.maxAmount
  | .currencyGiven => .missingCurrency
  | .currencySupported => limits.unsupported (Currency.quoted request.currency)
  | .methodGiven => .missingPaymentMethod
  | .userGiven => .missingUser
  | .planGiven => .missingPlan
  | .representable => .amountNotRepresentable request.amount (Currency.quoted request.currency)

/-- The request breaks this rule and keeps those before it. -/
structure BreaksFirst (limits : ChargeLimits) (request : ChargeRequest) (rule : Rule) : Prop where
  broken : ¬ limits.Keeps request rule
  earlier : ∀ other : Rule, other.place < rule.place → limits.Keeps request other

variable {limits : ChargeLimits} {request : ChargeRequest} {valid : ValidCharge} {text : String}
  {refusal : Refusal} {rule : Rule}

theorem currency_of_missing (missing : Text.trim text = "") :
    limits.currency text = .error .missingCurrency := by
  simp [ChargeLimits.currency, Currency.ofText, missing]

theorem currency_of_named {currency : Currency} (named : currency.IsNamedBy text)
    (listed : currency ∈ limits.currencies) : limits.currency text = .ok currency := by
  simp [ChargeLimits.currency, Currency.ofText_eq_ok_iff_isNamedBy.mpr named, listed]

theorem currency_of_unsupported (given : Text.trim text ≠ "")
    (unsupported : ¬ ∃ currency ∈ limits.currencies, currency.IsNamedBy text) :
    limits.currency text = .error (limits.unsupported (Currency.quoted text)) := by
  by_cases named : ∃ currency : Currency, currency.IsNamedBy text
  · obtain ⟨currency, named⟩ := named
    have unlisted : currency ∉ limits.currencies := fun listed => unsupported ⟨currency, listed, named⟩
    simp [ChargeLimits.currency, Currency.ofText_eq_ok_iff_isNamedBy.mpr named, unlisted,
      named.quoted]
  · rw [ChargeLimits.currency, Currency.ofText_of_unnamed given (not_exists.mp named)]

theorem required_of_given (given : Text.trim text ≠ "") :
    required text refusal = .ok (Text.trim text) := by
  simp [required, Text.nonBlank?, given]

theorem required_of_blank (blank : ¬ Text.trim text ≠ "") : required text refusal = .error refusal := by
  simp [required, Text.nonBlank?, not_not.mp blank]

theorem toMinor_of_representable {currency : Currency} (named : currency.IsNamedBy request.currency)
    (representable : limits.Keeps request .representable) :
    ∃ minor, currency.toMinor request.amount = .ok minor := by
  obtain ⟨other, minor, otherNamed, counted⟩ := representable
  rw [named.unique otherNamed] at counted
  exact ⟨minor, (Currency.toMinor_eq_ok_iff _ _ _).mpr counted⟩

theorem toMinor_of_not_representable {currency : Currency}
    (named : currency.IsNamedBy request.currency)
    (broken : ¬ limits.Keeps request .representable) :
    currency.toMinor request.amount =
      .error (.amountNotRepresentable request.amount (Currency.quoted request.currency)) := by
  rw [named.quoted]
  refine (Currency.toMinor_error currency request.amount).resolve_left ?_
  rintro ⟨minor, counted⟩
  exact broken ⟨currency, minor, named, (Currency.toMinor_eq_ok_iff _ _ _).mp counted⟩

theorem validate_of_bounds (positive : limits.Keeps request .positive)
    (within : limits.Keeps request .withinCeiling) :
    limits.validate request =
      (limits.currency request.currency).bind fun currency =>
      (required request.paymentMethod .missingPaymentMethod).bind fun paymentMethod =>
      (required request.userId .missingUser).bind fun userId =>
      (required request.planId .missingPlan).bind fun planId =>
      (currency.toMinor request.amount).bind fun minor =>
      .ok { userId, planId, paymentMethod, minor
            email := Text.trim request.email
            money := ⟨request.amount, currency⟩
            savePaymentMethod := request.savePaymentMethod } := by
  have aboveZero : ¬ request.amount.le .zero = true := by
    rw [Decimal.le_iff_value_le, Decimal.value_zero]
    exact not_le.mpr positive
  have belowCeiling : ¬ limits.maxAmount.lt request.amount = true := by
    rw [Decimal.lt_iff_value_lt]
    exact not_lt.mpr within
  unfold validate
  simp only [aboveZero, belowCeiling]
  rfl

theorem validate_of_breaksFirst (breaks : limits.BreaksFirst request rule) :
    limits.validate request = .error (limits.refusalFor request rule) := by
  have kept := breaks.earlier
  have broken := breaks.broken
  cases rule with
  | positive =>
      have belowZero : request.amount.le .zero = true := by
        rw [Decimal.le_iff_value_le, Decimal.value_zero]
        exact not_lt.mp broken
      unfold validate
      simp only [belowZero]
      rfl
  | withinCeiling =>
      have aboveZero : ¬ request.amount.le .zero = true := by
        rw [Decimal.le_iff_value_le, Decimal.value_zero]
        exact not_le.mpr (kept .positive (by decide))
      have aboveCeiling : limits.maxAmount.lt request.amount = true := by
        rw [Decimal.lt_iff_value_lt]
        exact not_le.mp broken
      unfold validate
      simp only [aboveZero, aboveCeiling]
      rfl
  | currencyGiven =>
      rw [validate_of_bounds (kept .positive (by decide)) (kept .withinCeiling (by decide)),
        currency_of_missing (not_not.mp broken)]
      rfl
  | currencySupported =>
      rw [validate_of_bounds (kept .positive (by decide)) (kept .withinCeiling (by decide)),
        currency_of_unsupported (kept .currencyGiven (by decide)) broken]
      rfl
  | methodGiven =>
      obtain ⟨currency, listed, named⟩ := kept .currencySupported (by decide)
      rw [validate_of_bounds (kept .positive (by decide)) (kept .withinCeiling (by decide)),
        currency_of_named named listed, required_of_blank broken]
      rfl
  | userGiven =>
      obtain ⟨currency, listed, named⟩ := kept .currencySupported (by decide)
      rw [validate_of_bounds (kept .positive (by decide)) (kept .withinCeiling (by decide)),
        currency_of_named named listed, required_of_given (kept .methodGiven (by decide)),
        required_of_blank broken]
      rfl
  | planGiven =>
      obtain ⟨currency, listed, named⟩ := kept .currencySupported (by decide)
      rw [validate_of_bounds (kept .positive (by decide)) (kept .withinCeiling (by decide)),
        currency_of_named named listed, required_of_given (kept .methodGiven (by decide)),
        required_of_given (kept .userGiven (by decide)), required_of_blank broken]
      rfl
  | representable =>
      obtain ⟨currency, listed, named⟩ := kept .currencySupported (by decide)
      rw [validate_of_bounds (kept .positive (by decide)) (kept .withinCeiling (by decide)),
        currency_of_named named listed, required_of_given (kept .methodGiven (by decide)),
        required_of_given (kept .userGiven (by decide)),
        required_of_given (kept .planGiven (by decide))]
      simp only [Except.bind, toMinor_of_not_representable named broken]
      rfl

namespace Validated

variable (validated : limits.Validated request valid)

include validated

theorem value_pos : 0 < request.amount.value := by
  refine not_le.mp fun notPositive => ?_
  rw [← Decimal.value_zero, ← Decimal.le_iff_value_le, validated.positive] at notPositive
  cases notPositive

theorem value_mul : request.amount.value * 10 ^ valid.money.currency.places = valid.minor.toInt :=
  (Currency.toMinor_eq_ok_iff _ _ _).mp validated.minor

theorem minor_pos : 0 < valid.minor.toInt := by
  have positive := validated.value_pos
  have scaled : (0 : ℚ) < valid.minor.toInt := by
    rw [← validated.value_mul]
    positivity
  exact_mod_cast scaled

theorem isNamedBy : valid.money.currency.IsNamedBy request.currency :=
  Currency.ofText_eq_ok_iff_isNamedBy.mp (ofText_of_currency validated.currency).1

theorem code : valid.money.currency.code =
    String.ofList ((Text.trim request.currency).toList.map Char.toUpper) :=
  validated.isNamedBy.code

theorem records : valid.Records request where
  userId := eq_trim_of_required validated.user
  planId := eq_trim_of_required validated.plan
  paymentMethod := eq_trim_of_required validated.paymentMethod
  email := validated.email
  currency := validated.isNamedBy
  amount := validated.amount
  minor := validated.value_mul.symm
  minor_pos := validated.minor_pos
  saves := validated.saves

end Validated

theorem validate_of_keeps (keeps : ∀ rule, limits.Keeps request rule) :
    ∃ valid, limits.validate request = .ok valid := by
  obtain ⟨currency, listed, named⟩ := keeps .currencySupported
  obtain ⟨minor, counted⟩ := toMinor_of_representable named (keeps .representable)
  rw [validate_of_bounds (keeps .positive) (keeps .withinCeiling), currency_of_named named listed,
    required_of_given (keeps .methodGiven), required_of_given (keeps .userGiven),
    required_of_given (keeps .planGiven)]
  simp only [Except.bind, counted]
  exact ⟨_, rfl⟩

theorem keeps_or_breaksFirst (limits : ChargeLimits) (request : ChargeRequest) :
    (∀ rule, limits.Keeps request rule) ∨ ∃ rule, limits.BreaksFirst request rule := by
  by_cases keeps : ∀ rule, limits.Keeps request rule
  · exact .inl keeps
  · obtain ⟨rule, broken, first⟩ := (measure Rule.place).wf.has_min
      {rule | ¬ limits.Keeps request rule} (not_forall.mp keeps)
    exact .inr ⟨rule, broken, fun other before => not_not.mp fun otherBroken =>
      first other otherBroken before⟩

theorem validate_eq_error_iff :
    limits.validate request = .error refusal ↔
      ∃ rule, limits.BreaksFirst request rule ∧ refusal = limits.refusalFor request rule := by
  constructor
  · intro refused
    rcases keeps_or_breaksFirst limits request with keeps | ⟨rule, breaks⟩
    · obtain ⟨valid, accepted⟩ := validate_of_keeps keeps
      rw [accepted] at refused
      cases refused
    · rw [validate_of_breaksFirst breaks] at refused
      exact ⟨rule, breaks, (Except.error.inj refused).symm⟩
  · rintro ⟨rule, breaks, rfl⟩
    exact validate_of_breaksFirst breaks

theorem validate_isOk_iff :
    (∃ valid, limits.validate request = .ok valid) ↔ ∀ rule, limits.Keeps request rule := by
  constructor
  · rintro ⟨valid, accepted⟩
    refine (keeps_or_breaksFirst limits request).resolve_right ?_
    rintro ⟨rule, breaks⟩
    rw [validate_of_breaksFirst breaks] at accepted
    cases accepted
  · exact validate_of_keeps

end ChargeLimits

end Payments
