import Mathlib.Data.List.Forall2
import Payments.Proofs.Charge.Rules

/-!
Which requests are accepted. Main statement: those that keep all the rules, every other one being refused
for the first rule that it breaks. Blanks around a text and the letter case of the currency make no
difference, but that a refusal quotes the currency as it was written.
-/

namespace Payments

def Refusal.unquoted : Refusal → Refusal
  | .unsupportedCurrency _ supported => .unsupportedCurrency "" supported
  | refusal => refusal

namespace Text

/-- The same ASCII letter in either case. Any two characters that no code is made of pass as alike
too, so that letters with accents may change their case as well, as long as they stay outside ASCII:
the Kelvin sign is no form of the letter k. -/
def Alike (c d : Char) : Prop :=
  c.toUpper = d.toUpper ∨
    c.isAlpha = false ∧ isBlank c = false ∧ d.isAlpha = false ∧ isBlank d = false

def Recased (text recased : String) : Prop := List.Forall₂ Alike text.toList recased.toList

variable {c d : Char} {chars others : List Char} {text recased : String}

theorem isUpper_toUpper_iff : c.toUpper.isUpper = true ↔ c.isAlpha = true :=
  ⟨Currency.isAlpha_of_toUpper, Currency.isUpper_toUpper⟩

theorem Alike.isAlpha (alike : Alike c d) : c.isAlpha = d.isAlpha := by
  rcases alike with same | ⟨noLetter, _, otherNoLetter, _⟩
  · rw [Bool.eq_iff_iff, ← isUpper_toUpper_iff, ← isUpper_toUpper_iff, same]
  · rw [noLetter, otherNoLetter]

theorem Alike.symm (alike : Alike c d) : Alike d c :=
  alike.imp Eq.symm fun ⟨noLetter, clear, otherNoLetter, otherClear⟩ =>
    ⟨otherNoLetter, otherClear, noLetter, clear⟩

theorem toUpper_of_not_isAlpha (noLetter : c.isAlpha = false) : c.toUpper = c := by
  delta Char.isAlpha Char.isUpper Char.isLower at noLetter
  delta Char.toUpper
  grind

theorem Alike.isBlank (alike : Alike c d) : isBlank c = isBlank d := by
  have letters := alike.isAlpha
  cases letter : c.isAlpha with
  | true =>
      rw [Currency.not_blank_of_isAlpha letter, Currency.not_blank_of_isAlpha (letters ▸ letter)]
  | false =>
      rcases alike with same | ⟨_, clear, _, otherClear⟩
      · rw [toUpper_of_not_isAlpha letter, toUpper_of_not_isAlpha (letters ▸ letter)] at same
        rw [same]
      · rw [clear, otherClear]

theorem forall₂_trimStart (alike : List.Forall₂ Alike chars others) :
    List.Forall₂ Alike (trimStart chars) (trimStart others) := by
  induction alike with
  | nil => exact .nil
  | @cons c d rest others first alike ih =>
      rw [trimStart, trimStart, List.dropWhile_cons, List.dropWhile_cons, first.isBlank]
      split
      · exact ih
      · exact .cons first alike

theorem Recased.symm (alike : Recased text recased) : Recased recased text :=
  List.Forall₂.flip (List.Forall₂.imp (fun _ _ => Alike.symm) alike)

theorem Recased.trim (alike : Recased text recased) : Recased (trim text) (trim recased) := by
  rw [Recased, Text.trim, Text.trim, String.toList_ofList, String.toList_ofList]
  exact List.rel_reverse (forall₂_trimStart (List.rel_reverse (forall₂_trimStart alike)))

theorem map_toUpper_of_alike (alike : List.Forall₂ Alike chars others)
    (letters : ∀ c ∈ chars, c.isAlpha = true) :
    chars.map Char.toUpper = others.map Char.toUpper := by
  induction alike with
  | nil => rfl
  | @cons c d rest others first alike ih =>
      rw [List.forall_mem_cons] at letters
      rcases first with same | ⟨noLetter, _⟩
      · rw [List.map_cons, List.map_cons, same, ih letters.2]
      · rw [letters.1] at noLetter
        cases noLetter

end Text

theorem Currency.IsNamedBy.recased {currency : Currency} {text recased : String}
    (named : currency.IsNamedBy text)
    (alike : Text.Recased (Text.trim text) (Text.trim recased)) : currency.IsNamedBy recased where
  length := alike.length_eq ▸ named.length
  letters := by
    intro c member
    obtain ⟨index, bound, rfl⟩ := List.getElem_of_mem member
    have sameLength := List.Forall₂.length_eq alike
    have letters := (List.Forall₂.get alike (by omega) bound).isAlpha
    exact letters.symm.trans (named.letters _ (List.getElem_mem _))
  code := by rw [named.code, Text.map_toUpper_of_alike alike named.letters]

/-- This is the request with blanks put around its texts and with its currency in any letter case. -/
structure ChargeRequest.Restyled (request variant : ChargeRequest) : Prop where
  userId : Text.Padded request.userId variant.userId
  planId : Text.Padded request.planId variant.planId
  paymentMethod : Text.Padded request.paymentMethod variant.paymentMethod
  email : Text.Padded request.email variant.email
  currency : ∃ recased, Text.Recased request.currency recased ∧ Text.Padded recased variant.currency
  amount : variant.amount = request.amount
  saves : variant.savePaymentMethod = request.savePaymentMethod

namespace ChargeRequest.Restyled

variable {limits : ChargeLimits} {request variant : ChargeRequest}
  (restyled : request.Restyled variant)

include restyled

theorem recased : Text.Recased (Text.trim request.currency) (Text.trim variant.currency) := by
  obtain ⟨recased, alike, padded⟩ := restyled.currency
  rw [padded.trim_eq]
  exact alike.trim

theorem isNamedBy_iff {currency : Currency} :
    currency.IsNamedBy variant.currency ↔ currency.IsNamedBy request.currency :=
  ⟨fun named => named.recased restyled.recased.symm, fun named => named.recased restyled.recased⟩

theorem currencyGiven_iff : Text.trim variant.currency ≠ "" ↔ Text.trim request.currency ≠ "" := by
  have empty_iff : ∀ text : String, text = "" ↔ text.toList.length = 0 := fun text => by
    rw [List.length_eq_zero_iff, String.toList_eq_nil_iff]
  rw [ne_eq, ne_eq, empty_iff, empty_iff, restyled.recased.length_eq]

theorem keeps_iff (rule : ChargeLimits.Rule) :
    limits.Keeps variant rule ↔ limits.Keeps request rule := by
  cases rule with
  | positive => rw [ChargeLimits.Keeps, ChargeLimits.Keeps, restyled.amount]
  | withinCeiling => rw [ChargeLimits.Keeps, ChargeLimits.Keeps, restyled.amount]
  | currencyGiven => exact restyled.currencyGiven_iff
  | currencySupported => simp only [ChargeLimits.Keeps, restyled.isNamedBy_iff]
  | methodGiven => rw [ChargeLimits.Keeps, ChargeLimits.Keeps, restyled.paymentMethod.trim_eq]
  | userGiven => rw [ChargeLimits.Keeps, ChargeLimits.Keeps, restyled.userId.trim_eq]
  | planGiven => rw [ChargeLimits.Keeps, ChargeLimits.Keeps, restyled.planId.trim_eq]
  | representable => simp only [ChargeLimits.Keeps, restyled.isNamedBy_iff, restyled.amount]

theorem eq_of_records {valid other : ValidCharge} (records : valid.Records request)
    (otherRecords : other.Records variant) : other = valid := by
  have currency : other.money.currency = valid.money.currency :=
    records.currency.unique (restyled.isNamedBy_iff.mp otherRecords.currency)
  have minor : other.minor = valid.minor := by
    have counted := otherRecords.minor
    rw [restyled.amount, currency, ← records.minor] at counted
    exact Int64.toInt_inj.mp (by exact_mod_cast counted)
  have money : other.money = valid.money := by
    rw [show other.money = ⟨other.money.amount, other.money.currency⟩ from rfl, currency,
      otherRecords.amount, restyled.amount, ← records.amount]
  rw [show other = ⟨other.userId, other.planId, other.paymentMethod, other.email, other.money,
      other.minor, other.savePaymentMethod⟩ from rfl,
    otherRecords.userId, otherRecords.planId, otherRecords.paymentMethod, otherRecords.email, money,
    minor, otherRecords.saves, restyled.userId.trim_eq, restyled.planId.trim_eq,
    restyled.paymentMethod.trim_eq, restyled.email.trim_eq, restyled.saves, ← records.userId,
    ← records.planId, ← records.paymentMethod, ← records.email, ← records.saves]

theorem unquoted_refusalFor {rule : ChargeLimits.Rule} (breaks : limits.BreaksFirst request rule) :
    (limits.refusalFor variant rule).unquoted = (limits.refusalFor request rule).unquoted := by
  cases rule with
  | currencySupported => simp only [ChargeLimits.refusalFor, ChargeLimits.unsupported, Refusal.unquoted]
  | representable =>
      obtain ⟨currency, _, named⟩ := breaks.earlier .currencySupported (by decide)
      rw [ChargeLimits.refusalFor, ChargeLimits.refusalFor, restyled.amount, named.quoted,
        (restyled.isNamedBy_iff.mpr named).quoted]
  | positive | withinCeiling | currencyGiven | methodGiven | userGiven | planGiven =>
      simp only [ChargeLimits.refusalFor]

theorem breaksFirst {rule : ChargeLimits.Rule} (breaks : limits.BreaksFirst request rule) :
    limits.BreaksFirst variant rule where
  broken := fun kept => breaks.broken ((restyled.keeps_iff rule).mp kept)
  earlier := fun other before => (restyled.keeps_iff other).mpr (breaks.earlier other before)

theorem validate_eq : (limits.validate variant).mapError Refusal.unquoted =
    (limits.validate request).mapError Refusal.unquoted := by
  rcases limits.keeps_or_breaksFirst request with keeps | ⟨rule, breaks⟩
  · have alsoKeeps : ∀ rule, limits.Keeps variant rule := fun rule =>
      (restyled.keeps_iff rule).mpr (keeps rule)
    obtain ⟨valid, accepted⟩ := ChargeLimits.validate_of_keeps keeps
    obtain ⟨other, otherAccepted⟩ := ChargeLimits.validate_of_keeps alsoKeeps
    rw [accepted, otherAccepted, restyled.eq_of_records
      (ChargeLimits.validated_of_ok accepted).records
      (ChargeLimits.validated_of_ok otherAccepted).records]
  · rw [ChargeLimits.validate_of_breaksFirst breaks,
      ChargeLimits.validate_of_breaksFirst (restyled.breaksFirst breaks), Except.mapError,
      Except.mapError, restyled.unquoted_refusalFor breaks]

end ChargeRequest.Restyled

namespace ChargeLimits

/-- A request is accepted exactly if it keeps all the rules, and a charge then holds what it asked for.
Any other request is refused for the first rule that it breaks. -/
theorem chargeable_exactly (limits : ChargeLimits) (request : ChargeRequest) :
    ((∃ valid, limits.validate request = .ok valid) ↔ ∀ rule, limits.Keeps request rule) ∧
    (∀ valid, limits.validate request = .ok valid → valid.Records request) ∧
    (∀ refusal, limits.validate request = .error refusal ↔
      ∃ rule, limits.BreaksFirst request rule ∧ refusal = limits.refusalFor request rule) ∧
    ∀ variant, request.Restyled variant →
      (limits.validate variant).mapError Refusal.unquoted =
        (limits.validate request).mapError Refusal.unquoted :=
  ⟨validate_isOk_iff, fun _ accepted => (validated_of_ok accepted).records,
    fun _ => validate_eq_error_iff, fun _ restyled => restyled.validate_eq⟩

def subscription : ChargeRequest :=
  { userId := "42"
    planId := "premium"
    paymentMethod := "pm_1"
    email := "viewer@example.com"
    amount := { units := 1999, scale := 2 }
    currency := "eur" }

theorem chargeable_exactly_subscription :
    let limits : ChargeLimits := ⟨.million, [⟨"EUR", rfl, by simp⟩]⟩
    let variant := { subscription with userId := " 42", planId := "premium\n", currency := " EuR " }
    (∀ rule, limits.Keeps subscription rule) ∧ subscription.Restyled variant ∧
    (∃ valid, limits.validate subscription = .ok valid ∧ valid.Records subscription) ∧
    (limits.validate variant).mapError Refusal.unquoted =
      (limits.validate subscription).mapError Refusal.unquoted := by
  intro limits variant
  obtain ⟨accepts, records, -, restyles⟩ := chargeable_exactly limits subscription
  have accepted : limits.validate subscription =
      .ok { userId := "42", planId := "premium", paymentMethod := "pm_1",
            email := "viewer@example.com",
            money := ⟨{ units := 1999, scale := 2 }, ⟨"EUR", rfl, by simp⟩⟩,
            minor := 1999, savePaymentMethod := false } := by
    decide +kernel
  have recased : List.Forall₂ Text.Alike ['e', 'u', 'r'] ['E', 'u', 'R'] :=
    .cons (.inl rfl) (.cons (.inl rfl) (.cons (.inl rfl) .nil))
  have restyled : subscription.Restyled variant :=
    { userId := ⟨[' '], [], by simp [Text.isBlank], by simp, by simp [variant, subscription]⟩
      planId := ⟨[], ['\n'], by simp, by simp [Text.isBlank], by simp [variant, subscription]⟩
      paymentMethod := .refl _
      email := .refl _
      currency := ⟨"EuR", recased,
        [' '], [' '], by simp [Text.isBlank], by simp [Text.isBlank], by simp [variant]⟩
      amount := rfl
      saves := rfl }
  exact ⟨accepts.mp ⟨_, accepted⟩, restyled, ⟨_, accepted, records _ accepted⟩,
    restyles variant restyled⟩

end ChargeLimits

end Payments
