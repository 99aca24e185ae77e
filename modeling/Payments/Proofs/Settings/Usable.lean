import Payments.Proofs.Settings.Reading
import Payments.Proofs.Gateway.Backoff

/-!
Settings that are accepted can be worked with, and settings that are not are refused for the first
variable that is bad. Main statement: what each variable must be, on its own; what accepted settings
promise; which changes of the variables make no difference; and which fault is reported.
-/

namespace Payments.Settings

open Webhook (Denotes)

/-- What may be wrong, in the order in which it is looked at. -/
inductive Key
  | currencies
  | maxAmount
  | bindAddress
  | gatewaySecret
  | webhookSecret
  | webhookTolerance
  | callTimeout
  | totalTimeout

def Fault.name : Fault → String
  | .missing name => name
  | .invalid name _ => name

namespace Key

def all : List Key :=
  [.currencies, .maxAmount, .bindAddress, .gatewaySecret, .webhookSecret, .webhookTolerance,
    .callTimeout, .totalTimeout]

def name : Key → String
  | .currencies => "SUPPORTED_CURRENCIES"
  | .maxAmount => "MAX_PAYMENT_AMOUNT"
  | .bindAddress => "BIND_ADDR"
  | .gatewaySecret => "STRIPE_SECRET_KEY"
  | .webhookSecret => "STRIPE_WEBHOOK_SECRET"
  | .webhookTolerance => "WEBHOOK_TOLERANCE_SECS"
  | .callTimeout => "GATEWAY_CALL_TIMEOUT_SECS"
  | .totalTimeout => "GATEWAY_TOTAL_TIMEOUT_SECS"

def place : Key → Nat
  | .currencies => 0
  | .maxAmount => 1
  | .bindAddress => 2
  | .gatewaySecret => 3
  | .webhookSecret => 4
  | .webhookTolerance => 5
  | .callTimeout => 6
  | .totalTimeout => 7

end Key

/-- The value is as it must be, or there is none where there need not be one. -/
def Fine (lookup : Lookup) (key : Key) : Prop :=
  match key with
  | .currencies => ∀ value, IsSet lookup key.name value →
      ∀ piece ∈ Text.pieces ',' value.toList,
        ∃ currency : Currency, currency.IsNamedBy (String.ofList piece)
  | .maxAmount => ∀ value, IsSet lookup key.name value →
      ∃ amount, Decimal.ofText (Text.trim value) = .ok amount ∧ 0 < amount.value
  | .bindAddress => ∀ value, IsSet lookup key.name value →
      ∃ address, SocketAddress.ofText? (Text.trim value) = some address
  | .gatewaySecret | .webhookSecret => ∃ value, IsSet lookup key.name value
  | .webhookTolerance => ∀ value, IsSet lookup key.name value →
      ∃ n : Int64, Denotes (Text.trim value).toList n.toInt
  | .callTimeout | .totalTimeout => ∀ value, IsSet lookup key.name value →
      IsTimeout (Text.trim value)

/-- This is bad, and nothing that is looked at before is. -/
structure FirstBad (lookup : Lookup) (key : Key) : Prop where
  bad : ¬ Fine lookup key
  earlier : ∀ other : Key, other.place < key.place → Fine lookup other

def failure? {α : Type} : Except Fault α → Option Fault
  | .ok _ => none
  | .error fault => some fault

def Key.fault? (lookup : Lookup) : Key → Option Fault
  | .currencies => failure? (supportedCurrencies lookup)
  | .maxAmount => failure? (maxPaymentAmount lookup)
  | .bindAddress => failure? (parsed lookup "BIND_ADDR" defaultAddress readAddress)
  | .gatewaySecret => failure? (required lookup "STRIPE_SECRET_KEY")
  | .webhookSecret => failure? (required lookup "STRIPE_WEBHOOK_SECRET")
  | .webhookTolerance => failure? (parsed lookup "WEBHOOK_TOLERANCE_SECS" 300 readTolerance)
  | .callTimeout => failure? (positiveSeconds lookup "GATEWAY_CALL_TIMEOUT_SECS" 10)
  | .totalTimeout => failure? (positiveSeconds lookup "GATEWAY_TOTAL_TIMEOUT_SECS" 30)

section

variable {lookup : Lookup} {key : Key} {fault : Fault} {α : Type} {outcome : Except Fault α}

theorem failure?_eq_none_iff : failure? outcome = none ↔ ∃ result, outcome = .ok result := by
  cases outcome <;> simp [failure?]

theorem failure?_eq_some_iff : failure? outcome = some fault ↔ outcome = .error fault := by
  cases outcome <;> simp [failure?]

theorem exists_supportedCurrencies_iff :
    (∃ currencies, supportedCurrencies lookup = .ok currencies) ↔ Fine lookup .currencies := by
  have defaults : ∀ piece ∈ Text.pieces ',' defaultCurrencies.toList,
      ∃ currency : Currency, currency.IsNamedBy (String.ofList piece) := by
    have read : ∀ piece ∈ Text.pieces ',' defaultCurrencies.toList,
        (Currency.ofText (String.ofList piece)).isOk = true := by
      decide +kernel
    intro piece member
    have isOk := read piece member
    cases named : Currency.ofText (String.ofList piece) with
    | error refusal =>
        rw [named] at isOk
        cases isOk
    | ok currency => exact ⟨currency, Currency.ofText_eq_ok_iff_isNamedBy.mp named⟩
  simp only [supportedCurrencies_eq_ok_iff, exists_forall₂_iff, listed, List.forall_mem_map, Fine,
    ← get?_eq_some_iff]
  change _ ↔ ∀ value, get? lookup currenciesName = some value → _
  cases get? lookup currenciesName with
  | none =>
      refine ⟨fun _ value same => ?_, fun _ => defaults⟩
      cases same
  | some value =>
      refine ⟨fun all given same => ?_, fun all => all value rfl⟩
      cases same
      exact all

theorem fault?_eq_none_iff : key.fault? lookup = none ↔ Fine lookup key := by
  cases key with
  | currencies => exact failure?_eq_none_iff.trans exists_supportedCurrencies_iff
  | maxAmount =>
      have million : 0 < Decimal.million.value := by norm_num [Decimal.value, Decimal.million]
      refine failure?_eq_none_iff.trans ?_
      simp only [maxPaymentAmount_eq_ok_iff,
        exists_parsed_and_iff (fun amount : Decimal => 0 < amount.value) million, readDecimal,
        mapError_eq_ok_iff]
      rfl
  | bindAddress =>
      refine failure?_eq_none_iff.trans ?_
      simp only [exists_parsed_iff, readAddress_eq_ok_iff]
      rfl
  | gatewaySecret => exact failure?_eq_none_iff.trans exists_required_iff
  | webhookSecret => exact failure?_eq_none_iff.trans exists_required_iff
  | webhookTolerance =>
      refine failure?_eq_none_iff.trans ?_
      simp only [exists_parsed_iff, readTolerance_eq_ok_iff]
      rfl
  | callTimeout => exact failure?_eq_none_iff.trans (exists_timeout_iff (by decide))
  | totalTimeout => exact failure?_eq_none_iff.trans (exists_timeout_iff (by decide))

theorem Key.name_of_fault? (faulty : key.fault? lookup = some fault) : fault.name = key.name := by
  have bad : ∀ {α : Type} {outcome : Except Fault α},
      FailsOnly (fun fault => fault.name = key.name) outcome →
      failure? outcome = some fault → fault.name = key.name :=
    fun fails failed => fails _ (failure?_eq_some_iff.mp failed)
  have required : ∀ name, name = key.name →
      FailsOnly (fun fault => fault.name = key.name) (required lookup name) := by
    intro name isName fault failed
    unfold Settings.required at failed
    split at failed
    · cases failed
    · cases failed
      exact isName
  cases key with
  | currencies => exact bad (supportedCurrencies_failsOnly fun _ => rfl) faulty
  | maxAmount => exact bad (checked_failsOnly (parsed_failsOnly fun _ => rfl) rfl) faulty
  | bindAddress => exact bad (parsed_failsOnly fun _ => rfl) faulty
  | gatewaySecret => exact bad (required _ rfl) faulty
  | webhookSecret => exact bad (required _ rfl) faulty
  | webhookTolerance => exact bad (parsed_failsOnly fun _ => rfl) faulty
  | callTimeout => exact bad (checked_failsOnly (parsed_failsOnly fun _ => rfl) rfl) faulty
  | totalTimeout => exact bad (checked_failsOnly (parsed_failsOnly fun _ => rfl) rfl) faulty

theorem failure?_ofLookup (lookup : Lookup) :
    failure? (ofLookup lookup) = Key.all.findSome? (Key.fault? lookup) := by
  unfold ofLookup
  simp only [Key.all, List.findSome?_cons, List.findSome?_nil, Key.fault?]
  rcases supportedCurrencies lookup with _ | _
  · rfl
  rcases maxPaymentAmount lookup with _ | _
  · rfl
  rcases parsed lookup "BIND_ADDR" defaultAddress readAddress with _ | _
  · rfl
  rcases required lookup "STRIPE_SECRET_KEY" with _ | _
  · rfl
  rcases required lookup "STRIPE_WEBHOOK_SECRET" with _ | _
  · rfl
  rcases parsed lookup "WEBHOOK_TOLERANCE_SECS" 300 readTolerance with _ | _
  · rfl
  rcases positiveSeconds lookup "GATEWAY_CALL_TIMEOUT_SECS" 10 with _ | _
  · rfl
  rcases positiveSeconds lookup "GATEWAY_TOTAL_TIMEOUT_SECS" 30 with _ | _
  · rfl
  rfl

theorem Key.all_split (key : Key) :
    ∃ before after, Key.all = before ++ key :: after ∧
      ∀ other ∈ before, other.place < key.place :=
  ⟨Key.all.take key.place, Key.all.drop (key.place + 1), by cases key <;> rfl,
    by cases key <;> decide⟩

theorem ofLookup_of_fault? (faulty : key.fault? lookup = some fault)
    (earlier : ∀ other : Key, other.place < key.place → Fine lookup other) :
    ofLookup lookup = .error fault := by
  obtain ⟨before, after, whole, placed⟩ := key.all_split
  rw [← failure?_eq_some_iff, failure?_ofLookup, whole, List.findSome?_append,
    List.findSome?_eq_none_iff.mpr fun other member =>
      fault?_eq_none_iff.mpr (earlier other (placed other member)),
    Option.none_or, List.findSome?_cons, faulty]

theorem ofLookup_isOk_iff :
    (∃ settings, ofLookup lookup = .ok settings) ↔ ∀ key, Fine lookup key := by
  rw [← failure?_eq_none_iff, failure?_ofLookup, List.findSome?_eq_none_iff]
  simp only [fault?_eq_none_iff]
  refine ⟨fun fine key => fine key ?_, fun fine key _ => fine key⟩
  obtain ⟨before, after, whole, _⟩ := key.all_split
  rw [whole]
  exact List.mem_append_right _ List.mem_cons_self

theorem Key.fault?_congr {other : Lookup} (same : lookup key.name = other key.name) :
    key.fault? lookup = key.fault? other := by
  have same : get? lookup key.name = get? other key.name := by rw [get?, get?, same]
  cases key <;> simp only [Key.name] at same <;>
    simp only [Key.fault?, supportedCurrencies, maxPaymentAmount, positiveSeconds, parsed, required,
      currenciesName, maxAmountName, same]

theorem Key.name_ne {other : Key} (placed : other.place < key.place) : other.name ≠ key.name := by
  cases key <;> cases other <;> simp_all [Key.place, Key.name]

def amid (good lookup : Lookup) (key : Key) : Lookup :=
  fun name => if name = key.name then lookup name else good name

theorem ofLookup_amid {good : Lookup} (accepted : ∃ settings, ofLookup good = .ok settings)
    (faulty : key.fault? lookup = some fault) : ofLookup (amid good lookup key) = .error fault := by
  have own : key.fault? (amid good lookup key) = some fault := by
    rw [← faulty]
    exact Key.fault?_congr (if_pos rfl)
  refine ofLookup_of_fault? own fun other placed => ?_
  rw [← fault?_eq_none_iff, Key.fault?_congr (if_neg (Key.name_ne placed) :
    amid good lookup key other.name = good other.name), fault?_eq_none_iff]
  exact ofLookup_isOk_iff.mp accepted other

end

/-- A policy that waits only as long as it says, with delays that double from attempt to attempt. -/
structure Patient (policy : Gateway.RetryPolicy) (settings : Settings) : Prop where
  callTimeout : policy.callTimeout = Duration.ofSeconds settings.callTimeout
  totalTimeout : policy.totalTimeout = Duration.ofSeconds settings.totalTimeout
  attempts : 1 ≤ policy.maxAttempts
  delays : ∀ attempt, 1 ≤ attempt → attempt ≤ policy.maxAttempts →
    policy.delayAfter attempt = policy.baseDelay * policy.multiplier ^ (attempt - 1)
  bounded : ∀ attempt, policy.delayAfter attempt < Duration.longest

/-- What accepted settings promise. -/
structure Usable (lookup : Lookup) (settings : Settings) : Prop where
  gatewaySecret : IsSet lookup "STRIPE_SECRET_KEY" settings.gatewaySecret
  webhookSecret : IsSet lookup "STRIPE_WEBHOOK_SECRET" settings.webhookSecret
  currencies_ne_nil : settings.currencies ≠ []
  codes : ∀ currency ∈ settings.currencies,
    currency.code.toList.length = 3 ∧ ∀ c ∈ currency.code.toList, 'A' ≤ c ∧ c ≤ 'Z'
  maxAmount : 0 < settings.maxAmount.value
  callTimeout : 1 ≤ settings.callTimeout ∧ settings.callTimeout < 2 ^ 64
  totalTimeout : 1 ≤ settings.totalTimeout ∧ settings.totalTimeout < 2 ^ 64
  chargePolicy : Patient settings.chargePolicy settings
  confirmPolicy : Patient settings.confirmPolicy settings
  ceiling : settings.limits.maxAmount = settings.maxAmount
  accepts : ∀ text, (∃ currency, settings.limits.currency text = .ok currency) ↔
    ∃ entry ∈ listed lookup,
      (Text.trim entry).toList.map Char.toUpper = (Text.trim text).toList.map Char.toUpper

section

variable {lookup : Lookup} {settings : Settings} {currencies : List Currency} {text : String}

theorem times_second {factor : Nat} (small : factor < 2 ^ 32) :
    Duration.times (Duration.ofSeconds 1) factor = Duration.ofSeconds 1 * factor ∧
      Duration.ofSeconds 1 * factor < Duration.longest := by
  have longest : Duration.longest = 18446744073709551615999999999 := by decide
  have second : Duration.ofSeconds 1 = 1000000000 := by decide
  rw [Duration.times_eq_min, longest, second]
  have fits : 1000000000 * factor < 18446744073709551615999999999 := by omega
  exact ⟨Nat.min_eq_right (Nat.le_of_lt fits), fits⟩

theorem withTimeouts_patient (settings : Settings) {policy : Gateway.RetryPolicy}
    (second : policy.baseDelay = Duration.ofSeconds 1) (doubles : policy.multiplier = 2)
    (some : 1 ≤ policy.maxAttempts) (few : policy.maxAttempts ≤ 32) :
    Patient (settings.withTimeouts policy) settings := by
  have delay : ∀ attempt, (settings.withTimeouts policy).delayAfter attempt =
      Duration.times (Duration.ofSeconds 1) (Duration.power32 2 (attempt - 1)) := by
    intro attempt
    rw [Gateway.RetryPolicy.delayAfter, withTimeouts, second, doubles]
  refine ⟨rfl, rfl, some, fun attempt isSome isLast => ?_, fun attempt => ?_⟩
  · have few : attempt - 1 ≤ 31 := by
      have isLast : attempt ≤ policy.maxAttempts := isLast
      omega
    have power : 2 ^ (attempt - 1) ≤ 2 ^ 31 := Nat.pow_le_pow_right (by decide) few
    have isPower : Duration.power32 2 (attempt - 1) = 2 ^ (attempt - 1) := by
      rw [Duration.power32_eq_min]
      exact Nat.min_eq_right (by omega)
    rw [delay, isPower, (times_second (by omega)).1]
    simp only [withTimeouts, second, doubles]
  · have power : Duration.power32 2 (attempt - 1) < 2 ^ 32 := by
      rw [Duration.power32_eq_min]
      exact Nat.lt_of_le_of_lt (Nat.min_le_left _ _) (by decide)
    rw [delay, (times_second power).1]
    exact (times_second power).2

theorem accepts_iff {limits : ChargeLimits}
    (read : List.Forall₂ (fun text currency => currency.IsNamedBy text) (listed lookup)
      limits.currencies) :
    (∃ currency, limits.currency text = .ok currency) ↔
      ∃ entry ∈ listed lookup,
        (Text.trim entry).toList.map Char.toUpper = (Text.trim text).toList.map Char.toUpper := by
  constructor
  · rintro ⟨currency, supported⟩
    obtain ⟨named, isListed⟩ := ChargeLimits.ofText_of_currency supported
    obtain ⟨entry, member, entryNames⟩ :=
      (mem_of_forall₂ read).2 currency (List.contains_iff_mem.mp isListed)
    refine ⟨entry, member, ?_⟩
    rw [isNamedBy_iff.mp entryNames,
      isNamedBy_iff.mp (Currency.ofText_eq_ok_iff_isNamedBy.mp named)]
  · rintro ⟨entry, member, same⟩
    obtain ⟨currency, isListed, named⟩ := (mem_of_forall₂ read).1 entry member
    have named : currency.IsNamedBy text := by
      rw [isNamedBy_iff, ← same]
      exact isNamedBy_iff.mp named
    exact ⟨currency, ChargeLimits.currency_of_named named isListed⟩

theorem ofLookup_usable (accepted : ofLookup lookup = .ok settings) : Usable lookup settings := by
  unfold ofLookup at accepted
  obtain ⟨currencies, areCurrencies, accepted⟩ := eq_ok_of_bind accepted
  obtain ⟨maxAmount, isAmount, accepted⟩ := eq_ok_of_bind accepted
  obtain ⟨bindAddress, _, accepted⟩ := eq_ok_of_bind accepted
  obtain ⟨gatewaySecret, isGatewaySecret, accepted⟩ := eq_ok_of_bind accepted
  obtain ⟨webhookSecret, isWebhookSecret, accepted⟩ := eq_ok_of_bind accepted
  obtain ⟨webhookTolerance, _, accepted⟩ := eq_ok_of_bind accepted
  obtain ⟨callTimeout, isCall, accepted⟩ := eq_ok_of_bind accepted
  obtain ⟨totalTimeout, isTotal, accepted⟩ := eq_ok_of_bind accepted
  cases accepted
  have read := supportedCurrencies_eq_ok_iff.mp areCurrencies
  exact
    { gatewaySecret := required_eq_ok isGatewaySecret
      webhookSecret := required_eq_ok isWebhookSecret
      currencies_ne_nil := by
        rintro rfl
        exact Text.pieces_ne_nil _ _ (List.map_eq_nil_iff.mp (List.forall₂_nil_right_iff.mp read))
      codes := fun currency _ => currency.code_bounds
      maxAmount := (maxPaymentAmount_eq_ok_iff.mp isAmount).2
      callTimeout := timeout_bounds (by decide) isCall
      totalTimeout := timeout_bounds (by decide) isTotal
      chargePolicy := withTimeouts_patient _ rfl rfl (by decide) (by decide)
      confirmPolicy := withTimeouts_patient _ rfl rfl (by decide) (by decide)
      ceiling := rfl
      accepts := fun text => accepts_iff read }

end

def singleValued : List String :=
  ["MAX_PAYMENT_AMOUNT", "BIND_ADDR", "WEBHOOK_TOLERANCE_SECS", "GATEWAY_CALL_TIMEOUT_SECS",
    "GATEWAY_TOTAL_TIMEOUT_SECS"]

/-- Two values of a variable between which no difference is made: a blank one and none, and one that
is read without blanks around it and that value with more of them. -/
inductive SameValue (name : String) : Option String → Option String → Prop
  | refl (value? : Option String) : SameValue name value? value?
  | unset {value : String} : (∀ c ∈ value.toList, Text.isBlank c = true) →
      SameValue name (some value) none
  | padded {value text : String} : name ∈ singleValued → Text.Padded value text →
      SameValue name (some value) (some text)

section

variable {lookup other : Lookup} {name : String}

theorem trim_get? (same : SameValue name (lookup name) (other name)) :
    (get? other name).map Text.trim = (get? lookup name).map Text.trim := by
  unfold get?
  generalize lookup name = value? at same
  generalize other name = text? at same
  cases same with
  | refl => rfl
  | unset blank => simp [isSome_nonBlank?, trim_eq_empty_iff.mpr blank]
  | padded _ padded =>
      simp only [Option.filter_some, isSome_nonBlank?, padded.trim_eq]
      split
      · rw [Option.map_some, Option.map_some, padded.trim_eq]
      · rfl

theorem get?_of_sameValue (notSingle : name ∉ singleValued)
    (same : SameValue name (lookup name) (other name)) : get? other name = get? lookup name := by
  unfold get?
  generalize lookup name = value? at same
  generalize other name = text? at same
  cases same with
  | refl => rfl
  | unset blank => simp [Option.filter_some, isSome_nonBlank?, trim_eq_empty_iff.mpr blank]
  | padded single _ => exact absurd single notSingle

theorem ofLookup_of_sameValue (same : ∀ name, SameValue name (lookup name) (other name)) :
    ofLookup other = ofLookup lookup := by
  have single : ∀ {α : Type} (name : String) (default : α) (read : String → Except String α),
      parsed other name default read = parsed lookup name default read := by
    intro α name default read
    have trimmed := trim_get? (same name)
    unfold parsed
    cases given : get? lookup name with
    | none =>
        rw [given, Option.map_none, Option.map_eq_none_iff] at trimmed
        rw [trimmed]
    | some value =>
        rw [given, Option.map_some, Option.map_eq_some_iff] at trimmed
        obtain ⟨text, isText, trimmed⟩ := trimmed
        rw [isText]
        simp only [trimmed]
  have whole : ∀ name, name ∉ singleValued → get? other name = get? lookup name :=
    fun name notSingle => get?_of_sameValue notSingle (same name)
  simp only [ofLookup, supportedCurrencies, maxPaymentAmount, positiveSeconds, required, single,
    whole currenciesName (by decide), whole "STRIPE_SECRET_KEY" (by decide),
    whole "STRIPE_WEBHOOK_SECRET" (by decide), whole "DATABASE_URL" (by decide)]

end

/-- What comes of the variables: settings that can be worked with, or the fault of the first bad
variable, which is the fault it has amid any good ones. A blank value is none, and blanks around a
single value are nothing. -/
theorem ofLookup_usable_or_first_fault (lookup : Lookup) :
    (∀ settings, ofLookup lookup = .ok settings → Usable lookup settings) ∧
    ((∃ settings, ofLookup lookup = .ok settings) ↔ ∀ key, Fine lookup key) ∧
    (∀ other : Lookup, (∀ name, SameValue name (lookup name) (other name)) →
      ofLookup other = ofLookup lookup) ∧
    ∀ key, FirstBad lookup key → ∃ fault, ofLookup lookup = .error fault ∧
      fault.name = key.name ∧
      ∀ good : Lookup, (∃ settings, ofLookup good = .ok settings) →
        ofLookup (amid good lookup key) = .error fault := by
  refine ⟨fun _ => ofLookup_usable, ofLookup_isOk_iff, fun _ => ofLookup_of_sameValue, ?_⟩
  intro key first
  have faulty : key.fault? lookup ≠ none := fun fine => first.bad (fault?_eq_none_iff.mp fine)
  obtain ⟨fault, faulty⟩ := Option.ne_none_iff_exists'.mp faulty
  exact ⟨fault, ofLookup_of_fault? faulty first.earlier, Key.name_of_fault? faulty,
    fun good accepted => ofLookup_amid accepted faulty⟩

example :
    failure? (ofLookup fun name =>
      if name = "MAX_PAYMENT_AMOUNT" then some " 0.00 " else if name = "BIND_ADDR" then some "here"
      else none) = some (.invalid "MAX_PAYMENT_AMOUNT" "must be positive") := by decide +kernel

end Payments.Settings
