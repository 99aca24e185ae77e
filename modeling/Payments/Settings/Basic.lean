import Payments.Gateway.Client
import Payments.Settings.Integer
import Payments.Settings.SocketAddress
import Payments.Text.Split

/-!
Settings of the service, looked up by name. A blank value counts as unset. The settings are read in
a fixed order, and the first that is missing or bad is reported.
-/

namespace Payments

structure Settings where
  bindAddress : Settings.SocketAddress
  databaseUrl : Option String
  gatewaySecret : String
  webhookSecret : String
  currencies : List Currency
  maxAmount : Decimal
  webhookTolerance : Int64
  /-- In seconds. -/
  callTimeout : Nat
  totalTimeout : Nat

namespace Settings

inductive Fault
  | missing (name : String)
  | invalid (name reason : String)
deriving DecidableEq, Repr

def Fault.message : Fault → String
  | .missing name => name ++ " must be set"
  | .invalid name reason => name ++ " is invalid: " ++ reason

abbrev Lookup := String → Option String

def get? (lookup : Lookup) (name : String) : Option String :=
  (lookup name).filter fun value => (Text.nonBlank? value).isSome

def required (lookup : Lookup) (name : String) : Except Fault String :=
  match get? lookup name with
  | some value => .ok value
  | none => .error (.missing name)

def parsed {α : Type} (lookup : Lookup) (name : String) (default : α)
    (read : String → Except String α) : Except Fault α :=
  match get? lookup name with
  | none => .ok default
  | some value => (read (Text.trim value)).mapError (.invalid name)

def readDecimal (text : String) : Except String Decimal :=
  (Decimal.ofText text).mapError Decimal.TextFault.message

def readAddress (text : String) : Except String SocketAddress :=
  match SocketAddress.ofText? text with
  | some address => .ok address
  | none => .error "invalid socket address syntax"

def readTolerance (text : String) : Except String Int64 :=
  ((readInteger (-2 ^ 63) (2 ^ 63 - 1) text.toList).map Int64.ofInt).mapError IntegerFault.message

def readSeconds (text : String) : Except String Nat :=
  ((readInteger 0 (2 ^ 64 - 1) text.toList).map Int.toNat).mapError IntegerFault.message

/-- A limit of zero would end every call before it starts. -/
def positiveSeconds (lookup : Lookup) (name : String) (default : Nat) : Except Fault Nat := do
  let seconds ← parsed lookup name default readSeconds
  if seconds = 0 then throw (.invalid name "must be at least one second")
  return seconds

def currenciesName : String := "SUPPORTED_CURRENCIES"
def defaultCurrencies : String := "usd,eur,gbp,jpy"

def readCurrency (chars : List Char) : Except Fault Currency :=
  (Currency.ofText (String.ofList chars)).mapError fun refusal =>
    .invalid currenciesName refusal.message

def supportedCurrencies (lookup : Lookup) : Except Fault (List Currency) :=
  (Text.pieces ',' ((get? lookup currenciesName).getD defaultCurrencies).toList).mapM readCurrency

def maxAmountName : String := "MAX_PAYMENT_AMOUNT"

def maxPaymentAmount (lookup : Lookup) : Except Fault Decimal := do
  let amount ← parsed lookup maxAmountName .million readDecimal
  if amount.le .zero then throw (.invalid maxAmountName "must be positive")
  return amount

def defaultAddress : SocketAddress := ⟨.v4 [0, 0, 0, 0], 3000⟩

def ofLookup (lookup : Lookup) : Except Fault Settings := do
  let currencies ← supportedCurrencies lookup
  let maxAmount ← maxPaymentAmount lookup
  let bindAddress ← parsed lookup "BIND_ADDR" defaultAddress readAddress
  let gatewaySecret ← required lookup "STRIPE_SECRET_KEY"
  let webhookSecret ← required lookup "STRIPE_WEBHOOK_SECRET"
  let webhookTolerance ← parsed lookup "WEBHOOK_TOLERANCE_SECS" 300 readTolerance
  let callTimeout ← positiveSeconds lookup "GATEWAY_CALL_TIMEOUT_SECS" 10
  let totalTimeout ← positiveSeconds lookup "GATEWAY_TOTAL_TIMEOUT_SECS" 30
  return {
    currencies, maxAmount, bindAddress, gatewaySecret, webhookSecret, webhookTolerance
    callTimeout, totalTimeout
    databaseUrl := get? lookup "DATABASE_URL" }

def limits (settings : Settings) : ChargeLimits := ⟨settings.maxAmount, settings.currencies⟩

def withTimeouts (settings : Settings) (policy : Gateway.RetryPolicy) : Gateway.RetryPolicy :=
  { policy with
    callTimeout := Duration.ofSeconds settings.callTimeout
    totalTimeout := Duration.ofSeconds settings.totalTimeout }

def chargePolicy (settings : Settings) : Gateway.RetryPolicy := settings.withTimeouts .charge

def confirmPolicy (settings : Settings) : Gateway.RetryPolicy := settings.withTimeouts .confirmation

end Settings

end Payments
