import Payments.Currency
import Payments.Gateway.Failure
import Payments.Status

/-!
The words that Stripe uses: its currency codes, the states of a payment intent, the ways identifiers
of each kind begin, and the types and codes of its errors.
-/

namespace Payments.Stripe

def currencyWords : List String :=
  ["byn", "mmk", "aed", "afn", "all", "amd", "ang", "aoa", "ars", "aud", "awg", "azn", "bam",
   "bbd", "bdt", "bgn", "bif", "bmd", "bnd", "bob", "brl", "bsd", "bwp", "bzd", "cad", "cdf",
   "chf", "clp", "cny", "cop", "crc", "cve", "czk", "djf", "dkk", "dop", "dzd", "eek", "egp",
   "etb", "eur", "fjd", "fkp", "gbp", "gel", "gip", "gmd", "gnf", "gtq", "gyd", "hkd", "hnl",
   "hrk", "htg", "huf", "idr", "ils", "inr", "isk", "jmd", "jpy", "kes", "kgs", "khr", "kmf",
   "krw", "kyd", "kzt", "lak", "lbp", "lkr", "lrd", "lsl", "ltl", "lvl", "mad", "mdl", "mga",
   "mkd", "mnt", "mop", "mro", "mur", "mvr", "mwk", "mxn", "myr", "mzn", "nad", "ngn", "nio",
   "nok", "npr", "nzd", "pab", "pen", "pgk", "php", "pkr", "pln", "pyg", "qar", "ron", "rsd",
   "rub", "rwf", "sar", "sbd", "scr", "sek", "sgd", "shp", "sll", "sos", "srd", "std", "svc",
   "szl", "thb", "tjs", "top", "try", "ttd", "twd", "tzs", "uah", "ugx", "usd", "uyu", "uzs",
   "vef", "vnd", "vuv", "wst", "xaf", "xcd", "xof", "xpf", "yer", "zar", "zmw"]

def lowerCode (code : String) : String := String.ofList (code.toList.map Char.toLower)

def upperCode (code : String) : String := String.ofList (code.toList.map Char.toUpper)

def currencyWord (currency : Currency) : Except Gateway.Failure String :=
  let word := lowerCode currency.code
  if currencyWords.contains word then .ok word
  else .error ⟨.invalidRequest, "currency " ++ currency.code ++ " is unknown to Stripe"⟩

def intentStatuses : List (String × Status) :=
  [ ("requires_payment_method", .requiresPaymentMethod)
  , ("requires_confirmation", .requiresConfirmation)
  , ("requires_action", .requiresAction)
  , ("processing", .processing)
  , ("requires_capture", .requiresCapture)
  , ("succeeded", .succeeded)
  , ("canceled", .canceled) ]

def intentStatus? (word : String) : Option Status := intentStatuses.lookup word

def intentStatusWords : List String := intentStatuses.map (·.1)

structure IdKind where
  name : String
  starts : List String

def IdKind.accepts (kind : IdKind) (id : String) : Bool :=
  kind.starts.any fun start => start.toList.isPrefixOf id.toList

def IdKind.complaint (kind : IdKind) : String :=
  "invalid \x60" ++ kind.name ++ "\x60, expected id to start with " ++
    " or ".intercalate (kind.starts.map fun start => "\"" ++ start ++ "\"")

def paymentMethodId : IdKind := ⟨"PaymentMethodId", ["pm_", "card_", "src_", "ba_"]⟩
def intentId : IdKind := ⟨"PaymentIntentId", ["pi_"]⟩
def chargeId : IdKind := ⟨"ChargeId", ["ch_", "py_"]⟩
def customerId : IdKind := ⟨"CustomerId", ["cus_"]⟩

def errorTypes : List String :=
  ["api_error", "api_connection_error", "authentication_error", "card_error", "idempotency_error",
   "invalid_request_error", "rate_limit_error", "validation_error"]

def errorCodes : List String :=
  ["account_already_exists", "account_country_invalid_address", "account_invalid",
   "account_number_invalid", "alipay_upgrade_required", "amount_too_large", "amount_too_small",
   "api_key_expired", "authentication_required", "balance_insufficient", "bank_account_exists",
   "bank_account_unusable", "bank_account_unverified", "card_decline_rate_limit_exceeded",
   "card_declined", "charge_already_captured", "charge_already_refunded", "charge_disputed",
   "charge_expired_for_capture", "country_unsupported", "coupon_expired",
   "customer_max_subscriptions", "email_invalid", "expired_card", "idempotency_key_in_use",
   "incorrect_address", "incorrect_cvc", "incorrect_number", "incorrect_zip",
   "instant_payouts_unsupported", "invalid_card_type", "invalid_charge_amount", "invalid_cvc",
   "invalid_expiry_month", "invalid_expiry_year", "invalid_number", "invalid_source_usage",
   "invoice_no_customer_line_items", "invoice_no_subscription_line_items", "invoice_not_editable",
   "invoice_upcoming_none", "livemode_mismatch", "lock_timeout", "missing",
   "order_creation_failed", "order_required_settings", "order_status_invalid",
   "order_upstream_timeout", "out_of_inventory", "parameter_invalid_empty",
   "parameter_invalid_integer", "parameter_invalid_string_blank",
   "parameter_invalid_string_empty", "parameter_missing", "parameter_unknown",
   "parameters_exclusive", "payment_intent_action_required",
   "payment_intent_authentication_failure", "payment_intent_incompatible_payment_method",
   "payment_intent_invalid_parameter", "payment_intent_payment_attempt_failed",
   "payment_intent_unexpected_state", "payment_method_unactivated",
   "payment_method_unexpected_state", "payouts_not_allowed", "platform_api_key_expired",
   "postal_code_invalid", "processing_error", "product_inactive", "rate_limit",
   "resource_already_exists", "resource_missing", "routing_number_invalid", "secret_key_required",
   "sepa_unsupported_account", "setup_intent_authentication_failure",
   "setup_intent_unexpected_state", "shipping_calculation_failed", "sku_inactive",
   "state_unsupported", "tax_id_invalid", "taxes_calculation_failed", "testmode_charges_only",
   "tls_version_unsupported", "token_already_used", "token_in_use", "transfers_not_allowed",
   "upstream_order_creation_failed", "url_invalid"]

end Payments.Stripe
