import Payments.Stripe.Object.Method

/-!
How a charge was paid, told in much the same terms as the payment method itself.
-/

namespace Payments.Stripe.Shape

def threeDSecure : Shape :=
  .record
    [ may (.word ["challenge", "frictionless"]) "authentication_flow"
    , may (.word ["01", "02", "05", "06", "07"]) "electronic_commerce_indicator"
    , may (.word ["low_risk", "none"]) "exemption_indicator"
    , may .bool "exemption_indicator_applied", may result "result"
    , may resultReason "result_reason", may .text "transaction_id"
    , may (.word ["1.0.2", "2.1.0", "2.2.0"]) "version" ]
where
  result : Shape :=
    .word
      ["attempt_acknowledged", "authenticated", "exempted", "failed", "not_supported",
       "processing_error"]
  resultReason : Shape :=
    .word
      ["abandoned", "bypassed", "canceled", "card_not_enrolled", "network_not_supported",
       "protocol_error", "rejected"]

def setupThreeDSecure : Shape :=
  .record
    [ may (.word ["challenge", "frictionless"]) "authentication_flow"
    , may (.word ["01", "02", "05", "06", "07"]) "electronic_commerce_indicator"
    , may result "result", may resultReason "result_reason", may .text "transaction_id"
    , may (.word ["1.0.2", "2.1.0", "2.2.0"]) "version" ]
where
  result : Shape :=
    .word
      ["attempt_acknowledged", "authenticated", "exempted", "failed", "not_supported",
       "processing_error"]
  resultReason : Shape :=
    .word
      ["abandoned", "bypassed", "canceled", "card_not_enrolled", "network_not_supported",
       "protocol_error", "rejected"]

def installmentPlan : Shape :=
  .record
    [ may (.nat 64) "count", may (.word ["month"]) "interval"
    , need (.word ["fixed_count"]) "type" ]

def standing (first second : String) : Shape := .record [need (.word [first, second]) "status"]

def chargedCard : Shape :=
  .record
    [ may .int64 "amount_authorized", may .text "brand", may .int64 "capture_before"
    , may cardChecks "checks", may .text "country", may .text "description"
    , need .int64 "exp_month", need .int64 "exp_year"
    , may (standing "disabled" "enabled") "extended_authorization", may .text "fingerprint"
    , may .text "funding", may .text "iin"
    , may (standing "available" "unavailable") "incremental_authorization"
    , may (.record [may installmentPlan "plan"]) "installments", may .text "issuer"
    , may .text "last4", may .text "mandate", may .bool "moto"
    , may (standing "available" "unavailable") "multicapture", may .text "network"
    , may (.record [need .bool "used"]) "network_token", may overcapture "overcapture"
    , may threeDSecure "three_d_secure", may wallet "wallet" ]
where
  overcapture : Shape :=
    .record
      [ need .int64 "maximum_amount_capturable"
      , need (.word ["available", "unavailable"]) "status" ]

def chargedCardPresent : Shape :=
  .record
    [ may .int64 "amount_authorized", may .text "brand", may .int64 "capture_before"
    , may .text "cardholder_name", may .text "country", may .text "description"
    , may .text "emv_auth_data", need .int64 "exp_month", need .int64 "exp_year"
    , may .text "fingerprint", may .text "funding", may .text "generated_card", may .text "iin"
    , need .bool "incremental_authorization_supported", may .text "issuer", may .text "last4"
    , may .text "network", may (.record [may .int64 "stored_at"]) "offline"
    , need .bool "overcapture_supported", may readMethod "read_method", may receipt "receipt" ]
where
  receipt : Shape :=
    .record
      [ may (.word ["checking", "credit", "prepaid", "unknown"]) "account_type"
      , may .text "application_cryptogram", may .text "application_preferred_name"
      , may .text "authorization_code", may .text "authorization_response_code"
      , may .text "cardholder_verification_method", may .text "dedicated_file_name"
      , may .text "terminal_verification_results", may .text "transaction_status_information" ]

def chargedInteracPresent : Shape :=
  .record
    [ may .text "brand", may .text "cardholder_name", may .text "country"
    , may .text "description", may .text "emv_auth_data", need .int64 "exp_month"
    , need .int64 "exp_year", may .text "fingerprint", may .text "funding"
    , may .text "generated_card", may .text "iin", may .text "issuer", may .text "last4"
    , may .text "network", may (.list .text) "preferred_locales", may readMethod "read_method"
    , may receipt "receipt" ]
where
  receipt : Shape :=
    .record
      [ may (.word ["checking", "savings", "unknown"]) "account_type"
      , may .text "application_cryptogram", may .text "application_preferred_name"
      , may .text "authorization_code", may .text "authorization_response_code"
      , may .text "cardholder_verification_method", may .text "dedicated_file_name"
      , may .text "terminal_verification_results", may .text "transaction_status_information" ]

def bancontact : Shape :=
  .record
    [ may .text "bank_code", may .text "bank_name", may .text "bic"
    , may relatedMethod "generated_sepa_debit", may relatedMandate "generated_sepa_debit_mandate"
    , may .text "iban_last4", may (.word ["de", "en", "fr", "nl"]) "preferred_language"
    , may .text "verified_name" ]

def ideal : Shape :=
  .record
    [ may idealBank "bank", may idealBankCode "bic", may relatedMethod "generated_sepa_debit"
    , may relatedMandate "generated_sepa_debit_mandate", may .text "iban_last4"
    , may .text "verified_name" ]

def sofort : Shape :=
  .record
    [ may .text "bank_code", may .text "bank_name", may .text "bic", may .text "country"
    , may relatedMethod "generated_sepa_debit", may relatedMandate "generated_sepa_debit_mandate"
    , may .text "iban_last4"
    , may (.word ["de", "en", "es", "fr", "it", "nl", "pl"]) "preferred_language"
    , may .text "verified_name" ]

def konbiniChain : Shape := .word ["familymart", "lawson", "ministop", "seicomart"]

def charged : Shape :=
  .record
    [ may achCreditTransfer "ach_credit_transfer", may achDebit "ach_debit"
    , may acssDebit "acss_debit", may empty "affirm"
    , may (texts ["order_id", "reference"]) "afterpay_clearpay"
    , may (texts ["buyer_id", "fingerprint", "transaction_id"]) "alipay"
    , may (texts ["bsb_number", "fingerprint", "last4", "mandate"]) "au_becs_debit"
    , may (texts ["fingerprint", "last4", "mandate", "sort_code"]) "bacs_debit"
    , may bancontact "bancontact", may empty "blik", may (.record [need .text "tax_id"]) "boleto"
    , may chargedCard "card", may chargedCardPresent "card_present"
    , may (texts ["buyer_id", "cashtag"]) "cashapp", may empty "customer_balance"
    , may (.record [may epsBank "bank", may .text "verified_name"]) "eps", may fpx "fpx"
    , may (texts ["bank_code", "bank_name", "bic", "verified_name"]) "giropay"
    , may (texts ["transaction_id"]) "grabpay", may ideal "ideal"
    , may chargedInteracPresent "interac_present"
    , may (texts ["payment_method_category", "preferred_locale"]) "klarna", may konbini "konbini"
    , may (texts ["country"]) "link", may (texts ["entity", "reference"]) "multibanco"
    , may (texts ["number"]) "oxxo", may p24 "p24", may (texts ["reference"]) "paynow"
    , may paypal "paypal", may (texts ["bank_transaction_id"]) "pix"
    , may (texts ["reference"]) "promptpay", may empty "revolut_pay"
    , may (texts ["bank_name", "bic", "iban"]) "sepa_credit_transfer", may sepaDebit "sepa_debit"
    , may sofort "sofort", may empty "stripe_account", may swish "swish", need .text "type"
    , may bankAccount "us_bank_account", may empty "wechat"
    , may (texts ["fingerprint", "transaction_id"]) "wechat_pay", may empty "zip" ]
where
  achCreditTransfer : Shape := texts ["account_number", "bank_name", "routing_number", "swift_code"]
  achDebit : Shape :=
    .record
      [ may holderType "account_holder_type", may .text "bank_name", may .text "country"
      , may .text "fingerprint", may .text "last4", may .text "routing_number" ]
  acssDebit : Shape :=
    texts ["bank_name", "fingerprint", "institution_number", "last4", "mandate", "transit_number"]
  fpx : Shape :=
    .record [may holderType "account_holder_type", need fpxBank "bank", may .text "transaction_id"]
  store : Shape := .record [may konbiniChain "chain"]
  konbini : Shape := .record [may store "store"]
  p24 : Shape := .record [may p24Bank "bank", may .text "reference", may .text "verified_name"]
  protection : Shape :=
    .record
      [ may (.list (.word ["fraudulent", "product_not_received"])) "dispute_categories"
      , need (.word ["eligible", "not_eligible", "partially_eligible"]) "status" ]
  paypal : Shape :=
    .record
      [ may .text "payer_email", may .text "payer_id", may .text "payer_name"
      , may protection "seller_protection", may .text "transaction_id" ]
  sepaDebit : Shape :=
    texts ["bank_code", "branch_code", "country", "fingerprint", "last4", "mandate"]
  swish : Shape := texts ["fingerprint", "payment_reference", "verified_phone_last4"]
  bankAccount : Shape :=
    .record
      [ may holderType "account_holder_type", may accountType "account_type"
      , may .text "bank_name", may .text "fingerprint", may .text "last4"
      , may .text "routing_number" ]

end Payments.Stripe.Shape
