import Payments.Stripe.Object.Bank
import Payments.Stripe.Object.Contact

/-!
Means of payment: the payment method a customer has, with what each kind of it tells.
-/

namespace Payments.Stripe.Shape

def paymentMethodStarts : List String := paymentMethodId.starts

def relatedMethod : Shape := related paymentMethodStarts .paymentMethod

def relatedCustomer : Shape := related customerId.starts .customer

def relatedAccount : Shape := related ["acct_"] .account

def relatedMandate : Shape := related ["mandate_"] .mandate

def relatedAttempt : Shape := related ["setatt_"] .setupAttempt

def relatedCharge : Shape := related chargeId.starts .charge

def cardChecks : Shape := texts ["address_line1_check", "address_postal_code_check", "cvc_check"]

def networks : Shape := .record [need (.list .text) "available", may .text "preferred"]

def wallet : Shape :=
  .record
    [ may empty "amex_express_checkout", may empty "apple_pay", may .text "dynamic_last4"
    , may empty "google_pay", may empty "link", may contact "masterpass", may empty "samsung_pay"
    , need type "type", may contact "visa_checkout" ]
where
  contact : Shape :=
    .record
      [ may address "billing_address", may .text "email", may .text "name"
      , may address "shipping_address" ]
  type : Shape :=
    .word
      ["amex_express_checkout", "apple_pay", "google_pay", "link", "masterpass", "samsung_pay",
       "visa_checkout"]

def card : Shape :=
  .record
    [ need .text "brand", may cardChecks "checks", may .text "country", may .text "description"
    , need .int64 "exp_month", need .int64 "exp_year", may .text "fingerprint"
    , need .text "funding", may .text "iin", may .text "issuer", need .text "last4"
    , may networks "networks", may (.record [need .bool "supported"]) "three_d_secure_usage"
    , may wallet "wallet" ]

def readMethod : Shape :=
  .word
    ["contact_emv", "contactless_emv", "contactless_magstripe_mode", "magnetic_stripe_fallback",
     "magnetic_stripe_track2"]

def cardPresent : Shape :=
  .record
    [ may .text "brand", may .text "cardholder_name", may .text "country"
    , may .text "description", need .int64 "exp_month", need .int64 "exp_year"
    , may .text "fingerprint", may .text "funding", may .text "iin", may .text "issuer"
    , may .text "last4", may networks "networks", may readMethod "read_method" ]

def interacPresent : Shape :=
  .record
    [ may .text "brand", may .text "cardholder_name", may .text "country"
    , may .text "description", need .int64 "exp_month", need .int64 "exp_year"
    , may .text "fingerprint", may .text "funding", may .text "iin", may .text "issuer"
    , may .text "last4", may networks "networks", may (.list .text) "preferred_locales"
    , may readMethod "read_method" ]

def bankAccountMethod : Shape :=
  .record
    [ may holderType "account_holder_type", may accountType "account_type", may .text "bank_name"
    , may .text "financial_connections_account", may .text "fingerprint", may .text "last4"
    , may debitNetworks "networks", may .text "routing_number"
    , may (.record [may blocked "blocked"]) "status_details" ]
where
  debitNetworks : Shape :=
    .record [may .text "preferred", need (.list (.word ["ach", "us_domestic_wire"])) "supported"]
  networkCode : Shape :=
    .word
      ["R02", "R03", "R04", "R05", "R07", "R08", "R10", "R11", "R16", "R20", "R29", "R31"]
  reason : Shape :=
    .word
      ["bank_account_closed", "bank_account_frozen", "bank_account_invalid_details",
       "bank_account_restricted", "bank_account_unusable", "debit_not_authorized"]
  blocked : Shape := .record [may networkCode "network_code", may reason "reason"]

def methodTypes : List String :=
  ["acss_debit", "affirm", "afterpay_clearpay", "alipay", "au_becs_debit", "bacs_debit",
   "bancontact", "blik", "boleto", "card", "card_present", "cashapp", "customer_balance", "eps",
   "fpx", "giropay", "grabpay", "ideal", "interac_present", "klarna", "konbini", "link", "oxxo",
   "p24", "paynow", "paypal", "pix", "promptpay", "revolut_pay", "sepa_debit", "sofort", "swish",
   "us_bank_account", "wechat_pay", "zip"]

def radarOptions : Shape := texts ["session"]

def paymentMethod : Shape :=
  .record
    [ need (.id paymentMethodStarts) "id", may acssDebit "acss_debit", may empty "affirm"
    , may empty "afterpay_clearpay", may empty "alipay"
    , may (texts ["bsb_number", "fingerprint", "last4"]) "au_becs_debit"
    , may (texts ["fingerprint", "last4", "sort_code"]) "bacs_debit", may empty "bancontact"
    , need billingDetails "billing_details", may empty "blik"
    , may (.record [need .text "tax_id"]) "boleto", may card "card"
    , may cardPresent "card_present", may (texts ["buyer_id", "cashtag"]) "cashapp"
    , need .int64 "created", may relatedCustomer "customer", may empty "customer_balance"
    , may (.record [may epsBank "bank"]) "eps", may fpx "fpx", may empty "giropay"
    , may empty "grabpay", may (.record [may idealBank "bank", may idealBankCode "bic"]) "ideal"
    , may interacPresent "interac_present", may (.record [may birthday "dob"]) "klarna"
    , may empty "konbini", may (texts ["email", "persistent_token"]) "link"
    , need .bool "livemode", may metadata "metadata", may empty "oxxo"
    , may (.record [may p24Bank "bank"]) "p24", may empty "paynow"
    , may (texts ["payer_email", "payer_id"]) "paypal", may empty "pix", may empty "promptpay"
    , may radarOptions "radar_options", may empty "revolut_pay", may sepaDebit "sepa_debit"
    , may (texts ["country"]) "sofort", may empty "swish", need (.word methodTypes) "type"
    , may bankAccountMethod "us_bank_account", may empty "wechat_pay", may empty "zip" ]
where
  acssDebit : Shape :=
    texts ["bank_name", "fingerprint", "institution_number", "last4", "transit_number"]
  fpx : Shape := .record [may holderType "account_holder_type", need fpxBank "bank"]
  generatedFrom : Shape := .record [may relatedCharge "charge", may relatedAttempt "setup_attempt"]
  sepaDebit : Shape :=
    .record
      [ may .text "bank_code", may .text "branch_code", may .text "country"
      , may .text "fingerprint", may generatedFrom "generated_from", may .text "last4" ]

end Payments.Stripe.Shape
