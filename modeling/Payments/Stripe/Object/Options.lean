import Payments.Stripe.Object.Paid
import Payments.Stripe.Object.Subscription

/-!
Choices made for a payment intent or a setup intent, one record for each kind of payment method.
-/

namespace Payments.Stripe.Shape

def futureUse (words : List String) : Shape := .word ("none" :: words)

def once : Shape := futureUse []

def later : Shape := futureUse ["off_session"]

def anyUse : Shape := futureUse ["off_session", "on_session"]

def byHand : Shape := .word ["manual"]

def ifAvailable : Shape := .word ["if_available", "never"]

def supportedTypes : Shape := .word ["india"]

def cardInterval : Shape := .word ["day", "month", "sporadic", "week", "year"]

def cardMandate : Shape :=
  .record
    [ need .int64 "amount", need (.word ["fixed", "maximum"]) "amount_type"
    , may .text "description", may .int64 "end_date", need cardInterval "interval"
    , may (.nat 64) "interval_count", need .text "reference", need .int64 "start_date"
    , may (.list supportedTypes) "supported_types" ]

def setupCardMandate : Shape :=
  .record
    [ need .int64 "amount", need (.word ["fixed", "maximum"]) "amount_type"
    , need currency "currency", may .text "description", may .int64 "end_date"
    , need cardInterval "interval", may (.nat 64) "interval_count", need .text "reference"
    , need .int64 "start_date", may (.list supportedTypes) "supported_types" ]

def cardOptions : Shape :=
  .record
    [ may byHand "capture_method", may installments "installments"
    , may cardMandate "mandate_options", may cardNetwork "network"
    , may ifAvailable "request_extended_authorization"
    , may ifAvailable "request_incremental_authorization", may ifAvailable "request_multicapture"
    , may ifAvailable "request_overcapture", may threeDSecureRequest "request_three_d_secure"
    , may .bool "require_cvc_recollection", may anyUse "setup_future_usage"
    , may .text "statement_descriptor_suffix_kana", may .text "statement_descriptor_suffix_kanji" ]
where
  installments : Shape :=
    .record
      [ may (.list installmentPlan) "available_plans", need .bool "enabled"
      , may installmentPlan "plan" ]

def bankTransferOptions : Shape :=
  .record
    [ may (.record [need euCountry "country"]) "eu_bank_transfer"
    , may (.list requestedAddressTypes) "requested_address_types", may type "type" ]
where
  requestedAddressTypes : Shape :=
    .word
      ["aba", "iban", "sepa", "sort_code", "spei", "swift", "zengin"]
  type : Shape :=
    .word
      ["eu_bank_transfer", "gb_bank_transfer", "jp_bank_transfer", "mx_bank_transfer",
       "us_bank_transfer"]

def paymentSchedule : Shape := .word ["combined", "interval", "sporadic"]

def transactionType : Shape := .word ["business", "personal"]

def debitMandate : Shape :=
  .record
    [ may .text "custom_mandate_url", may .text "interval_description"
    , may paymentSchedule "payment_schedule", may transactionType "transaction_type" ]

def connection : Shape :=
  .record
    [ may (.list permissions) "permissions"
    , may (.list (.word ["balances", "transactions"])) "prefetch", may .text "return_url" ]
where
  permissions : Shape := .word ["balances", "ownership", "payment_method", "transactions"]

def paperMandate : Shape := .record [may (.word ["paper"]) "collection_method"]

def methodOptions : Shape :=
  .record
    [ may acssDebit "acss_debit", may affirm "affirm", may afterpay "afterpay_clearpay"
    , may (.record [may later "setup_future_usage"]) "alipay"
    , may (.record [may anyUse "setup_future_usage"]) "au_becs_debit"
    , may (.record [may anyUse "setup_future_usage"]) "bacs_debit", may bancontact "bancontact"
    , may (.record [may once "setup_future_usage"]) "blik", may boleto "boleto"
    , may cardOptions "card", may cardPresent "card_present", may cashapp "cashapp"
    , may balance "customer_balance", may (.record [may once "setup_future_usage"]) "eps"
    , may (.record [may once "setup_future_usage"]) "fpx"
    , may (.record [may once "setup_future_usage"]) "giropay"
    , may (.record [may once "setup_future_usage"]) "grabpay"
    , may (.record [may later "setup_future_usage"]) "ideal", may empty "interac_present"
    , may klarna "klarna", may konbini "konbini", may link "link", may oxxo "oxxo"
    , may (.record [may once "setup_future_usage"]) "p24"
    , may (.record [may once "setup_future_usage"]) "paynow", may paypal "paypal", may pix "pix"
    , may (.record [may once "setup_future_usage"]) "promptpay"
    , may (.record [may later "setup_future_usage"]) "revolut_pay", may sepaDebit "sepa_debit"
    , may sofort "sofort", may swish "swish", may bankAccount "us_bank_account"
    , may wechat "wechat_pay", may (.record [may once "setup_future_usage"]) "zip" ]
where
  acssDebit : Shape :=
    .record
      [ may debitMandate "mandate_options", may anyUse "setup_future_usage"
      , may verification "verification_method" ]
  affirm : Shape :=
    .record
      [ may byHand "capture_method", may .text "preferred_locale", may once "setup_future_usage" ]
  afterpay : Shape :=
    .record [may byHand "capture_method", may .text "reference", may once "setup_future_usage"]
  bancontact : Shape :=
    .record
      [ need (.word ["de", "en", "fr", "nl"]) "preferred_language"
      , may later "setup_future_usage" ]
  boleto : Shape := .record [need (.nat 32) "expires_after_days", may anyUse "setup_future_usage"]
  cardPresent : Shape :=
    .record
      [ may .bool "request_extended_authorization"
      , may .bool "request_incremental_authorization_support" ]
  cashapp : Shape := .record [may byHand "capture_method", may anyUse "setup_future_usage"]
  balance : Shape :=
    .record
      [ may bankTransferOptions "bank_transfer", may (.word ["bank_transfer"]) "funding_type"
      , may once "setup_future_usage" ]
  klarna : Shape :=
    .record
      [ may byHand "capture_method", may .text "preferred_locale", may once "setup_future_usage" ]
  konbini : Shape :=
    .record
      [ may .text "confirmation_number", may (.nat 32) "expires_after_days"
      , may .int64 "expires_at", may .text "product_description", may once "setup_future_usage" ]
  link : Shape :=
    .record
      [ may byHand "capture_method", may .text "persistent_token", may later "setup_future_usage" ]
  oxxo : Shape := .record [need (.nat 32) "expires_after_days", may once "setup_future_usage"]
  paypal : Shape :=
    .record
      [ may byHand "capture_method", may .text "preferred_locale", may .text "reference"
      , may later "setup_future_usage" ]
  pix : Shape :=
    .record
      [ may .int64 "expires_after_seconds", may .int64 "expires_at"
      , may once "setup_future_usage" ]
  sepaDebit : Shape := .record [may empty "mandate_options", may anyUse "setup_future_usage"]
  sofort : Shape :=
    .record
      [ may (.word ["de", "en", "es", "fr", "it", "nl", "pl"]) "preferred_language"
      , may later "setup_future_usage" ]
  swish : Shape := .record [may .text "reference", may once "setup_future_usage"]
  bankAccount : Shape :=
    .record
      [ may connection "financial_connections", may paperMandate "mandate_options"
      , may (.word ["fastest", "standard"]) "preferred_settlement_speed"
      , may anyUse "setup_future_usage", may verification "verification_method" ]
  wechat : Shape :=
    .record
      [ may .text "app_id", may (.word ["android", "ios", "web"]) "client"
      , may once "setup_future_usage" ]

def setupOptions : Shape :=
  .record
    [ may acssDebit "acss_debit", may card "card", may (texts ["persistent_token"]) "link"
    , may (texts ["billing_agreement_id"]) "paypal"
    , may (.record [may empty "mandate_options"]) "sepa_debit", may bankAccount "us_bank_account" ]
where
  mandate : Shape :=
    .record
      [ may .text "custom_mandate_url"
      , may (.list (.word ["invoice", "subscription"])) "default_for"
      , may .text "interval_description", may paymentSchedule "payment_schedule"
      , may transactionType "transaction_type" ]
  acssDebit : Shape :=
    .record
      [ may (.word ["cad", "usd"]) "currency", may mandate "mandate_options"
      , may verification "verification_method" ]
  card : Shape :=
    .record
      [ may setupCardMandate "mandate_options", may cardNetwork "network"
      , may threeDSecureRequest "request_three_d_secure" ]
  bankAccount : Shape :=
    .record
      [ may connection "financial_connections", may paperMandate "mandate_options"
      , may verification "verification_method" ]

end Payments.Stripe.Shape
