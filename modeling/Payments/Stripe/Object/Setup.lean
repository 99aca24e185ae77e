import Payments.Stripe.Object.NextAction
import Payments.Stripe.Object.Options

/-!
Setups, by which a payment method is made ready for later payments: the intent, the attempts at it,
and the customer's consent.
-/

namespace Payments.Stripe.Shape

def redirects : Shape := .word ["always", "never"]

def directions : Shape := .word ["inbound", "outbound"]

def configuration : Shape := texts ["parent"]

def setupIntent : Shape :=
  .record
    [ need (.id ["seti_"]) "id", may relatedApplication "application", may .bool "attach_to_self"
    , may automatic "automatic_payment_methods"
    , may (.word ["abandoned", "duplicate", "requested_by_customer"]) "cancellation_reason"
    , may .text "client_secret", need .int64 "created", may relatedCustomer "customer"
    , may .text "description", may (.list directions) "flow_directions"
    , may (.object .paymentError) "last_setup_error", may relatedAttempt "latest_attempt"
    , need .bool "livemode", may relatedMandate "mandate", may metadata "metadata"
    , may setupAction "next_action", may relatedAccount "on_behalf_of"
    , may relatedMethod "payment_method"
    , may configuration "payment_method_configuration_details"
    , may setupOptions "payment_method_options", need (.list .text) "payment_method_types"
    , may relatedMandate "single_use_mandate", need status "status", need .text "usage" ]
where
  automatic : Shape := .record [may redirects "allow_redirects", may .bool "enabled"]
  status : Shape :=
    .word
      ["canceled", "processing", "requires_action", "requires_confirmation",
       "requires_payment_method", "succeeded"]

def attemptCard : Shape :=
  .record
    [ may .text "brand", may cardChecks "checks", may .text "country", may .text "description"
    , may .int64 "exp_month", may .int64 "exp_year", may .text "fingerprint", may .text "funding"
    , may .text "iin", may .text "issuer", may .text "last4", may .text "network"
    , may setupThreeDSecure "three_d_secure", may wallet "wallet" ]
where
  wallet : Shape :=
    .record
      [ may empty "apple_pay", may empty "google_pay"
      , need (.word ["apple_pay", "google_pay", "link"]) "type" ]

def attemptSofort : Shape :=
  .record
    [ may .text "bank_code", may .text "bank_name", may .text "bic"
    , may relatedMethod "generated_sepa_debit", may relatedMandate "generated_sepa_debit_mandate"
    , may .text "iban_last4", may (.word ["de", "en", "fr", "nl"]) "preferred_language"
    , may .text "verified_name" ]

def attemptDetails : Shape :=
  .record
    [ may empty "acss_debit", may empty "au_becs_debit", may empty "bacs_debit"
    , may bancontact "bancontact", may empty "boleto", may attemptCard "card"
    , may (.record [may relatedMethod "generated_card"]) "card_present", may empty "cashapp"
    , may ideal "ideal", may empty "klarna", may empty "link", may empty "paypal"
    , may empty "sepa_debit", may attemptSofort "sofort", need .text "type"
    , may empty "us_bank_account" ]

def setupAttempt : Shape :=
  .record
    [ need (.id ["setatt_"]) "id", may relatedApplication "application"
    , may .bool "attach_to_self", need .int64 "created", may relatedCustomer "customer"
    , may (.list directions) "flow_directions", need .bool "livemode"
    , may relatedAccount "on_behalf_of", need relatedMethod "payment_method"
    , need attemptDetails "payment_method_details", may (.object .paymentError) "setup_error"
    , need (related ["seti_"] .setupIntent) "setup_intent", need .text "status"
    , need .text "usage" ]

def mandateDetails : Shape :=
  .record
    [ may acssDebit "acss_debit", may (.record [need .text "url"]) "au_becs_debit"
    , may bacsDebit "bacs_debit", may empty "card", may empty "cashapp", may empty "link"
    , may (texts ["billing_agreement_id", "payer_id"]) "paypal"
    , may (.record [need .text "reference", need .text "url"]) "sepa_debit", need .text "type"
    , may paperMandate "us_bank_account" ]
where
  acssDebit : Shape :=
    .record
      [ may (.list (.word ["invoice", "subscription"])) "default_for"
      , may .text "interval_description", need paymentSchedule "payment_schedule"
      , need transactionType "transaction_type" ]
  revocationReason : Shape :=
    .word
      ["account_closed", "bank_account_restricted", "bank_ownership_changed", "could_not_process",
       "debit_not_authorized"]
  bacsDebit : Shape :=
    .record
      [ need (.word ["accepted", "pending", "refused", "revoked"]) "network_status"
      , need .text "reference", may revocationReason "revocation_reason", need .text "url" ]

def mandate : Shape :=
  .record
    [ need (.id ["mandate_"]) "id", need acceptance "customer_acceptance", need .bool "livemode"
    , may empty "multi_use", may .text "on_behalf_of", need relatedMethod "payment_method"
    , need mandateDetails "payment_method_details", may singleUse "single_use"
    , need (.word ["active", "inactive", "pending"]) "status"
    , need (.word ["multi_use", "single_use"]) "type" ]
where
  acceptance : Shape :=
    .record
      [ may .int64 "accepted_at", may empty "offline"
      , may (texts ["ip_address", "user_agent"]) "online"
      , need (.word ["offline", "online"]) "type" ]
  singleUse : Shape := .record [need .int64 "amount", need currency "currency"]

end Payments.Stripe.Shape
