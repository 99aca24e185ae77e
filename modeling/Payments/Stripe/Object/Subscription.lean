import Payments.Stripe.Object.Customer

/-!
Subscriptions: what is billed again and again, how it is to be paid, and the schedules and quotes
that subscriptions come from.
-/

namespace Payments.Stripe.Shape

def relatedSubscription : Shape := related ["sub_"] .subscription

def relatedSchedule : Shape := related ["sub_sched_"] .schedule

def collection : Shape := .word ["charge_automatically", "send_invoice"]

def cardNetwork : Shape :=
  .word
    ["amex", "cartes_bancaires", "diners", "discover", "eftpos_au", "interac", "jcb", "mastercard",
     "unionpay", "unknown", "visa"]

def verification : Shape := .word ["automatic", "instant", "microdeposits"]

def threeDSecureRequest : Shape := .word ["any", "automatic", "challenge"]

def invoiceDebit : Shape :=
  .record [may mandateOptions "mandate_options", may verification "verification_method"]
where
  mandateOptions : Shape := .record [may (.word ["business", "personal"]) "transaction_type"]

def euCountry : Shape := .word ["BE", "DE", "ES", "FR", "IE", "NL"]

def invoiceTransfer : Shape :=
  .record [may transfer "bank_transfer", may (.word ["bank_transfer"]) "funding_type"]
where
  transfer : Shape :=
    .record [may (.record [need euCountry "country"]) "eu_bank_transfer", may .text "type"]

def invoiceBankAccount : Shape :=
  .record [may connection "financial_connections", may verification "verification_method"]
where
  permissions : Shape := .word ["balances", "ownership", "payment_method", "transactions"]
  connection : Shape :=
    .record
      [ may (.list permissions) "permissions"
      , may (.list (.word ["balances", "transactions"])) "prefetch" ]

def invoiceMethodTypes : List String :=
  ["ach_credit_transfer", "ach_debit", "acss_debit", "au_becs_debit", "bacs_debit", "bancontact",
   "boleto", "card", "cashapp", "customer_balance", "eps", "fpx", "giropay", "grabpay", "ideal",
   "konbini", "link", "p24", "paynow", "paypal", "promptpay", "sepa_debit", "sofort",
   "us_bank_account", "wechat_pay"]

def subscriptionPayment : Shape :=
  .record
    [ may options "payment_method_options"
    , may (.list (.word invoiceMethodTypes)) "payment_method_types"
    , may (.word ["off", "on_subscription"]) "save_default_payment_method" ]
where
  bancontact : Shape := .record [need (.word ["de", "en", "fr", "nl"]) "preferred_language"]
  mandate : Shape :=
    .record
      [ may .int64 "amount", may (.word ["fixed", "maximum"]) "amount_type"
      , may .text "description" ]
  card : Shape :=
    .record
      [ may mandate "mandate_options", may cardNetwork "network"
      , may threeDSecureRequest "request_three_d_secure" ]
  options : Shape :=
    .record
      [ may invoiceDebit "acss_debit", may bancontact "bancontact", may card "card"
      , may invoiceTransfer "customer_balance", may empty "konbini"
      , may invoiceBankAccount "us_bank_account" ]

def billingThresholds : Shape :=
  .record [may .int64 "amount_gte", may .bool "reset_billing_cycle_anchor"]

def itemThresholds : Shape := .record [may .int64 "usage_gte"]

def subscriptionItem : Shape :=
  .record
    [ need (.id ["si_"]) "id", may itemThresholds "billing_thresholds", may .int64 "created"
    , usual .bool "deleted", may metadata "metadata", may (.object .plan) "plan"
    , may (.object .price) "price", may (.nat 64) "quantity", may .text "subscription"
    , may (.list taxRate) "tax_rates" ]

def sharedData : Shape := .record [may .real "amount_percent", need relatedAccount "destination"]

def taxed : Shape := .record [need .bool "enabled", may selfOrAccount "liability"]

def subscription : Shape :=
  .record
    [ need (.id ["sub_"]) "id", may relatedApplication "application"
    , may .real "application_fee_percent", need taxed "automatic_tax"
    , need .int64 "billing_cycle_anchor", may anchor "billing_cycle_anchor_config"
    , may billingThresholds "billing_thresholds", may .int64 "cancel_at"
    , need .bool "cancel_at_period_end", may .int64 "canceled_at"
    , may cancellation "cancellation_details", may collection "collection_method"
    , need .int64 "created", need currency "currency", need .int64 "current_period_end"
    , need .int64 "current_period_start", need relatedCustomer "customer"
    , may (.nat 32) "days_until_due", may relatedMethod "default_payment_method"
    , may relatedSource "default_source", may (.list taxRate) "default_tax_rates"
    , may .text "description", may (.object .discount) "discount", may .int64 "ended_at"
    , need (page subscriptionItem) "items", may relatedInvoice "latest_invoice"
    , need .bool "livemode", need metadata "metadata"
    , may .int64 "next_pending_invoice_item_invoice", may relatedAccount "on_behalf_of"
    , may pause "pause_collection", may subscriptionPayment "payment_settings"
    , may itemInterval "pending_invoice_item_interval"
    , may (related ["seti_"] .setupIntent) "pending_setup_intent", may pending "pending_update"
    , may relatedSchedule "schedule", need .int64 "start_date", need status "status"
    , may relatedTestClock "test_clock", may sharedData "transfer_data", may .int64 "trial_end"
    , may trial "trial_settings", may .int64 "trial_start" ]
where
  anchor : Shape :=
    .record
      [ need .int64 "day_of_month", may .int64 "hour", may .int64 "minute", may .int64 "month"
      , may .int64 "second" ]
  feedback : Shape :=
    .word
      ["customer_service", "low_quality", "missing_features", "other", "switched_service",
       "too_complex", "too_expensive", "unused"]
  cancellation : Shape :=
    .record
      [ may .text "comment", may feedback "feedback"
      , may (.word ["cancellation_requested", "payment_disputed", "payment_failed"]) "reason" ]
  pause : Shape :=
    .record
      [ need (.word ["keep_as_draft", "mark_uncollectible", "void"]) "behavior"
      , may .int64 "resumes_at" ]
  itemInterval : Shape := .record [need interval "interval", need (.nat 64) "interval_count"]
  pending : Shape :=
    .record
      [ may .int64 "billing_cycle_anchor", need .int64 "expires_at"
      , may (.list subscriptionItem) "subscription_items", may .int64 "trial_end"
      , may .bool "trial_from_plan" ]
  status : Shape :=
    .word
      ["active", "canceled", "incomplete", "incomplete_expired", "past_due", "paused", "trialing",
       "unpaid"]
  endBehavior : Shape :=
    .record [need (.word ["cancel", "create_invoice", "pause"]) "missing_payment_method"]
  trial : Shape := .record [need endBehavior "end_behavior"]

def anchorTime : Shape := .word ["automatic", "phase_start"]

def phase : Shape :=
  .record
    [ need (.list addedItem) "add_invoice_items", may .real "application_fee_percent"
    , may taxed "automatic_tax", may anchorTime "billing_cycle_anchor"
    , may billingThresholds "billing_thresholds", may collection "collection_method"
    , may (.oneOf [.text, .object .coupon]) "coupon", need currency "currency"
    , may relatedMethod "default_payment_method", may (.list taxRate) "default_tax_rates"
    , may .text "description", need .int64 "end_date", may invoiceSettings "invoice_settings"
    , need (.list item) "items", may metadata "metadata", may relatedAccount "on_behalf_of"
    , need (.word ["always_invoice", "create_prorations", "none"]) "proration_behavior"
    , need .int64 "start_date", may sharedData "transfer_data", may .int64 "trial_end" ]
where
  addedItem : Shape :=
    .record [need relatedPrice "price", may (.nat 64) "quantity", may (.list taxRate) "tax_rates"]
  invoiceSettings : Shape :=
    .record
      [ may (.list relatedTaxId) "account_tax_ids", may (.nat 32) "days_until_due"
      , may selfOrAccount "issuer" ]
  item : Shape :=
    .record
      [ may itemThresholds "billing_thresholds", may metadata "metadata"
      , need relatedPrice "price", may (.nat 64) "quantity", may (.list taxRate) "tax_rates" ]

def schedule : Shape :=
  .record
    [ need (.id ["sub_sched_"]) "id", may relatedApplication "application"
    , may .int64 "canceled_at", may .int64 "completed_at", need .int64 "created"
    , may period "current_phase", need relatedCustomer "customer"
    , need defaults "default_settings"
    , need (.word ["cancel", "none", "release", "renew"]) "end_behavior", need .bool "livemode"
    , may metadata "metadata", need (.list phase) "phases", may .int64 "released_at"
    , may .text "released_subscription"
    , need (.word ["active", "canceled", "completed", "not_started", "released"]) "status"
    , may relatedSubscription "subscription", may relatedTestClock "test_clock" ]
where
  period : Shape := .record [need .int64 "end_date", need .int64 "start_date"]
  invoiceSettings : Shape :=
    .record
      [ may (.list relatedTaxId) "account_tax_ids", may (.nat 32) "days_until_due"
      , need selfOrAccount "issuer" ]
  defaults : Shape :=
    .record
      [ may .real "application_fee_percent", may taxed "automatic_tax"
      , need anchorTime "billing_cycle_anchor", may billingThresholds "billing_thresholds"
      , may collection "collection_method", may relatedMethod "default_payment_method"
      , may .text "description", need invoiceSettings "invoice_settings"
      , may relatedAccount "on_behalf_of", may sharedData "transfer_data" ]

def totals : Shape :=
  .record
    [ need .int64 "amount_discount", may .int64 "amount_shipping", need .int64 "amount_tax"
    , may breakdown "breakdown" ]
where
  breakdown : Shape := .record [need (.list lineDiscount) "discounts", need (.list lineTax) "taxes"]

def quote : Shape :=
  .record
    [ need (.id ["qt_"]) "id", need .int64 "amount_subtotal", need .int64 "amount_total"
    , may relatedApplication "application", may .int64 "application_fee_amount"
    , may .real "application_fee_percent", need automaticTax "automatic_tax"
    , need collection "collection_method", need computed "computed", need .int64 "created"
    , may currency "currency", may relatedCustomer "customer"
    , may (.list relatedTaxRate) "default_tax_rates", may .text "description"
    , need (.list relatedDiscount) "discounts", need .int64 "expires_at", may .text "footer"
    , may earlier "from_quote", may .text "header", may relatedInvoice "invoice"
    , need invoiceSettings "invoice_settings", may (page lineItem) "line_items"
    , need .bool "livemode", need metadata "metadata", may .text "number"
    , may relatedAccount "on_behalf_of"
    , need (.word ["accepted", "canceled", "draft", "open"]) "status"
    , need statusTransitions "status_transitions", may relatedSubscription "subscription"
    , need subscriptionData "subscription_data", may relatedSchedule "subscription_schedule"
    , may relatedTestClock "test_clock", need totals "total_details"
    , may transfer "transfer_data" ]
where
  automaticTax : Shape :=
    .record
      [ need .bool "enabled", may selfOrAccount "liability"
      , may (.word ["complete", "failed", "requires_location_inputs"]) "status" ]
  recurring : Shape :=
    .record
      [ need .int64 "amount_subtotal", need .int64 "amount_total", need interval "interval"
      , need (.nat 64) "interval_count", need totals "total_details" ]
  upfront : Shape :=
    .record
      [ need .int64 "amount_subtotal", need .int64 "amount_total"
      , may (page lineItem) "line_items", need totals "total_details" ]
  computed : Shape := .record [may recurring "recurring", need upfront "upfront"]
  earlier : Shape := .record [need .bool "is_revision", need (related ["qt_"] .quote) "quote"]
  invoiceSettings : Shape := .record [may (.nat 32) "days_until_due", need selfOrAccount "issuer"]
  statusTransitions : Shape :=
    .record [may .int64 "accepted_at", may .int64 "canceled_at", may .int64 "finalized_at"]
  subscriptionData : Shape :=
    .record
      [ may .text "description", may .int64 "effective_date", may metadata "metadata"
      , may (.nat 32) "trial_period_days" ]
  transfer : Shape :=
    .record [may .int64 "amount", may .real "amount_percent", need relatedAccount "destination"]

end Payments.Stripe.Shape
