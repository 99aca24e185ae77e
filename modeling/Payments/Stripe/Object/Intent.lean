import Payments.Stripe.Object.Invoice
import Payments.Stripe.Object.Setup

/-!
Payment intents with all their members, the error that stopped the last attempt at one of them, and
the shape of every kind of object.
-/

namespace Payments.Stripe.Shape

def paymentErrorTypes : List String :=
  ["api_error", "card_error", "idempotency_error", "invalid_request_error"]

def paymentErrorCodes : List String :=
  ["account_closed", "account_country_invalid_address",
   "account_error_country_change_requires_additional_steps", "account_information_mismatch",
   "account_invalid", "account_number_invalid", "acss_debit_session_incomplete",
   "alipay_upgrade_required", "amount_too_large", "amount_too_small", "api_key_expired",
   "application_fees_not_allowed", "authentication_required", "balance_insufficient",
   "balance_invalid_parameter", "bank_account_bad_routing_numbers", "bank_account_declined",
   "bank_account_exists", "bank_account_restricted", "bank_account_unusable",
   "bank_account_unverified", "bank_account_verification_failed", "billing_invalid_mandate",
   "bitcoin_upgrade_required", "capture_charge_authorization_expired",
   "capture_unauthorized_payment", "card_decline_rate_limit_exceeded", "card_declined",
   "cardholder_phone_number_required", "charge_already_captured", "charge_already_refunded",
   "charge_disputed", "charge_exceeds_source_limit", "charge_expired_for_capture",
   "charge_invalid_parameter", "charge_not_refundable", "clearing_code_unsupported",
   "country_code_invalid", "country_unsupported", "coupon_expired", "customer_max_payment_methods",
   "customer_max_subscriptions", "customer_tax_location_invalid", "debit_not_authorized",
   "email_invalid", "expired_card", "financial_connections_account_inactive",
   "financial_connections_no_successful_transaction_refresh", "idempotency_key_in_use",
   "incorrect_address", "incorrect_cvc", "incorrect_number", "incorrect_zip",
   "instant_payouts_config_disabled", "instant_payouts_currency_disabled",
   "instant_payouts_limit_exceeded", "instant_payouts_unsupported", "insufficient_funds",
   "intent_invalid_state", "intent_verification_method_missing", "invalid_card_type",
   "invalid_characters", "invalid_charge_amount", "invalid_cvc", "invalid_expiry_month",
   "invalid_expiry_year", "invalid_number", "invalid_source_usage",
   "invoice_no_customer_line_items", "invoice_no_payment_method_types",
   "invoice_no_subscription_line_items", "invoice_not_editable",
   "invoice_on_behalf_of_not_editable", "invoice_payment_intent_requires_action",
   "invoice_upcoming_none", "livemode_mismatch", "lock_timeout", "missing", "no_account",
   "not_allowed_on_standard_account", "out_of_inventory", "ownership_declaration_not_allowed",
   "parameter_invalid_empty", "parameter_invalid_integer", "parameter_invalid_string_blank",
   "parameter_invalid_string_empty", "parameter_missing", "parameter_unknown",
   "parameters_exclusive", "payment_intent_action_required",
   "payment_intent_authentication_failure", "payment_intent_incompatible_payment_method",
   "payment_intent_invalid_parameter", "payment_intent_konbini_rejected_confirmation_number",
   "payment_intent_mandate_invalid", "payment_intent_payment_attempt_expired",
   "payment_intent_payment_attempt_failed", "payment_intent_unexpected_state",
   "payment_method_bank_account_already_verified", "payment_method_bank_account_blocked",
   "payment_method_billing_details_address_missing", "payment_method_configuration_failures",
   "payment_method_currency_mismatch", "payment_method_customer_decline",
   "payment_method_invalid_parameter", "payment_method_invalid_parameter_testmode",
   "payment_method_microdeposit_failed", "payment_method_microdeposit_verification_amounts_invalid",
   "payment_method_microdeposit_verification_amounts_mismatch",
   "payment_method_microdeposit_verification_attempts_exceeded",
   "payment_method_microdeposit_verification_descriptor_code_mismatch",
   "payment_method_microdeposit_verification_timeout", "payment_method_not_available",
   "payment_method_provider_decline", "payment_method_provider_timeout",
   "payment_method_unactivated", "payment_method_unexpected_state",
   "payment_method_unsupported_type", "payout_reconciliation_not_ready", "payouts_limit_exceeded",
   "payouts_not_allowed", "platform_account_required", "platform_api_key_expired",
   "postal_code_invalid", "processing_error", "product_inactive",
   "progressive_onboarding_limit_exceeded", "rate_limit", "refer_to_customer",
   "refund_disputed_payment", "resource_already_exists", "resource_missing",
   "return_intent_already_processed", "routing_number_invalid", "secret_key_required",
   "sepa_unsupported_account", "setup_attempt_failed", "setup_intent_authentication_failure",
   "setup_intent_invalid_parameter", "setup_intent_mandate_invalid",
   "setup_intent_setup_attempt_expired", "setup_intent_unexpected_state",
   "shipping_calculation_failed", "sku_inactive", "state_unsupported", "status_transition_invalid",
   "stripe_tax_inactive", "tax_id_invalid", "taxes_calculation_failed",
   "terminal_location_country_unsupported", "terminal_reader_busy",
   "terminal_reader_hardware_fault", "terminal_reader_offline", "terminal_reader_timeout",
   "testmode_charges_only", "tls_version_unsupported", "token_already_used",
   "token_card_network_invalid", "token_in_use", "transfer_source_balance_parameters_mismatch",
   "transfers_not_allowed", "url_invalid"]

def paymentError : Shape :=
  .record
    [ may .text "charge", may (.word paymentErrorCodes) "code", may .text "decline_code"
    , may .text "doc_url", may .text "message", may .text "param"
    , may (.object .paymentIntent) "payment_intent"
    , may (.object .paymentMethod) "payment_method", may .text "payment_method_type"
    , may .text "request_log_url", may (.object .setupIntent) "setup_intent"
    , may (.object .paymentSource) "source", need (.word paymentErrorTypes) "type" ]

def processing : Shape :=
  .record [may card "card", need (.word ["card"]) "type"]
where
  notification : Shape := .record [may .bool "approval_requested", may .int64 "completes_at"]
  card : Shape := .record [may notification "customer_notification"]

def paymentIntent : Shape :=
  .record
    [ need (.id intentId.starts) "id", need .int64 "amount", need .int64 "amount_capturable"
    , may details "amount_details", need .int64 "amount_received"
    , may relatedApplication "application", may .int64 "application_fee_amount"
    , may automatic "automatic_payment_methods", may .int64 "canceled_at"
    , may cancellationReason "cancellation_reason"
    , need (.word ["automatic", "automatic_async", "manual"]) "capture_method"
    , may .text "client_secret", need (.word ["automatic", "manual"]) "confirmation_method"
    , need .int64 "created", need currency "currency", may relatedCustomer "customer"
    , may .text "description", may relatedInvoice "invoice"
    , may (.object .paymentError) "last_payment_error", may relatedCharge "latest_charge"
    , need .bool "livemode", need metadata "metadata", may nextAction "next_action"
    , may relatedAccount "on_behalf_of", may relatedMethod "payment_method"
    , may configuration "payment_method_configuration_details"
    , may methodOptions "payment_method_options", need (.list .text) "payment_method_types"
    , may processing "processing", may .text "receipt_email", may relatedReview "review"
    , may (.word ["off_session", "on_session"]) "setup_future_usage", may shipping "shipping"
    , may relatedSource "source", may .text "statement_descriptor"
    , may .text "statement_descriptor_suffix", need (.word intentStatusWords) "status"
    , may transferData "transfer_data", may .text "transfer_group" ]
where
  details : Shape := .record [may (.record [may .int64 "amount"]) "tip"]
  automatic : Shape := .record [may redirects "allow_redirects", need .bool "enabled"]
  cancellationReason : Shape :=
    .word
      ["abandoned", "automatic", "duplicate", "failed_invoice", "fraudulent",
       "requested_by_customer", "void_invoice"]

def ofKind : ObjectKind → Shape
  | .account => account
  | .application => application
  | .applicationFee => applicationFee
  | .balanceTransaction => balanceTransaction
  | .bankAccount => bankAccount
  | .card => cardSource
  | .charge => charge
  | .coupon => coupon
  | .customer => customer
  | .discount => discount
  | .dispute => dispute
  | .feeRefund => feeRefund
  | .file => file
  | .fileLink => fileLink
  | .invoice => invoice
  | .invoiceItem => invoiceItem
  | .mandate => mandate
  | .paymentError => paymentError
  | .paymentIntent => paymentIntent
  | .paymentMethod => paymentMethod
  | .paymentSource => paymentSource
  | .payout => payout
  | .plan => plan
  | .price => price
  | .product => product
  | .promotionCode => promotionCode
  | .quote => quote
  | .refund => refund
  | .review => review
  | .schedule => schedule
  | .setupAttempt => setupAttempt
  | .setupIntent => setupIntent
  | .source => source
  | .subscription => subscription
  | .taxId => taxId
  | .testClock => testClock
  | .topup => topup
  | .transfer => transfer
  | .transferReversal => transferReversal

/-- Values that were read are nested less than 128 deep, and a few shapes lead from one level to the
next. -/
def fits (shape : Shape) (value : Json) : Bool := shape.fitsWithin ofKind 1024 false value

end Payments.Stripe.Shape
