import Payments.Stripe.Object.Subscription

/-!
Invoices, which stand for the payments of subscriptions and for single ones, with their lines. An
invoice that is still to come has no identifier yet.
-/

namespace Payments.Stripe.Shape

def billingReasons : List String :=
  ["automatic_pending_invoice_item_invoice", "manual", "quote_accept", "subscription",
   "subscription_create", "subscription_cycle", "subscription_threshold", "subscription_update",
   "upcoming"]

def period : Shape := .record [need .int64 "end", need .int64 "start"]

def invoicePayment : Shape :=
  .record
    [ may .text "default_mandate", may options "payment_method_options"
    , may (.list (.word invoiceMethodTypes)) "payment_method_types" ]
where
  bancontact : Shape := .record [need (.word ["de", "en", "fr", "nl"]) "preferred_language"]
  card : Shape :=
    .record
      [ may (.record [may .bool "enabled"]) "installments"
      , may threeDSecureRequest "request_three_d_secure" ]
  options : Shape :=
    .record
      [ may invoiceDebit "acss_debit", may bancontact "bancontact", may card "card"
      , may invoiceTransfer "customer_balance", may empty "konbini"
      , may invoiceBankAccount "us_bank_account" ]

def invoiceItem : Shape :=
  .record
    [ need (.id ["ii_"]) "id", may .int64 "amount", may currency "currency"
    , may relatedCustomer "customer", may .int64 "date", usual .bool "deleted"
    , may .text "description", may .bool "discountable", may (.list relatedDiscount) "discounts"
    , may relatedInvoice "invoice", may .bool "livemode", may metadata "metadata"
    , may period "period", may (.object .plan) "plan", may (.object .price) "price"
    , may .bool "proration", may (.nat 64) "quantity", may relatedSubscription "subscription"
    , may .text "subscription_item", may (.list taxRate) "tax_rates"
    , may relatedTestClock "test_clock", may .int64 "unit_amount"
    , may .text "unit_amount_decimal" ]

def invoiceLine : Shape :=
  .record
    [ need (.id ["ii_", "il_", "sli_"]) "id", need .int64 "amount"
    , may .int64 "amount_excluding_tax", need currency "currency", may .text "description"
    , may (.list discountAmount) "discount_amounts", need .bool "discountable"
    , may (.list relatedDiscount) "discounts", may (related ["ii_"] .invoiceItem) "invoice_item"
    , need .bool "livemode", need metadata "metadata", may period "period"
    , may (.object .plan) "plan", may (.object .price) "price", need .bool "proration"
    , may prorationDetails "proration_details", may (.nat 64) "quantity"
    , may relatedSubscription "subscription"
    , may (.oneOf [.id ["si_"], subscriptionItem]) "subscription_item"
    , may (.list taxAmount) "tax_amounts", may (.list taxRate) "tax_rates"
    , need (.word ["invoiceitem", "subscription"]) "type", may .text "unit_amount_excluding_tax" ]
where
  credited : Shape := .record [need .text "invoice", need (.list .text) "invoice_line_items"]
  prorationDetails : Shape := .record [may credited "credited_items"]

def invoice : Shape :=
  .record
    [ usual (.idOrNone ["in_"]) "id", may .text "account_country", may .text "account_name"
    , may (.list relatedTaxId) "account_tax_ids", may .int64 "amount_due"
    , may .int64 "amount_paid", may .int64 "amount_remaining", may .int64 "amount_shipping"
    , may relatedApplication "application", may .int64 "application_fee_amount"
    , may (.nat 64) "attempt_count", may .bool "attempted", may .bool "auto_advance"
    , may automaticTax "automatic_tax", may (.word billingReasons) "billing_reason"
    , may relatedCharge "charge", may collection "collection_method", may .int64 "created"
    , may currency "currency", may customFields "custom_fields", may relatedCustomer "customer"
    , may address "customer_address", may .text "customer_email", may .text "customer_name"
    , may .text "customer_phone", may shipping "customer_shipping"
    , may taxExempt "customer_tax_exempt", may (.list customerTaxId) "customer_tax_ids"
    , may relatedMethod "default_payment_method", may relatedSource "default_source"
    , may (.list taxRate) "default_tax_rates", usual .bool "deleted", may .text "description"
    , may (.object .discount) "discount", may (.list relatedDiscount) "discounts"
    , may .int64 "due_date", may .int64 "effective_at", may .int64 "ending_balance"
    , may .text "footer", may earlier "from_invoice", may .text "hosted_invoice_url"
    , may .text "invoice_pdf", may selfOrAccount "issuer"
    , may (.object .paymentError) "last_finalization_error", may relatedInvoice "latest_revision"
    , may (page invoiceLine) "lines", may .bool "livemode", may metadata "metadata"
    , may .int64 "next_payment_attempt", may .text "number", may relatedAccount "on_behalf_of"
    , may .bool "paid", may .bool "paid_out_of_band", may relatedIntent "payment_intent"
    , may invoicePayment "payment_settings", may .int64 "period_end", may .int64 "period_start"
    , may .int64 "post_payment_credit_notes_amount", may .int64 "pre_payment_credit_notes_amount"
    , may (related ["qt_"] .quote) "quote", may .text "receipt_number", may rendering "rendering"
    , may (texts ["amount_tax_display"]) "rendering_options", may shippingCost "shipping_cost"
    , may shipping "shipping_details", may .int64 "starting_balance"
    , may .text "statement_descriptor"
    , may (.word ["draft", "open", "paid", "uncollectible", "void"]) "status"
    , may transitions "status_transitions", may relatedSubscription "subscription"
    , may (.record [may metadata "metadata"]) "subscription_details"
    , may .int64 "subscription_proration_date", may .int64 "subtotal"
    , may .int64 "subtotal_excluding_tax", may .int64 "tax", may relatedTestClock "test_clock"
    , may threshold "threshold_reason", may .int64 "total"
    , may (.list discountAmount) "total_discount_amounts", may .int64 "total_excluding_tax"
    , may (.list taxAmount) "total_tax_amounts", may transferData "transfer_data"
    , may .int64 "webhooks_delivered_at" ]
where
  automaticTax : Shape :=
    .record
      [ need .bool "enabled", may selfOrAccount "liability"
      , may (.word ["complete", "failed", "requires_location_inputs"]) "status" ]
  customerTaxId : Shape := .record [need (.word taxIdTypes) "type", may .text "value"]
  earlier : Shape := .record [need .text "action", need relatedInvoice "invoice"]
  rendering : Shape :=
    .record
      [ may .text "amount_tax_display"
      , may (.record [may (.word ["a4", "auto", "letter"]) "page_size"]) "pdf" ]
  shippingCost : Shape :=
    .record
      [ need .int64 "amount_subtotal", need .int64 "amount_tax", need .int64 "amount_total"
      , may (.oneOf [.id ["shr_"], shippingRate]) "shipping_rate", may (.list lineTax) "taxes" ]
  transitions : Shape :=
    .record
      [ may .int64 "finalized_at", may .int64 "marked_uncollectible_at", may .int64 "paid_at"
      , may .int64 "voided_at" ]
  itemThreshold : Shape := .record [need (.list .text) "line_item_ids", need .int64 "usage_gte"]
  threshold : Shape := .record [may .int64 "amount_gte", need (.list itemThreshold) "item_reasons"]

end Payments.Stripe.Shape
