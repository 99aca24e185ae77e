import Payments.Stripe.Object.Paid
import Payments.Stripe.Object.Source

/-!
Charges and what follows them: the movements of the balance, fees, refunds, disputes, transfers,
payouts and reviews.
-/

namespace Payments.Stripe.Shape

def relatedBalance : Shape := related ["txn_"] .balanceTransaction

def relatedApplication : Shape := related ["ca_"] .application

def relatedIntent : Shape := related intentId.starts .paymentIntent

/-- An invoice that is still to come has an empty identifier. -/
def relatedInvoice : Shape := .oneOf [.idOrNone ["in_"], .object .invoice]

def relatedReview : Shape := related ["prv_"] .review

def relatedTransfer : Shape := related ["tr_"] .transfer

def relatedReversal : Shape := related ["trr_"] .transferReversal

def refundStarts : List String := ["re_", "pyr_"]

def relatedRefund : Shape := related refundStarts .refund

def relatedFile : Shape := related ["file_"] .file

def relatedPayout : Shape := related ["po_"] .payout

def disputeStarts : List String := ["dp_", "du_"]

def transferData : Shape := .record [may .int64 "amount", need relatedAccount "destination"]

def rule : Shape := .record [need .text "id", need .text "action", need .text "predicate"]

def outcome : Shape :=
  .record
    [ may .text "network_status", may .text "reason", may .text "risk_level"
    , may .int64 "risk_score", may (.oneOf [.text, rule]) "rule", may .text "seller_message"
    , need .text "type" ]

def level3 : Shape :=
  .record
    [ may .text "customer_reference", need (.list lineItem) "line_items"
    , need .text "merchant_reference", may .text "shipping_address_zip"
    , may .int64 "shipping_amount", may .text "shipping_from_zip" ]
where
  lineItem : Shape :=
    .record
      [ may .int64 "discount_amount", need .text "product_code", need .text "product_description"
      , may (.nat 64) "quantity", may .int64 "tax_amount", may .int64 "unit_cost" ]

def charge : Shape :=
  .record
    [ need (.id chargeId.starts) "id", need .int64 "amount", need .int64 "amount_captured"
    , need .int64 "amount_refunded", may relatedApplication "application"
    , may (related ["fee_"] .applicationFee) "application_fee"
    , may .int64 "application_fee_amount", may .text "authorization_code"
    , may relatedBalance "balance_transaction", need billingDetails "billing_details"
    , may .text "calculated_statement_descriptor", need .bool "captured", need .int64 "created"
    , need currency "currency", may relatedCustomer "customer", may .text "description"
    , need .bool "disputed", may relatedBalance "failure_balance_transaction"
    , may .text "failure_code", may .text "failure_message", may fraud "fraud_details"
    , may relatedInvoice "invoice", may level3 "level3", need .bool "livemode"
    , need metadata "metadata", may relatedAccount "on_behalf_of", may outcome "outcome"
    , need .bool "paid", may relatedIntent "payment_intent", may .text "payment_method"
    , may charged "payment_method_details", may radarOptions "radar_options"
    , may .text "receipt_email", may .text "receipt_number", may .text "receipt_url"
    , need .bool "refunded", may (page (.object .refund)) "refunds", may relatedReview "review"
    , may shipping "shipping", may (.object .paymentSource) "source"
    , may relatedTransfer "source_transfer", may .text "statement_descriptor"
    , may .text "statement_descriptor_suffix"
    , need (.word ["failed", "pending", "succeeded"]) "status", may relatedTransfer "transfer"
    , may transferData "transfer_data", may .text "transfer_group" ]
where
  fraud : Shape :=
    .record
      [ may (.word ["fraudulent", "safe"]) "stripe_report"
      , may (.word ["fraudulent", "safe"]) "user_report" ]

def balanceTypes : List String :=
  ["adjustment", "advance", "advance_funding", "anticipation_repayment", "application_fee",
   "application_fee_refund", "charge", "climate_order_purchase", "climate_order_refund",
   "connect_collection_transfer", "contribution", "issuing_authorization_hold",
   "issuing_authorization_release", "issuing_dispute", "issuing_transaction", "obligation_outbound",
   "obligation_reversal_inbound", "payment", "payment_failure_refund",
   "payment_network_reserve_hold", "payment_network_reserve_release", "payment_refund",
   "payment_reversal", "payment_unreconciled", "payout", "payout_cancel", "payout_failure",
   "refund", "refund_failure", "reserve_transaction", "reserved_funds", "stripe_fee",
   "stripe_fx_fee", "tax_fee", "topup", "topup_reversal", "transfer", "transfer_cancel",
   "transfer_failure", "transfer_refund"]

def balanceSource : Shape :=
  .oneOf
    [ .id
        (["connct_", "fee_", "fr_", "iauth_", "idp_", "ipi_", "po_", "tr_", "trr_", "tu_"] ++
          chargeId.starts ++ disputeStarts ++ refundStarts)
    , .object .applicationFee, .object .charge, collectionTransfer, .object .feeRefund
    , .object .dispute, .object .payout, taxFee, .object .refund, reserve, taxDeducted
    , .object .topup, .object .transfer, .object .transferReversal ]
where
  collectionTransfer : Shape :=
    .record
      [ need .text "id", need .int64 "amount", need currency "currency"
      , need relatedAccount "destination", need .bool "livemode" ]
  taxFee : Shape :=
    .record (["id", "account", "source_transaction", "type"].map (need .text))
  reserve : Shape :=
    .record
      [need .text "id", need .int64 "amount", need currency "currency", may .text "description"]
  taxDeducted : Shape :=
    .record
      [ need .text "id", need .int64 "period_end", need .int64 "period_start"
      , need .text "tax_deduction_account_number" ]

def balanceTransaction : Shape :=
  .record
    [ need (.id ["txn_"]) "id", need .int64 "amount", need .int64 "available_on"
    , need .int64 "created", need currency "currency", may .text "description"
    , may .real "exchange_rate", need .int64 "fee", need (.list fee) "fee_details"
    , need .int64 "net", need .text "reporting_category", may balanceSource "source"
    , need (.word ["available", "pending"]) "status", need (.word balanceTypes) "type" ]
where
  fee : Shape :=
    .record
      [ need .int64 "amount", may .text "application", need currency "currency"
      , may .text "description", need (.word ["application_fee", "stripe_fee", "tax"]) "type" ]

def applicationFee : Shape :=
  .record
    [ need (.id ["fee_"]) "id", need relatedAccount "account", need .int64 "amount"
    , need .int64 "amount_refunded", need relatedApplication "application"
    , may relatedBalance "balance_transaction", need relatedCharge "charge"
    , need .int64 "created", need currency "currency", need .bool "livemode"
    , may relatedCharge "originating_transaction", need .bool "refunded"
    , need (page (.object .feeRefund)) "refunds" ]

def feeRefund : Shape :=
  .record
    [ need (.id ["fr_"]) "id", need .int64 "amount", may relatedBalance "balance_transaction"
    , need .int64 "created", need currency "currency"
    , need (related ["fee_"] .applicationFee) "fee", may metadata "metadata" ]

def refund : Shape :=
  .record
    [ need (.id refundStarts) "id", need .int64 "amount"
    , may relatedBalance "balance_transaction", may relatedCharge "charge", need .int64 "created"
    , need currency "currency", may .text "description"
    , may relatedBalance "failure_balance_transaction", may .text "failure_reason"
    , may .text "instructions_email", may metadata "metadata", may nextStep "next_action"
    , may relatedIntent "payment_intent", may reason "reason", may .text "receipt_number"
    , may relatedReversal "source_transfer_reversal", may .text "status"
    , may relatedReversal "transfer_reversal" ]
where
  emailSent : Shape := .record [need .int64 "email_sent_at", need .text "email_sent_to"]
  display : Shape := .record [need emailSent "email_sent", need .int64 "expires_at"]
  nextStep : Shape := .record [may display "display_details", need .text "type"]
  reason : Shape :=
    .word
      ["duplicate", "expired_uncaptured_charge", "fraudulent", "requested_by_customer"]

def disputeEvidence : Shape :=
  .record
    [ may .text "access_activity_log", may .text "billing_address"
    , may relatedFile "cancellation_policy", may .text "cancellation_policy_disclosure"
    , may .text "cancellation_rebuttal", may relatedFile "customer_communication"
    , may .text "customer_email_address", may .text "customer_name"
    , may .text "customer_purchase_ip", may relatedFile "customer_signature"
    , may relatedFile "duplicate_charge_documentation", may .text "duplicate_charge_explanation"
    , may .text "duplicate_charge_id", may .text "product_description", may relatedFile "receipt"
    , may relatedFile "refund_policy", may .text "refund_policy_disclosure"
    , may .text "refund_refusal_explanation", may .text "service_date"
    , may relatedFile "service_documentation", may .text "shipping_address"
    , may .text "shipping_carrier", may .text "shipping_date"
    , may relatedFile "shipping_documentation", may .text "shipping_tracking_number"
    , may relatedFile "uncategorized_file", may .text "uncategorized_text" ]

def dispute : Shape :=
  .record
    [ need (.id disputeStarts) "id", need .int64 "amount"
    , need (.list (.object .balanceTransaction)) "balance_transactions"
    , need relatedCharge "charge", need .int64 "created", need currency "currency"
    , need disputeEvidence "evidence", need details "evidence_details"
    , need .bool "is_charge_refundable", need .bool "livemode", need metadata "metadata"
    , may .text "network_reason_code", may relatedIntent "payment_intent"
    , may method "payment_method_details", need .text "reason", need status "status" ]
where
  details : Shape :=
    .record
      [ may .int64 "due_by", need .bool "has_evidence", need .bool "past_due"
      , need (.nat 64) "submission_count" ]
  card : Shape := .record [need .text "brand", may .text "network_reason_code"]
  method : Shape := .record [may card "card", need (.word ["card"]) "type"]
  status : Shape :=
    .word
      ["lost", "needs_response", "under_review", "warning_closed", "warning_needs_response",
       "warning_under_review", "won"]

def transfer : Shape :=
  .record
    [ need (.id ["tr_"]) "id", need .int64 "amount", need .int64 "amount_reversed"
    , may relatedBalance "balance_transaction", need .int64 "created", need currency "currency"
    , may .text "description", may relatedAccount "destination"
    , may relatedCharge "destination_payment", need .bool "livemode", need metadata "metadata"
    , need (page (.object .transferReversal)) "reversals", need .bool "reversed"
    , may relatedCharge "source_transaction", may .text "source_type", may .text "transfer_group" ]

def transferReversal : Shape :=
  .record
    [ need (.id ["trr_"]) "id", need .int64 "amount", may relatedBalance "balance_transaction"
    , need .int64 "created", need currency "currency"
    , may relatedRefund "destination_payment_refund", may metadata "metadata"
    , may relatedRefund "source_refund", need relatedTransfer "transfer" ]

def destination : Shape :=
  .oneOf [.id ["ba_", "card_"], .object .bankAccount, .object .card]

def payout : Shape :=
  .record
    [ need (.id ["po_"]) "id", need .int64 "amount", need .int64 "arrival_date"
    , need .bool "automatic", may relatedBalance "balance_transaction", need .int64 "created"
    , need currency "currency", may .text "description", may destination "destination"
    , may relatedBalance "failure_balance_transaction", may .text "failure_code"
    , may .text "failure_message", need .bool "livemode", may metadata "metadata"
    , need .text "method", may relatedPayout "original_payout"
    , need (.word ["completed", "in_progress", "not_applicable"]) "reconciliation_status"
    , may relatedPayout "reversed_by", need .text "source_type", may .text "statement_descriptor"
    , need .text "status", need (.word ["bank_account", "card"]) "type" ]

def topup : Shape :=
  .record
    [ need (.id ["tu_"]) "id", need .int64 "amount", may relatedBalance "balance_transaction"
    , need .int64 "created", need currency "currency", may .text "description"
    , may .int64 "expected_availability_date", may .text "failure_code"
    , may .text "failure_message", need .bool "livemode", need metadata "metadata"
    , may (.object .source) "source", may .text "statement_descriptor"
    , need (.word ["canceled", "failed", "pending", "reversed", "succeeded"]) "status"
    , may .text "transfer_group" ]

def file : Shape :=
  .record
    [ need (.id ["file_"]) "id", need .int64 "created", may .int64 "expires_at"
    , may .text "filename", may (page (.object .fileLink)) "links", need purpose "purpose"
    , need (.nat 64) "size", may .text "title", may .text "type", may .text "url" ]
where
  purpose : Shape :=
    .word
      ["account_requirement", "additional_verification", "business_icon", "business_logo",
       "customer_signature", "dispute_evidence", "document_provider_identity_document",
       "finance_report_run", "identity_document", "identity_document_downloadable", "pci_document",
       "selfie", "sigma_scheduled_query", "tax_document_user_upload",
       "terminal_reader_splashscreen"]

def fileLink : Shape :=
  .record
    [ need (.id ["link_"]) "id", need .int64 "created", need .bool "expired"
    , may .int64 "expires_at", need relatedFile "file", need .bool "livemode"
    , need metadata "metadata", may .text "url" ]

def review : Shape :=
  .record
    [ need (.id ["prv_"]) "id", may .text "billing_zip", may relatedCharge "charge"
    , may closedReason "closed_reason", need .int64 "created", may .text "ip_address"
    , may location "ip_address_location", need .bool "livemode", need .bool "open"
    , need (.word ["manual", "rule"]) "opened_reason", may relatedIntent "payment_intent"
    , need reason "reason", may (texts ["browser", "device", "platform", "version"]) "session" ]
where
  closedReason : Shape :=
    .word
      ["approved", "disputed", "redacted", "refunded", "refunded_as_fraud"]
  location : Shape :=
    .record
      [ may .text "city", may .text "country", may .real "latitude", may .real "longitude"
      , may .text "region" ]
  reason : Shape :=
    .word
      ["approved", "disputed", "manual", "redacted", "refunded", "refunded_as_fraud", "rule"]

end Payments.Stripe.Shape
