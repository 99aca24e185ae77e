import Payments.Stripe.Object.Charge

/-!
Accounts that are paid: the business, the people behind it, what is still to be told about them, and
the settings. An object that may have been deleted has hardly a member that must be there.
-/

namespace Payments.Stripe.Shape

def application : Shape :=
  .record [need (.id ["ca_"]) "id", usual .bool "deleted", may .text "name"]

def relatedTaxId : Shape := related ["txi_", "atxi_"] .taxId

def alternative : Shape :=
  .record [need (.list .text) "alternative_fields_due", need (.list .text) "original_fields_due"]

def businessProfile : Shape :=
  .record
    [ may revenue "annual_revenue", may (.nat 64) "estimated_worker_count", may .text "mcc"
    , may monthlyRevenue "monthly_estimated_revenue", may .text "name"
    , may .text "product_description", may address "support_address", may .text "support_email"
    , may .text "support_phone", may .text "support_url", may .text "url" ]
where
  revenue : Shape :=
    .record [may .int64 "amount", may currency "currency", may .text "fiscal_year_end"]
  monthlyRevenue : Shape := .record [need .int64 "amount", need currency "currency"]

def capability : Shape := .word ["active", "inactive", "pending"]

def capabilities : Shape :=
  .record
    [ may capability "acss_debit_payments", may capability "affirm_payments"
    , may capability "afterpay_clearpay_payments", may capability "au_becs_debit_payments"
    , may capability "bacs_debit_payments", may capability "bancontact_payments"
    , may capability "bank_transfer_payments", may capability "blik_payments"
    , may capability "boleto_payments", may capability "card_issuing"
    , may capability "card_payments", may capability "cartes_bancaires_payments"
    , may capability "cashapp_payments", may capability "eps_payments"
    , may capability "fpx_payments", may capability "giropay_payments"
    , may capability "grabpay_payments", may capability "ideal_payments"
    , may capability "india_international_payments", may capability "jcb_payments"
    , may capability "klarna_payments", may capability "konbini_payments"
    , may capability "legacy_payments", may capability "link_payments"
    , may capability "oxxo_payments", may capability "p24_payments"
    , may capability "paynow_payments", may capability "promptpay_payments"
    , may capability "revolut_pay_payments", may capability "sepa_debit_payments"
    , may capability "sofort_payments", may capability "swish_payments"
    , may capability "tax_reporting_us_1099_k", may capability "tax_reporting_us_1099_misc"
    , may capability "transfers", may capability "treasury"
    , may capability "us_bank_account_ach_payments", may capability "zip_payments" ]

def document : Shape :=
  .record
    [ may relatedFile "back", may .text "details", may .text "details_code"
    , may relatedFile "front" ]

def company : Shape :=
  .record
    [ may address "address", may address "address_kana", may address "address_kanji"
    , may .bool "directors_provided", may .bool "executives_provided"
    , may .text "export_license_id", may .text "export_purpose_code", may .text "name"
    , may .text "name_kana", may .text "name_kanji", may .bool "owners_provided"
    , may consent "ownership_declaration", may .text "phone", may legalForm "structure"
    , may .bool "tax_id_provided", may .text "tax_id_registrar", may .bool "vat_id_provided"
    , may (.record [need document "document"]) "verification" ]
where
  legalForm : Shape :=
    .word
      ["free_zone_establishment", "free_zone_llc", "government_instrumentality",
       "governmental_unit", "incorporated_non_profit", "incorporated_partnership",
       "limited_liability_partnership", "llc", "multi_member_llc", "private_company",
       "private_corporation", "private_partnership", "public_company", "public_corporation",
       "public_partnership", "registered_charity", "single_member_llc", "sole_establishment",
       "sole_proprietorship", "tax_exempt_government_instrumentality", "unincorporated_association",
       "unincorporated_non_profit", "unincorporated_partnership"]

def personRequirements : Shape :=
  .record
    [ may (.list alternative) "alternatives", need (.list .text) "currently_due"
    , need (.list requirementError) "errors", need (.list .text) "eventually_due"
    , need (.list .text) "past_due", need (.list .text) "pending_verification" ]

def person : Shape :=
  .record
    [ need (.id ["person_"]) "id", may .text "account"
    , may (.record [may consent "account"]) "additional_tos_acceptances", may address "address"
    , may address "address_kana", may address "address_kanji", may .int64 "created"
    , usual .bool "deleted", may birthday "dob", may .text "email", may .text "first_name"
    , may .text "first_name_kana", may .text "first_name_kanji"
    , may (.list .text) "full_name_aliases", may personRequirements "future_requirements"
    , may .text "gender", may .bool "id_number_provided"
    , may .bool "id_number_secondary_provided", may .text "last_name", may .text "last_name_kana"
    , may .text "last_name_kanji", may .text "maiden_name", may metadata "metadata"
    , may .text "nationality", may .text "phone"
    , may (.word ["existing", "none"]) "political_exposure", may address "registered_address"
    , may relationship "relationship", may personRequirements "requirements"
    , may .bool "ssn_last_4_provided", may verification "verification" ]
where
  relationship : Shape :=
    .record
      [ may .bool "director", may .bool "executive", may .bool "legal_guardian"
      , may .bool "owner", may .real "percent_ownership", may .bool "representative"
      , may .text "title" ]
  verification : Shape :=
    .record
      [ may document "additional_document", may .text "details", may .text "details_code"
      , may document "document", need .text "status" ]

def requirements : Shape :=
  .record
    [ may (.list alternative) "alternatives", may .int64 "current_deadline"
    , may (.list .text) "currently_due", may .text "disabled_reason"
    , may (.list requirementError) "errors", may (.list .text) "eventually_due"
    , may (.list .text) "past_due", may (.list .text) "pending_verification" ]

def settings : Shape :=
  .record
    [ may (texts ["display_name", "service_user_number"]) "bacs_debit_payments"
    , need branding "branding", may (.record [may consent "tos_acceptance"]) "card_issuing"
    , need cardPayments "card_payments", need (texts ["display_name", "timezone"]) "dashboard"
    , may (.record [may (.list relatedTaxId) "default_account_tax_ids"]) "invoices"
    , need payments "payments", may payouts "payouts"
    , may (texts ["creditor_id"]) "sepa_debit_payments"
    , may (.record [may consent "tos_acceptance"]) "treasury" ]
where
  branding : Shape :=
    .record
      [ may relatedFile "icon", may relatedFile "logo", may .text "primary_color"
      , may .text "secondary_color" ]
  decline : Shape := .record [need .bool "avs_failure", need .bool "cvc_failure"]
  cardPayments : Shape :=
    .record
      [ may decline "decline_on", may .text "statement_descriptor_prefix"
      , may .text "statement_descriptor_prefix_kana"
      , may .text "statement_descriptor_prefix_kanji" ]
  payments : Shape :=
    texts
      ["statement_descriptor", "statement_descriptor_kana", "statement_descriptor_kanji",
       "statement_descriptor_prefix_kana", "statement_descriptor_prefix_kanji"]
  schedule : Shape :=
    .record
      [ need (.nat 32) "delay_days", need .text "interval", may (.nat 8) "monthly_anchor"
      , may .text "weekly_anchor" ]
  payouts : Shape :=
    .record
      [ need .bool "debit_negative_balances", need schedule "schedule"
      , may .text "statement_descriptor" ]

def account : Shape :=
  .record
    [ need (.id ["acct_"]) "id", may businessProfile "business_profile"
    , may (.word ["company", "government_entity", "individual", "non_profit"]) "business_type"
    , may capabilities "capabilities", may .bool "charges_enabled", may company "company"
    , may controller "controller", may .text "country", may .int64 "created"
    , may currency "default_currency", usual .bool "deleted", may .bool "details_submitted"
    , may .text "email", may (page payoutTarget) "external_accounts"
    , may requirements "future_requirements", may person "individual", may metadata "metadata"
    , may .bool "payouts_enabled", may requirements "requirements", may settings "settings"
    , may tosAcceptance "tos_acceptance", may (.word ["custom", "express", "standard"]) "type" ]
where
  controller : Shape :=
    .record [may .bool "is_controller", need (.word ["account", "application"]) "type"]
  tosAcceptance : Shape :=
    .record
      [ may .int64 "date", may .text "ip", may .text "service_agreement", may .text "user_agent" ]

def selfOrAccount : Shape :=
  .record [may relatedAccount "account", need (.word ["account", "self"]) "type"]

end Payments.Stripe.Shape
