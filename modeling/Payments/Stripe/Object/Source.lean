import Payments.Stripe.Object.Method

/-!
Bank accounts, cards and the older sources: what money could be drawn from before there were payment
methods, and what is paid out to.
-/

namespace Payments.Stripe.Shape

def relatedSource : Shape := related ["acct_", "aliacc_", "ba_", "card_", "src_"] .paymentSource

def bankAccountStarts : List String := ["ba_", "card_"]

def payoutSpeeds : Shape := .word ["instant", "standard"]

def requirementCode : Shape :=
  .word
    ["invalid_address_city_state_postal_code", "invalid_address_highway_contract_box",
     "invalid_address_private_mailbox", "invalid_business_profile_name",
     "invalid_business_profile_name_denylisted", "invalid_company_name_denylisted",
     "invalid_dob_age_over_maximum", "invalid_dob_age_under_18", "invalid_dob_age_under_minimum",
     "invalid_product_description_length", "invalid_product_description_url_match",
     "invalid_representative_country", "invalid_statement_descriptor_business_mismatch",
     "invalid_statement_descriptor_denylisted", "invalid_statement_descriptor_length",
     "invalid_statement_descriptor_prefix_denylisted",
     "invalid_statement_descriptor_prefix_mismatch", "invalid_street_address", "invalid_tax_id",
     "invalid_tax_id_format", "invalid_tos_acceptance", "invalid_url_denylisted",
     "invalid_url_format", "invalid_url_web_presence_detected",
     "invalid_url_website_business_information_mismatch", "invalid_url_website_empty",
     "invalid_url_website_inaccessible", "invalid_url_website_inaccessible_geoblocked",
     "invalid_url_website_inaccessible_password_protected", "invalid_url_website_incomplete",
     "invalid_url_website_incomplete_cancellation_policy",
     "invalid_url_website_incomplete_customer_service_details",
     "invalid_url_website_incomplete_legal_restrictions",
     "invalid_url_website_incomplete_refund_policy", "invalid_url_website_incomplete_return_policy",
     "invalid_url_website_incomplete_terms_and_conditions",
     "invalid_url_website_incomplete_under_construction", "invalid_url_website_other",
     "invalid_value_other", "verification_directors_mismatch",
     "verification_document_address_mismatch", "verification_document_address_missing",
     "verification_document_corrupt", "verification_document_country_not_supported",
     "verification_document_directors_mismatch", "verification_document_dob_mismatch",
     "verification_document_duplicate_type", "verification_document_expired",
     "verification_document_failed_copy", "verification_document_failed_greyscale",
     "verification_document_failed_other", "verification_document_failed_test_mode",
     "verification_document_fraudulent", "verification_document_id_number_mismatch",
     "verification_document_id_number_missing", "verification_document_incomplete",
     "verification_document_invalid", "verification_document_issue_or_expiry_date_missing",
     "verification_document_manipulated", "verification_document_missing_back",
     "verification_document_missing_front", "verification_document_name_mismatch",
     "verification_document_name_missing", "verification_document_nationality_mismatch",
     "verification_document_not_readable", "verification_document_not_signed",
     "verification_document_not_uploaded", "verification_document_photo_mismatch",
     "verification_document_too_large", "verification_document_type_not_supported",
     "verification_extraneous_directors", "verification_failed_address_match",
     "verification_failed_business_iec_number", "verification_failed_document_match",
     "verification_failed_id_number_match", "verification_failed_keyed_identity",
     "verification_failed_keyed_match", "verification_failed_name_match",
     "verification_failed_other", "verification_failed_residential_address",
     "verification_failed_tax_id_match", "verification_failed_tax_id_not_issued",
     "verification_missing_directors", "verification_missing_executives",
     "verification_missing_owners", "verification_requires_additional_memorandum_of_associations"]

def requirementError : Shape :=
  .record [need requirementCode "code", need .text "reason", need .text "requirement"]

def accountRequirements : Shape :=
  .record
    [ may (.list .text) "currently_due", may (.list requirementError) "errors"
    , may (.list .text) "past_due", may (.list .text) "pending_verification" ]

def bankAccount : Shape :=
  .record
    [ need (.id bankAccountStarts) "id", may relatedAccount "account"
    , may .text "account_holder_name", may holderType "account_holder_type"
    , may .text "account_type", may (.list payoutSpeeds) "available_payout_methods"
    , may .text "bank_name", may .text "country", need currency "currency"
    , may relatedCustomer "customer", may .bool "default_for_currency", usual .bool "deleted"
    , may .text "fingerprint", may accountRequirements "future_requirements", may .text "last4"
    , may metadata "metadata", may accountRequirements "requirements", may .text "routing_number"
    , may (.word ["errored", "new", "validated", "verification_failed", "verified"]) "status" ]

def cardSource : Shape :=
  .record
    [ need (.id ["card_"]) "id", may relatedAccount "account", may .text "address_city"
    , may .text "address_country", may .text "address_line1", may .text "address_line1_check"
    , may .text "address_line2", may .text "address_state", may .text "address_zip"
    , may .text "address_zip_check", may (.list payoutSpeeds) "available_payout_methods"
    , may .text "brand", may .text "country", may currency "currency"
    , may relatedCustomer "customer", may .text "cvc_check", may .bool "default_for_currency"
    , usual .bool "deleted", may .text "description", may .text "dynamic_last4"
    , may .int64 "exp_month", may .int64 "exp_year", may .text "fingerprint"
    , may (.word ["credit", "debit", "prepaid", "unknown"]) "funding", may .text "iin"
    , may .text "issuer", may .text "last4", may metadata "metadata", may .text "name"
    , may .text "status", may .text "tokenization_method" ]

def sourceTypes : List String :=
  ["ach_credit_transfer", "ach_debit", "acss_debit", "alipay", "au_becs_debit", "bancontact",
   "card", "card_present", "eps", "giropay", "ideal", "klarna", "multibanco", "p24",
   "sepa_credit_transfer", "sepa_debit", "sofort", "three_d_secure", "wechat"]

def sourceCard : Shape :=
  .record
    [ may .text "address_line1_check", may .text "address_zip_check", may .text "brand"
    , may .text "country", may .text "cvc_check", may .text "description"
    , may .text "dynamic_last4", may .int64 "exp_month", may .int64 "exp_year"
    , may .text "fingerprint", may .text "funding", may .text "iin", may .text "issuer"
    , may .text "last4", may .text "name", may .text "three_d_secure"
    , may .text "tokenization_method" ]

def sourceCardPresent : Shape :=
  .record
    [ may .text "application_cryptogram", may .text "application_preferred_name"
    , may .text "authorization_code", may .text "authorization_response_code", may .text "brand"
    , may .text "country", may .text "cvm_type", may .text "data_type"
    , may .text "dedicated_file_name", may .text "description", may .text "emv_auth_data"
    , may .text "evidence_customer_signature", may .text "evidence_transaction_certificate"
    , may .int64 "exp_month", may .int64 "exp_year", may .text "fingerprint", may .text "funding"
    , may .text "iin", may .text "issuer", may .text "last4", may .text "pos_device_id"
    , may .text "pos_entry_mode", may .text "read_method", may .text "reader"
    , may .text "terminal_verification_results", may .text "transaction_status_information" ]

def sourceThreeDSecure : Shape :=
  .record
    [ may .text "address_line1_check", may .text "address_zip_check", may .bool "authenticated"
    , may .text "brand", may .text "card", may .text "country", may .text "customer"
    , may .text "cvc_check", may .text "description", may .text "dynamic_last4"
    , may .int64 "exp_month", may .int64 "exp_year", may .text "fingerprint", may .text "funding"
    , may .text "iin", may .text "issuer", may .text "last4", may .text "name"
    , may .text "three_d_secure", may .text "tokenization_method" ]

def sourceKlarna : Shape :=
  .record
    [ may .text "background_image_url", may .text "client_token", may .text "first_name"
    , may .text "last_name", may .text "locale", may .text "logo_url", may .text "page_title"
    , may .text "pay_later_asset_urls_descriptive", may .text "pay_later_asset_urls_standard"
    , may .text "pay_later_name", may .text "pay_later_redirect_url"
    , may .text "pay_now_asset_urls_descriptive", may .text "pay_now_asset_urls_standard"
    , may .text "pay_now_name", may .text "pay_now_redirect_url"
    , may .text "pay_over_time_asset_urls_descriptive"
    , may .text "pay_over_time_asset_urls_standard", may .text "pay_over_time_name"
    , may .text "pay_over_time_redirect_url", may .text "payment_method_categories"
    , may .text "purchase_country", may .text "purchase_type", may .text "redirect_url"
    , may .int64 "shipping_delay", may .text "shipping_first_name"
    , may .text "shipping_last_name" ]

def sourceOrder : Shape :=
  .record
    [ need .int64 "amount", need currency "currency", may .text "email", may (.list item) "items"
    , may shipping "shipping" ]
where
  item : Shape :=
    .record
      [ may .int64 "amount", may currency "currency", may .text "description", may .text "parent"
      , may (.nat 64) "quantity", may .text "type" ]

def source : Shape :=
  .record
    [ need (.id ["src_"]) "id", may achCreditTransfer "ach_credit_transfer"
    , may achDebit "ach_debit", may acssDebit "acss_debit"
    , may (texts ["data_string", "native_url", "statement_descriptor"]) "alipay"
    , may .int64 "amount", may (texts ["bsb_number", "fingerprint", "last4"]) "au_becs_debit"
    , may bancontact "bancontact", may sourceCard "card", may sourceCardPresent "card_present"
    , need .text "client_secret"
    , may (.record [need .int64 "attempts_remaining", need .text "status"]) "code_verification"
    , need .int64 "created", may currency "currency", may .text "customer"
    , may (texts ["reference", "statement_descriptor"]) "eps"
    , need (.word ["code_verification", "none", "receiver", "redirect"]) "flow"
    , may (texts ["bank_code", "bank_name", "bic", "statement_descriptor"]) "giropay"
    , may (texts ["bank", "bic", "iban_last4", "statement_descriptor"]) "ideal"
    , may sourceKlarna "klarna", need .bool "livemode", may metadata "metadata"
    , may multibanco "multibanco", may owner "owner", may (texts ["reference"]) "p24"
    , may receiver "receiver", may redirect "redirect"
    , may sepaCreditTransfer "sepa_credit_transfer", may sepaDebit "sepa_debit"
    , may sofort "sofort", may sourceOrder "source_order", may .text "statement_descriptor"
    , need (.word ["canceled", "chargeable", "consumed", "failed", "pending"]) "status"
    , may sourceThreeDSecure "three_d_secure", need (.word sourceTypes) "type"
    , may (.word ["reusable", "single_use"]) "usage"
    , may (texts ["prepay_id", "qr_code_url", "statement_descriptor"]) "wechat" ]
where
  achCreditTransfer : Shape :=
    texts
      ["account_number", "bank_name", "fingerprint", "refund_account_holder_name",
       "refund_account_holder_type", "refund_routing_number", "routing_number", "swift_code"]
  achDebit : Shape :=
    texts ["bank_name", "country", "fingerprint", "last4", "routing_number", "type"]
  acssDebit : Shape :=
    texts
      ["bank_address_city", "bank_address_line_1", "bank_address_line_2",
       "bank_address_postal_code", "bank_name", "category", "country", "fingerprint", "last4",
       "routing_number"]
  bancontact : Shape :=
    texts
      ["bank_code", "bank_name", "bic", "iban_last4", "preferred_language", "statement_descriptor"]
  multibanco : Shape :=
    texts
      ["entity", "reference", "refund_account_holder_address_city",
       "refund_account_holder_address_country", "refund_account_holder_address_line1",
       "refund_account_holder_address_line2", "refund_account_holder_address_postal_code",
       "refund_account_holder_address_state", "refund_account_holder_name", "refund_iban"]
  owner : Shape :=
    .record
      [ may address "address", may .text "email", may .text "name", may .text "phone"
      , may address "verified_address", may .text "verified_email", may .text "verified_name"
      , may .text "verified_phone" ]
  receiver : Shape :=
    .record
      [ may .text "address", need .int64 "amount_charged", need .int64 "amount_received"
      , need .int64 "amount_returned", need .text "refund_attributes_method"
      , need .text "refund_attributes_status" ]
  redirect : Shape :=
    .record
      [ may .text "failure_reason", need .text "return_url", need .text "status"
      , need .text "url" ]
  sepaCreditTransfer : Shape :=
    texts
      ["bank_name", "bic", "iban", "refund_account_holder_address_city",
       "refund_account_holder_address_country", "refund_account_holder_address_line1",
       "refund_account_holder_address_line2", "refund_account_holder_address_postal_code",
       "refund_account_holder_address_state", "refund_account_holder_name", "refund_iban"]
  sepaDebit : Shape :=
    texts
      ["bank_code", "branch_code", "country", "fingerprint", "last4", "mandate_reference",
       "mandate_url"]
  sofort : Shape :=
    texts
      ["bank_code", "bank_name", "bic", "country", "iban_last4", "preferred_language",
       "statement_descriptor"]

def paymentSource : Shape :=
  .tagged "object"
    [ ("card", .object .card), ("source", .object .source), ("account", .object .account)
    , ("bank_account", .object .bankAccount) ]

def payoutTarget : Shape :=
  .tagged "object" [("bank_account", .object .bankAccount), ("card", .object .card)]

end Payments.Stripe.Shape
