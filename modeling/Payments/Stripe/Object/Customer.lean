import Payments.Stripe.Object.Catalog

/-!
Customers: who pays, with the balance they hold, their tax identifiers and the settings for their
invoices.
-/

namespace Payments.Stripe.Shape

def relatedTestClock : Shape := related ["clock_"] .testClock

def customFields : Shape := .list (.record [need .text "name", need .text "value"])

def cashBalance : Shape :=
  .record
    [ may .int64 "available", need .text "customer", need .bool "livemode"
    , need settings "settings" ]
where
  settings : Shape :=
    .record
      [ need (.word ["automatic", "manual"]) "reconciliation_mode"
      , need .bool "using_merchant_default" ]

def invoiceSettings : Shape :=
  .record
    [ may customFields "custom_fields", may relatedMethod "default_payment_method"
    , may .text "footer", may (texts ["amount_tax_display"]) "rendering_options" ]

def customerTax : Shape :=
  .record [need automaticTax "automatic_tax", may .text "ip_address", may location "location"]
where
  automaticTax : Shape := .word ["failed", "not_collecting", "supported", "unrecognized_location"]
  source : Shape :=
    .word
      ["billing_address", "ip_address", "payment_method", "shipping_destination"]
  location : Shape := .record [need .text "country", need source "source", may .text "state"]

def taxExempt : Shape := .word ["exempt", "none", "reverse"]

def taxIdTypes : List String :=
  ["ad_nrt", "ae_trn", "ar_cuit", "au_abn", "au_arn", "bg_uic", "bo_tin", "br_cnpj", "br_cpf",
   "ca_bn", "ca_gst_hst", "ca_pst_bc", "ca_pst_mb", "ca_pst_sk", "ca_qst", "ch_vat", "cl_tin",
   "cn_tin", "co_nit", "cr_tin", "do_rcn", "ec_ruc", "eg_tin", "es_cif", "eu_oss_vat", "eu_vat",
   "gb_vat", "ge_vat", "hk_br", "hu_tin", "id_npwp", "il_vat", "in_gst", "is_vat", "jp_cn", "jp_rn",
   "jp_trn", "ke_pin", "kr_brn", "li_uid", "mx_rfc", "my_frp", "my_itn", "my_sst", "no_vat",
   "nz_gst", "pe_ruc", "ph_tin", "ro_tin", "rs_pib", "ru_inn", "ru_kpp", "sa_vat", "sg_gst",
   "sg_uen", "si_tin", "sv_nit", "th_vat", "tr_tin", "tw_vat", "ua_vat", "unknown", "us_ein",
   "uy_ruc", "ve_rif", "vn_tin", "za_vat"]

def taxId : Shape :=
  .record
    [ need (.id ["txi_", "atxi_"]) "id", may .text "country", may .int64 "created"
    , may relatedCustomer "customer", usual .bool "deleted", may .bool "livemode"
    , may owner "owner", may (.word taxIdTypes) "type", may .text "value"
    , may verification "verification" ]
where
  owner : Shape :=
    .record
      [ may relatedAccount "account", may relatedApplication "application"
      , may relatedCustomer "customer"
      , need (.word ["account", "application", "customer", "self"]) "type" ]
  verification : Shape :=
    .record
      [ need (.word ["pending", "unavailable", "unverified", "verified"]) "status"
      , may .text "verified_address", may .text "verified_name" ]

def testClock : Shape :=
  .record
    [ need (.id ["clock_"]) "id", may .int64 "created", usual .bool "deleted"
    , may .int64 "deletes_after", may .int64 "frozen_time", may .bool "livemode"
    , may .text "name", may (.word ["advancing", "internal_failure", "ready"]) "status" ]

def customer : Shape :=
  .record
    [ need (.id customerId.starts) "id", may address "address", may .int64 "balance"
    , may cashBalance "cash_balance", may .int64 "created", may currency "currency"
    , may relatedSource "default_source", usual .bool "deleted", may .bool "delinquent"
    , may .text "description", may (.object .discount) "discount", may .text "email"
    , may .int64 "invoice_credit_balance", may .text "invoice_prefix"
    , may invoiceSettings "invoice_settings", may .bool "livemode", may metadata "metadata"
    , may .text "name", may .int64 "next_invoice_sequence", may .text "phone"
    , may (.list .text) "preferred_locales", may shipping "shipping"
    , usual (page (.object .paymentSource)) "sources"
    , may (page (.object .subscription)) "subscriptions", may customerTax "tax"
    , may taxExempt "tax_exempt", may (page (.object .taxId)) "tax_ids"
    , may relatedTestClock "test_clock" ]

end Payments.Stripe.Shape
