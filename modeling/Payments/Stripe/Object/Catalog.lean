import Payments.Stripe.Object.Account

/-!
What is sold and for how much: products and their prices, plans, coupons and the codes that promote
them, tax rates and shipping rates.
-/

namespace Payments.Stripe.Shape

def relatedProduct : Shape := .oneOf [.text, .object .product]

def relatedPrice : Shape := related ["plan_", "price_"] .price

def taxBehavior : Shape := .word ["exclusive", "inclusive", "unspecified"]

def billingScheme : Shape := .word ["per_unit", "tiered"]

def interval : Shape := .word ["day", "month", "week", "year"]

def aggregateUsage : Shape := .word ["last_during_period", "last_ever", "max", "sum"]

def usageType : Shape := .word ["licensed", "metered"]

def tiersMode : Shape := .word ["graduated", "volume"]

def taxCode : Shape :=
  .record [need (.id ["txcd_"]) "id", need .text "description", need .text "name"]

def relatedTaxCode : Shape := .oneOf [.id ["txcd_"], taxCode]

def taxRate : Shape :=
  .record
    [ need (.id ["txr_"]) "id", need .bool "active", may .text "country", need .int64 "created"
    , may .text "description", need .text "display_name", may .real "effective_percentage"
    , need .bool "inclusive", may .text "jurisdiction"
    , may jurisdictionLevel "jurisdiction_level", need .bool "livemode", may metadata "metadata"
    , need .real "percentage", may .text "state", may taxType "tax_type" ]
where
  jurisdictionLevel : Shape := .word ["city", "country", "county", "district", "multiple", "state"]
  taxType : Shape :=
    .word
      ["amusement_tax", "communications_tax", "gst", "hst", "igst", "jct", "lease_tax", "pst",
       "qst", "rst", "sales_tax", "vat"]

def relatedTaxRate : Shape := .oneOf [.id ["txr_"], taxRate]

def taxabilityReason : Shape :=
  .word
    ["customer_exempt", "not_collecting", "not_subject_to_tax", "not_supported",
     "portion_product_exempt", "portion_reduced_rated", "portion_standard_rated", "product_exempt",
     "product_exempt_holiday", "proportionally_rated", "reduced_rated", "reverse_charge",
     "standard_rated", "taxable_basis_reduced", "zero_rated"]

def tier : Shape :=
  .record
    [ may .int64 "flat_amount", may .text "flat_amount_decimal", may .int64 "unit_amount"
    , may .text "unit_amount_decimal", may .int64 "up_to" ]

def transform : Shape := .record [need .int64 "divide_by", need (.word ["down", "up"]) "round"]

def customAmount : Shape :=
  .record [may .int64 "maximum", may .int64 "minimum", may .int64 "preset"]

def price : Shape :=
  .record
    [ need (.id ["plan_", "price_"]) "id", may .bool "active", may billingScheme "billing_scheme"
    , may .int64 "created", may currency "currency"
    , may (byCurrency currencyOption) "currency_options", may customAmount "custom_unit_amount"
    , usual .bool "deleted", may .bool "livemode", may .text "lookup_key"
    , may metadata "metadata", may .text "nickname", may relatedProduct "product"
    , may recurring "recurring", may taxBehavior "tax_behavior", may (.list tier) "tiers"
    , may tiersMode "tiers_mode", may transform "transform_quantity"
    , may (.word ["one_time", "recurring"]) "type", may .int64 "unit_amount"
    , may .text "unit_amount_decimal" ]
where
  currencyOption : Shape :=
    .record
      [ may customAmount "custom_unit_amount", may taxBehavior "tax_behavior"
      , may (.list tier) "tiers", may .int64 "unit_amount", may .text "unit_amount_decimal" ]
  recurring : Shape :=
    .record
      [ may aggregateUsage "aggregate_usage", need interval "interval"
      , need (.nat 64) "interval_count", may (.nat 32) "trial_period_days"
      , need usageType "usage_type" ]

def product : Shape :=
  .record
    [ need .text "id", may .bool "active", may .int64 "created", may relatedPrice "default_price"
    , usual .bool "deleted", may .text "description", may (.list (texts ["name"])) "features"
    , may (.list .text) "images", may .bool "livemode", may metadata "metadata", may .text "name"
    , may dimensions "package_dimensions", may .bool "shippable"
    , may .text "statement_descriptor", may relatedTaxCode "tax_code"
    , may (.word ["good", "service"]) "type", may .text "unit_label", may .int64 "updated"
    , may .text "url" ]
where
  dimensions : Shape :=
    .record [need .real "height", need .real "length", need .real "weight", need .real "width"]

def plan : Shape :=
  .record
    [ need .text "id", may .bool "active", may aggregateUsage "aggregate_usage"
    , may .int64 "amount", may .text "amount_decimal", may billingScheme "billing_scheme"
    , may .int64 "created", may currency "currency", usual .bool "deleted"
    , may interval "interval", may (.nat 64) "interval_count", may .bool "livemode"
    , may metadata "metadata", may .text "nickname", may relatedProduct "product"
    , may (.list tier) "tiers", may tiersMode "tiers_mode", may transform "transform_usage"
    , may (.nat 32) "trial_period_days", may usageType "usage_type" ]

def coupon : Shape :=
  .record
    [ need .text "id", may .int64 "amount_off"
    , may (.record [need (.list .text) "products"]) "applies_to", may .int64 "created"
    , may currency "currency"
    , may (byCurrency (.record [need .int64 "amount_off"])) "currency_options"
    , usual .bool "deleted", may (.word ["forever", "once", "repeating", "variable"]) "duration"
    , may .int64 "duration_in_months", may .bool "livemode", may .int64 "max_redemptions"
    , may metadata "metadata", may .text "name", may .real "percent_off", may .int64 "redeem_by"
    , may .int64 "times_redeemed", may .bool "valid" ]

def promotionCode : Shape :=
  .record
    [ need (.id ["promo_"]) "id", need .bool "active", need .text "code"
    , need (.object .coupon) "coupon", need .int64 "created", may relatedCustomer "customer"
    , may .int64 "expires_at", need .bool "livemode", may .int64 "max_redemptions"
    , may metadata "metadata", need restrictions "restrictions", need .int64 "times_redeemed" ]
where
  restrictions : Shape :=
    .record
      [ may (byCurrency (.record [need .int64 "minimum_amount"])) "currency_options"
      , need .bool "first_time_transaction", may .int64 "minimum_amount"
      , may currency "minimum_amount_currency" ]

def discount : Shape :=
  .record
    [ need (.id ["di_"]) "id", may .text "checkout_session", need (.object .coupon) "coupon"
    , may relatedCustomer "customer", usual .bool "deleted", may .int64 "end"
    , may .text "invoice", may .text "invoice_item"
    , may (related ["promo_"] .promotionCode) "promotion_code", need .int64 "start"
    , may .text "subscription" ]

def relatedDiscount : Shape := related ["di_"] .discount

def discountAmount : Shape := .record [need .int64 "amount", need relatedDiscount "discount"]

def taxAmount : Shape :=
  .record
    [ need .int64 "amount", need .bool "inclusive", need relatedTaxRate "tax_rate"
    , may taxabilityReason "taxability_reason", may .int64 "taxable_amount" ]

def lineDiscount : Shape := .record [need .int64 "amount", need (.object .discount) "discount"]

def lineTax : Shape :=
  .record
    [ need .int64 "amount", need taxRate "rate", may taxabilityReason "taxability_reason"
    , may .int64 "taxable_amount" ]

def lineItem : Shape :=
  .record
    [ need .text "id", need .int64 "amount_discount", need .int64 "amount_subtotal"
    , need .int64 "amount_tax", need .int64 "amount_total", need currency "currency"
    , may .text "description", may (.list lineDiscount) "discounts", may (.object .price) "price"
    , may (.nat 64) "quantity", may (.list lineTax) "taxes" ]

def shippingRate : Shape :=
  .record
    [ need (.id ["shr_"]) "id", need .bool "active", need .int64 "created"
    , may estimate "delivery_estimate", may .text "display_name", may fixedAmount "fixed_amount"
    , need .bool "livemode", need metadata "metadata", may taxBehavior "tax_behavior"
    , may relatedTaxCode "tax_code", need (.word ["fixed_amount"]) "type" ]
where
  bound : Shape :=
    .record
      [ need (.word ["business_day", "day", "hour", "month", "week"]) "unit", need .int64 "value" ]
  estimate : Shape := .record [may bound "maximum", may bound "minimum"]
  option : Shape := .record [need .int64 "amount", need taxBehavior "tax_behavior"]
  fixedAmount : Shape :=
    .record
      [ need .int64 "amount", need currency "currency"
      , may (byCurrency option) "currency_options" ]

end Payments.Stripe.Shape
