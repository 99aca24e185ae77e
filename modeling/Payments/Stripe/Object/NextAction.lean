import Payments.Stripe.Object.Contact
import Payments.Stripe.Object.Bank

/-!
What a customer has to do next before a payment or a setup can go on: follow a link, show a code,
transfer the money, wait.
-/

namespace Payments.Stripe.Shape

def transferTypes : List String :=
  ["eu_bank_transfer", "gb_bank_transfer", "jp_bank_transfer", "mx_bank_transfer",
   "us_bank_transfer"]

def bankAddress : Shape :=
  .record
    [ may aba "aba", may iban "iban", may sortCode "sort_code", may spei "spei"
    , may (.list supportedNetworks) "supported_networks", may swift "swift"
    , need (.word ["aba", "iban", "sort_code", "spei", "swift", "zengin"]) "type"
    , may zengin "zengin" ]
where
  aba : Shape :=
    .record [need .text "account_number", need .text "bank_name", need .text "routing_number"]
  iban : Shape :=
    .record
      [ need .text "account_holder_name", need .text "bic", need .text "country"
      , need .text "iban" ]
  sortCode : Shape :=
    .record [need .text "account_holder_name", need .text "account_number", need .text "sort_code"]
  spei : Shape := .record [need .text "bank_code", need .text "bank_name", need .text "clabe"]
  supportedNetworks : Shape :=
    .word
      ["ach", "bacs", "domestic_wire_us", "fps", "sepa", "spei", "swift", "zengin"]
  swift : Shape :=
    .record [need .text "account_number", need .text "bank_name", need .text "swift_code"]
  zengin : Shape :=
    texts
      ["account_holder_name", "account_number", "account_type", "bank_code", "bank_name",
       "branch_code", "branch_name"]

def cashappCode : Shape :=
  .record [need .text "hosted_instructions_url", need .text "mobile_auth_url", need code "qr_code"]
where
  code : Shape :=
    .record [need .int64 "expires_at", need .text "image_url_png", need .text "image_url_svg"]

def swishCode : Shape :=
  .record [need .text "hosted_instructions_url", need .text "mobile_auth_url", need code "qr_code"]
where
  code : Shape :=
    .record [need .text "data", need .text "image_url_png", need .text "image_url_svg"]

def microdeposits : Shape :=
  .record
    [ need .int64 "arrival_date", need .text "hosted_verification_url"
    , may (.word ["amounts", "descriptor_code"]) "microdeposit_type" ]

def link : Shape := texts ["return_url", "url"]

def konbini : Shape :=
  .record [need .int64 "expires_at", may .text "hosted_voucher_url", need stores "stores"]
where
  store : Shape := .record [may .text "confirmation_number", need .text "payment_code"]
  stores : Shape :=
    .record
      [ may store "familymart", may store "lawson", may store "ministop", may store "seicomart" ]

def bankTransfer : Shape :=
  .record
    [ may .int64 "amount_remaining", may currency "currency"
    , may (.list bankAddress) "financial_addresses", may .text "hosted_instructions_url"
    , may .text "reference", need (.word transferTypes) "type" ]

def nextAction : Shape :=
  .record
    [ may (texts ["native_data", "native_url", "return_url", "url"]) "alipay_handle_redirect"
    , may boletoDisplayDetails "boleto_display_details"
    , may cardAwaitNotification "card_await_notification"
    , may cashappCode "cashapp_handle_redirect_or_display_qr_code"
    , may bankTransfer "display_bank_transfer_instructions"
    , may konbini "konbini_display_details", may oxxoDisplayDetails "oxxo_display_details"
    , may paynow "paynow_display_qr_code", may pix "pix_display_qr_code"
    , may promptpay "promptpay_display_qr_code", may link "redirect_to_url"
    , may swishCode "swish_handle_redirect_or_display_qr_code", need .text "type"
    , may .anything "use_stripe_sdk", may microdeposits "verify_with_microdeposits"
    , may wechat "wechat_pay_display_qr_code", may wechatApp "wechat_pay_redirect_to_android_app"
    , may (.record [need .text "native_url"]) "wechat_pay_redirect_to_ios_app" ]
where
  boletoDisplayDetails : Shape :=
    .record
      [ may .int64 "expires_at", may .text "hosted_voucher_url", may .text "number"
      , may .text "pdf" ]
  cardAwaitNotification : Shape :=
    .record [may .int64 "charge_attempt_at", may .bool "customer_approval_required"]
  oxxoDisplayDetails : Shape :=
    .record [may .int64 "expires_after", may .text "hosted_voucher_url", may .text "number"]
  paynow : Shape :=
    .record
      [ need .text "data", may .text "hosted_instructions_url", need .text "image_url_png"
      , need .text "image_url_svg" ]
  pix : Shape :=
    .record
      [ may .text "data", may .int64 "expires_at", may .text "hosted_instructions_url"
      , may .text "image_url_png", may .text "image_url_svg" ]
  promptpay : Shape :=
    .record
      [ need .text "data", need .text "hosted_instructions_url", need .text "image_url_png"
      , need .text "image_url_svg" ]
  wechat : Shape :=
    .record
      [ need .text "data", need .text "hosted_instructions_url", need .text "image_data_url"
      , need .text "image_url_png", need .text "image_url_svg" ]
  wechatApp : Shape :=
    .record
      [ need .text "app_id", need .text "nonce_str", need .text "package"
      , need .text "partner_id", need .text "prepay_id", need .text "sign"
      , need .text "timestamp" ]

def setupAction : Shape :=
  .record
    [ may cashappCode "cashapp_handle_redirect_or_display_qr_code", may link "redirect_to_url"
    , need .text "type", may .anything "use_stripe_sdk"
    , may microdeposits "verify_with_microdeposits" ]

end Payments.Stripe.Shape
