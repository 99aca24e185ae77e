import Payments.Stripe.Shape

/-!
The banks that take part in a payment scheme, by the words of the scheme, and what is told about an
account at any bank.
-/

namespace Payments.Stripe.Shape

def holderType : Shape := .word ["company", "individual"]

def accountType : Shape := .word ["checking", "savings"]

def epsBank : Shape :=
  .word
    ["arzte_und_apotheker_bank", "austrian_anadi_bank_ag", "bank_austria", "bankhaus_carl_spangler",
     "bankhaus_schelhammer_und_schattera_ag", "bawag_psk_ag", "bks_bank_ag",
     "brull_kallmus_bank_ag", "btv_vier_lander_bank", "capital_bank_grawe_gruppe_ag",
     "deutsche_bank_ag", "dolomitenbank", "easybank_ag", "erste_bank_und_sparkassen",
     "hypo_alpeadriabank_international_ag", "hypo_bank_burgenland_aktiengesellschaft",
     "hypo_noe_lb_fur_niederosterreich_u_wien", "hypo_oberosterreich_salzburg_steiermark",
     "hypo_tirol_bank_ag", "hypo_vorarlberg_bank_ag", "marchfelder_bank", "oberbank_ag",
     "raiffeisen_bankengruppe_osterreich", "schoellerbank_ag", "sparda_bank_wien",
     "volksbank_gruppe", "volkskreditbank_ag", "vr_bank_braunau"]

def fpxBank : Shape :=
  .word
    ["affin_bank", "agrobank", "alliance_bank", "ambank", "bank_islam", "bank_muamalat",
     "bank_of_china", "bank_rakyat", "bsn", "cimb", "deutsche_bank", "hong_leong_bank", "hsbc",
     "kfh", "maybank2e", "maybank2u", "ocbc", "pb_enterprise", "public_bank", "rhb",
     "standard_chartered", "uob"]

def idealBank : Shape :=
  .word
    ["abn_amro", "asn_bank", "bunq", "handelsbanken", "ing", "knab", "moneyou", "n26", "rabobank",
     "regiobank", "revolut", "sns_bank", "triodos_bank", "van_lanschot", "yoursafe"]

def idealBankCode : Shape :=
  .word
    ["ABNANL2A", "ASNBNL21", "BITSNL2A", "BUNQNL2A", "FVLBNL22", "HANDNL2A", "INGBNL2A", "KNABNL2H",
     "MOYONL21", "NTSBDEB1", "RABONL2U", "RBRBNL21", "REVOIE23", "REVOLT21", "SNSBNL2A", "TRIONL2U"]

def p24Bank : Shape :=
  .word
    ["alior_bank", "bank_millennium", "bank_nowy_bfg_sa", "bank_pekao_sa", "banki_spbdzielcze",
     "blik", "bnp_paribas", "boz", "citi_handlowy", "credit_agricole", "envelobank",
     "etransfer_pocztowy24", "getin_bank", "ideabank", "ing", "inteligo", "mbank_mtransfer",
     "nest_przelew", "noble_pay", "pbac_z_ipko", "plus_bank", "santander_przelew24",
     "tmobile_usbugi_bankowe", "toyota_bank", "velobank", "volkswagen_bank"]

end Payments.Stripe.Shape
