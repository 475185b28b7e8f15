import V4vappDash.Amounts

set_option autoImplicit false

/-! # Hive invoice configuration

The amounts and fees of `limits/hive_config.py`. The configuration in force is an input of a
request; how it is fetched and read is modelled apart (`fetchHiveConfig`).
-/

namespace V4vappDash

structure RateWindow where
  hours : Int
  sats : Int
  deriving DecidableEq, Repr

structure HiveInvoiceConfig where
  windows : List RateWindow
  convFeePercent : Decimal
  convFeeSats : Int
  routingFeeSats : Int
  minimumInvoicePaymentSats : Int
  maximumInvoicePaymentSats : Int
  deriving DecidableEq

structure InvoiceFees where
  convFeeSats : Int
  routingFeeSats : Int
  totalFeeSats : Int
  satsCollect : Int
  convFeePercent : Decimal
  convFeeBaseSats : Int
  deriving DecidableEq

def DEFAULT_WINDOWS : List RateWindow :=
  [⟨4, 600000⟩, ⟨72, 1200000⟩, ⟨168, 2000000⟩]

def DEFAULT_CONFIG : HiveInvoiceConfig where
  windows := DEFAULT_WINDOWS
  convFeePercent := 29 / 1000
  convFeeSats := 50
  routingFeeSats := 300
  minimumInvoicePaymentSats := 1
  maximumInvoicePaymentSats := 180000

/-- `conv_fee_percent * sats + conv_fee_sats`, plus a fixed routing pad. -/
def calculateInvoiceFees (sats : Int) (cfg : HiveInvoiceConfig) : InvoiceFees :=
  let conv := Decimal.roundHalfUp
    (Decimal.add prec (Decimal.mul prec cfg.convFeePercent (sats : Decimal))
      (cfg.convFeeSats : Decimal))
  { convFeeSats := conv
    routingFeeSats := cfg.routingFeeSats
    totalFeeSats := conv + cfg.routingFeeSats
    satsCollect := sats + conv + cfg.routingFeeSats
    convFeePercent := cfg.convFeePercent
    convFeeBaseSats := cfg.convFeeSats }

end V4vappDash
