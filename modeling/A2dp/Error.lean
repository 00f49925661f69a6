import A2dp.CodecKey
import A2dp.Setting

/-!
# Causes of failure

Every refusal has a typed cause; its wording is in one place.
-/

namespace A2dp

/-- Why a capability was refused or an operation could not be done. -/
inductive Error where
  /-- The buffer ends before the octets that are read. -/
  | truncated (needed actual : Nat)
  /-- The length octet is not the one of the codec. -/
  | wrongLength (expected actual : UInt8)
  /-- The media type is not audio. -/
  | wrongMedia (octet : UInt8)
  /-- The codec type is not the one for vendor codecs. -/
  | wrongCodecType (octet : UInt8)
  /-- The capability belongs to another vendor codec. -/
  | wrongCodec (found : CodecKey)
  /-- A bit field selects nothing known, or too much. -/
  | badSetting (setting : Setting) (octet : UInt8)
  /-- The code for the highest bit rate is out of range. -/
  | badRateCode (octet : UInt8)
  /-- A buffer cannot hold a capability with this length octet. -/
  | doesNotFit (length : Nat) (losc : UInt8)
  /-- A packet has too little room before its data. -/
  | noHeadroom (needed available : Nat)
  deriving DecidableEq, Repr

namespace Error

def message : Error → String
  | .truncated needed actual => s!"缓冲区过短: 需要 {needed} 字节, 实际 {actual} 字节"
  | .wrongLength expected actual => s!"能力长度错误: 期望 {expected.toNat}, 实际 {actual.toNat}"
  | .wrongMedia octet => "错误的媒体类型: " ++ Hex.numeral 2 octet.toNat
  | .wrongCodecType octet => "错误的编解码器类型: " ++ Hex.numeral 2 octet.toNat
  | .wrongCodec found =>
    "错误的编解码器: vendor_id=" ++ found.vendorText ++ " codec_id=" ++ found.codecText
  | .badSetting setting octet => "无效" ++ setting.faultName ++ ": " ++ Hex.numeral 2 octet.toNat
  | .badRateCode octet => "无效码率: " ++ Hex.numeral 2 octet.toNat
  | .doesNotFit length losc =>
    s!"无效参数: 能力缓冲区长度 {length} 不足以容纳 LOSC={losc.toNat}"
  | .noHeadroom needed available => s!"头部空间不足: 需要 {needed} 字节, 剩余 {available} 字节"

end Error

/-- Passes when the condition holds and fails with the cause otherwise. -/
def demand (p : Prop) [Decidable p] (cause : Error) : Except Error Unit :=
  if p then .ok () else .error cause

@[simp] theorem demand_eq_ok {p : Prop} [Decidable p] {cause : Error} :
    demand p cause = .ok () ↔ p := by
  unfold demand
  split <;> simp_all

/-- A check that demands a condition first succeeds when the condition holds and the rest does. -/
theorem demand_bind_eq_ok {α : Type} {p : Prop} [Decidable p] {cause : Error}
    {next : Unit → Except Error α} {a : α} :
    (demand p cause >>= next) = .ok a ↔ p ∧ next () = .ok a := by
  by_cases h : p <;> simp [demand, h, bind, Except.bind]

/-- Two steps succeed when the first does and the second one does on its result. -/
theorem bind_eq_ok {ε α β : Type} {first : Except ε α} {next : α → Except ε β} {b : β} :
    (first >>= next) = .ok b ↔ ∃ a, first = .ok a ∧ next a = .ok b := by
  cases first <;> simp [bind, Except.bind]

theorem toOption_eq_some {α : Type} {x : Except Error α} {a : α} :
    x.toOption = some a ↔ x = .ok a := by
  cases x <;> simp [Except.toOption]

theorem isOk_iff {α : Type} {x : Except Error α} : x.isOk = true ↔ ∃ a, x = .ok a := by
  cases x <;> simp [Except.isOk, Except.toBool]

theorem toOption_map {α β : Type} (f : α → β) (x : Except Error α) :
    (x.map f).toOption = x.toOption.map f := by
  cases x <;> rfl

theorem isOk_map {α β : Type} (f : α → β) (x : Except Error α) : (x.map f).isOk = x.isOk := by
  cases x <;> rfl

end A2dp
