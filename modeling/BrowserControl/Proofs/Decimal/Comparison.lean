import BrowserControl.Decimal.Binary64

/-!
# Comparing Binary64 Numbers with Zero

Binary64 numbers are compared after their bits have been taken apart into sign, exponent and significand.
A number that is not below zero is at least zero, unless it is no number at all: that one is neither below
zero nor equal to it, nor above it.  The bits of a finite number survive being taken apart and put
together again, so a pattern between those of zero and of infinity gives a number above zero.
-/

namespace BrowserControl.Decimal

open Float.Model Float.Model.UnpackedFloat

/-! ## Numbers that are not below zero -/

/-- Floating point numbers are compared as their unpacked forms are. -/
theorem lt_iff_unpack (left right : Float) :
    left < right ↔ left.toModel.unpack.compare right.toModel.unpack = some .lt := by
  change Float.lt left right = true ↔ _
  rw [Float.lt, decide_eq_true_iff]
  exact beq_iff_eq

theorem le_iff_unpack (left right : Float) :
    left ≤ right ↔ (left.toModel.unpack.compare right.toModel.unpack).any (·.isLE) = true := by
  change Float.le left right = true ↔ _
  rw [Float.le, decide_eq_true_iff]
  exact Iff.rfl

theorem beq_iff_unpack (left right : Float) :
    (left == right) = true ↔ left.toModel.unpack.compare right.toModel.unpack = some .eq :=
  beq_iff_eq (a := left.toModel.unpack.compare right.toModel.unpack)

theorem unpack_zero : (0 : Float).toModel.unpack = .zero .positive :=
  rfl

theorem zero_le_of_zero_lt {number : Float} (hpos : 0 < number) : 0 ≤ number := by
  rw [lt_iff_unpack] at hpos
  rw [le_iff_unpack, hpos]
  rfl

/-- What is not below zero is equal to it or above it, unless it is no number. -/
theorem compare_zero_of_ne_lt {unpacked : UnpackedFloat}
    (hnot : unpacked.compare (.zero .positive) ≠ some .lt) (hnumber : unpacked.isNaN = false) :
    unpacked.compare (.zero .positive) = some .eq ∧
        UnpackedFloat.compare (.zero .positive) unpacked = some .eq ∨
      UnpackedFloat.compare (.zero .positive) unpacked = some .lt := by
  cases unpacked with
  | notANumber => contradiction
  | zero sign => exact .inl ⟨rfl, rfl⟩
  | infinity sign =>
    cases sign with
    | positive => exact .inr rfl
    | negative => exact absurd rfl hnot
  | finite sign significand exponent =>
    cases sign with
    | positive => exact .inr rfl
    | negative => exact absurd rfl hnot

variable {number : Float}

/-- A number that is not below zero is at least zero. -/
theorem zero_le_of_not_lt (hnot : ¬number < 0) (hnumber : number.isNaN = false) : 0 ≤ number := by
  rw [lt_iff_unpack, unpack_zero] at hnot
  rw [le_iff_unpack, unpack_zero]
  rcases compare_zero_of_ne_lt hnot hnumber with ⟨-, heq⟩ | hlt
  · rw [heq]
    rfl
  · rw [hlt]
    rfl

theorem zero_lt_of_not_lt (hnot : ¬number < 0) (hne : ¬(number == 0) = true)
    (hnumber : number.isNaN = false) : 0 < number := by
  rw [lt_iff_unpack, unpack_zero] at hnot
  rw [beq_iff_unpack, unpack_zero] at hne
  rw [lt_iff_unpack, unpack_zero]
  exact (compare_zero_of_ne_lt hnot hnumber).resolve_left fun heq ↦ hne heq.1

/-- What is no number is not at least zero. -/
theorem isNaN_eq_false_of_zero_le (hle : 0 ≤ number) : number.isNaN = false := by
  rw [le_iff_unpack, unpack_zero] at hle
  change number.toModel.unpack.isNaN = false
  cases hunpack : number.toModel.unpack with
  | notANumber =>
    rw [hunpack] at hle
    contradiction
  | _ => rfl

/-! ## Bits of finite numbers -/

section

variable {bits : BitVec Format.binary64.numBits}

theorem toNat_unpackSign : (unpackSign bits).toNat = bits.toNat / signBit % 2 := by
  change (bits.extractLsb 63 63).toNat = _
  simp [signBit, BitVec.extractLsb, Nat.shiftRight_eq_div_pow]

theorem toNat_unpackExponent : (unpackExponent bits).toNat = bits.toNat / leadingBit % 0x800 := by
  change (bits.extractLsb 62 52).toNat = _
  simp [leadingBit, BitVec.extractLsb, Nat.shiftRight_eq_div_pow]

theorem toNat_unpackMantissa : (unpackMantissa bits).toNat = bits.toNat % leadingBit := by
  change (bits.extractLsb 51 0).toNat = _
  simp [leadingBit, BitVec.extractLsb]

theorem toNat_one_append (mantissa : BitVec Format.binary64.mantissaBitsWithoutImplicit) :
    (1#1 ++ mantissa).toNat = leadingBit + mantissa.toNat := by
  rw [BitVec.toNat_append, ← Nat.shiftLeft_add_eq_or_of_lt mantissa.isLt]
  rfl

/-- Packing puts the sign above the exponent and the exponent above the mantissa. -/
theorem toNat_packComponents (sign : Sign) (exponent : BitVec Format.binary64.exponentBits)
    (mantissa : BitVec Format.binary64.mantissaBitsWithoutImplicit) :
    (packComponents .binary64 sign exponent mantissa).toNat =
      (sign.toBitVec.toNat * 0x800 + exponent.toNat) * leadingBit + mantissa.toNat := by
  change (sign.toBitVec ++ exponent ++ mantissa).toNat = _
  rw [BitVec.toNat_append, ← Nat.shiftLeft_add_eq_or_of_lt mantissa.isLt, BitVec.toNat_append,
    ← Nat.shiftLeft_add_eq_or_of_lt exponent.isLt, Nat.shiftLeft_eq, Nat.shiftLeft_eq]
  rfl

/-- Bits are sign, exponent and mantissa next to each other. -/
theorem packComponents_unpack (bits : BitVec Format.binary64.numBits) :
    packComponents .binary64 (Sign.ofBitVec (unpackSign bits)) (unpackExponent bits)
      (unpackMantissa bits) = bits := by
  have hsign : ∀ bit : BitVec 1, (Sign.ofBitVec bit).toBitVec = bit := by decide
  have hbits : bits.toNat < 2 * signBit := bits.isLt
  refine BitVec.eq_of_toNat_eq ?_
  rw [toNat_packComponents, hsign, toNat_unpackSign, toNat_unpackExponent, toNat_unpackMantissa]
  unfold signBit leadingBit at *
  omega

/-- A normal pattern stands for its mantissa with the leading bit. -/
theorem unpack_of_normal (hfinite : unpackExponent bits ≠ -1#_) (hnormal : unpackExponent bits ≠ 0#_)
    (hpos : 0 < (1#1 ++ unpackMantissa bits).toNat) :
    UnpackedFloat.unpack .binary64 bits =
      .finite (Sign.ofBitVec (unpackSign bits)) (1#1 ++ unpackMantissa bits).toNat
        (((unpackExponent bits).toNat : Int) - (1023 + 52)) hpos :=
  (if_neg hfinite).trans (if_neg hnormal)

theorem unpack_of_subnormal (hzero : unpackExponent bits = 0#_)
    (hpos : 0 < (unpackMantissa bits).toNat) :
    UnpackedFloat.unpack .binary64 bits =
      .finite (Sign.ofBitVec (unpackSign bits)) (unpackMantissa bits).toNat (0 - (1023 + 52) + 1)
        hpos := by
  have hfinite : unpackExponent bits ≠ -1#_ := by
    rw [hzero]
    decide
  have hmantissa : unpackMantissa bits ≠ 0#_ := by
    rintro hnone
    rw [hnone] at hpos
    contradiction
  have hexponent : ((unpackExponent bits).toNat : Int) = 0 := by
    rw [hzero]
    rfl
  refine (if_neg hfinite).trans ((if_pos hzero).trans ((dif_neg hmantissa).trans ?_))
  change UnpackedFloat.finite _ _ (((unpackExponent bits).toNat : Int) - (1023 + 52) + 1) _ = _
  rw [hexponent]

/-- A significand with its leading bit is packed without it, next to the exponent. -/
theorem pack_normal (sign : Sign) {exponent : BitVec Format.binary64.exponentBits}
    (mantissa : BitVec Format.binary64.mantissaBitsWithoutImplicit) (hfinite : exponent ≠ -1#_)
    (hpos : 0 < (1#1 ++ mantissa).toNat) :
    UnpackedFloat.pack .binary64
        (.finite sign (1#1 ++ mantissa).toNat ((exponent.toNat : Int) - (1023 + 52)) hpos) =
      packComponents .binary64 sign exponent mantissa := by
  have hmantissa : mantissa.toNat < leadingBit := mantissa.isLt
  have hexponent : exponent.toNat + 1 < 2 ^ 11 := by
    have hlt : exponent.toNat < 2 ^ 11 := exponent.isLt
    have hne : exponent.toNat ≠ 2 ^ 11 - 1 := fun heq ↦ hfinite (BitVec.eq_of_toNat_eq heq)
    omega
  have hbiased : ((exponent.toNat : Int) - (1023 + 52) + 1023 + 52).toNat = exponent.toNat := by
    omega
  have hleading : (1#1 ++ mantissa).toNat.log2 + 1 = 53 := by
    rw [toNat_one_append, Nat.add_right_cancel_iff (n := 1), Nat.log2_eq_iff (by omega)]
    unfold leadingBit at *
    omega
  have hwithout : BitVec.ofNat 52 (1#1 ++ mantissa).toNat = mantissa := by
    refine BitVec.eq_of_toNat_eq ?_
    rw [toNat_one_append, BitVec.toNat_ofNat]
    unfold leadingBit at *
    omega
  -- the definition of packing, with the widths of this format put in
  change (if 2 ^ 11 ≤ ((exponent.toNat : Int) - (1023 + 52) + 1023 + 52).toNat + 1 then
      packedInfinity .binary64 sign
    else if (1#1 ++ mantissa).toNat.log2 + 1 = 53 then
      packComponents .binary64 sign
        (BitVec.ofNat 11 ((exponent.toNat : Int) - (1023 + 52) + 1023 + 52).toNat)
        (BitVec.ofNat 52 (1#1 ++ mantissa).toNat)
    else packComponents .binary64 sign 0 (BitVec.ofNat 52 (1#1 ++ mantissa).toNat)) = _
  rw [hbiased, if_neg (by omega), if_pos hleading, hwithout, BitVec.ofNat_toNat, BitVec.setWidth_eq]

/-- A significand without its leading bit is packed next to the exponent zero. -/
theorem pack_subnormal (sign : Sign)
    (mantissa : BitVec Format.binary64.mantissaBitsWithoutImplicit) (hpos : 0 < mantissa.toNat) :
    UnpackedFloat.pack .binary64 (.finite sign mantissa.toNat (0 - (1023 + 52) + 1) hpos) =
      packComponents .binary64 sign 0#_ mantissa := by
  have hleading : mantissa.toNat.log2 < 52 := (Nat.log2_lt (by omega)).2 mantissa.isLt
  change (if 2 ^ 11 ≤ 1 + 1 then packedInfinity .binary64 sign else
    if mantissa.toNat.log2 + 1 = 53 then
      packComponents .binary64 sign (BitVec.ofNat 11 1) (BitVec.ofNat 52 mantissa.toNat)
    else packComponents .binary64 sign 0#_ (BitVec.ofNat 52 mantissa.toNat)) = _
  rw [if_neg (by decide), if_neg (by omega), BitVec.ofNat_toNat, BitVec.setWidth_eq]

theorem unpackSign_eq_zero (hfinite : bits.toNat < infinityPattern) : unpackSign bits = 0#1 := by
  refine BitVec.eq_of_toNat_eq ?_
  rw [toNat_unpackSign, Nat.div_eq_of_lt (Nat.lt_trans hfinite (by decide))]
  rfl

theorem unpackExponent_ne_full (hfinite : bits.toNat < infinityPattern) :
    unpackExponent bits ≠ -1#_ := by
  intro hfull
  have hquotient : bits.toNat / leadingBit % 0x800 = 0x7FF := by
    rw [← toNat_unpackExponent, hfull]
    rfl
  have hlt : bits.toNat / leadingBit < 0x7FF := Nat.div_lt_of_lt_mul (by rwa [Nat.mul_comm])
  rw [Nat.mod_eq_of_lt (Nat.lt_trans hlt (by decide))] at hquotient
  exact absurd hquotient (Nat.ne_of_lt hlt)

/-- The bits of a finite number above zero survive being taken apart and put together, and what
they are taken apart into is above zero. -/
theorem compare_zero_unpack_pack (bits : BitVec Format.binary64.numBits) (hpos : 0 < bits.toNat)
    (hfinite : bits.toNat < infinityPattern) :
    UnpackedFloat.compare (.zero .positive) (UnpackedFloat.unpack .binary64
      (UnpackedFloat.pack .binary64 (UnpackedFloat.unpack .binary64 bits))) = some .lt := by
  have hself := packComponents_unpack bits
  have hsign := unpackSign_eq_zero hfinite
  by_cases hzero : unpackExponent bits = 0#_
  · have hmantissa : 0 < (unpackMantissa bits).toNat := by
      have hsum := congrArg BitVec.toNat hself
      rw [toNat_packComponents, hsign, hzero] at hsum
      exact Nat.lt_of_lt_of_eq hpos (hsum.symm.trans (Nat.zero_add _))
    have hunpack := unpack_of_subnormal hzero hmantissa
    rw [hunpack, pack_subnormal, ← hzero, hself, hunpack, hsign]
    rfl
  · have hexponent := unpackExponent_ne_full hfinite
    have hmantissa : 0 < (1#1 ++ unpackMantissa bits).toNat := by
      rw [toNat_one_append]
      exact Nat.add_pos_left (by decide) _
    have hunpack := unpack_of_normal hexponent hzero hmantissa
    rw [hunpack, pack_normal _ _ hexponent, hself, hunpack, hsign]
    rfl

end

/-- A bit pattern between those of zero and of infinity gives a number above zero. -/
theorem zero_lt_ofPattern {pattern : Nat} (hpos : 0 < pattern) (hfinite : pattern < infinityPattern) :
    0 < ofPattern false pattern := by
  have hbits : (UInt64.ofNat pattern).toBitVec.toNat = pattern :=
    Nat.mod_eq_of_lt (Nat.lt_trans hfinite (by decide))
  rw [lt_iff_unpack, unpack_zero]
  exact compare_zero_unpack_pack (UInt64.ofNat pattern).toBitVec (by rwa [hbits]) (by rwa [hbits])

end BrowserControl.Decimal
