/-
GuardCost/Proofs/Quotients.lean

Quotients of doubles.  A quotient is divided out to enough digits, with a note on
what is left over (`Cut`), cut off at the exponent it is to have, and rounded to the
nearest mantissa, of two to the even one.  So with the exact quotient `q` of two
usable doubles

    x / y = 0             if                     q ≤ 2 ^ -1075
    x / y is usable       if       2 ^ -1075  <  q  <  2 ^ 1024 - 2 ^ 970
    x / y = infinity      if                           2 ^ 1024 - 2 ^ 970  ≤  q

(`div_cases`): half of the least double is still rounded to zero, and what is half a
unit above the greatest one is rounded to infinity.
-/
import GuardCost.Proofs.DoubleOrder

namespace GuardCost.Binary64

open Float.Model Float.Model.UnpackedFloat

/-! ### Mantissas that are cut off -/

/-- How many halves of a unit a mantissa and its round bit are. -/
def halves (em : ExtendedMantissa) : Nat := 2 * em.mantissa + em.roundBit.toNat

/-- A mantissa with its two bits is what is left of a number that was cut off after
the halves, where the last bit says whether something was lost. -/
structure Cut (em : ExtendedMantissa) (x : ℚ) : Prop where
  floor : ⌊2 * x⌋ = halves em
  lost : em.stickyBit = false ↔ 2 * x = halves em

namespace Cut

variable {em : ExtendedMantissa} {x : ℚ}

theorem le_iff (h : Cut em x) {j : Int} : (j : ℚ) ≤ 2 * x ↔ j ≤ halves em := by
  rw [← h.floor, Int.le_floor]

theorem lt_iff (h : Cut em x) {j : Int} :
    (j : ℚ) < 2 * x ↔ j < halves em ∨ j = halves em ∧ em.stickyBit = true := by
  rw [lt_iff_le_and_ne, h.le_iff]
  cases hsticky : em.stickyBit with
  | false =>
    rw [h.lost.1 hsticky]
    norm_cast
    simp [lt_iff_le_and_ne]
  | true =>
    have hne : 2 * x ≠ halves em := mt h.lost.2 (by simp [hsticky])
    simp only [and_true]
    rw [← le_iff_lt_or_eq, and_iff_left_iff_imp]
    rintro - heq
    have hj : j = halves em := by rw [← h.floor, ← heq, Int.floor_intCast]
    rw [hj] at heq
    exact hne (by exact_mod_cast heq.symm)

theorem le_and_lt (h : Cut em x) : (em.mantissa : ℚ) ≤ x ∧ x < em.mantissa + 1 := by
  have hfloor := Int.floor_eq_iff.1 h.floor
  have hbit : (em.roundBit.toNat : ℚ) ≤ 1 := by exact_mod_cast Bool.toNat_le _
  have hbit' : (0 : ℚ) ≤ em.roundBit.toNat := Nat.cast_nonneg _
  unfold halves at hfloor
  push_cast at hfloor
  constructor <;> linarith

/-- Cut off one digit more. -/
theorem shiftRightOne (h : Cut em x) : Cut em.shiftRightOne (x / 2) := by
  have hhalves : halves em.shiftRightOne = em.mantissa := by
    unfold halves ExtendedMantissa.shiftRightOne
    rcases Nat.mod_two_eq_zero_or_one em.mantissa with hmod | hmod <;> simp [hmod] <;> omega
  have hfloor := Int.floor_eq_iff.1 h.floor
  have hdouble : 2 * (x / 2) = x := by ring
  unfold halves at hfloor
  push_cast at hfloor
  refine ⟨?_, ?_⟩
  · rw [hdouble, hhalves, Int.floor_eq_iff]
    exact_mod_cast h.le_and_lt
  · have hlost := h.lost
    rw [hdouble, hhalves]
    unfold halves at hlost
    unfold ExtendedMantissa.shiftRightOne
    -- a round bit that is set is what gets lost in this step
    cases hround : em.roundBit with
    | false =>
      rw [hround, Bool.toNat_false, Nat.add_zero] at hlost
      push_cast at hlost
      rw [Bool.false_or, hlost]
      constructor <;> intro heq <;> linarith
    | true =>
      rw [hround] at hfloor
      refine iff_of_false (by simp) fun heq => ?_
      rw [heq] at hfloor
      norm_num at hfloor

/-- Cut off more digits. -/
theorem shiftRight (h : Cut em x) (n : Nat) : Cut (em >>> n) (x / 2 ^ n) := by
  show Cut (n.repeat ExtendedMantissa.shiftRightOne em) _
  induction n with
  | zero => rwa [pow_zero, div_one]
  | succ n ih =>
    rw [pow_succ, ← div_div]
    exact ih.shiftRightOne

/-- What is rounded is at least an odd number from half a unit below that number on,
which would be rounded to the even one below, and at least an even number from there. -/
theorem le_roundedMantissa_iff (h : Cut em x) {k : Nat} :
    k ≤ em.roundedMantissa ↔
      if k % 2 = 0 then 2 * (k : ℚ) - 1 ≤ 2 * x else 2 * (k : ℚ) - 1 < 2 * x := by
  have hle := h.le_iff (j := 2 * k - 1)
  have hlt := h.lt_iff (j := 2 * k - 1)
  push_cast at hle hlt
  rw [hle, hlt]
  -- with the two bits in sight, all is said about halves
  obtain ⟨m, round, sticky⟩ := em
  unfold halves ExtendedMantissa.roundedMantissa
  cases round <;> cases sticky <;>
    simp only [ExtendedMantissa.accuracy, Accuracy.roundToNearestEven, Bool.toNat_true,
      Bool.toNat_false] <;>
    split_ifs <;> simp <;> omega

end Cut

/-- What is over a mantissa, in halves, is told by its two bits. -/
theorem cut_of_rest {m : Nat} {round sticky : Bool} {x rest : ℚ} (hx : 2 * x = 2 * m + rest)
    (hle : round.toNat ≤ rest) (hlt : rest < round.toNat + 1)
    (hlost : sticky = false ↔ rest = round.toNat) : Cut ⟨m, round, sticky⟩ x := by
  refine ⟨?_, ?_⟩
  · rw [Int.floor_eq_iff, hx]
    unfold halves
    push_cast
    constructor <;> linarith
  · rw [hlost, hx]
    unfold halves
    push_cast
    rw [add_right_inj]

/-- The remainder of a division says what is cut off. -/
theorem cut_div (m : Nat) {d : Nat} (hd : 0 < d) :
    Cut (.ofMantissaAndAccuracy (m / d) (accuracyOfFraction (m % d) d)) (m / d) := by
  have hdpos : (0 : ℚ) < d := by exact_mod_cast hd
  have hrest : 2 * ((m : ℚ) / d) = 2 * (m / d : Nat) + (2 * (m % d) : Nat) / d := by
    have hsplit : (m : ℚ) = d * (m / d : Nat) + (m % d : Nat) := by
      exact_mod_cast (Nat.div_add_mod m d).symm
    push_cast
    field_simp
    exact hsplit
  have hlt : ((2 * (m % d) : Nat) : ℚ) / d < 1 + 1 := by
    rw [div_lt_iff₀ hdpos, one_add_one_eq_two]
    exact_mod_cast Nat.mul_lt_mul_of_pos_left (Nat.mod_lt m hd) Nat.zero_lt_two
  unfold accuracyOfFraction
  split_ifs with hzero
  · rw [hzero, Nat.mul_zero, Nat.cast_zero, zero_div] at hrest
    exact cut_of_rest hrest (by simp) (by simp) (by simp)
  · have hpos : (0 : ℚ) < ((2 * (m % d) : Nat) : ℚ) / d := by
      have hdouble : 0 < 2 * (m % d) := by omega
      positivity
    rcases lt_trichotomy (2 * (m % d)) d with hcmp | hcmp | hcmp
    · have hhalf : ((2 * (m % d) : Nat) : ℚ) / d < 1 := by
        rw [div_lt_one hdpos]
        exact_mod_cast hcmp
      rw [Nat.compare_eq_lt.2 hcmp]
      exact cut_of_rest hrest (by simpa using hpos.le) (by simpa using hhalf)
        (by simpa using hpos.ne')
    · rw [Nat.compare_eq_eq.2 hcmp]
      rw [hcmp, div_self hdpos.ne'] at hrest
      exact cut_of_rest hrest (by simp) (by norm_num) (by simp)
    · have hhalf : 1 < ((2 * (m % d) : Nat) : ℚ) / d := by
        rw [one_lt_div hdpos]
        exact_mod_cast hcmp
      rw [Nat.compare_eq_gt.2 hcmp]
      exact cut_of_rest hrest (by simpa using hhalf.le) (by simpa using hlt)
        (by simpa using hhalf.ne')

/-! ### Packing -/

/-- A double is known by its view. -/
theorem view_injective : Function.Injective view := by
  intro x y h
  have hpack : ∀ z : Float,
      pack Format.binary64 (view z).unpacked = z.toModel.toBits.toBitVec := by
    intro z
    rw [← unpack_toModel]
    exact pack_unpack_of_valid z.toModel.valid
  refine Float.toBits_inj.1 (UInt64.toBitVec_inj.1 ?_)
  show x.toModel.toBits.toBitVec = y.toModel.toBits.toBitVec
  rw [← hpack, ← hpack, h]

theorem toNat_packComponents (negative : Bool) (e : BitVec 11) (m : BitVec 52) :
    (packComponents Format.binary64 (signOf negative) e m).toNat =
      (if negative then signBit else 0) + e.toNat * hiddenBit + m.toNat := by
  have hsign : (signOf negative).toBitVec.toNat = if negative then 1 else 0 := by
    cases negative <;> rfl
  unfold packComponents
  rw [BitVec.toNat_append, ← Nat.shiftLeft_add_eq_or_of_lt m.isLt, BitVec.toNat_append,
    ← Nat.shiftLeft_add_eq_or_of_lt e.isLt, hsign, Nat.shiftLeft_eq, Nat.shiftLeft_eq]
  unfold signBit hiddenBit
  split_ifs <;> omega

/-- What is packed is seen again. -/
theorem viewBits_packComponents (negative : Bool) (e : BitVec 11) (m : BitVec 52) :
    viewBits (packComponents Format.binary64 (signOf negative) e m).toNat =
      if e.toNat = 2047 then if m.toNat = 0 then .infinite negative else .nan
      else if e.toNat = 0 then .finite negative m.toNat (-1074)
      else .finite negative (hiddenBit + m.toNat) ((e.toNat : Int) - 1075) := by
  have he : e.toNat < 2048 := e.isLt
  have hm : m.toNat < 4503599627370496 := m.isLt
  have hbits := toNat_packComponents negative e m
  obtain ⟨b, hb⟩ : ∃ b, (packComponents Format.binary64 (signOf negative) e m).toNat = b := ⟨_, rfl⟩
  rw [hb] at hbits ⊢
  have hbiased : b / hiddenBit % 2048 = e.toNat := by
    rw [hbits]
    unfold signBit hiddenBit
    split_ifs <;> omega
  have hfraction : b % hiddenBit = m.toNat := by
    rw [hbits]
    unfold signBit hiddenBit
    split_ifs <;> omega
  have hnegative : decide (signBit ≤ b) = negative := by
    rw [hbits]
    unfold signBit hiddenBit
    cases negative <;> simp <;> omega
  rw [viewBits, hbiased, hfraction, hnegative]

theorem pack_finite (sign : Sign) {m : Nat} (e : Int) (hm : 0 < m) :
    UnpackedFloat.pack Format.binary64 (.finite sign m e hm) =
      if 2048 ≤ (e + 1075).toNat + 1 then packedInfinity Format.binary64 sign
      else if m.log2 + 1 = 53 then
        packComponents Format.binary64 sign (BitVec.ofNat 11 (e + 1075).toNat) (BitVec.ofNat 52 m)
      else packComponents Format.binary64 sign 0 (BitVec.ofNat 52 m) := by
  have hbias : e + 1075 = e + 1023 + 52 := by omega
  rw [hbias]
  rfl

/-- A finite number that has been packed is seen again. -/
theorem viewBits_pack {negative : Bool} {m : Nat} {e : Int}
    (h : (View.finite negative m e).IsNumber) :
    viewBits (UnpackedFloat.pack Format.binary64 (View.finite negative m e).unpacked).toNat =
      .finite negative m e := by
  cases h with | finite _ hm hle hge hfull
  have hlast : (BitVec.ofNat 52 m).toNat = m % hiddenBit := BitVec.toNat_ofNat m 52
  unfold hiddenBit at hm hfull hlast
  rcases Nat.eq_zero_or_pos m with rfl | hpos
  · obtain rfl : e = -1074 := by omega
    rw [View.unpacked_zero]
    exact viewBits_packComponents negative 0 0
  · have hbiased : (BitVec.ofNat 11 (e + 1075).toNat).toNat = (e + 1075).toNat := by
      rw [BitVec.toNat_ofNat]
      exact Nat.mod_eq_of_lt (by omega)
    have hlog : m.log2 + 1 = 53 ↔ 4503599627370496 ≤ m := by
      have hlt : m.log2 < 53 := (Nat.log2_lt hpos.ne').2 hm
      have hle : 52 ≤ m.log2 ↔ 2 ^ 52 ≤ m := Nat.le_log2 hpos.ne'
      omega
    rw [View.unpacked_of_pos _ _ hpos, pack_finite, if_neg (by omega)]
    split_ifs with hnormal <;> rw [hlog] at hnormal
    · rw [viewBits_packComponents, hbiased, hlast, if_neg (by omega), if_neg (by omega)]
      congr 1
      · unfold hiddenBit
        omega
      · omega
    · obtain rfl : e = -1074 := by omega
      rw [viewBits_packComponents, hlast, Nat.mod_eq_of_lt (by omega)]
      rfl

/-- What is too great for a double is packed as infinity. -/
theorem viewBits_pack_of_lt {negative : Bool} {m : Nat} {e : Int} (hm : 0 < m) (he : 971 < e) :
    viewBits (UnpackedFloat.pack Format.binary64 (View.finite negative m e).unpacked).toNat =
      .infinite negative := by
  rw [View.unpacked_of_pos _ _ hm, pack_finite, if_pos (by omega)]
  exact viewBits_packComponents negative (-1#11) 0

/-! ### Rounding -/

/-- The exponent that a number is rounded at. -/
theorem targetExponent_eq (m : Nat) (e : Int) :
    Format.binary64.targetExponent (totalExponent m e) =
      max ((m.log2 : Int) + 1 + e - 53) (-1074) := rfl

/-- The view of a mantissa that was rounded, which may have become too long. -/
def rounded (negative : Bool) (n : Nat) (e : Int) : View :=
  if n < 2 * hiddenBit then .finite negative n e else .finite negative hiddenBit (e + 1)

theorem roundWithAccuracy_eq (negative : Bool) {m n : Nat} {e target : Int} {acc : Accuracy}
    (htarget : Format.binary64.targetExponent (totalExponent m e) = target) (hle : e ≤ target)
    (hn : (ExtendedMantissa.ofMantissaAndAccuracy m acc >>> (target - e).toNat).roundedMantissa = n)
    (hlen : n ≤ 2 * hiddenBit) :
    roundWithAccuracy Format.binary64 (signOf negative) m e acc =
      (rounded negative n target).unpacked := by
  have hexp : e + (target - e).toNat = target := by omega
  have hleast : -1074 ≤ target := by
    rw [← htarget, targetExponent_eq]
    exact le_max_right _ _
  unfold roundWithAccuracy shiftToTargetExponent shiftToExponent
  simp only [htarget, hn, hexp]
  -- the second shift is there for a mantissa that was rounded up to one digit more
  by_cases hlt : n < 2 * hiddenBit
  · have hagain :
        (Format.binary64.targetExponent (totalExponent n target) - target).toNat = 0 := by
      have hlog : n.log2 < 53 := by
        by_cases hzero : n = 0
        · rw [hzero]
          decide
        · exact (Nat.log2_lt hzero).2 hlt
      rw [targetExponent_eq]
      omega
    rw [rounded, if_pos hlt, View.unpacked]
    simp only [hagain, Nat.cast_zero, add_zero]
    rfl
  · obtain rfl : n = 2 * hiddenBit := by omega
    have hagain : Format.binary64.targetExponent (totalExponent (2 * hiddenBit) target) =
        target + 1 := by
      have hlog : (2 * hiddenBit).log2 = 53 := by decide
      rw [targetExponent_eq, hlog]
      omega
    rw [rounded, if_neg hlt, View.unpacked]
    simp only [hagain, add_sub_cancel_left]
    rfl

/-- The mantissa `n` is what a number above zero comes to if it is rounded at the
exponent `e`, where it has all its digits in front of the point unless the exponent
is the least one. -/
structure Nearest (q : ℚ) (n : Nat) (e : Int) : Prop where
  least : -1074 ≤ e
  short : q < 2 * hiddenBit * 2 ^ e
  full : hiddenBit * 2 ^ e ≤ q ∨ e = -1074
  le_iff : ∀ k : Nat, k ≤ n ↔
    if k % 2 = 0 then (2 * k - 1) * 2 ^ e ≤ 2 * q else (2 * k - 1) * 2 ^ e < 2 * q

/-- The exponent of a mantissa that is cut off is as great as its digits ask for. -/
theorem bounds_of_targetExponent {m : Nat} {e target : Int} {y : ℚ}
    (htarget : Format.binary64.targetExponent (totalExponent m e) = target) (hle : e ≤ target)
    (hm : (m : ℚ) ≤ y) (hm' : y < m + 1) :
    y < 2 * hiddenBit * 2 ^ (target - e) ∧
      (hiddenBit * 2 ^ (target - e) ≤ y ∨ target = -1074) := by
  have hbit : (hiddenBit : ℚ) = 2 ^ (52 : ℤ) := by norm_num [hiddenBit]
  rw [targetExponent_eq] at htarget
  constructor
  · have hdigits : (m : ℚ) + 1 ≤ 2 ^ ((m.log2 : ℤ) + 1) := by exact_mod_cast Nat.lt_log2_self
    calc y < m + 1 := hm'
      _ ≤ 2 ^ ((m.log2 : ℤ) + 1) := hdigits
      _ ≤ 2 ^ (1 + 52 + (target - e)) := zpow_le_zpow_right₀ one_le_two (by omega)
      _ = 2 * hiddenBit * 2 ^ (target - e) := by
        rw [hbit, zpow_add₀ two_ne_zero, zpow_add₀ two_ne_zero, zpow_one]
  · by_cases hleast : target = -1074
    · exact .inr hleast
    · have hpos : m ≠ 0 := by
        rintro rfl
        have hlog : Nat.log2 0 = 0 := by decide
        rw [hlog] at htarget
        omega
      have hdigits : (2 : ℚ) ^ (m.log2 : ℤ) ≤ m := by exact_mod_cast Nat.log2_self_le hpos
      refine .inl (le_trans (le_of_eq ?_) (hdigits.trans hm))
      rw [hbit, ← zpow_add₀ two_ne_zero]
      congr 1
      omega

/-- A quotient that is divided out far enough has all its digits. -/
theorem hiddenBit_le_div {m₁ m₂ s : Nat} (h₁ : 0 < m₁) (h₂ : 0 < m₂)
    (hs : m₂.log2 + 53 ≤ m₁.log2 + s) : hiddenBit ≤ (m₁ <<< s) / m₂ := by
  rw [Nat.le_div_iff_mul_le h₂, Nat.shiftLeft_eq]
  calc hiddenBit * m₂ ≤ 2 ^ 52 * 2 ^ (m₂.log2 + 1) :=
        Nat.mul_le_mul le_rfl Nat.lt_log2_self.le
    _ = 2 ^ (m₂.log2 + 53) := by
      rw [← pow_add]
      congr 1
      omega
    _ ≤ 2 ^ (m₁.log2 + s) := Nat.pow_le_pow_right Nat.zero_lt_two hs
    _ = 2 ^ m₁.log2 * 2 ^ s := pow_add ..
    _ ≤ m₁ * 2 ^ s := Nat.mul_le_mul (Nat.log2_self_le h₁.ne') le_rfl

/-- What is cut off and rounded comes nearest. -/
theorem nearest_of_cut {m : Nat} {e target : Int} {acc : Accuracy} {y : ℚ}
    (htarget : Format.binary64.targetExponent (totalExponent m e) = target) (hle : e ≤ target)
    (hcut : Cut (.ofMantissaAndAccuracy m acc) y) : Nearest (y * 2 ^ e)
      (ExtendedMantissa.ofMantissaAndAccuracy m acc >>> (target - e).toNat).roundedMantissa
      target := by
  have hmantissa : (ExtendedMantissa.ofMantissaAndAccuracy m acc).mantissa = m := by
    rcases acc with - | (- | - | -) <;> rfl
  have hpos : (0 : ℚ) < 2 ^ e := by positivity
  have hsplit : (2 : ℚ) ^ target = 2 ^ (target - e) * 2 ^ e := by
    rw [← zpow_add₀ two_ne_zero, sub_add_cancel]
  obtain ⟨hm, hm'⟩ := hmantissa ▸ hcut.le_and_lt
  obtain ⟨hshort, hfull⟩ := bounds_of_targetExponent htarget hle hm hm'
  refine ⟨?_, ?_, ?_, fun k => ?_⟩
  · rw [← htarget]
    exact le_max_right _ _
  · rw [hsplit, ← mul_assoc]
    exact mul_lt_mul_of_pos_right hshort hpos
  · rw [hsplit, ← mul_assoc]
    exact hfull.imp_left fun h => mul_le_mul_of_nonneg_right h hpos.le
  · have hshift : (2 : ℚ) ^ (target - e).toNat = 2 ^ (target - e) := by
      rw [← zpow_natCast, Int.toNat_of_nonneg (by omega)]
    have hunit : (0 : ℚ) < 2 ^ (target - e) := by positivity
    rw [(hcut.shiftRight _).le_roundedMantissa_iff, hshift, ← mul_div_assoc, le_div_iff₀ hunit,
      lt_div_iff₀ hunit, hsplit, ← mul_assoc, ← mul_assoc, mul_le_mul_iff_left₀ hpos,
      mul_lt_mul_iff_left₀ hpos]

/-- A mantissa that is rounded has become no longer than by one digit. -/
theorem Nearest.le {q : ℚ} {n : Nat} {e : Int} (h : Nearest q n e) : n ≤ 2 * hiddenBit := by
  by_contra hlt
  have hle := (h.le_iff (2 * hiddenBit + 1)).1 (by omega)
  rw [if_neg (by decide)] at hle
  have hpos : (0 : ℚ) < 2 ^ e := by positivity
  have hshort := h.short
  push_cast at hle
  linarith

/-- What the division of finite doubles above zero comes to before it is packed. -/
theorem div_finite {m₁ m₂ : Nat} (h₁ : 0 < m₁) (h₂ : 0 < m₂) (e₁ e₂ : Int) :
    ∃ n e, Nearest (m₁ * 2 ^ e₁ / (m₂ * 2 ^ e₂)) n e ∧
      UnpackedFloat.div Format.binary64 (.finite .positive m₁ e₁ h₁) (.finite .positive m₂ e₂ h₂) =
        (rounded false n e).unpacked := by
  obtain ⟨t, ht⟩ : ∃ t, t = min (e₁ - e₂)
      (Format.binary64.targetExponent (totalExponent m₁ e₁ - totalExponent m₂ e₂)) := ⟨_, rfl⟩
  obtain ⟨s, hs⟩ : ∃ s, s = (e₁ - e₂ - t).toNat := ⟨_, rfl⟩
  obtain ⟨target, htarget⟩ : ∃ target,
      Format.binary64.targetExponent (totalExponent ((m₁ <<< s) / m₂) t) = target := ⟨_, rfl⟩
  have hexponents : e₁ - e₂ = s + t := by omega
  have hexact : (m₁ * 2 ^ e₁ / (m₂ * 2 ^ e₂) : ℚ) = ((m₁ <<< s : Nat) : ℚ) / m₂ * 2 ^ t := by
    rw [mul_div_mul_comm, ← zpow_sub₀ two_ne_zero, hexponents, zpow_add₀ two_ne_zero,
      Nat.shiftLeft_eq, zpow_natCast]
    push_cast
    ring
  have hle : t ≤ target := by
    have hleast : t ≤ max ((m₁.log2 + 1 + e₁ : Int) - (m₂.log2 + 1 + e₂) - 53) (-1074) :=
      ht.trans_le (min_le_right _ _)
    rw [targetExponent_eq] at htarget
    -- the least exponent is that of every mantissa that is short of digits
    by_cases hsmall : t ≤ -1074
    · omega
    · have hfull : hiddenBit ≤ (m₁ <<< s) / m₂ := hiddenBit_le_div h₁ h₂ (by omega)
      have hlog : 52 ≤ ((m₁ <<< s) / m₂).log2 :=
        (Nat.le_log2 (by unfold hiddenBit at hfull; omega)).2 hfull
      omega
  have hnearest := nearest_of_cut htarget hle (cut_div (m₁ <<< s) h₂)
  refine ⟨_, target, hexact ▸ hnearest, ?_⟩
  rw [← roundWithAccuracy_eq false htarget hle rfl hnearest.le, hs, ht]
  rfl

/-! ### Too small and too great -/

/-- What a double stands for as a rational number. -/
def View.value : View → ℚ
  | .finite negative m e => signed negative m * 2 ^ e
  | _ => 0

/-- The rational number that a double stands for, or zero if there is none. -/
def value (x : Float) : ℚ := (view x).value

/-- Half of the least double above zero. -/
def leastHalf : ℚ := 2 ^ (-1075 : ℤ)

/-- The greatest finite double and half a unit. -/
def ceiling : ℚ := 2 ^ (1024 : ℤ) - 2 ^ (970 : ℤ)

/-- A number above zero that is neither rounded to zero nor to infinity. -/
def Fits (q : ℚ) : Prop := leastHalf < q ∧ q < ceiling

namespace Nearest

variable {q : ℚ} {n : Nat} {e : Int}

theorem le_of_eq_zero (h : Nearest q 0 e) : e = -1074 ∧ q ≤ leastHalf := by
  have hpos : (0 : ℚ) < 2 ^ e := by positivity
  have hsmall := mt (h.le_iff 1).2 (by decide)
  rw [if_neg (by decide), not_lt] at hsmall
  push_cast at hsmall
  have he : e = -1074 := by
    refine h.full.resolve_left fun hfull => ?_
    unfold hiddenBit at hfull
    push_cast at hfull
    linarith
  have hhalf : (2 : ℚ) ^ (-1074 : ℤ) = leastHalf * 2 := by
    rw [leastHalf, ← zpow_add_one₀ two_ne_zero]
    rfl
  rw [he, hhalf] at hsmall
  exact ⟨he, by linarith⟩

theorem lt_of_ne_zero (h : Nearest q n e) (hn : n ≠ 0) : leastHalf < q := by
  have hlarge := (h.le_iff 1).1 (by omega)
  rw [if_neg (by decide)] at hlarge
  push_cast at hlarge
  have hhalf : leastHalf * 2 ≤ 2 ^ e := by
    rw [leastHalf, ← zpow_add_one₀ two_ne_zero]
    exact zpow_le_zpow_right₀ one_le_two h.least
  linarith

theorem hiddenBit_le (h : Nearest q n e) : hiddenBit ≤ n ∨ e = -1074 := by
  refine h.full.imp_left fun hfull => (h.le_iff hiddenBit).2 ?_
  have hpos : (0 : ℚ) < 2 ^ e := by positivity
  rw [if_pos (by decide)]
  linarith

/-- The ceiling is half a unit above the greatest mantissa at the greatest exponent. -/
theorem two_mul_ceiling : 2 * ceiling =
    (2 * (2 * hiddenBit : Nat) - 1) * 2 ^ (971 : ℤ) := by
  have htop : (2 : ℚ) ^ (1024 : ℤ) = 2 ^ (53 : ℤ) * 2 ^ (971 : ℤ) := by
    rw [← zpow_add₀ two_ne_zero]
    rfl
  have hunit : (2 : ℚ) ^ (971 : ℤ) = 2 * 2 ^ (970 : ℤ) := by
    rw [← zpow_one_add₀ two_ne_zero]
    rfl
  rw [ceiling, htop, hunit]
  generalize (2 : ℚ) ^ (970 : ℤ) = u
  unfold hiddenBit
  norm_num
  ring

/-- What is rounded to a double that is not infinite. -/
theorem lt_of_view (h : Nearest q n e) {m : Nat} {f : Int}
    (hview : rounded false n e = .finite false m f) (hf : f ≤ 971) :
    q < ceiling := by
  have hceiling := two_mul_ceiling
  unfold rounded at hview
  split_ifs at hview with hn
  · cases hview
    have hsmall := mt (h.le_iff (2 * hiddenBit)).2 (not_le.2 hn)
    rw [if_pos (by decide), not_le] at hsmall
    have hunit : (2 : ℚ) ^ e ≤ 2 ^ (971 : ℤ) := zpow_le_zpow_right₀ one_le_two hf
    generalize (2 : ℚ) ^ (971 : ℤ) = u at *
    unfold hiddenBit at hsmall hceiling
    push_cast at hsmall hceiling
    linarith
  · cases hview
    have hunit : (2 : ℚ) ^ e * 2 ≤ 2 ^ (971 : ℤ) := by
      rw [← zpow_add_one₀ two_ne_zero]
      exact zpow_le_zpow_right₀ one_le_two hf
    have hshort := h.short
    have hpos : (0 : ℚ) < 2 ^ e := by positivity
    generalize (2 : ℚ) ^ (971 : ℤ) = u at *
    unfold hiddenBit at hshort hceiling
    push_cast at hshort hceiling
    linarith

/-- What is rounded to infinity. -/
theorem le_of_view (h : Nearest q n e) {m : Nat} {f : Int}
    (hview : rounded false n e = .finite false m f) (hf : 971 < f) :
    ceiling ≤ q := by
  have hceiling := two_mul_ceiling
  unfold rounded at hview
  split_ifs at hview with hn
  · cases hview
    have hfull := h.full.resolve_right (by omega)
    have hunit : (2 : ℚ) ^ (971 : ℤ) * 2 ≤ 2 ^ e := by
      rw [← zpow_add_one₀ two_ne_zero]
      exact zpow_le_zpow_right₀ one_le_two (by omega)
    have hpos : (0 : ℚ) < 2 ^ (971 : ℤ) := by positivity
    generalize (2 : ℚ) ^ (971 : ℤ) = u at *
    unfold hiddenBit at hfull hceiling
    push_cast at hfull hceiling
    linarith
  · cases hview
    have hlarge := (h.le_iff (2 * hiddenBit)).1 (by omega)
    rw [if_pos (by decide)] at hlarge
    have hunit : (2 : ℚ) ^ (971 : ℤ) ≤ 2 ^ e := zpow_le_zpow_right₀ one_le_two (by omega)
    generalize (2 : ℚ) ^ (971 : ℤ) = u at *
    unfold hiddenBit at hlarge hceiling
    push_cast at hlarge hceiling
    linarith

/-- What is rounded and not too great is a number. -/
theorem isNumber (h : Nearest q n e) {m : Nat} {f : Int}
    (hview : rounded false n e = .finite false m f) (hf : f ≤ 971) :
    (View.finite false m f).IsNumber := by
  have hleast := h.least
  unfold rounded at hview
  split_ifs at hview with hn
  · cases hview
    exact .finite _ hn hleast hf h.hiddenBit_le
  · cases hview
    exact .finite _ (by decide) (by omega) hf (.inl le_rfl)

end Nearest

/-- **When a quotient of usable doubles is usable.**  If the exact quotient is half
of the least double or less, the quotient is zero; if it is the greatest double and
half a unit or more, it is infinity; and it is positive and finite in between. -/
theorem div_cases {x y : Float} (hx : isUsable x = true) (hy : isUsable y = true) :
    (value x / value y ≤ leastHalf ∧ x / y = 0) ∨
    (Fits (value x / value y) ∧ isUsable (x / y) = true) ∨
    (ceiling ≤ value x / value y ∧ x / y = infinity) := by
  obtain ⟨m₁, e₁, h₁, hview₁⟩ := isUsable_iff_view.1 hx
  obtain ⟨m₂, e₂, h₂, hview₂⟩ := isUsable_iff_view.1 hy
  obtain ⟨n, e, hnear, hdiv⟩ := div_finite h₁ h₂ e₁ e₂
  have hexact : value x / value y = m₁ * 2 ^ e₁ / (m₂ * 2 ^ e₂) := by
    rw [value, value, hview₁, hview₂]
    simp [View.value]
  have hview : view (x / y) =
      viewBits (UnpackedFloat.pack Format.binary64 (rounded false n e).unpacked).toNat := by
    rw [← hdiv]
    show viewBits (UnpackedFloat.pack Format.binary64 (UnpackedFloat.div Format.binary64
      x.toModel.unpack y.toModel.unpack)).toNat = _
    rw [unpack_toModel, unpack_toModel, hview₁, hview₂, View.unpacked_of_pos _ _ h₁,
      View.unpacked_of_pos _ _ h₂]
    rfl
  rw [hexact]
  by_cases hn : n = 0
  · subst hn
    obtain ⟨rfl, hsmall⟩ := hnear.le_of_eq_zero
    refine .inl ⟨hsmall, view_injective (hview.trans ?_)⟩
    decide
  · obtain ⟨m, f, hm, hrounded⟩ : ∃ m f, 0 < m ∧ rounded false n e = .finite false m f := by
      unfold rounded
      split_ifs
      · exact ⟨n, e, Nat.pos_of_ne_zero hn, rfl⟩
      · exact ⟨hiddenBit, e + 1, by decide, rfl⟩
    rw [hrounded] at hview
    by_cases hf : f ≤ 971
    · rw [viewBits_pack (hnear.isNumber hrounded hf)] at hview
      exact .inr (.inl ⟨⟨hnear.lt_of_ne_zero hn, hnear.lt_of_view hrounded hf⟩,
        isUsable_iff_view.2 ⟨m, f, hm, hview⟩⟩)
    · rw [viewBits_pack_of_lt hm (not_le.1 hf)] at hview
      refine .inr (.inr ⟨hnear.le_of_view hrounded (not_le.1 hf), view_injective ?_⟩)
      rw [hview]
      decide

/-- A quotient of usable doubles is usable if and only if it fits. -/
theorem isUsable_div_iff {x y : Float} (hx : isUsable x = true) (hy : isUsable y = true) :
    isUsable (x / y) = true ↔ Fits (value x / value y) := by
  rcases div_cases hx hy with ⟨hq, hdiv⟩ | ⟨hq, hdiv⟩ | ⟨hq, hdiv⟩
  · rw [hdiv]
    exact iff_of_false (by decide) fun h => not_le.2 h.1 hq
  · exact iff_of_true hdiv hq
  · rw [hdiv]
    exact iff_of_false (by decide) fun h => not_le.2 h.2 hq

end GuardCost.Binary64
