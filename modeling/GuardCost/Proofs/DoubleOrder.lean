/-
GuardCost/Proofs/DoubleOrder.lean

The order of doubles.  A double is compared by what it stands for, sorted by its
bits; both go by its place on the number line, counted in doubles from zero

    m · 2 ^ e    at    (e + 1074) · 2 ^ 52 + m          and negative ones mirrored

which is also what its bits say, read as a number.  So on doubles that are no NaN
`<` is the order of the places (`lt_iff_place_lt`), in which only the two zeros
coincide, and the total order refines it (`place_le_of_rank_le`) and tells all
doubles apart (`rank_injective`).
-/
import GuardCost.Number.Binary64
import Mathlib

namespace GuardCost.Binary64

open Float.Model Float.Model.UnpackedFloat

/-! ### Views and the doubles that are computed with -/

/-- The sign of what is negative or not. -/
def signOf (negative : Bool) : Sign := if negative then .negative else .positive

/-- What a view stands for, in the form in which doubles are computed with. -/
def View.unpacked : View → UnpackedFloat
  | .nan => .notANumber
  | .infinite negative => .infinity (signOf negative)
  | .finite negative m e =>
    if h : m = 0 then .zero (signOf negative)
    else .finite (signOf negative) m e (Nat.pos_of_ne_zero h)

@[simp] theorem View.unpacked_zero (negative : Bool) (e : Int) :
    (View.finite negative 0 e).unpacked = .zero (signOf negative) := by
  rw [View.unpacked, dif_pos rfl]

theorem View.unpacked_of_pos (negative : Bool) {m : Nat} (e : Int) (hm : 0 < m) :
    (View.finite negative m e).unpacked = .finite (signOf negative) m e hm := by
  rw [View.unpacked, dif_neg hm.ne']

section
variable (b : BitVec Format.binary64.numBits)

theorem toNat_unpackExponent : (unpackExponent b).toNat = b.toNat / hiddenBit % 2048 := by
  rw [unpackExponent_def, BitVec.extractLsb'_toNat, Nat.shiftRight_eq_div_pow]
  rfl

theorem toNat_unpackMantissa : (unpackMantissa b).toNat = b.toNat % hiddenBit := by
  rw [unpackMantissa_def, BitVec.extractLsb'_toNat, Nat.shiftRight_zero]
  rfl

theorem sign_unpackSign : Sign.ofBitVec (unpackSign b) = signOf (decide (signBit ≤ b.toNat)) := by
  have hsign : (unpackSign b).toNat = b.toNat / signBit % 2 := by
    rw [unpackSign_def, BitVec.extractLsb'_toNat, Nat.shiftRight_eq_div_pow]
    rfl
  have hlt : b.toNat < 2 ^ 64 := b.isLt
  have hzero : unpackSign b = 0#1 ↔ ¬ signBit ≤ b.toNat := by
    rw [← BitVec.toNat_inj, hsign]
    show b.toNat / 9223372036854775808 % 2 = 0 ↔ ¬ 9223372036854775808 ≤ b.toNat
    omega
  by_cases h : signBit ≤ b.toNat
  · rw [Sign.ofBitVec, if_neg (mt hzero.1 (not_not.2 h)), decide_eq_true h]
    rfl
  · rw [Sign.ofBitVec, if_pos (hzero.2 h), decide_eq_false h]
    rfl

/-- A double is computed with as its view says. -/
theorem unpack_eq_unpacked :
    UnpackedFloat.unpack Format.binary64 b = (viewBits b.toNat).unpacked := by
  have hexponent : ∀ c : BitVec 11, ∀ n, c.toNat = n →
      (unpackExponent b = c ↔ b.toNat / hiddenBit % 2048 = n) := by
    rintro c - rfl
    rw [← toNat_unpackExponent]
    exact BitVec.toNat_inj.symm
  have hones := hexponent (-1#11) 2047 (by decide)
  have hzeros := hexponent 0#11 0 rfl
  have hmantissa : unpackMantissa b = 0#52 ↔ b.toNat % hiddenBit = 0 := by
    rw [← toNat_unpackMantissa]
    exact BitVec.toNat_inj.symm
  have hwhole : (1#1 ++ unpackMantissa b).toNat = hiddenBit + b.toNat % hiddenBit := by
    rw [BitVec.toNat_append, ← Nat.shiftLeft_add_eq_or_of_lt (unpackMantissa b).isLt,
      toNat_unpackMantissa]
    rfl
  have hbias : (Format.binary64.exponentBias : Int) = 1023 := by decide
  unfold UnpackedFloat.unpack viewBits
  simp only [sign_unpackSign, hwhole, toNat_unpackExponent, toNat_unpackMantissa, hbias]
  by_cases htop : b.toNat / hiddenBit % 2048 = 2047
  · rw [if_pos (hones.2 htop), if_pos htop]
    by_cases hzero : b.toNat % hiddenBit = 0
    · rw [if_pos (hmantissa.2 hzero), if_pos hzero, View.unpacked]
    · rw [if_neg (mt hmantissa.1 hzero), if_neg hzero, View.unpacked]
  · rw [if_neg (mt hones.1 htop), if_neg htop]
    by_cases hbottom : b.toNat / hiddenBit % 2048 = 0
    · rw [if_pos (hzeros.2 hbottom), if_pos hbottom, View.unpacked]
      by_cases hzero : b.toNat % hiddenBit = 0
      · rw [dif_pos (hmantissa.2 hzero), dif_pos hzero]
      · rw [dif_neg (mt hmantissa.1 hzero), dif_neg hzero]
        congr 1
        rw [hbottom]
        rfl
    · rw [if_neg (mt hzeros.1 hbottom), if_neg hbottom,
        View.unpacked_of_pos _ _ (Nat.add_pos_left (by decide) _)]
      congr 1
end

theorem unpack_toModel (x : Float) : x.toModel.unpack = (view x).unpacked :=
  unpack_eq_unpacked _

theorem isNaN_eq_false_iff {x : Float} : x.isNaN = false ↔ view x ≠ .nan := by
  have hnan : x.isNaN = (view x).unpacked.isNaN := by rw [← unpack_toModel]; rfl
  rw [hnan]
  cases view x with
  | nan => simp [View.unpacked, UnpackedFloat.isNaN]
  | infinite negative => simp [View.unpacked, UnpackedFloat.isNaN]
  | finite negative m e =>
    rw [View.unpacked]
    split <;> simp [UnpackedFloat.isNaN]

/-! ### Places on the number line -/

/-- A number, or the negative of it. -/
def signed (negative : Bool) (n : Int) : Int := if negative then -n else n

@[simp] theorem signed_true (n : Int) : signed true n = -n := rfl

@[simp] theorem signed_false (n : Int) : signed false n = n := rfl

/-- The place of what a double stands for, counted in doubles from zero. -/
def View.place : View → Int
  | .nan => 0
  | .infinite negative => signed negative (2047 * hiddenBit)
  | .finite negative m e => signed negative ((e + 1074) * hiddenBit + m)

/-- What a double can stand for if it is no NaN: the mantissa fills its bits
unless the exponent is the least one. -/
inductive View.IsNumber : View → Prop
  | infinite (negative : Bool) : IsNumber (.infinite negative)
  | finite (negative : Bool) {m : Nat} {e : Int} : m < 2 * hiddenBit → -1074 ≤ e → e ≤ 971 →
      (hiddenBit ≤ m ∨ e = -1074) → IsNumber (.finite negative m e)

/-- The bits of a double that is no NaN are its sign and its place. -/
theorem viewBits_cases {bits : Nat} (hbits : bits < 2 * signBit) (h : viewBits bits ≠ .nan) :
    (viewBits bits).IsNumber ∧ (viewBits bits).place =
      signed (decide (signBit ≤ bits)) (if signBit ≤ bits then bits - signBit else bits : Nat) := by
  have hsplit : (if signBit ≤ bits then bits - signBit else bits) =
      bits / hiddenBit % 2048 * hiddenBit + bits % hiddenBit := by
    unfold signBit at hbits ⊢
    unfold hiddenBit
    split_ifs <;> omega
  have hfraction : bits % hiddenBit < hiddenBit := Nat.mod_lt _ (by decide)
  have hbiased : bits / hiddenBit % 2048 < 2048 := Nat.mod_lt _ (by decide)
  rw [hsplit]
  unfold viewBits at h ⊢
  dsimp only at h ⊢
  split_ifs at h ⊢ with htop hzero hbottom
  · rw [htop, hzero]
    exact ⟨.infinite _, rfl⟩
  · exact absurd rfl h
  · rw [hbottom]
    refine ⟨.finite _ (by omega) le_rfl (by decide) (.inr rfl), ?_⟩
    rw [View.place]
    congr 1
  · refine ⟨.finite _ (by omega) (by omega) (by omega) (.inl (by omega)), ?_⟩
    rw [View.place]
    congr 1
    unfold hiddenBit
    push_cast
    omega

/-! ### Comparing -/

/-- How two numbers compare is told by an order between them. -/
theorem some_eq_compare {a b : Int} {o : Ordering}
    (h : match o with | .lt => a < b | .eq => a = b | .gt => b < a) :
    some o = some (compare a b) := by
  cases o with
  | lt => rw [Int.compare_eq_lt.2 h]
  | eq => rw [Int.compare_eq_eq.2 h]
  | gt => rw [Int.compare_eq_gt.2 h]

/-- What is computed with is infinite, zero, or of a mantissa that is not zero. -/
theorem View.IsNumber.unpacked_cases {v : View} (h : v.IsNumber) :
    (∃ negative, v.unpacked = .infinity (signOf negative) ∧
      v.place = signed negative (2047 * hiddenBit)) ∨
    (∃ negative, v.unpacked = .zero (signOf negative) ∧ v.place = 0) ∨
    ∃ negative m e, ∃ hm : 0 < m, v.unpacked = .finite (signOf negative) m e hm ∧
      v.place = signed negative ((e + 1074) * hiddenBit + m) ∧
      0 < (e + 1074) * hiddenBit + m ∧ (e + 1074) * hiddenBit + m < 2047 * hiddenBit ∧
      v = .finite negative m e := by
  cases h with
  | infinite negative => exact .inl ⟨negative, rfl, rfl⟩
  | @finite negative m e hm hle hge hfull =>
    unfold hiddenBit at *
    rcases Nat.eq_zero_or_pos m with rfl | hpos
    · obtain rfl : e = -1074 := by omega
      exact .inr (.inl ⟨negative, View.unpacked_zero _ _, by cases negative <;> rfl⟩)
    · exact .inr (.inr ⟨negative, m, e, hpos, View.unpacked_of_pos _ _ hpos, rfl, by omega,
        by omega, rfl⟩)

/-- Exponents are compared before mantissas, since those of the larger exponents
fill their bits. -/
theorem compare_then_compare {n n' : Bool} {m m' : Nat} {e e' : Int}
    (h : (View.finite n m e).IsNumber) (h' : (View.finite n' m' e').IsNumber) :
    some ((compare e e').then (compare m m')) =
      some (compare ((e + 1074) * hiddenBit + m) ((e' + 1074) * hiddenBit + m')) := by
  cases h with | finite _ hm hle _ hfull
  cases h' with | finite _ hm' hle' _ hfull'
  unfold hiddenBit at *
  rcases lt_trichotomy e e' with h | rfl | h
  · rw [Int.compare_eq_lt.2 h]
    exact some_eq_compare (by dsimp only [Ordering.then]; omega)
  · rw [Int.compare_eq_eq.2 rfl]
    show some (compare m m') = _
    rcases lt_trichotomy m m' with h | rfl | h
    · rw [Nat.compare_eq_lt.2 h]
      exact some_eq_compare (by dsimp only; omega)
    · rw [Nat.compare_eq_eq.2 rfl]
      exact some_eq_compare rfl
    · rw [Nat.compare_eq_gt.2 h]
      exact some_eq_compare (by dsimp only; omega)
  · rw [Int.compare_eq_gt.2 h]
    exact some_eq_compare (by dsimp only [Ordering.then]; omega)

/-- Below zero everything is the other way round. -/
theorem compare_neg_neg (a b : Int) : compare (-a) (-b) = (compare a b).swap := by
  rw [Int.compare_swap]
  rcases lt_trichotomy a b with h | rfl | h
  · rw [Int.compare_eq_gt.2 h, Int.compare_eq_gt.2 (by omega)]
  · rw [Int.compare_eq_eq.2 rfl, Int.compare_eq_eq.2 rfl]
  · rw [Int.compare_eq_lt.2 h, Int.compare_eq_lt.2 (by omega)]

/-- Numbers are compared as their places are. -/
theorem compare_unpacked {v w : View} (hv : v.IsNumber) (hw : w.IsNumber) :
    v.unpacked.compare w.unpacked = some (compare v.place w.place) := by
  have hbit : 0 < (hiddenBit : Int) := by decide
  rcases hv.unpacked_cases with
      ⟨s, hu, hp⟩ | ⟨s, hu, hp⟩ | ⟨s, m, e, hm, hu, hp, hpos, hlt, rfl⟩ <;>
    rcases hw.unpacked_cases with
      ⟨s', hu', hp'⟩ | ⟨s', hu', hp'⟩ | ⟨s', m', e', hm', hu', hp', hpos', hlt', rfl⟩ <;>
    rw [hu, hu', hp, hp']
  case inl.inl => cases s <;> cases s' <;> rfl
  case inr.inl.inr.inl => rfl
  case inr.inr.inr.inr =>
    have hthen := compare_then_compare hv hw
    cases s <;> cases s'
    case false.false => exact hthen
    case true.true =>
      show some ((compare e e').then (compare m m')).swap = some (compare (-_) (-_))
      rw [Option.some.inj hthen, compare_neg_neg]
    all_goals
      refine some_eq_compare ?_
      simp only [signed_false, signed_true]
      omega
  -- two of different kinds are told apart by sign and size
  all_goals
    cases s <;> cases s' <;> refine some_eq_compare ?_ <;> simp only [signed_false, signed_true] <;>
      omega

/-- A double that is no NaN is a number. -/
theorem isNumber_view {x : Float} (hx : x.isNaN = false) : (view x).IsNumber :=
  (viewBits_cases x.toBits.toNat_lt (isNaN_eq_false_iff.1 hx)).1

/-- The place of a double on the number line. -/
def place (x : Float) : Int := (view x).place

/-- The bits of a double that is no NaN are its sign and the distance of its place
from zero. -/
theorem place_eq_bits {x : Float} (hx : x.isNaN = false) :
    place x = if signBit ≤ x.toBits.toNat then (signBit : Int) - x.toBits.toNat
      else x.toBits.toNat := by
  refine (viewBits_cases x.toBits.toNat_lt (isNaN_eq_false_iff.1 hx)).2.trans ?_
  unfold signBit signed
  simp only [decide_eq_true_iff]
  split_ifs <;> omega

/-- Nothing is beyond infinity. -/
theorem place_le_infinity {x : Float} (hx : x.isNaN = false) : place x ≤ place infinity := by
  have hinfinity : place infinity = 2047 * hiddenBit := by decide
  have hbit : 0 < (hiddenBit : Int) := by decide
  rw [hinfinity, place]
  rcases (isNumber_view hx).unpacked_cases with
    ⟨s, -, hp⟩ | ⟨s, -, hp⟩ | ⟨s, m, e, hm, -, hp, hpos, hlt, -⟩ <;> rw [hp]
  · cases s <;> simp only [signed_false, signed_true] <;> omega
  · omega
  · cases s <;> simp only [signed_false, signed_true] <;> omega

section
variable {x y : Float} (hx : x.isNaN = false) (hy : y.isNaN = false)
include hx hy

theorem compare_toModel :
    x.toModel.unpack.compare y.toModel.unpack = some (compare (place x) (place y)) := by
  rw [unpack_toModel, unpack_toModel]
  exact compare_unpacked (isNumber_view hx) (isNumber_view hy)

theorem lt_iff_place_lt : x < y ↔ place x < place y := by
  have hlt : x < y ↔ (x.toModel.unpack.compare y.toModel.unpack == some .lt) = true := by
    show decide (x.toModel < y.toModel) = true ↔ _
    rw [decide_eq_true_iff]
    rfl
  rw [hlt, compare_toModel hx hy, beq_iff_eq, Option.some_inj, Int.compare_eq_lt]

theorem le_iff_place_le : x ≤ y ↔ place x ≤ place y := by
  have hle : x ≤ y ↔ (x.toModel.unpack.compare y.toModel.unpack).any (·.isLE) = true := by
    show decide (x.toModel ≤ y.toModel) = true ↔ _
    rw [decide_eq_true_iff]
    rfl
  rw [hle, compare_toModel hx hy, Option.any_some, Int.isLE_compare]

theorem beq_iff_place_eq : (x == y) = true ↔ place x = place y := by
  have hbeq : (x == y) = (x.toModel.unpack.compare y.toModel.unpack == some .eq) := rfl
  rw [hbeq, compare_toModel hx hy, beq_iff_eq, Option.some_inj, Int.compare_eq_eq]

/-- The total order refines the order of numbers. -/
theorem place_le_of_rank_le (h : rank x ≤ rank y) : place x ≤ place y := by
  have hxlt := x.toBits.toNat_lt
  have hylt := y.toBits.toNat_lt
  rw [place_eq_bits hx, place_eq_bits hy]
  unfold rank at h
  unfold signBit at *
  dsimp only at h
  split_ifs at h ⊢ <;> omega

/-- Above zero there is one double at each place. -/
theorem eq_of_place_eq (hpos : 0 < place x) (h : place x = place y) : x = y := by
  refine Float.toBits_inj.1 (UInt64.toNat_inj.1 ?_)
  rw [place_eq_bits hx] at hpos
  rw [place_eq_bits hx, place_eq_bits hy] at h
  unfold signBit at *
  split_ifs at h hpos <;> omega

end

/-- The total order tells all doubles apart. -/
theorem rank_injective : Function.Injective rank := by
  intro x y h
  have hxlt := x.toBits.toNat_lt
  have hylt := y.toBits.toNat_lt
  refine Float.toBits_inj.1 (UInt64.toNat_inj.1 ?_)
  unfold rank signBit at h
  dsimp only at h
  split_ifs at h <;> omega

/-! ### Usable doubles -/

/-- A usable double is a finite one above zero. -/
theorem isUsable_iff_view {x : Float} :
    isUsable x = true ↔ ∃ m e, 0 < m ∧ view x = .finite false m e := by
  have hzero : (0 : Float).isNaN = false := by decide
  have hplace : place 0 = 0 := by decide
  have hfinite : x.isFinite = (view x).unpacked.isFinite := by rw [← unpack_toModel]; rfl
  rw [isUsable, Bool.and_eq_true, hfinite, decide_eq_true_iff]
  cases hview : view x with
  | nan => simp [View.unpacked, UnpackedFloat.isFinite]
  | infinite negative => simp [View.unpacked, UnpackedFloat.isFinite]
  | finite negative m e =>
    have hx : x.isNaN = false := by
      rw [isNaN_eq_false_iff, hview]
      rintro ⟨⟩
    have hfin : (View.finite negative m e).unpacked.isFinite = true := by
      rw [View.unpacked]
      split <;> rfl
    have hnumber := isNumber_view hx
    rw [hview] at hnumber
    rw [lt_iff_place_lt hzero hx, hplace, place, hview, View.place]
    cases hnumber with | finite _ hm hle hge hfull
    -- at the least exponent only a mantissa of zero stands at zero, at the others none does
    unfold hiddenBit at *
    cases negative <;> simp [hfin] <;> omega

end GuardCost.Binary64
