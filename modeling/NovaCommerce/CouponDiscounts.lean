import NovaCommerce.CouponEdits
import Mathlib.Algebra.Order.Field.Rat

/-!
# Discounts within the order

The staff endpoint stores coupons with any value, minimum and cap: no
validator compares a percentage with a hundred or an amount with zero, and a
cap of zero is taken for no cap.  A discount stays between nothing and the
subtotal, and a percentage below its cap, exactly for the coupons and subtotals
that are described here.  It grows with the subtotal and with the value.
-/

namespace NovaCommerce

open AtomicCall

/-- The defaults of the model with the submitted fields. -/
def newCoupon (session : Session) (fields : CouponFields) (code : String)
    (id : Uuid) : Coupon :=
  fields.setOn { id, createdAt := session.now, code }

theorem key_newCoupon (session : Session) (fields : CouponFields)
    (code : String) (id : Uuid) :
    Keyed.key (newCoupon session fields code id) = id :=
  rfl

/-- A `create` request of a staff user.  The serializer looks for the code
among the visible coupons, the database among all. -/
def createCoupon (session : Session) (fields : CouponFields) :
    Service Coupon := do
  match fields.code with
  | none => throw (.validationError "code: This field is required.")
  | some code => do
      let db ← get
      if (objects db.coupons).any fun other => other.code = code then
        throw (.validationError "code: coupon with this code already exists.")
      else if db.coupons.rows.any fun other => other.code = code then
        throw (.integrityError "unique code")
      else do
        modify fun db => { db with
          coupons := db.coupons.create (newCoupon session fields code)
            (key_newCoupon session fields code) }
        pure (newCoupon session fields code (FreshKey.fresh db.coupons.keys))

namespace Coupon

/-- The percentage of a subtotal, rounded to a cent. -/
def share (coupon : Coupon) (subtotal : Int) : Int :=
  roundHalfEven (subtotal * coupon.value) 10000

theorem share_rounds (coupon : Coupon) (subtotal : Int) :
    RoundsHalfEven (subtotal * coupon.value) 10000 (coupon.share subtotal) :=
  roundHalfEven_spec _ (by decide)

section Discount

variable {coupon : Coupon} {subtotal : Int}

theorem calculateDiscount_of_lt (below : subtotal < coupon.minSubtotal) :
    coupon.calculateDiscount subtotal = 0 := by
  simp [calculateDiscount, below]

theorem calculateDiscount_percent (reached : ¬subtotal < coupon.minSubtotal)
    (percent : coupon.kind = .percent) :
    coupon.calculateDiscount subtotal =
      match coupon.maxDiscount with
      | some cap =>
          if cap = 0 then coupon.share subtotal
          else min (coupon.share subtotal) cap
      | none => coupon.share subtotal := by
  have rounded : (ofCents subtotal * ofCents coupon.value).hundredth.quantize
      2 = coupon.share subtotal := by
    have expanded := roundHalfEven_mul_mul (subtotal * coupon.value)
      (show 0 < 10000 by decide) (show 0 < 100 by decide)
    norm_num at expanded
    norm_num [ofCents, Decimal.mk_mul_mk, Decimal.hundredth,
      Decimal.quantize, share, expanded]
  simp only [calculateDiscount, reached, if_false, percent, rounded]
  cases coupon.maxDiscount with
  | none => rfl
  | some cap => by_cases noCap : cap = 0 <;> simp [noCap]

theorem calculateDiscount_fixed (reached : ¬subtotal < coupon.minSubtotal)
    (fixed : coupon.kind = .fixed) :
    coupon.calculateDiscount subtotal = min coupon.value subtotal := by
  simp [calculateDiscount, reached, fixed]

theorem calculateDiscount_freeShipping (free : coupon.kind = .freeShipping) :
    coupon.calculateDiscount subtotal = 0 := by
  simp [calculateDiscount, free]

theorem share_nonneg_iff :
    0 ≤ coupon.share subtotal ↔ -5000 ≤ subtotal * coupon.value := by
  have below := (coupon.share_rounds subtotal).le_iff (by decide) (-1)
  norm_num at below
  omega

theorem share_nonpos_iff :
    coupon.share subtotal ≤ 0 ↔ subtotal * coupon.value ≤ 5000 := by
  rw [(coupon.share_rounds subtotal).le_iff (by decide)]
  norm_num
  omega

/-- The percentage is less than half a cent over the subtotal, or half a cent
over an even one. -/
def ShareWithin (coupon : Coupon) (subtotal : Int) : Prop :=
  subtotal * (coupon.value - 10000) < 5000 ∨
    subtotal * (coupon.value - 10000) = 5000 ∧ subtotal % 2 = 0

instance (coupon : Coupon) (subtotal : Int) :
    Decidable (coupon.ShareWithin subtotal) :=
  inferInstanceAs (Decidable (_ ∨ _))

theorem share_le_iff :
    coupon.share subtotal ≤ subtotal ↔ coupon.ShareWithin subtotal := by
  rw [(coupon.share_rounds subtotal).le_iff (by decide), ShareWithin, mul_sub]
  norm_num
  omega

end Discount

/-- The fields of the coupon keep its discount between nothing and the
subtotal, and a percentage below its cap. -/
def StaysWithin (coupon : Coupon) (subtotal : Int) : Prop :=
  match coupon.kind with
  | .freeShipping => True
  | .fixed => subtotal < coupon.minSubtotal ∨ 0 ≤ coupon.value
  | .percent =>
      match coupon.maxDiscount with
      | none => subtotal < coupon.minSubtotal ∨
          -5000 ≤ subtotal * coupon.value ∧ coupon.ShareWithin subtotal
      | some cap =>
          if cap = 0 then subtotal < coupon.minSubtotal ∨
            -5000 ≤ subtotal * coupon.value ∧
              subtotal * coupon.value ≤ 5000
          else 0 < cap ∧ (subtotal < coupon.minSubtotal ∨
            -5000 ≤ subtotal * coupon.value ∧
              (coupon.ShareWithin subtotal ∨ cap ≤ subtotal))

instance (coupon : Coupon) (subtotal : Int) :
    Decidable (coupon.StaysWithin subtotal) := by
  unfold StaysWithin
  split
  · infer_instance
  · infer_instance
  · split <;> infer_instance

/-- A discount is between nothing and the subtotal, and a percentage is at
most the cap. -/
structure Bounded (coupon : Coupon) (subtotal discount : Int) : Prop where
  nonneg : 0 ≤ discount
  le_subtotal : discount ≤ subtotal
  le_cap : coupon.kind = .percent → ∀ cap ∈ coupon.maxDiscount, discount ≤ cap

section Bounds

variable {coupon : Coupon} {subtotal : Int}

/-- A cap above zero also keeps a discount within a subtotal that it does not
exceed. -/
theorem min_cap_bounds {share subtotal cap : Int} (nonzero : cap ≠ 0) :
    (0 ≤ min share cap ∧ min share cap ≤ subtotal ∧ min share cap ≤ cap) ↔
      0 < cap ∧ 0 ≤ share ∧ (share ≤ subtotal ∨ cap ≤ subtotal) := by
  omega

theorem bounded_iff_of_percent (percent : coupon.kind = .percent)
    (subtotalNonneg : 0 ≤ subtotal) :
    coupon.Bounded subtotal (coupon.calculateDiscount subtotal) ↔
      coupon.StaysWithin subtotal := by
  have bounds (discount : Int) : coupon.Bounded subtotal discount ↔
      0 ≤ discount ∧ discount ≤ subtotal ∧
        ∀ cap ∈ coupon.maxDiscount, discount ≤ cap := by
    constructor
    · intro bounded
      exact ⟨bounded.nonneg, bounded.le_subtotal, bounded.le_cap percent⟩
    · rintro ⟨nonneg, le_subtotal, le_cap⟩
      exact ⟨nonneg, le_subtotal, fun _ => le_cap⟩
  have nonneg := @share_nonneg_iff coupon subtotal
  have nonpos := @share_nonpos_iff coupon subtotal
  have within := @share_le_iff coupon subtotal
  rw [bounds]
  unfold StaysWithin
  by_cases below : subtotal < coupon.minSubtotal
  · rw [calculateDiscount_of_lt below]
    simp only [percent, below, true_or]
    cases coupon.maxDiscount with
    | none => simp [subtotalNonneg]
    | some cap =>
        by_cases noCap : cap = 0
        · simp [noCap, subtotalNonneg]
        · simp only [noCap, if_false, Option.mem_some_iff, forall_eq', and_true,
            le_refl, subtotalNonneg, true_and]
          exact ⟨fun nonneg => lt_of_le_of_ne nonneg (Ne.symm noCap), le_of_lt⟩
  · rw [calculateDiscount_percent below percent]
    simp only [percent, below, false_or]
    cases coupon.maxDiscount with
    | none => simp [nonneg, within]
    | some cap =>
        by_cases noCap : cap = 0
        · simp only [noCap, if_true, Option.mem_some_iff, forall_eq']
          omega
        · simp only [noCap, if_false, Option.mem_some_iff, forall_eq']
          rw [min_cap_bounds noCap, nonneg, within]

theorem bounded_iff (subtotalNonneg : 0 ≤ subtotal) :
    coupon.Bounded subtotal (coupon.calculateDiscount subtotal) ↔
      coupon.StaysWithin subtotal := by
  cases kind : coupon.kind with
  | percent => exact bounded_iff_of_percent kind subtotalNonneg
  | fixed =>
      have notPercent : coupon.kind ≠ .percent := by simp [kind]
      simp only [StaysWithin, kind]
      by_cases below : subtotal < coupon.minSubtotal
      · rw [calculateDiscount_of_lt below]
        exact ⟨fun _ => Or.inl below,
          fun _ => ⟨le_rfl, subtotalNonneg, fun percent =>
            absurd percent notPercent⟩⟩
      · rw [calculateDiscount_fixed below kind]
        constructor
        · intro bounded
          exact Or.inr (le_min_iff.mp bounded.nonneg).1
        · intro stays
          exact ⟨le_min (stays.resolve_left below) subtotalNonneg,
            min_le_right _ _, fun percent => absurd percent notPercent⟩
  | freeShipping =>
      rw [calculateDiscount_freeShipping kind]
      simp only [StaysWithin, kind, iff_true]
      exact ⟨le_rfl, subtotalNonneg, fun percent => by simp [kind] at percent⟩

end Bounds

/-- The simple coupons stay within every order: no value below zero, no
percentage above a hundred, and no cap unless it is above zero. -/
theorem staysWithin_of_plain {coupon : Coupon} (nonneg : 0 ≤ coupon.value)
    (percentage : coupon.kind = .percent → coupon.value ≤ 10000 ∧
      ∀ cap ∈ coupon.maxDiscount, 0 < cap)
    {subtotal : Int} (subtotalNonneg : 0 ≤ subtotal) :
    coupon.StaysWithin subtotal := by
  have shareNonneg : 0 ≤ subtotal * coupon.value :=
    mul_nonneg subtotalNonneg nonneg
  unfold StaysWithin
  cases kind : coupon.kind with
  | freeShipping => trivial
  | fixed => exact Or.inr nonneg
  | percent =>
      obtain ⟨atMost, capPos⟩ := percentage kind
      have within : coupon.ShareWithin subtotal := by
        have cheaper : subtotal * (coupon.value - 10000) ≤ 0 :=
          mul_nonpos_of_nonneg_of_nonpos subtotalNonneg (by omega)
        left
        omega
      cases capped : coupon.maxDiscount with
      | none => exact Or.inr ⟨by omega, within⟩
      | some cap =>
          have positive := capPos cap capped
          simp only [positive.ne', if_false]
          exact ⟨positive, Or.inr ⟨by omega, Or.inl within⟩⟩

section Growth

variable {coupon : Coupon}

theorem calculateDiscount_nonneg_of_value (valueNonneg : 0 ≤ coupon.value)
    (capNonneg : ∀ cap ∈ coupon.maxDiscount, 0 ≤ cap) {subtotal : Int}
    (subtotalNonneg : 0 ≤ subtotal) :
    0 ≤ coupon.calculateDiscount subtotal := by
  by_cases below : subtotal < coupon.minSubtotal
  · rw [calculateDiscount_of_lt below]
  cases kind : coupon.kind with
  | freeShipping => rw [calculateDiscount_freeShipping kind]
  | fixed =>
      rw [calculateDiscount_fixed below kind]
      exact le_min valueNonneg subtotalNonneg
  | percent =>
      have shareNonneg : 0 ≤ coupon.share subtotal := by
        have product := mul_nonneg subtotalNonneg valueNonneg
        rw [share_nonneg_iff]
        omega
      rw [calculateDiscount_percent below kind]
      cases capped : coupon.maxDiscount with
      | none => exact shareNonneg
      | some cap =>
          have nonneg := capNonneg cap capped
          dsimp only
          split
          · exact shareNonneg
          · exact le_min shareNonneg nonneg

/-- A coupon with another value. -/
def withValue (coupon : Coupon) (value : Int) : Coupon :=
  { coupon with value }

/-- Where both subtotals reach the minimum, a discount grows with the share and
with the smaller of the value and the subtotal. -/
theorem calculateDiscount_le {value subtotal larger : Int}
    (reached : ¬subtotal < coupon.minSubtotal)
    (largerReached : ¬larger < coupon.minSubtotal)
    (shares : subtotal * coupon.value ≤ larger * value)
    (values : coupon.value ≤ value) (subtotals : subtotal ≤ larger) :
    coupon.calculateDiscount subtotal ≤
      (coupon.withValue value).calculateDiscount larger := by
  have sharesLe :
      coupon.share subtotal ≤ (coupon.withValue value).share larger :=
    (coupon.share_rounds subtotal).mono
      ((coupon.withValue value).share_rounds larger) (by decide) shares
  have otherKind : (coupon.withValue value).kind = coupon.kind := rfl
  have otherReached : ¬larger < (coupon.withValue value).minSubtotal :=
    largerReached
  cases kind : coupon.kind with
  | freeShipping =>
      rw [calculateDiscount_freeShipping kind,
        calculateDiscount_freeShipping (otherKind.trans kind)]
  | fixed =>
      rw [calculateDiscount_fixed reached kind,
        calculateDiscount_fixed otherReached (otherKind.trans kind)]
      exact min_le_min values subtotals
  | percent =>
      have otherCap : (coupon.withValue value).maxDiscount =
          coupon.maxDiscount := rfl
      rw [calculateDiscount_percent reached kind,
        calculateDiscount_percent otherReached (otherKind.trans kind), otherCap]
      cases coupon.maxDiscount with
      | none => exact sharesLe
      | some cap =>
          dsimp only
          split
          · exact sharesLe
          · exact min_le_min sharesLe le_rfl

/-- A larger order never gets a smaller discount, also not around the minimum
of the coupon; a larger value never gives a smaller one; and a percentage that
is not capped is the exact one to within half a cent. -/
theorem discount_grows (valueNonneg : 0 ≤ coupon.value)
    (capNonneg : ∀ cap ∈ coupon.maxDiscount, 0 ≤ cap) :
    (∀ subtotal larger : Cents, 0 ≤ subtotal → subtotal ≤ larger →
      coupon.calculateDiscount subtotal ≤ coupon.calculateDiscount larger) ∧
    (∀ (subtotal : Cents) (value : Int), 0 ≤ subtotal → coupon.value ≤ value →
      coupon.calculateDiscount subtotal ≤
        (coupon.withValue value).calculateDiscount subtotal) ∧
    ∀ subtotal : Cents, coupon.kind = .percent →
      (coupon.maxDiscount = none ∨ coupon.maxDiscount = some 0) →
      coupon.minSubtotal ≤ subtotal →
        |(coupon.calculateDiscount subtotal : ℚ) -
          subtotal * (coupon.value / 100) / 100| ≤ 1 / 2 := by
  refine ⟨?_, ?_, ?_⟩
  · intro subtotal larger nonneg le
    by_cases below : subtotal < coupon.minSubtotal
    · rw [calculateDiscount_of_lt below]
      exact calculateDiscount_nonneg_of_value valueNonneg capNonneg
        (nonneg.trans le)
    · exact calculateDiscount_le below (fun less => below (le.trans_lt less))
        (mul_le_mul_of_nonneg_right le valueNonneg) le_rfl le
  · intro subtotal value nonneg le
    by_cases below : subtotal < coupon.minSubtotal
    · have otherBelow : subtotal < (coupon.withValue value).minSubtotal := below
      rw [calculateDiscount_of_lt below, calculateDiscount_of_lt otherBelow]
    · exact calculateDiscount_le below below
        (mul_le_mul_of_nonneg_left le nonneg) le le_rfl
  · intro subtotal percent uncapped reached
    have exactly :
        coupon.calculateDiscount subtotal = coupon.share subtotal := by
      rw [calculateDiscount_percent (not_lt.mpr reached) percent]
      rcases uncapped with none | zero
      · rw [none]
      · simp [zero]
    obtain ⟨lower, upper, _⟩ := coupon.share_rounds subtotal
    have lowerRat : (2 * (subtotal * coupon.value) : ℚ) ≤
        2 * (coupon.share subtotal * 10000) + 10000 := by
      exact_mod_cast lower
    have upperRat : (2 * (coupon.share subtotal * 10000) : ℚ) ≤
        2 * (subtotal * coupon.value) + 10000 := by
      exact_mod_cast upper
    rw [exactly, abs_le]
    constructor <;> linarith

end Growth

/-- Ten percent of 19.95 is rounded up, to an even number of cents. -/
theorem discount_grows_tenCoupon :
    0 ≤ tenCoupon.value ∧ (∀ cap ∈ tenCoupon.maxDiscount, 0 ≤ cap) ∧
      tenCoupon.calculateDiscount 1995 ≤ tenCoupon.calculateDiscount 2005 ∧
      tenCoupon.calculateDiscount 1995 ≤
        (tenCoupon.withValue 1500).calculateDiscount 1995 ∧
      |(tenCoupon.calculateDiscount 1995 : ℚ) -
        (1995 : Int) * (tenCoupon.value / 100) / 100| ≤ 1 / 2 := by
  have valueNonneg : 0 ≤ tenCoupon.value := by decide
  have capNonneg : ∀ cap ∈ tenCoupon.maxDiscount, 0 ≤ cap := by decide
  obtain ⟨ofSubtotal, ofValue, exactly⟩ :=
    discount_grows valueNonneg capNonneg
  exact ⟨valueNonneg, capNonneg, ofSubtotal 1995 2005 (by decide) (by decide),
    ofValue 1995 1500 (by decide) (by decide),
    exactly 1995 rfl (Or.inl rfl) (by decide)⟩

example : [1985, 1995, 2005].map tenCoupon.calculateDiscount =
    [198, 200, 200] := by
  decide

end Coupon

theorem calculateShipping_nonneg (method : String) (subtotal : Cents) :
    0 ≤ calculateShipping method subtotal := by
  unfold calculateShipping
  repeat' split
  all_goals decide

/-- The discount of a coupon on a subtotal is between nothing and the
subtotal, a percentage is at most the cap, and no checkout with the coupon of
a cart with that subtotal stores a grand total below zero. -/
structure DiscountWithin (coupon : Coupon) (subtotal : Int) : Prop where
  bounded : coupon.Bounded subtotal (coupon.calculateDiscount subtotal)
  grandTotal_nonneg : ∀ session cart user payload db order after,
    createOrderFromCart session cart user payload db = .ok order after →
      db.couponsNamed session payload.couponCode = [coupon] →
      db.cartSubtotal cart.id = subtotal → 0 ≤ order.grandTotal

/-- A discount within the subtotal leaves a grand total that is not below
zero. -/
theorem grandTotal_nonneg_of_discount {coupon : Coupon} {subtotal : Int}
    (subtotalNonneg : 0 ≤ subtotal)
    (le_subtotal : coupon.calculateDiscount subtotal ≤ subtotal)
    {session : Session} {cart : Cart} {user : Option Uuid}
    {payload : CheckoutInput} {db after : Database} {order : Order}
    (returned : createOrderFromCart session cart user payload db =
      .ok order after)
    (named : db.couponsNamed session payload.couponCode = [coupon])
    (isSubtotal : db.cartSubtotal cart.id = subtotal) :
    0 ≤ order.grandTotal := by
  obtain ⟨used, discount, _, _, _, _, checkedOut⟩ :=
    createOrderFromCart_eq_ok returned
  obtain ⟨subtotal_eq, discount_eq, shipping_eq, grand_eq⟩ :=
    checkedOut.amounts
  have within : discount ≤ subtotal := by
    cases checkedOut.couponUse with
    | unnamed => exact subtotalNonneg
    | named _ unique _ =>
        obtain rfl := List.singleton_inj.mp (unique.symm.trans named)
        rw [isSubtotal]
        exact le_subtotal
  have shipping := calculateShipping_nonneg payload.shippingMethod
    (db.cartSubtotal cart.id - discount)
  rw [grand_eq, subtotal_eq, discount_eq, shipping_eq]
  rw [isSubtotal] at shipping ⊢
  linarith

/-- The discount of a coupon stays within the order exactly when its fields
keep it there. -/
theorem discountWithin_iff (coupon : Coupon) {subtotal : Int}
    (subtotalNonneg : 0 ≤ subtotal) :
    DiscountWithin coupon subtotal ↔ coupon.StaysWithin subtotal := by
  rw [← Coupon.bounded_iff subtotalNonneg]
  constructor
  · intro within
    exact within.bounded
  · intro bounded
    exact ⟨bounded, fun _ _ _ _ _ _ _ =>
      grandTotal_nonneg_of_discount subtotalNonneg bounded.le_subtotal⟩

theorem discountWithin_iff_tenCoupon :
    0 ≤ (1999 : Int) ∧ DiscountWithin tenCoupon 1999 :=
  ⟨by decide, (discountWithin_iff tenCoupon (by decide)).mpr (by decide)⟩

/-- Two hundred percent off. -/
def doublePercent : CouponFields where
  code := some "DOUBLE"
  value := some 20000

/-- The endpoint stores the coupon, and a checkout with it stores an order
that costs less than nothing. -/
theorem discount_exceeds_doublePercent :
    let db := settle (createCoupon { now := 0 } doublePercent) (twoCarts 5)
    let after := settle (createOrderFromCart
      { now := 1, orderNumber := "N-1" } { id := 10, createdAt := 0 } none
      { email := "buyer@example.com", phone := "", shippingAddress := .obj [],
        couponCode := "DOUBLE" }) db
    db.coupons.rows.map Coupon.code = ["DOUBLE"] ∧
      (∀ coupon ∈ db.coupons.rows, ¬DiscountWithin coupon 1999) ∧
      after.orders.rows.map Order.grandTotal = [-1000] := by
  intro db after
  have exceeds : ∀ coupon ∈ db.coupons.rows,
      1999 < coupon.calculateDiscount 1999 := by
    decide +kernel
  refine ⟨by decide +kernel, ?_, by decide +kernel⟩
  intro coupon member within
  exact absurd within.bounded.le_subtotal (not_le.mpr (exceeds coupon member))

end NovaCommerce
