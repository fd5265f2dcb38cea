import NovaCommerce.CheckoutOnce

/-!
# Coupon edits next to checkouts

The staff endpoint for coupons loads a coupon, sets the submitted fields on it
and writes every column back, the use count as it was loaded included.  The
coupon is not locked when it is loaded, so that a checkout may count a use in
between, which the edit then takes back.  No use is lost as long as every edit
that is committed has loaded the use count that the coupon has at the commit.
-/

namespace NovaCommerce

open GuardedRun LockingTransactions

/-- The submitted fields of a coupon. -/
structure CouponFields where
  code : Option String := none
  kind : Option CouponKind := none
  value : Option Int := none
  minSubtotal : Option Cents := none
  maxDiscount : Option (Option Cents) := none
  maxUses : Option Nat := none
  perUserLimit : Option Nat := none
  startsAt : Option (Option Time) := none
  endsAt : Option (Option Time) := none
  isActive : Option Bool := none

/-- `setattr` of the submitted fields. -/
def CouponFields.setOn (fields : CouponFields) (coupon : Coupon) : Coupon :=
  { coupon with
    code := fields.code.getD coupon.code
    kind := fields.kind.getD coupon.kind
    value := fields.value.getD coupon.value
    minSubtotal := fields.minSubtotal.getD coupon.minSubtotal
    maxDiscount := fields.maxDiscount.getD coupon.maxDiscount
    maxUses := fields.maxUses.getD coupon.maxUses
    perUserLimit := fields.perUserLimit.getD coupon.perUserLimit
    startsAt := fields.startsAt.getD coupon.startsAt
    endsAt := fields.endsAt.getD coupon.endsAt
    isActive := fields.isActive.getD coupon.isActive }

/-- An `update` request, or a `partial_update` request, of a staff user. -/
structure CouponEdit where
  couponId : Uuid
  isPartial : Bool := false
  fields : CouponFields

namespace Statements

/-- `self.get_object()`. -/
def getCoupon (id : Uuid) : Statements Coupon := do
  let db ← .query false
  match (objects db.coupons).find? fun coupon => coupon.id = id with
  | some coupon => pure coupon
  | none => .fail (.doesNotExist "Coupon")

/-- The checks of the serializer that read the table: the code is required in
an `update`, and no other visible coupon may have it. -/
def validateCode (edit : CouponEdit) : Statements Unit :=
  match edit.fields.code with
  | none =>
      if edit.isPartial then pure ()
      else .fail (.validationError "code: This field is required.")
  | some code => do
      let db ← .query false
      if (objects db.coupons).any fun other =>
          other.id ≠ edit.couponId && other.code = code then
        .fail (.validationError
          "code: coupon with this code already exists.")
      else pure ()

/-- `instance.save()`: an update of every column locks the row. -/
def saveCoupon (coupon : Coupon) : Statements Unit := do
  let db ← .acquire (.coupon coupon.id)
  if db.coupons.rows.any fun other =>
      other.id ≠ coupon.id && other.code = coupon.code then
    .fail (.integrityError "unique code")
  else .execute fun db => { db with coupons := db.coupons.save coupon }

def editCoupon (edit : CouponEdit) : Statements Coupon := do
  let coupon ← getCoupon edit.couponId
  validateCode edit
  saveCoupon (edit.fields.setOn coupon)
  pure (edit.fields.setOn coupon)

end Statements

inductive CouponRequest where
  | checkout (request : CheckoutRequest)
  | edit (request : CouponEdit)

inductive CouponResponse where
  | placed (receipt : CheckoutReceipt)
  | edited (coupon : Coupon)

def CouponRequest.program : CouponRequest → Statements CouponResponse
  | checkout request => do
      let receipt ← request.program
      pure (.placed receipt)
  | edit request => do
      let coupon ← Statements.editCoupon request
      pure (.edited coupon)

abbrev CouponCommit := Commit CouponRequest Database CouponResponse

/-- When an edit commits, the use count that it has loaded is that of the
coupon. -/
def EditsLatest (commit : CouponCommit) : Prop :=
  match commit.value with
  | .placed _ => True
  | .edited coupon => ∀ row ∈ commit.before.coupons.rows,
      row.id = coupon.id → row.usedCount = coupon.usedCount

instance : DecidablePred EditsLatest := fun commit => by
  unfold EditsLatest
  split <;> infer_instance

/-- The committed checkout used the coupon under an identifier. -/
def CouponResponse.uses (coupon : Uuid) : CouponResponse → Bool
  | placed receipt => receipt.uses coupon
  | edited _ => false

/-- How many of the committed orders used a coupon. -/
def redemptions (commits : List CouponCommit) (coupon : Uuid) : Nat :=
  commits.countP fun commit => commit.value.uses coupon

def goodsRely : Rely RowKey Database where
  allows := GoodsKept
  refl _ := .refl
  trans _ _ _ _ := .trans
  anti _ _ _ _ subset := .anti subset

section Edit

variable {now : Database} {after : Progress RowKey Database}

/-- An edit writes one locked row. -/
theorem leads_saveCoupon {before : Progress RowKey Database} {coupon : Coupon}
    {value : Unit}
    (leads : Leads goodsRely now (Statements.saveCoupon coupon) before value
      after) :
    (∀ db, after.own db = { before.own db with
        coupons := (before.own db).coupons.save coupon }) ∧
      .coupon coupon.id ∈ after.held := by
  obtain ⟨db, _, ⟨_, _, rfl, rfl⟩, rest⟩ := leads_bind.mp leads
  split at rest
  · exact rest.elim
  · have written := leads_execute.mp rest
    subst written
    exact ⟨fun _ => rfl, Or.inl rfl⟩

theorem reads_getCoupon (id : Uuid) :
    (Statements.getCoupon id).Writes fun _ => False := by
  intro db
  change Transaction.Writes _ (match (objects db.coupons).find? _ with
    | some coupon => _
    | none => _)
  split <;> trivial

theorem reads_validateCode (edit : CouponEdit) :
    (Statements.validateCode edit).Writes fun _ => False := by
  unfold Statements.validateCode
  split
  · split <;> trivial
  · intro db
    change Transaction.Writes _ (if _ then _ else _)
    split <;> trivial

theorem leads_editCoupon {edit : CouponEdit} {coupon : Coupon}
    (leads : Leads goodsRely now (Statements.editCoupon edit) .start coupon
      after) :
    (∀ db, after.own db = { db with coupons := db.coupons.save coupon }) ∧
      .coupon coupon.id ∈ after.held := by
  obtain ⟨loaded, _, loading, rest⟩ := leads_bind.mp leads
  obtain ⟨_, validated, validating, rest⟩ := leads_bind.mp rest
  obtain ⟨_, saved, saving, finished⟩ := leads_bind.mp rest
  obtain ⟨rfl, rfl⟩ := leads_pure.mp finished
  have noWrites : validated.own = id :=
    (validating.own_of_reads (reads_validateCode edit)).trans
      (loading.own_of_reads (reads_getCoupon _))
  obtain ⟨written, locked⟩ := leads_saveCoupon saving
  refine ⟨fun db => ?_, locked⟩
  rw [written, noWrites, id]

end Edit

/-- A commit of a checkout or of an edit, with what it did. -/
inductive CouponCommit.Committed : CouponCommit → Prop
  | placed {request : CheckoutRequest} {receipt : CheckoutReceipt}
      {before after : Database} {locks : Set RowKey} {middle : Database}
      {sold : List OrderItem} {amount : Uuid → Int}
      (checkout : CommittedCheckout goodsRely request.session request.orderId
        request.cart request.user request.payload before after locks receipt
        middle sold amount) :
      Committed ⟨.checkout request, .placed receipt, before, after⟩
  | edited {request : CouponEdit} {coupon : Coupon} {before after : Database}
      (after_eq : after = { before with
        coupons := before.coupons.save coupon }) :
      Committed ⟨.edit request, .edited coupon, before, after⟩

/-- What the program of a request has done by its commit, and what it leaves
alone for the others. -/
theorem committed_of_leads {request : CouponRequest}
    {response : CouponResponse} {before : Database}
    {progress : Progress RowKey Database}
    (leads : Leads goodsRely before request.program .start response progress) :
    CouponCommit.Committed ⟨request, response, before, progress.own before⟩ ∧
      GoodsKept progress.heldᶜ before (progress.own before) := by
  cases request with
  | checkout request =>
      obtain ⟨receipt, _, placing, finished⟩ := leads_bind.mp leads
      obtain ⟨rfl, rfl⟩ := leads_pure.mp finished
      obtain ⟨middle, sold, amount, checkout⟩ :=
        leads_createOrderFromCart (fun _ _ => GoodsKept.stocks) placing
      exact ⟨.placed checkout, checkout.goodsKept fun _ _ => id⟩
  | edit request =>
      obtain ⟨coupon, _, editing, finished⟩ := leads_bind.mp leads
      obtain ⟨rfl, rfl⟩ := leads_pure.mp finished
      obtain ⟨written, locked⟩ := leads_editCoupon editing
      rw [written]
      refine ⟨.edited rfl, StocksKept.of_frame rfl rfl, ?_, fun _ _ => rfl⟩
      intro id notHeld
      apply Table.find?_save_of_ne
      rintro rfl
      exact notHeld locked

/-- A commit counts the use that it made of a coupon. -/
theorem usedCount_of_committed {commit : CouponCommit}
    (committed : commit.Committed) (latest : EditsLatest commit)
    {coupon : Coupon} (member : coupon ∈ commit.before.coupons.rows) :
    ∃ row ∈ commit.after.coupons.rows, row.id = coupon.id ∧
      row.usedCount = coupon.usedCount +
        if commit.value.uses coupon.id then 1 else 0 := by
  cases committed with
  | @placed _ receipt _ _ _ _ _ _ checkout =>
      refine ⟨coupon.afterUse receipt, ?_, rfl, rfl⟩
      rw [checkout.coupons_rows fun _ _ => id]
      exact List.mem_map_of_mem member
  | @edited _ saved before _ after_eq =>
      subst after_eq
      by_cases same : coupon.id = saved.id
      · have count : coupon.usedCount = saved.usedCount :=
          latest coupon member same
        refine ⟨saved, ?_, same.symm, count.symm⟩
        have present : Keyed.key saved ∈ before.coupons.keys :=
          List.mem_map.mpr ⟨coupon, member, same⟩
        exact Table.mem_save.mpr (Or.inr ⟨rfl, present⟩)
      · exact ⟨coupon, Table.mem_save_of_ne member same, rfl, rfl⟩

theorem redemptions_cons (commit : CouponCommit) (commits : List CouponCommit)
    (coupon : Uuid) :
    redemptions (commit :: commits) coupon =
      (if commit.value.uses coupon then 1 else 0) +
        redemptions commits coupon := by
  rw [redemptions, List.countP_cons, Nat.add_comm]
  rfl

theorem redemptions_of_chained {initial final : Database}
    {commits : List CouponCommit} (chained : Chained initial commits final)
    (each : ∀ commit ∈ commits, commit.Committed ∧ EditsLatest commit)
    {coupon : Coupon} (member : coupon ∈ initial.coupons.rows) :
    ∃ row ∈ final.coupons.rows, row.id = coupon.id ∧
      row.usedCount = coupon.usedCount + redemptions commits coupon.id := by
  induction commits generalizing initial coupon with
  | nil =>
      subst chained
      exact ⟨coupon, member, rfl, rfl⟩
  | cons commit commits ih =>
      obtain ⟨rfl, chained⟩ := chained
      obtain ⟨committed, latest⟩ := each commit List.mem_cons_self
      obtain ⟨middle, middleMem, sameId, counted⟩ :=
        usedCount_of_committed committed latest member
      obtain ⟨row, rowMem, rowId, later⟩ := ih chained
        (fun other otherMem => each other (List.mem_cons_of_mem _ otherMem))
        middleMem
      refine ⟨row, rowMem, rowId.trans sameId, ?_⟩
      rw [later, counted, sameId, redemptions_cons, Nat.add_assoc]

/-- No redemption is lost: in every interleaving of checkouts and coupon edits
whose edits all commit on the use count that they have loaded, the use count of
every coupon is the initial one plus the number of committed orders that used
it. -/
theorem redemptions_counted {Client : Type} [DecidableEq Client]
    {initial : Database} {actions : List (Action Client CouponRequest)}
    (latest : Guarded (System.step CouponRequest.program)
      (System.CommitsMeet EditsLatest) { committed := initial } actions)
    {coupon : Coupon} (member : coupon ∈ initial.coupons.rows) :
    let final := exec (System.step CouponRequest.program)
      { committed := initial } actions
    ∃ row ∈ final.committed.coupons.rows, row.id = coupon.id ∧
      row.usedCount = coupon.usedCount + redemptions final.log coupon.id := by
  intro final
  have guarantees : Guarantees goodsRely CouponRequest.program EditsLatest :=
    fun request before value progress leads _ => (committed_of_leads leads).2
  have tracked : Tracked goodsRely CouponRequest.program EditsLatest initial
      final :=
    exec_tracked guarantees latest
  apply redemptions_of_chained tracked.chained _ member
  intro commit commitMem
  obtain ⟨⟨progress, leads, after_eq⟩, meets⟩ :=
    tracked.commits commit commitMem
  have committed := (committed_of_leads leads).1
  rw [← after_eq] at committed
  exact ⟨committed, meets⟩

/-- A coupon for one use. -/
def tenCoupon : Coupon where
  id := 30
  createdAt := 0
  code := "TEN"
  value := 1000
  maxUses := 1

def couponStore : Database :=
  { twoCarts 5 with coupons := ⟨[tenCoupon], by decide⟩ }

/-- A checkout of the first cart with the coupon. -/
def couponCheckout : CouponRequest :=
  .checkout {
    session := { now := 1, orderNumber := "N1" }
    orderId := 1
    cart := { id := 10, createdAt := 0 }
    payload := {
      email := "buyer@example.com"
      phone := ""
      shippingAddress := .obj []
      couponCode := "ten" } }

/-- A new value for the coupon. -/
def couponEdit : CouponRequest :=
  .edit { couponId := 30, isPartial := true, fields := { value := some 2000 } }

/-- The edit loads the coupon before or after the checkout commits. -/
def editAround (loads : Nat) : List (Action Nat CouponRequest) :=
  [.start 0 couponCheckout, .start 1 couponEdit] ++
    List.replicate loads (.advance 1) ++ List.replicate 22 (.advance 0) ++
    List.replicate (4 - loads) (.advance 1)

theorem redemptions_counted_editAround :
    let final := exec (System.step CouponRequest.program)
      { committed := couponStore } (editAround 0)
    ∃ row ∈ final.committed.coupons.rows, row.id = tenCoupon.id ∧
      row.usedCount =
        tenCoupon.usedCount + redemptions final.log tenCoupon.id := by
  have latest : Guarded (System.step CouponRequest.program)
      (System.CommitsMeet EditsLatest) { committed := couponStore }
      (editAround 0) := by
    decide +kernel
  exact redemptions_counted latest (by decide)

/-- The edit loads the coupon before the checkout counts its use, and takes the
use back. -/
theorem redemption_lost_by_edit :
    let final := exec (System.step CouponRequest.program)
      { committed := couponStore } (editAround 1)
    final.committed.coupons.rows.map Coupon.usedCount = [0] ∧
      redemptions final.log 30 = 1 ∧
      couponStore.coupons.rows.map Coupon.usedCount = [0] := by
  decide +kernel

end NovaCommerce
