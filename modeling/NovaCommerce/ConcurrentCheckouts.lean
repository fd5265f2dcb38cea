import NovaCommerce.CheckoutTransactions
import NovaCommerce.StoreRuns

/-!
# Concurrent checkouts

Any number of clients check carts out at the same time.  What others may do to
the goods while a checkout is under way is bounded by the rows that it has
locked: its stock rows, the coupon and the identifier of its order.  The log of
the commits then tells what happened to the coupons, the orders and the stock:
coupon uses are counted without a gap, and every committed checkout has
reserved what it converted.  The cart is not locked, so that two checkouts may
convert the same item, unless each one commits while its items are still in the
cart.
-/

namespace NovaCommerce

open AtomicCall GreedyAllocation GuardedRun LockingTransactions

/-- A locked row is as it was, or still missing. -/
def LockedSame {Row : Type} [IsModel Row] (key : Uuid → RowKey)
    (held : Set RowKey) (before after : Table Row) : Prop :=
  ∀ id, key id ∈ held → after.find? id = before.find? id

namespace LockedSame

variable {Row : Type} [IsModel Row] {key : Uuid → RowKey}
  {held : Set RowKey} {before middle after : Table Row}

theorem trans (first : LockedSame key held before middle)
    (second : LockedSame key held middle after) :
    LockedSame key held before after :=
  fun id holds => (second id holds).trans (first id holds)

theorem anti {fewer more : Set RowKey} (subset : fewer ⊆ more)
    (same : LockedSame key more before after) :
    LockedSame key fewer before after :=
  fun id holds => same id (subset holds)

theorem mem {row : Row} (same : LockedSame key held before after)
    (holds : key (Keyed.key row) ∈ held) (member : row ∈ before.rows) :
    row ∈ after.rows := by
  have found := Table.find?_eq_some.mpr ⟨member, rfl⟩
  exact (Table.find?_eq_some.mp ((same _ holds).trans found)).1

theorem notMem {id : Uuid} (same : LockedSame key held before after)
    (holds : key id ∈ held) (missing : id ∉ before.keys) : id ∉ after.keys :=
  Table.find?_eq_none.mp
    ((same id holds).trans (Table.find?_eq_none.mpr missing))

end LockedSame

/-- What others may do to the stock, the coupons and the orders. -/
structure GoodsKept (held : Set RowKey) (before after : Database) : Prop where
  stocks : StocksKept held before after
  coupons : LockedSame .coupon held before.coupons after.coupons
  orders : LockedSame .order held before.orders after.orders

namespace GoodsKept

variable {held : Set RowKey} {before middle after : Database}

theorem refl (db : Database) : GoodsKept held db db :=
  ⟨.refl db, fun _ _ => rfl, fun _ _ => rfl⟩

theorem trans (first : GoodsKept held before middle)
    (second : GoodsKept held middle after) : GoodsKept held before after :=
  ⟨first.stocks.trans second.stocks, first.coupons.trans second.coupons,
    first.orders.trans second.orders⟩

theorem anti {fewer more : Set RowKey} (subset : fewer ⊆ more)
    (kept : GoodsKept more before after) : GoodsKept fewer before after :=
  ⟨kept.stocks.anti subset, kept.coupons.anti subset, kept.orders.anti subset⟩

/-- A write to other tables. -/
theorem of_frame (stocks_eq : after.stocks = before.stocks)
    (warehouses_eq : after.warehouses = before.warehouses)
    (coupons_eq : after.coupons = before.coupons)
    (orders_eq : after.orders = before.orders) :
    GoodsKept held before after where
  stocks := .of_frame stocks_eq warehouses_eq
  coupons _ _ := by rw [coupons_eq]
  orders _ _ := by rw [orders_eq]

end GoodsKept

/-- The checkout used the coupon under an identifier. -/
def CheckoutReceipt.uses (receipt : CheckoutReceipt) (coupon : Uuid) : Bool :=
  receipt.coupon.any fun used => used.id = coupon

theorem CheckoutReceipt.uses_eq_true {receipt : CheckoutReceipt}
    {coupon : Uuid} :
    receipt.uses coupon = true ↔
      ∃ used, receipt.coupon = some used ∧ used.id = coupon := by
  simp [CheckoutReceipt.uses, Option.any_eq_true]

theorem CheckoutReceipt.uses_iff {coupon : Uuid} {used : Coupon}
    (receipt : CheckoutReceipt) (uses : receipt.coupon = some used) :
    receipt.uses coupon = true ↔ used.id = coupon := by
  rw [receipt.uses_eq_true, uses]
  simp

/-- A coupon after one more checkout. -/
def Coupon.afterUse (coupon : Coupon) (receipt : CheckoutReceipt) : Coupon :=
  { coupon with
    usedCount := coupon.usedCount + if receipt.uses coupon.id then 1 else 0 }

section Committed

variable {rely : Rely RowKey Database} {session : Session} {orderId : Uuid}
  {cart : Cart} {user : Option Uuid} {payload : CheckoutInput}
  {now after middle : Database} {locks : Set RowKey}
  {receipt : CheckoutReceipt} {sold : List OrderItem} {amount : Uuid → Int}
  (relies : ∀ held earlier, rely.allows held earlier now →
    GoodsKept held earlier now)
  (committed : CommittedCheckout rely session orderId cart user payload now
    after locks receipt middle sold amount)

namespace CommittedCheckout

include committed

theorem order_id : receipt.order.id = orderId := by
  obtain ⟨_, order_eq⟩ := committed.order_eq
  rw [order_eq]
  rfl

include relies

theorem isNew : Keyed.key receipt.order ∉ now.orders.keys := by
  obtain ⟨held, earlier, holds, allowed, missing⟩ := committed.orderNew
  have hasId : Keyed.key receipt.order = orderId := committed.order_id
  rw [hasId]
  exact (relies held earlier allowed).orders.notMem holds missing

omit relies in
theorem frame : after.stocks = middle.stocks ∧
    after.warehouses = now.warehouses ∧
    after.orders = now.orders.insertNew receipt.order ∧
    after.orderItems = middle.orderItems ∧
    after.coupons = usedCoupons now.coupons receipt.coupon ∧
    after.cartItems = Statements.withDeleted session
      (receipt.emptied.map Keyed.key) now.cartItems := by
  have looped := committed.itemsSold.frame
  rw [committed.after_eq, looped]
  exact ⟨rfl, rfl, rfl, rfl, rfl, rfl⟩

theorem orders_rows :
    after.orders.rows = now.orders.rows ++ [receipt.order] := by
  rw [committed.frame.2.2.1]
  exact Table.rows_insertNew (committed.isNew relies)

omit relies in
theorem orderItems_rows :
    after.orderItems.rows = now.orderItems.rows ++ sold := by
  rw [committed.frame.2.2.2.1]
  exact committed.itemsSold.orderItems_eq

omit relies in
theorem draws : Draws .reserve now.isReservable now.stocks after.stocks amount
    (unitsOf receipt.converted) := by
  rw [committed.frame.1]
  exact committed.itemsSold.draws

/-- The coupon is used as it is at the commit. -/
theorem coupon_mem {coupon : Coupon} (uses : receipt.coupon = some coupon) :
    coupon ∈ now.coupons.rows ∧
      session.iexact coupon.code payload.couponCode = true ∧
      coupon.isValidNow session.now = true ∧ .coupon coupon.id ∈ locks := by
  cases uses ▸ committed.coupon with
  | named hasCode holds allowed member isAlive isNamed isValid locked =>
      exact ⟨(relies _ _ allowed).coupons.mem holds member, isNamed, isValid,
        locked⟩

/-- A use of a coupon is counted, and nothing else happens to the coupons. -/
theorem coupons_rows : after.coupons.rows =
    now.coupons.rows.map fun coupon => coupon.afterUse receipt := by
  rw [committed.frame.2.2.2.2.1]
  cases uses : receipt.coupon with
  | none => simp [usedCoupons, Coupon.afterUse, CheckoutReceipt.uses, uses]
  | some used =>
      obtain ⟨usedMem, _⟩ := committed.coupon_mem relies uses
      apply List.map_congr_left
      intro coupon member
      rw [Coupon.afterUse, if_congr (receipt.uses_iff uses) rfl rfl]
      by_cases sameId : used.id = coupon.id
      · obtain rfl := now.coupons.eq_of_key_eq usedMem member sameId
        rw [if_pos rfl, if_pos rfl]
      · rw [if_neg sameId, if_neg (Ne.symm sameId)]
        rfl

/-- A coupon that is used is not used up. -/
theorem usedCount_within {coupon : Coupon} (member : coupon ∈ now.coupons.rows)
    (limited : 0 < coupon.maxUses)
    (within : coupon.usedCount ≤ coupon.maxUses) :
    (coupon.afterUse receipt).usedCount ≤ coupon.maxUses := by
  by_cases isUsed : receipt.uses coupon.id = true
  · obtain ⟨used, uses, sameId⟩ := receipt.uses_eq_true.mp isUsed
    obtain ⟨usedMem, _, isValid, _⟩ := committed.coupon_mem relies uses
    obtain rfl := now.coupons.eq_of_key_eq usedMem member sameId
    rw [Coupon.afterUse, if_pos isUsed]
    simp only [Coupon.isValidNow] at isValid
    grind
  · rw [Coupon.afterUse, if_neg isUsed]
    exact within

/-- A checkout leaves the goods alone that it has not locked. -/
theorem goodsKept : GoodsKept locksᶜ now after := by
  obtain ⟨stocks_eq, warehouses_eq, orders_eq, _, coupons_eq, _⟩ :=
    committed.frame
  refine ⟨⟨warehouses_eq, ?_⟩, ?_, ?_⟩
  · let progress : Progress RowKey Database := ⟨locks, id⟩
    have taken : LocksTaken progress amount := committed.stocksLocked
    exact committed.draws.rowsKept taken
  · intro id notHeld
    rw [coupons_eq]
    cases uses : receipt.coupon with
    | none => rfl
    | some coupon =>
        have locked := (committed.coupon_mem relies uses).2.2.2
        apply find?_withUsedCount_of_ne
        rintro rfl
        exact notHeld locked
  · intro id notHeld
    rw [orders_eq]
    apply Table.find?_insertNew_of_ne
    rintro rfl
    have hasId : Keyed.key receipt.order = orderId := committed.order_id
    exact notHeld (hasId ▸ committed.orderLocked)

end CommittedCheckout

end Committed

/-- A checkout of a client; `orderId` is the identifier that its order
draws. -/
structure CheckoutRequest where
  session : Session
  orderId : Uuid
  cart : Cart
  user : Option Uuid := none
  payload : CheckoutInput

def CheckoutRequest.program (request : CheckoutRequest) :
    Statements CheckoutReceipt :=
  Statements.createOrderFromCart request.session request.orderId request.cart
    request.user request.payload

abbrev CheckoutCommit :=
  Commit CheckoutRequest Database CheckoutReceipt

/-- What checkouts may do to each other: of the cart items they only delete
some. -/
structure CheckoutsKept (held : Set RowKey) (before after : Database) :
    Prop where
  goods : GoodsKept held before after
  items : ∀ item ∈ after.cartItems.rows, alive item = true →
    item ∈ before.cartItems.rows

def checkoutRely : Rely RowKey Database where
  allows := CheckoutsKept
  refl _ db := ⟨.refl db, fun _ member _ => member⟩
  trans _ _ _ _ first second :=
    ⟨first.goods.trans second.goods, fun item member isAlive =>
      first.items item (second.items item member isAlive) isAlive⟩
  anti _ _ _ _ subset kept := ⟨kept.goods.anti subset, kept.items⟩

theorem goodsKept_of_allows {now : Database} (held : Set RowKey)
    (earlier : Database) (allowed : checkoutRely.allows held earlier now) :
    GoodsKept held earlier now :=
  allowed.goods

theorem stocksKept_of_allows {now : Database} (held : Set RowKey)
    (earlier : Database) (allowed : checkoutRely.allows held earlier now) :
    StocksKept held earlier now :=
  allowed.goods.stocks

/-- A commit of a checkout, with what it did. -/
def CheckoutCommit.Committed (commit : CheckoutCommit) : Prop :=
  ∃ locks middle sold amount, CommittedCheckout checkoutRely
    commit.request.session commit.request.orderId commit.request.cart
    commit.request.user commit.request.payload commit.before commit.after locks
    commit.value middle sold amount

theorem committed_of_isOf {commit : CheckoutCommit}
    (isOf : commit.IsOf checkoutRely CheckoutRequest.program) :
    commit.Committed := by
  obtain ⟨progress, leads, after_eq⟩ := isOf
  obtain ⟨middle, sold, amount, committed⟩ :=
    leads_createOrderFromCart stocksKept_of_allows leads
  exact ⟨progress.held, middle, sold, amount, after_eq ▸ committed⟩

theorem mem_withDeleted {session : Session} {ids : List Uuid}
    {items : Table CartItem} {item : CartItem} (isAlive : alive item = true) :
    item ∈ (Statements.withDeleted session ids items).rows ↔
      item ∈ items.rows ∧ item.id ∉ ids := by
  change item ∈ items.rows.map _ ↔ _
  rw [List.mem_map]
  constructor
  · rintro ⟨old, member, rfl⟩
    by_cases deleted : old.id ∈ ids
    · rw [if_pos (List.contains_iff_mem.mpr deleted)] at isAlive
      cases isAlive
    · have kept : ¬ids.contains old.id = true :=
        fun contains => deleted (List.contains_iff_mem.mp contains)
      rw [if_neg kept]
      exact ⟨member, deleted⟩
  · rintro ⟨member, kept⟩
    refine ⟨item, member, if_neg fun contains => ?_⟩
    exact kept (List.contains_iff_mem.mp contains)

theorem guarantees_checkout :
    Guarantees checkoutRely CheckoutRequest.program (fun _ => True) := by
  intro request before receipt progress leads _
  obtain ⟨middle, sold, amount, committed⟩ :=
    leads_createOrderFromCart stocksKept_of_allows leads
  refine ⟨committed.goodsKept goodsKept_of_allows, ?_⟩
  intro item member isAlive
  rw [committed.frame.2.2.2.2.2] at member
  exact ((mem_withDeleted isAlive).mp member).1

section Runs

variable {Client : Type} [DecidableEq Client]

/-- The committed orders are those of the log. -/
theorem orders_of_chained {initial final : Database}
    {commits : List CheckoutCommit} (chained : Chained initial commits final)
    (committed : ∀ commit ∈ commits, commit.Committed) :
    final.orders.rows =
      initial.orders.rows ++ commits.map fun commit => commit.value.order := by
  induction commits generalizing initial with
  | nil =>
      subst chained
      simp
  | cons commit commits ih =>
      obtain ⟨rfl, chained⟩ := chained
      obtain ⟨_, _, _, _, first⟩ := committed commit List.mem_cons_self
      rw [ih chained fun other otherMem =>
          committed other (List.mem_cons_of_mem _ otherMem),
        first.orders_rows goodsKept_of_allows]
      simp

/-- How many of the committed checkouts used a coupon. -/
def couponUses (commits : List CheckoutCommit) (coupon : Uuid) : Nat :=
  commits.countP fun commit => commit.value.uses coupon

/-- The coupon that a commit used is the one that its request names, and its
order carries its code. -/
def NamesCoupon (commit : CheckoutCommit) : Prop :=
  match commit.value.coupon with
  | none => commit.request.payload.couponCode = "" ∧
      commit.value.order.couponCode = ""
  | some coupon =>
      commit.request.session.iexact coupon.code
        commit.request.payload.couponCode = true ∧
        commit.value.order.couponCode = coupon.code

theorem namesCoupon_of_committed {commit : CheckoutCommit}
    (committed : commit.Committed) : NamesCoupon commit := by
  obtain ⟨_, _, _, _, checkout⟩ := committed
  obtain ⟨_, order_eq⟩ := checkout.order_eq
  have code : commit.value.order.couponCode =
      (commit.value.coupon.map Coupon.code).getD "" := by
    rw [order_eq]
    rfl
  rw [NamesCoupon]
  cases uses : commit.value.coupon with
  | none =>
      rw [uses] at code
      cases uses ▸ checkout.coupon with
      | unnamed noCode => exact ⟨noCode, code⟩
  | some coupon =>
      rw [uses] at code
      obtain ⟨_, isNamed, _⟩ := checkout.coupon_mem goodsKept_of_allows uses
      exact ⟨isNamed, code⟩

theorem couponUses_cons (commit : CheckoutCommit)
    (commits : List CheckoutCommit) (coupon : Uuid) :
    couponUses (commit :: commits) coupon =
      (if commit.value.uses coupon then 1 else 0) +
        couponUses commits coupon := by
  rw [couponUses, List.countP_cons, Nat.add_comm]
  rfl

theorem coupons_of_chained {initial final : Database}
    {commits : List CheckoutCommit} (chained : Chained initial commits final)
    (committed : ∀ commit ∈ commits, commit.Committed) :
    final.coupons.rows = initial.coupons.rows.map (fun coupon =>
        { coupon with
          usedCount := coupon.usedCount + couponUses commits coupon.id }) ∧
      ∀ coupon ∈ initial.coupons.rows, 0 < coupon.maxUses →
        coupon.usedCount ≤ coupon.maxUses →
        coupon.usedCount + couponUses commits coupon.id ≤ coupon.maxUses := by
  induction commits generalizing initial with
  | nil =>
      subst chained
      refine ⟨(List.map_id _).symm, fun _ _ _ within => within⟩
  | cons commit commits ih =>
      obtain ⟨rfl, chained⟩ := chained
      obtain ⟨_, _, _, _, first⟩ := committed commit List.mem_cons_self
      have rows := first.coupons_rows goodsKept_of_allows
      obtain ⟨later, laterWithin⟩ := ih chained fun other otherMem =>
        committed other (List.mem_cons_of_mem _ otherMem)
      constructor
      · rw [later, rows, List.map_map]
        apply List.map_congr_left
        intro coupon _
        simp [Coupon.afterUse, couponUses_cons, Nat.add_assoc]
      · intro coupon member limited atFirst
        have moved : coupon.afterUse commit.value ∈
            commit.after.coupons.rows := rows ▸ List.mem_map_of_mem member
        have atLast := laterWithin _ moved limited
          (first.usedCount_within goodsKept_of_allows member limited atFirst)
        rw [couponUses_cons, ← Nat.add_assoc]
        exact atLast

/-- The coupon limit under concurrency: in any interleaving of any number of
checkouts, of which any may be rolled back at any statement, the use count of
every coupon is the initial one plus the number of committed orders that used
the coupon, and it stays within the limit. -/
theorem coupon_uses_counted (initial : Database)
    (actions : List (Action Client CheckoutRequest)) :
    let final := exec (System.step CheckoutRequest.program)
      { committed := initial } actions
    final.committed.orders.rows = initial.orders.rows ++
        final.log.map (fun commit => commit.value.order) ∧
      (∀ commit ∈ final.log, NamesCoupon commit) ∧
      final.committed.coupons.rows = initial.coupons.rows.map (fun coupon =>
        { coupon with
          usedCount := coupon.usedCount + couponUses final.log coupon.id }) ∧
      ∀ coupon ∈ initial.coupons.rows, 0 < coupon.maxUses →
        coupon.usedCount ≤ coupon.maxUses →
        coupon.usedCount + couponUses final.log coupon.id ≤
          coupon.maxUses := by
  intro final
  have tracked : Tracked checkoutRely CheckoutRequest.program (fun _ => True)
      initial final :=
    exec_tracked guarantees_checkout (commitsMeet_true _ _)
  have committed : ∀ commit ∈ final.log, CheckoutCommit.Committed commit :=
    fun commit member => committed_of_isOf (tracked.commits commit member).1
  exact ⟨orders_of_chained tracked.chained committed,
    fun commit member => namesCoupon_of_committed (committed commit member),
    coupons_of_chained tracked.chained committed⟩

end Runs

end NovaCommerce
