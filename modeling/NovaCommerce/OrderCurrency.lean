import NovaCommerce.CartServices
import NovaCommerce.CheckoutConversion
import NovaCommerce.InventoryRuns
import NovaCommerce.OrderUnits
import NovaCommerce.PaymentEffects

/-!
# The currency of an order

A cart gets its currency when it is created, a line gets the price of its
variant, and an order takes over both.  Nothing compares the currency of the
cart with that of the variant.  As long as lines are only added and merged
where the two agree, every order is a sum of prices in its own currency.
-/

namespace NovaCommerce

open AtomicCall GuardedRun LockingTransactions

/-- An amount is the price of a variant, and in the variant's currency. -/
def PricedAs (variants : Table ProductVariant) (variant : Uuid)
    (price : Cents) (currency : String) : Prop :=
  ∃ row, variants.find? variant = some row ∧ price = row.price ∧
    currency = row.currency

namespace Database

def cartCurrency (db : Database) (cart : Uuid) : Option String :=
  (db.carts.find? cart).map Cart.currency

def variantCurrency (db : Database) (variant : Uuid) : Option String :=
  (db.variants.find? variant).map ProductVariant.currency

/-- Every line has the price of its variant, in the currency of its cart. -/
def LinesPriced (db : Database) : Prop :=
  ∀ item ∈ db.cartItems.rows, alive item = true → ∃ currency,
    db.cartCurrency item.cart = some currency ∧
      PricedAs db.variants item.variant item.unitPrice currency

/-- The order adds up prices of variants in the order's currency. -/
structure OrderPriced (db : Database) (order : Order) : Prop where
  items : ∀ item ∈ db.orderItems.rows, item.order = order.id →
    item.lineTotal = item.unitPrice * item.quantity ∧
      ∃ variant, item.variant = some variant ∧
        PricedAs db.variants variant item.unitPrice order.currency
  subtotal_eq : order.subtotal =
    ((db.orderItemsOf order.id).map OrderItem.lineTotal).sum
  grandTotal_eq : order.grandTotal = order.subtotal - order.discountTotal +
    order.shippingTotal + order.taxTotal

/-- What holds in every state of a run that keeps the currencies apart. -/
structure OneCurrency (db : Database) : Prop where
  lines : db.LinesPriced
  haveOrders : db.ItemsHaveOrders
  orders : ∀ order ∈ db.orders.rows, db.OrderPriced order

end Database

namespace CartCommand

/-- An active variant that is added has the currency of its cart, and so have
the variants of guest lines that are merged into a cart that the user has
already. -/
def AgreesOnCurrency (db : Database) : CartCommand → Prop
  | addItem _ cart variantId _ => ∀ variant currency,
      db.ActiveVariant variantId variant →
        db.cartCurrency cart = some currency → currency = variant.currency
  | mergeAnonymousIntoUser _ sessionKey user => ∀ anon userCart,
      db.chosenCarts (isCartOfSession sessionKey) = [anon] →
        db.chosenCarts (isCartOfUser user) = [userCart] →
          ∀ item ∈ db.itemsOf anon.id, ∀ currency,
            db.variantCurrency item.variant = some currency →
              userCart.currency = currency
  | _ => True

/-- An addition or a merge is carried out; a merge without a session does
nothing. -/
def CopiesPrices (db : Database) : CartCommand → Prop
  | addItem session cart variantId quantity =>
      Returns (NovaCommerce.addItem session cart variantId quantity) db
  | mergeAnonymousIntoUser session sessionKey user => sessionKey ≠ "" ∧
      Returns (NovaCommerce.mergeAnonymousIntoUser session sessionKey user) db
  | _ => False

def KeepsCurrency (db : Database) (command : CartCommand) : Prop :=
  command.CopiesPrices db → command.AgreesOnCurrency db

theorem agreesOnCurrency_or_unchanged {db : Database} {command : CartCommand}
    (keeps : command.KeepsCurrency db) :
    command.AgreesOnCurrency db ∨ command.step db = db := by
  cases command with
  | addItem session cart variantId quantity =>
      refine (settle_cases _ fun _ _ => atomic_eq_error).imp_left ?_
      rintro ⟨saved, called⟩
      exact keeps ⟨_, _, called⟩
  | mergeAnonymousIntoUser session sessionKey user =>
      by_cases noSession : sessionKey = ""
      · right
        subst noSession
        rfl
      · refine (settle_cases _ fun _ _ => atomic_eq_error).imp_left ?_
        rintro ⟨saved, called⟩
        exact keeps ⟨noSession, _, _, called⟩
  | _ => exact Or.inl trivial

end CartCommand

section Lines

variable {db after : Database}

/-- Carts that are in the table stay there, in their currency. -/
def CartsKept (before after : Table Cart) : Prop :=
  ∀ cart ∈ before.rows, ∃ row ∈ after.rows,
    row.id = cart.id ∧ row.currency = cart.currency

theorem CartsKept.cartCurrency {before after : Database}
    (kept : CartsKept before.carts after.carts) {cart : Uuid}
    {currency : String} (found : before.cartCurrency cart = some currency) :
    after.cartCurrency cart = some currency := by
  obtain ⟨old, isOld, rfl⟩ := Option.map_eq_some_iff.mp found
  obtain ⟨member, hasId⟩ := Table.find?_eq_some.mp isOld
  obtain ⟨row, rowMem, sameId, sameCurrency⟩ := kept old member
  have isRow : after.carts.find? cart = some row :=
    Table.find?_eq_some.mpr ⟨rowMem, Eq.trans sameId hasId⟩
  rw [Database.cartCurrency, isRow, Option.map_some, sameCurrency]

theorem cartsKept_refl (carts : Table Cart) : CartsKept carts carts :=
  fun cart member => ⟨cart, member, rfl, rfl⟩

theorem cartsKept_alter {carts : Table Cart} {change : Cart → Cart}
    {keepsKey : ∀ cart, Keyed.key (change cart) = Keyed.key cart}
    (same : ∀ cart ∈ carts.rows, (change cart).currency = cart.currency) :
    CartsKept carts (carts.alter change keepsKey) :=
  fun cart member => ⟨change cart, List.mem_map_of_mem member, keepsKey cart,
    same cart member⟩

theorem cartsKept_withDeletedCart (session : Session) (carts : Table Cart)
    (id : Uuid) :
    CartsKept carts (Statements.withDeletedCart session carts id) := by
  apply cartsKept_alter
  intro cart _
  split <;> rfl

theorem cartsKept_hasCart {carts after : Table Cart} {found : List Cart}
    {currency : String} {cart : Cart}
    (hasCart : HasCart carts found currency cart after) :
    CartsKept carts after := by
  cases hasCart with
  | found => exact cartsKept_refl carts
  | created _ unused =>
      intro cart member
      refine ⟨cart, ?_, rfl, rfl⟩
      rw [Table.rows_insertNew unused]
      exact List.mem_append_left _ member

theorem CartsKept.trans {first second third : Table Cart}
    (one : CartsKept first second) (two : CartsKept second third) :
    CartsKept first third := by
  intro cart member
  obtain ⟨middle, middleMem, sameId, sameCurrency⟩ := one cart member
  obtain ⟨row, rowMem, again, stillSame⟩ := two middle middleMem
  exact ⟨row, rowMem, again.trans sameId, stillSame.trans sameCurrency⟩

/-- A call keeps the carts and their currencies. -/
theorem CartEffect.cartsKept {command : CartCommand}
    (effect : CartEffect db command after) :
    CartsKept db.carts after.carts := by
  cases effect with
  | unchanged => exact cartsKept_refl _
  | created hasCart => exact cartsKept_hasCart hasCart
  | added adds =>
      rw [adds.after_eq]
      exact cartsKept_refl _
  | updated updates =>
      rcases updates.after_eq with ⟨_, _, rfl⟩ | ⟨_, _, rfl⟩ <;>
        exact cartsKept_refl _
  | removed => exact cartsKept_refl _
  | cleared =>
      apply cartsKept_alter
      · intro cart
        split <;> rfl
      · intro cart _
        split <;> rfl
  | merged _ hasCart _ _ =>
      exact (cartsKept_hasCart hasCart).trans
        (cartsKept_withDeletedCart _ _ _)
  | checkedOut _ checkedOut =>
      obtain ⟨member, hasId⟩ := Table.find?_eq_some.mp checkedOut.row_eq
      rw [checkedOut.after_eq]
      apply cartsKept_alter
      · intro cart
        split
        · next sameKey => exact sameKey.symm
        · rfl
      · intro cart cartMem
        split
        · next sameKey =>
          rw [db.carts.eq_of_key_eq cartMem member sameKey]
        · rfl

theorem PricedAs.congr {variants : Table ProductVariant}
    (same : variants = db.variants) {variant : Uuid} {price : Cents}
    {currency : String}
    (priced : PricedAs db.variants variant price currency) :
    PricedAs variants variant price currency :=
  same.symm ▸ priced

/-- An active variant is found under its identifier. -/
theorem Database.ActiveVariant.find? {id : Uuid} {variant : ProductVariant}
    (active : db.ActiveVariant id variant) :
    db.variants.find? id = some variant :=
  Table.find?_eq_some.mpr ⟨active.member, active.id_eq⟩

/-- What holds of the visible lines still does when one of them is saved under
the currency of its cart. -/
theorem forall_save {items : Table CartItem} {good : CartItem → Prop}
    (lines : ∀ item ∈ items.rows, alive item = true → good item)
    {saved : CartItem} (isGood : good saved) :
    ∀ item ∈ (items.save saved).rows, alive item = true → good item := by
  intro item member isAlive
  rcases Table.mem_save.mp member with ⟨old, _⟩ | ⟨rfl, _⟩
  · exact lines item old isAlive
  · exact isGood

theorem forall_insertNew {items : Table CartItem} {good : CartItem → Prop}
    (lines : ∀ item ∈ items.rows, alive item = true → good item)
    {line : CartItem} (unused : line.id ∉ items.keys) (isGood : good line) :
    ∀ item ∈ (items.insertNew line).rows, alive item = true → good item := by
  intro item member isAlive
  rw [Table.rows_insertNew unused, List.mem_append, List.mem_singleton]
    at member
  rcases member with old | rfl
  · exact lines item old isAlive
  · exact isGood

theorem forall_withDeleted {items : Table CartItem} {good : CartItem → Prop}
    (lines : ∀ item ∈ items.rows, alive item = true → good item)
    (session : Session) (ids : List Uuid) :
    ∀ item ∈ (Statements.withDeleted session ids items).rows,
      alive item = true → good item :=
  fun item member isAlive =>
    lines item ((mem_withDeleted isAlive).mp member).1 isAlive

/-- Merged lines are priced in the currency of the user's cart. -/
theorem forall_mergesLines {userCart : Uuid} {variants : Table ProductVariant}
    {guestLines : List CartItem} {items lines : Table CartItem}
    {good : CartItem → Prop}
    (merges : MergesLines userCart variants guestLines items lines)
    (isGood : ∀ item ∈ guestLines, ∀ variant line,
      variants.find? item.variant = some variant → line.cart = userCart →
      line.variant = item.variant → line.unitPrice = variant.price → good line)
    (goodLines : ∀ item ∈ items.rows, alive item = true → good item) :
    ∀ item ∈ lines.rows, alive item = true → good item := by
  induction merges with
  | nil => exact goodLines
  | cons found first others ih =>
      apply ih (fun item listed => isGood item (List.mem_cons_of_mem _ listed))
      cases first with
      | existing member isAlive ofLine =>
          simp only [Statements.isLineOf, Bool.and_eq_true, decide_eq_true_eq]
            at ofLine
          exact forall_save goodLines
            (isGood _ List.mem_cons_self _ _ found ofLine.1 ofLine.2 rfl)
      | created unused ofLine priced _ =>
          simp only [Statements.isLineOf, Bool.and_eq_true, decide_eq_true_eq]
            at ofLine
          exact forall_insertNew goodLines unused
            (isGood _ List.mem_cons_self _ _ found ofLine.1 ofLine.2 priced)

theorem forall_emptiedItems {items : Table CartItem} {good : CartItem → Prop}
    (lines : ∀ item ∈ items.rows, alive item = true → good item)
    (session : Session) (cart : Uuid) :
    ∀ item ∈ (emptiedItems session cart items).rows,
      alive item = true → good item := by
  intro item member isAlive
  obtain ⟨old, oldMem, rfl⟩ := List.mem_map.mp member
  unfold softDeleteItemOf at isAlive ⊢
  split at isAlive
  · cases isAlive
  · next kept =>
    rw [if_neg kept]
    exact lines old oldMem isAlive

/-- Only the line that was found or created is new. -/
theorem HasLine.forall_save {items lines : Table CartItem} {line : CartItem}
    (hasLine : HasLine items line lines) {good : CartItem → Prop}
    (goodLines : ∀ item ∈ items.rows, alive item = true → good item)
    {saved : CartItem} (sameId : saved.id = line.id) (isGood : good saved) :
    ∀ item ∈ (lines.save saved).rows, alive item = true → good item := by
  intro item member isAlive
  rcases Table.mem_save.mp member with ⟨old, keyNe⟩ | ⟨rfl, _⟩
  · cases hasLine with
    | found => exact goodLines item old isAlive
    | created unused =>
        rw [Table.rows_insertNew unused, List.mem_append, List.mem_singleton]
          at old
        rcases old with old | rfl
        · exact goodLines item old isAlive
        · exact (keyNe sameId.symm).elim
  · exact isGood

theorem HasCart.mem {carts after : Table Cart} {found : List Cart}
    {currency : String} {cart : Cart}
    (hasCart : HasCart carts found currency cart after)
    (areFound : ∀ row ∈ found, row ∈ carts.rows) : cart ∈ after.rows := by
  cases hasCart with
  | found only => exact areFound cart (only ▸ List.mem_singleton_self cart)
  | created _ unused =>
      rw [Table.rows_insertNew unused]
      exact List.mem_append_right _ (List.mem_singleton_self cart)

theorem mem_chosenCarts {chosen : Cart → Bool} {cart : Cart}
    (listed : cart ∈ db.chosenCarts chosen) : cart ∈ db.carts.rows :=
  (List.mem_filter.mp (List.mem_filter.mp listed).1).1

theorem cartCurrency_eq_of_mem {cart : Cart} (member : cart ∈ db.carts.rows) :
    db.cartCurrency cart.id = some cart.currency := by
  have found : db.carts.find? cart.id = some cart :=
    Table.find?_eq_some.mpr ⟨member, rfl⟩
  rw [Database.cartCurrency, found, Option.map_some]

/-- Guest lines have the currency of the cart that they are merged into. -/
theorem currency_of_merged {session : Session} {sessionKey : String}
    {user : Uuid} {anon userCart : Cart} {carts : Table Cart}
    (keeps : (CartCommand.mergeAnonymousIntoUser session sessionKey
      user).AgreesOnCurrency db)
    (lines : db.LinesPriced)
    (anonOnly : db.chosenCarts (isCartOfSession sessionKey) = [anon])
    (hasCart : HasCart db.carts (db.chosenCarts (isCartOfUser user))
      anon.currency userCart carts)
    {item : CartItem} (guestLine : item ∈ db.itemsOf anon.id)
    {variant : ProductVariant}
    (found : db.variants.find? item.variant = some variant) :
    userCart.currency = variant.currency := by
  cases hasCart with
  | found only =>
      have ofVariant : db.variantCurrency item.variant =
          some variant.currency := by
        rw [Database.variantCurrency, found, Option.map_some]
      exact keeps anon userCart anonOnly only item guestLine _ ofVariant
  | created _ _ currency_eq =>
      have anonMem : anon ∈ db.carts.rows :=
        mem_chosenCarts (anonOnly ▸ List.mem_singleton_self anon)
      obtain ⟨member, isAlive, sameCart⟩ := mem_itemsOf.mp guestLine
      obtain ⟨currency, ofCart, row, isRow, _, rfl⟩ :=
        lines item member isAlive
      rw [sameCart, cartCurrency_eq_of_mem anonMem] at ofCart
      obtain rfl : variant = row := Option.some.inj (found.symm.trans isRow)
      exact currency_eq.trans (Option.some.inj ofCart)

/-- The lines of the state after a call, if the call keeps the currencies
apart. -/
theorem linesPriced_step {command : CartCommand}
    (effect : CartEffect db command after)
    (keeps : command.AgreesOnCurrency db) (lines : db.LinesPriced) :
    after.LinesPriced := by
  have cartsKept := effect.cartsKept
  have sameVariants := effect.catalog_eq.1
  -- The lines of before are as good as they were, now that carts were kept.
  have still : ∀ item ∈ db.cartItems.rows, alive item = true → ∃ currency,
      after.cartCurrency item.cart = some currency ∧
        PricedAs after.variants item.variant item.unitPrice currency := by
    intro item member isAlive
    obtain ⟨currency, ofCart, priced⟩ := lines item member isAlive
    exact ⟨currency, cartsKept.cartCurrency ofCart,
      priced.congr sameVariants⟩
  cases effect with
  | unchanged => exact still
  | created => exact still
  | added adds hasCart =>
      obtain ⟨_, hasLine, _, ofLine, ⟨_, variant, rfl, active, rfl⟩, rfl⟩ :=
        adds
      simp only [Statements.isLineOf, Bool.and_eq_true, decide_eq_true_eq]
        at ofLine
      obtain ⟨cart, cartMem, sameId⟩ := List.mem_map.mp hasCart
      have ofCart := cartCurrency_eq_of_mem cartMem
      refine hasLine.forall_save still rfl
        ⟨cart.currency, ?_, variant, ?_, rfl, ?_⟩
      · exact (congrArg _ (ofLine.1.trans sameId.symm)).trans ofCart
      · exact ofLine.2.symm ▸ active.find?
      · exact keeps variant _ active (sameId ▸ ofCart)
  | updated updates =>
      rcases updates.after_eq with ⟨_, _, rfl⟩ | ⟨_, _, rfl⟩
      · exact forall_withDeleted still _ _
      · have isGood := still _ updates.member updates.isAlive
        exact forall_save still isGood
  | removed ids => exact forall_withDeleted still _ ids
  | cleared ids => exact forall_withDeleted still _ ids
  | @merged _ _ _ anon userCart carts _ _ anonOnly hasCart perm merges =>
      refine forall_mergesLines merges ?_ still
      intro item listed variant line found sameCart sameVariant priced
      have sameCurrency := currency_of_merged keeps lines anonOnly hasCart
        (perm.mem_iff.mp listed) found
      have userMem : userCart ∈ carts.rows :=
        hasCart.mem fun _ => mem_chosenCarts
      have ofCart : Database.cartCurrency { db with carts := carts }
          userCart.id = some userCart.currency :=
        cartCurrency_eq_of_mem userMem
      refine ⟨userCart.currency, ?_, variant, ?_, priced, sameCurrency⟩
      · rw [sameCart]
        exact (cartsKept_withDeletedCart _ _ _).cartCurrency ofCart
      · rw [sameVariant]
        exact found
  | checkedOut _ checkedOut =>
      obtain ⟨_, _, _, _, _, after_eq⟩ := checkedOut
      intro item member isAlive
      rw [after_eq] at member
      exact forall_emptiedItems still _ _ item member isAlive

end Lines

section Orders

variable {db after : Database}

/-- An order stays as it is while others are placed. -/
theorem Database.OrderPriced.congr {order : Order}
    (priced : db.OrderPriced order)
    (sameVariants : after.variants = db.variants)
    (sameItems : ∀ item ∈ after.orderItems.rows, item.order = order.id →
      item ∈ db.orderItems.rows)
    (sameVisible : after.orderItemsOf order.id = db.orderItemsOf order.id) :
    after.OrderPriced order where
  items item member ofOrder := by
    obtain ⟨lineTotal_eq, variant, isVariant, inCurrency⟩ :=
      priced.items item (sameItems item member ofOrder) ofOrder
    exact ⟨lineTotal_eq, variant, isVariant, inCurrency.congr sameVariants⟩
  subtotal_eq := by
    rw [sameVisible]
    exact priced.subtotal_eq
  grandTotal_eq := priced.grandTotal_eq

/-- A new order has the items of its cart at their prices. -/
theorem pricedAs_of_soldAs {order : Uuid} {items : List CartItem}
    {sold : List OrderItem} (soldAs : List.Forall₂ (SoldAs order) items sold)
    {currency : String}
    (priced : ∀ item ∈ items,
      PricedAs db.variants item.variant item.unitPrice currency) :
    ∀ item ∈ sold, item.lineTotal = item.unitPrice * item.quantity ∧
      ∃ variant, item.variant = some variant ∧
        PricedAs db.variants variant item.unitPrice currency := by
  induction soldAs with
  | nil => simp
  | @cons item first _ _ one _ ih =>
      intro other listed
      rcases List.mem_cons.mp listed with rfl | later
      · refine ⟨?_, item.variant, one.variant_eq, ?_⟩
        · rw [one.lineTotal_eq, one.unitPrice_eq, one.quantity_eq]
        · rw [one.unitPrice_eq]
          exact priced item List.mem_cons_self
      · exact ih (fun item listed =>
          priced item (List.mem_cons_of_mem _ listed)) other later

/-- A checkout places an order in the currency of its lines. -/
theorem orders_checkedOut {session : Session} {cart : Cart}
    {user : Option Uuid} {payload : CheckoutInput} {middle : Database}
    {order : Order} {coupon : Option Coupon} {discount : Cents}
    {sold : List OrderItem} {amount : Uuid → Int} {row : Cart}
    (invariant : db.OneCurrency) (member : cart ∈ db.carts.rows)
    (checkedOut : CheckedOut session cart user payload db after order coupon
      discount middle sold amount row) :
    after.ItemsHaveOrders ∧ ∀ order ∈ after.orders.rows,
      after.OrderPriced order := by
  have conversion := exactConversion_of_checkedOut checkedOut
  have sameVariants : after.variants = db.variants := by
    rw [conversion.frame]
  have order_eq := checkedOut.order_eq
  have isNew := checkedOut.isNew
  have sameCurrency : order.currency = cart.currency := by
    rw [order_eq]
    rfl
  have ownRows := sold_order conversion.soldAs
  have priced : ∀ item ∈ session.scan CartItem (db.itemsOf cart.id),
      PricedAs db.variants item.variant item.unitPrice cart.currency := by
    intro item listed
    obtain ⟨itemMem, isAlive, sameCart⟩ :=
      mem_itemsOf.mp (conversion.visited_perm.mem_iff.mp listed)
    obtain ⟨currency, ofCart, inCurrency⟩ :=
      invariant.lines item itemMem isAlive
    rw [sameCart, cartCurrency_eq_of_mem member] at ofCart
    obtain rfl := Option.some.inj ofCart
    exact inCurrency
  have soldPriced := pricedAs_of_soldAs conversion.soldAs priced
  constructor
  · intro item listed
    rw [conversion.orderItems_eq] at listed
    rw [Table.keys, conversion.orders_eq, List.map_append]
    rcases List.mem_append.mp listed with old | new
    · exact List.mem_append_left _ (invariant.haveOrders item old)
    · rw [(ownRows item new).1]
      exact List.mem_append_right _ (List.mem_singleton_self _)
  · intro other listed
    rw [conversion.orders_eq, List.mem_append, List.mem_singleton] at listed
    rcases listed with old | rfl
    · have otherNe : other.id ≠ order.id := by
        intro same
        exact isNew (same ▸ List.mem_map_of_mem old)
      refine (invariant.orders other old).congr sameVariants ?_
        (orderItemsOf_append_of_ne conversion.orderItems_eq ownRows otherNe)
      intro item itemMem ofOrder
      rw [conversion.orderItems_eq] at itemMem
      rcases List.mem_append.mp itemMem with before | new
      · exact before
      · exact (otherNe (ofOrder.symm.trans (ownRows item new).1)).elim
    · constructor
      · intro item itemMem ofOrder
        rw [conversion.orderItems_eq] at itemMem
        rcases List.mem_append.mp itemMem with before | new
        · exact (isNew (ofOrder ▸ invariant.haveOrders item before)).elim
        · obtain ⟨lineTotal_eq, variant, isVariant, inCurrency⟩ :=
            soldPriced item new
          refine ⟨lineTotal_eq, variant, isVariant, ?_⟩
          rw [sameCurrency]
          exact inCurrency.congr sameVariants
      · rw [conversion.orderItemsOf_eq invariant.haveOrders]
        exact conversion.subtotal_eq
      · exact conversion.grandTotal_eq

theorem oneCurrency_effect {command : CartCommand}
    (effect : CartEffect db command after)
    (keeps : command.AgreesOnCurrency db) (invariant : db.OneCurrency) :
    after.OneCurrency := by
  have lines := linesPriced_step effect keeps invariant.lines
  have sameVariants := effect.catalog_eq.1
  have quiet : after.orders = db.orders → after.orderItems = db.orderItems →
      after.OneCurrency := by
    intro sameOrders sameItems
    refine ⟨lines, ?_, ?_⟩
    · intro item member
      rw [sameOrders]
      rw [sameItems] at member
      exact invariant.haveOrders item member
    · intro order member
      rw [sameOrders] at member
      refine (invariant.orders order member).congr sameVariants ?_ ?_
      · intro item listed _
        exact sameItems ▸ listed
      · rw [Database.orderItemsOf, sameItems, Database.orderItemsOf]
  cases effect with
  | unchanged => exact invariant
  | created => exact quiet rfl rfl
  | added adds => exact quiet (by rw [adds.after_eq]) (by rw [adds.after_eq])
  | updated updates =>
      rcases updates.after_eq with ⟨_, _, rfl⟩ | ⟨_, _, rfl⟩ <;>
        exact quiet rfl rfl
  | removed => exact quiet rfl rfl
  | cleared => exact quiet rfl rfl
  | merged => exact quiet rfl rfl
  | checkedOut member checkedOut =>
      obtain ⟨haveOrders, orders⟩ :=
        orders_checkedOut invariant member checkedOut
      exact ⟨lines, haveOrders, orders⟩

theorem oneCurrency_step {command : CartCommand}
    (keeps : command.KeepsCurrency db) (invariant : db.OneCurrency) :
    (command.step db).OneCurrency := by
  rcases CartCommand.agreesOnCurrency_or_unchanged keeps with agrees | unchanged
  · exact oneCurrency_effect (cartEffect_step db command) agrees invariant
  · rw [unchanged]
    exact invariant

end Orders

/-- In every run that keeps the currencies apart, every order adds up prices
of variants in its own currency, and a charge attempt is about the order's
total in that currency. -/
theorem orders_in_one_currency {initial : Database}
    {commands : List CartCommand} (noLines : initial.cartItems.rows = [])
    (noOrders : initial.NoOrders)
    (keeps : Guarded CartCommand.step
      (fun db command => command.KeepsCurrency db) initial commands) :
    let db := exec CartCommand.step initial commands
    ∀ order ∈ db.orders.rows, db.OrderPriced order ∧
      ∀ session gateway providerCode successUrl cancelUrl payment after,
        createPayment session gateway order providerCode successUrl cancelUrl
            db = .ok payment after →
          payment.amount = order.grandTotal ∧
            payment.currency = order.currency := by
  intro db order member
  have start : initial.OneCurrency := by
    refine ⟨?_, ?_, ?_⟩
    · intro item listed
      simp [noLines] at listed
    · intro item listed
      simp [noOrders.orderItems_eq] at listed
    · intro order listed
      simp [noOrders.orders_eq] at listed
  have invariant : db.OneCurrency :=
    exec_invariant
      (fun _ _ holds keeps => oneCurrency_step keeps holds) start keeps
  refine ⟨invariant.orders order member, ?_⟩
  intro session gateway providerCode successUrl cancelUrl payment after returned
  obtain ⟨_, _, charged⟩ := createPayment_eq_ok returned
  exact ⟨charged.amount_eq, charged.currency_eq⟩

/-- A user gets a cart, puts two units of a variant into it, and checks it
out. -/
def shopping : List CartCommand :=
  [.getOrCreateCart { now := 1 } (some 3) "", .addItem { now := 1 } 1 7 2,
    .createOrderFromCart { now := 1, orderNumber := "N1" } 1 (some 3)
      { email := "buyer@example.com", phone := "",
        shippingAddress := .obj [] }]

theorem orders_in_one_currency_shopping :
    let db := exec CartCommand.step (oneShelf 5 0) shopping
    db.orders.rows.map Order.currency = ["USD"] ∧
      ∀ order ∈ db.orders.rows, db.OrderPriced order := by
  have keeps : Guarded CartCommand.step
      (fun db command => command.KeepsCurrency db) (oneShelf 5 0)
      shopping := by
    refine ⟨False.elim, ?_, False.elim, trivial⟩
    intro _ variant currency active ofCart
    have catalog := (cartEffect_step (oneShelf 5 0)
      (.getOrCreateCart { now := 1 } (some 3) "")).catalog_eq
    have member : variant ∈ (oneShelf 5 0).variants.rows :=
      catalog.1 ▸ active.member
    rw [List.mem_singleton.mp member]
    have inDollars : (CartCommand.step (oneShelf 5 0)
        (.getOrCreateCart { now := 1 } (some 3) "")).cartCurrency 1 =
          some "USD" := by
      decide +kernel
    exact Option.some.inj (ofCart.symm.trans inDollars)
  refine ⟨by decide +kernel, fun order member => ?_⟩
  exact (orders_in_one_currency rfl ⟨rfl, rfl⟩ keeps order member).1

/-- The price of the variant is in euros. -/
def euroShelf : Database :=
  { oneShelf 5 0 with
    variants := ⟨[{
        id := 7, createdAt := 0, product := 6, sku := "NOVA-TEE-M",
        price := 1999, currency := "EUR" }],
      List.nodup_singleton _⟩ }

/-- A variant with a price in euros is ordered, and would be charged, in
dollars. -/
theorem order_in_other_currency :
    let db := exec CartCommand.step euroShelf shopping
    euroShelf.cartItems.rows = [] ∧ euroShelf.NoOrders ∧
      db.variants.rows.map (fun variant =>
        (variant.id, variant.price, variant.currency)) =
          [(7, 1999, "EUR")] ∧
      db.orderItems.rows.map (fun item =>
        (item.order, item.variant, item.unitPrice)) = [(1, some 7, 1999)] ∧
      db.orders.rows.map (fun order => (order.id, order.currency)) =
        [(1, "USD")] := by
  refine ⟨rfl, ⟨rfl, rfl⟩, ?_, ?_, ?_⟩
  · decide +kernel
  · decide +kernel
  · decide +kernel

end NovaCommerce
