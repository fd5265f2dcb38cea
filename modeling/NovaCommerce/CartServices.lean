import NovaCommerce.CartEdits
import NovaCommerce.CheckoutEffects

/-!
# Runs of the cart services

The cart services run one after another here, each in its own transaction,
together with the checkout.  Every call leaves the database as it was or has
one of the effects listed here.  The identifiers that new rows draw are unused
ones.
-/

namespace NovaCommerce

open AtomicCall LockingTransactions

/-- A service call while no other client does anything. -/
def Statements.service {Value : Type} (statements : Statements Value) :
    Service Value :=
  atomic statements.alone

theorem service_eq_ok {Value : Type} {statements : Statements Value}
    {db after : Database} {value : Value}
    (returned : statements.service db = .ok value after) :
    ∃ progress, Leads exclusive db statements .start value progress ∧
      progress.own db = after :=
  leads_of_alone exclusive (atomic_eq_ok.mp returned)

theorem linesKept_of_exclusive {now : Database} (held : Set RowKey)
    (earlier : Database)
    (same : (exclusive : Rely RowKey Database).allows held earlier now) :
    LinesKept held earlier now := by
  obtain rfl : earlier = now := same
  exact cartRely.refl held earlier

def getOrCreateCart (session : Session) (user : Option Uuid)
    (sessionKey : String) : Service Cart := fun db =>
  (Statements.getOrCreateCart session (FreshKey.fresh db.carts.keys) user
    sessionKey).service db

/-- The foreign key of the line to its cart is checked at the commit. -/
def addItem (session : Session) (cart variantId : Uuid) (quantity : Int) :
    Service CartItem := fun db =>
  atomic (do
    let line ← (Statements.addItem session (FreshKey.fresh db.cartItems.keys)
      cart variantId quantity).alone
    let db ← get
    if line.cart ∈ db.carts.keys then pure line
    else throw (.integrityError "foreign key cart")) db

def updateItem (session : Session) (cart itemId : Uuid) (quantity : Int) :
    Service (Option CartItem) :=
  Statements.service do
    let (_, item) ← Statements.updateItem session cart itemId quantity
    pure item

def removeItem (session : Session) (cart itemId : Uuid) : Service Unit :=
  Statements.service do
    let _ ← Statements.removeItem session cart itemId
    pure ()

def clearCart (session : Session) (cart : Uuid) : Service Unit :=
  (Statements.clearCart session cart).service

def mergeAnonymousIntoUser (session : Session) (sessionKey : String)
    (user : Uuid) : Service (Option Cart) := fun db =>
  (Statements.mergeAnonymousIntoUser session (FreshKey.fresh db.carts.keys)
    (fun item => FreshKey.fresh db.cartItems.keys + item) sessionKey
    user).service db

/-- A call of a cart service or of the checkout; the cart of a checkout is one
that was loaded from the table. -/
inductive CartCommand where
  | getOrCreateCart (session : Session) (user : Option Uuid)
      (sessionKey : String)
  | addItem (session : Session) (cart variantId : Uuid) (quantity : Int)
  | updateItem (session : Session) (cart itemId : Uuid) (quantity : Int)
  | removeItem (session : Session) (cart itemId : Uuid)
  | clearCart (session : Session) (cart : Uuid)
  | mergeAnonymousIntoUser (session : Session) (sessionKey : String)
      (user : Uuid)
  | createOrderFromCart (session : Session) (cart : Uuid)
      (user : Option Uuid) (payload : CheckoutInput)

namespace CartCommand

/-- The database after a call, whether it returned or raised. -/
def step (db : Database) : CartCommand → Database
  | getOrCreateCart session user sessionKey =>
      settle (NovaCommerce.getOrCreateCart session user sessionKey) db
  | addItem session cart variantId quantity =>
      settle (NovaCommerce.addItem session cart variantId quantity) db
  | updateItem session cart itemId quantity =>
      settle (NovaCommerce.updateItem session cart itemId quantity) db
  | removeItem session cart itemId =>
      settle (NovaCommerce.removeItem session cart itemId) db
  | clearCart session cart => settle (NovaCommerce.clearCart session cart) db
  | mergeAnonymousIntoUser session sessionKey user =>
      settle (NovaCommerce.mergeAnonymousIntoUser session sessionKey user) db
  | createOrderFromCart session cart user payload =>
      match db.carts.find? cart with
      | none => db
      | some cart =>
          settle (NovaCommerce.createOrderFromCart session cart user payload)
            db

end CartCommand

/-- The carts that a query of the services finds. -/
def Database.chosenCarts (db : Database) (chosen : Cart → Bool) : List Cart :=
  (objects db.carts).filter chosen

def isCartOfUser (user : Uuid) (cart : Cart) : Bool :=
  cart.user = some user

def isCartOfSession (sessionKey : String) (cart : Cart) : Bool :=
  cart.sessionKey = sessionKey && cart.user = none

/-- The cart that `get_or_create` returns is the one that it found, or a new
one in the currency that it was given. -/
inductive HasCart (carts : Table Cart) (found : List Cart)
    (currency : String) (cart : Cart) : Table Cart → Prop
  | found (only : found = [cart]) : HasCart carts found currency cart carts
  | created (noneFound : found = []) (unused : cart.id ∉ carts.keys)
      (currency_eq : cart.currency = currency) :
      HasCart carts found currency cart (carts.insertNew cart)

/-- A guest line is added to the line of the user's cart for its variant. -/
inductive MergesInto (userCart : Uuid) (item : CartItem)
    (variant : ProductVariant) (items : Table CartItem) : Table CartItem → Prop
  | existing {line : CartItem} (member : line ∈ items.rows)
      (isAlive : alive line = true)
      (ofLine : Statements.isLineOf userCart item.variant line = true) :
      MergesInto userCart item variant items
        (items.save (Statements.addedTo line item.quantity variant))
  | created {line : CartItem} (unused : line.id ∉ items.keys)
      (ofLine : Statements.isLineOf userCart item.variant line = true)
      (priced : line.unitPrice = variant.price)
      (noLine : NoLine items userCart item.variant) :
      MergesInto userCart item variant items (items.insertNew line)

/-- Guest lines are merged one after the other. -/
inductive MergesLines (userCart : Uuid) (variants : Table ProductVariant) :
    List CartItem → Table CartItem → Table CartItem → Prop
  | nil (items : Table CartItem) : MergesLines userCart variants [] items items
  | cons {item : CartItem} {lines : List CartItem} {variant : ProductVariant}
      {before middle after : Table CartItem}
      (found : variants.find? item.variant = some variant)
      (first : MergesInto userCart item variant before middle)
      (others : MergesLines userCart variants lines middle after) :
      MergesLines userCart variants (item :: lines) before after

/-- A guest line is absorbed by a line of the user's cart. -/
inductive Absorbs (session : Session) (userCart lineId : Uuid)
    (item : CartItem) (variant : ProductVariant) (items : Table CartItem) :
    Table CartItem → Prop
  | existing {line : CartItem} (member : line ∈ items.rows)
      (isAlive : alive line = true)
      (ofLine : Statements.isLineOf userCart item.variant line = true) :
      Absorbs session userCart lineId item variant items
        (items.save (Statements.addedTo line item.quantity variant))
  | created (unused : lineId ∉ items.keys)
      (noLine : NoLine items userCart item.variant) :
      Absorbs session userCart lineId item variant items
        (items.insertNew (Statements.addedTo
          (Statements.newLine session lineId userCart variant) item.quantity
          variant))

/-- Guest lines are absorbed one after the other; `draw` names the lines that
are created. -/
inductive AbsorbsAll (session : Session) (userCart : Uuid)
    (draw : Uuid → Uuid) (variants : Table ProductVariant) :
    List CartItem → Table CartItem → Table CartItem → Prop
  | nil (items : Table CartItem) :
      AbsorbsAll session userCart draw variants [] items items
  | cons {item : CartItem} {guestLines : List CartItem}
      {variant : ProductVariant} {before middle after : Table CartItem}
      (found : variants.find? item.variant = some variant)
      (first : Absorbs session userCart (draw item.id) item variant before
        middle)
      (others : AbsorbsAll session userCart draw variants guestLines middle
        after) :
      AbsorbsAll session userCart draw variants (item :: guestLines) before
        after

/-- What a call may have done to the database. -/
inductive CartEffect (db : Database) : CartCommand → Database → Prop
  | unchanged {command : CartCommand} : CartEffect db command db
  | created {session : Session} {user : Option Uuid} {sessionKey : String}
      {found : List Cart} {cart : Cart} {carts : Table Cart}
      (hasCart : HasCart db.carts found "USD" cart carts) :
      CartEffect db (.getOrCreateCart session user sessionKey)
        { db with carts := carts }
  | added {session : Session} {cart variantId : Uuid} {quantity : Int}
      {after : Database} {line saved : CartItem} {items : Table CartItem}
      (adds : AddsTo exclusive cart variantId quantity db after line saved
        items) (hasCart : cart ∈ db.carts.keys) :
      CartEffect db (.addItem session cart variantId quantity) after
  | updated {session : Session} {cart itemId : Uuid} {quantity : Int}
      {after : Database} {found : CartItem} {saved : Option CartItem}
      (updates : Updates session cart itemId quantity db after found saved) :
      CartEffect db (.updateItem session cart itemId quantity) after
  | removed {session : Session} {cart itemId : Uuid} (ids : List Uuid) :
      CartEffect db (.removeItem session cart itemId) { db with
        cartItems := Statements.withDeleted session ids db.cartItems }
  | cleared {session : Session} {cart : Uuid} (ids : List Uuid) :
      CartEffect db (.clearCart session cart) { db with
        cartItems := Statements.withDeleted session ids db.cartItems
        carts := Statements.withoutCoupon db.carts cart }
  | merged {session : Session} {sessionKey : String} {user : Uuid}
      {anon userCart : Cart} {carts : Table Cart} {lines : List CartItem}
      {items : Table CartItem}
      (anonOnly : db.chosenCarts (isCartOfSession sessionKey) = [anon])
      (hasCart : HasCart db.carts (db.chosenCarts (isCartOfUser user))
        anon.currency userCart carts)
      (lines_perm : lines.Perm (db.itemsOf anon.id))
      (merges : MergesLines userCart.id db.variants lines db.cartItems items) :
      CartEffect db (.mergeAnonymousIntoUser session sessionKey user) { db with
        cartItems := items
        carts := Statements.withDeletedCart session carts anon.id }
  | checkedOut {session : Session} {user : Option Uuid}
      {payload : CheckoutInput} {cart row : Cart} {after middle : Database}
      {order : Order} {coupon : Option Coupon} {discount : Cents}
      {sold : List OrderItem} {amount : Uuid → Int}
      (member : cart ∈ db.carts.rows)
      (checkedOut : CheckedOut session cart user payload db after order coupon
        discount middle sold amount row) :
      CartEffect db (.createOrderFromCart session cart.id user payload) after

section Merge

open Transaction

variable {db after : Database} {session : Session} {userCart lineId : Uuid}

theorem insertLine_eq_ok {line : CartItem} {inserted : Bool}
    (returned : (Statements.insertLine line).alone db = .ok inserted after) :
    inserted = false ∧ after = db ∨
      inserted = true ∧ line.id ∉ db.cartItems.keys ∧
        NoLine db.cartItems line.cart line.variant ∧
        after = { db with cartItems := db.cartItems.insertNew line } := by
  change (if _ then _ else _ : Statements Bool).alone db = _ at returned
  split at returned
  · obtain ⟨rfl, rfl⟩ := pure_eq_ok.mp returned
    exact Or.inl ⟨rfl, rfl⟩
  · next unused =>
    split at returned
    · obtain ⟨rfl, rfl⟩ := pure_eq_ok.mp returned
      exact Or.inl ⟨rfl, rfl⟩
    · next noLine =>
      rw [alone_bind] at returned
      obtain ⟨_, _, written, finished⟩ := bind_eq_ok.mp returned
      obtain ⟨rfl, rfl⟩ := pure_eq_ok.mp finished
      refine Or.inr ⟨rfl, unused, ?_, ?_⟩
      · intro item member
        rw [Bool.not_eq_true, List.any_eq_false] at noLine
        exact Bool.eq_false_iff.mpr (noLine item member)
      · exact (pure_eq_ok.mp written).2.symm

theorem variantOf_eq_ok {item : CartItem} {variant : ProductVariant}
    (returned : (Statements.variantOf item).alone db = .ok variant after) :
    after = db ∧ db.variants.find? item.variant = some variant := by
  rw [Statements.variantOf, alone_query_bind] at returned
  cases found : db.variants.find? item.variant with
  | none =>
      simp only [found] at returned
      exact (throw_eq_ok.mp returned).elim
  | some row =>
      simp only [found] at returned
      obtain ⟨rfl, rfl⟩ := pure_eq_ok.mp returned
      exact ⟨rfl, rfl⟩

theorem firstLine_eq_ok {variant : Uuid} {line : Option CartItem}
    (returned : (Statements.firstLine session userCart variant).alone db =
      .ok line after) :
    after = db ∧ ∀ item ∈ line, item ∈ db.cartItems.rows ∧
      alive item = true ∧
      Statements.isLineOf userCart variant item = true := by
  obtain ⟨rfl, rfl⟩ := pure_eq_ok.mp returned
  refine ⟨rfl, fun item atHead => ?_⟩
  have listed := List.mem_of_mem_head? atHead
  have selected := (session.orderBy_perm _ _ _).mem_iff.mp listed
  simpa using List.mem_filter.mp selected

theorem isLineOf_iff {cart variantId : Uuid} {line : CartItem} :
    Statements.isLineOf cart variantId line = true ↔
      line.cart = cart ∧ line.variant = variantId := by
  simp [Statements.isLineOf]

theorem Absorbs.mergesInto {item : CartItem} {variant : ProductVariant}
    {items lines : Table CartItem} (variantKey : variant.id = item.variant)
    (absorbs : Absorbs session userCart lineId item variant items lines) :
    MergesInto userCart item variant items lines := by
  cases absorbs with
  | existing member isAlive ofLine => exact .existing member isAlive ofLine
  | created unused noLine =>
      exact .created unused (isLineOf_iff.mpr ⟨rfl, variantKey⟩) rfl noLine

theorem AbsorbsAll.mergesLines {draw : Uuid → Uuid}
    {variants : Table ProductVariant} {guestLines : List CartItem}
    {items lines : Table CartItem}
    (absorbs : AbsorbsAll session userCart draw variants guestLines items
      lines) :
    MergesLines userCart variants guestLines items lines := by
  induction absorbs with
  | nil => exact .nil _
  | cons found first _ ih =>
      have variantKey := (Table.find?_eq_some.mp found).2
      exact .cons found (first.mergesInto variantKey) ih

/-- A guest line that was merged is absorbed. -/
theorem mergeItem_eq_ok {item : CartItem} {value : Unit}
    (returned : (Statements.mergeItem session userCart lineId item).alone db =
      .ok value after) :
    ∃ variant items, db.variants.find? item.variant = some variant ∧
      Absorbs session userCart lineId item variant db.cartItems items ∧
      after = { db with cartItems := items } := by
  rw [Statements.mergeItem, alone_bind] at returned
  obtain ⟨variant, _, loaded, rest⟩ := bind_eq_ok.mp returned
  obtain ⟨rfl, isVariant⟩ := variantOf_eq_ok loaded
  have variantKey : variant.id = item.variant :=
    (Table.find?_eq_some.mp isVariant).2
  rw [alone_bind] at rest
  obtain ⟨existing, _, looked, rest⟩ := bind_eq_ok.mp rest
  obtain ⟨rfl, isLine⟩ := firstLine_eq_ok looked
  refine ⟨variant, ?_⟩
  cases existing with
  | some line =>
      obtain ⟨member, isAlive, ofLine⟩ := isLine line rfl
      exact ⟨_, isVariant, .existing member isAlive ofLine,
        (pure_eq_ok.mp rest).2.symm⟩
  | none =>
      rw [alone_bind] at rest
      obtain ⟨inserted, _, tried, finished⟩ := bind_eq_ok.mp rest
      rcases insertLine_eq_ok tried with
        ⟨rfl, rfl⟩ | ⟨rfl, unused, noLine, rfl⟩
      · exact (throw_eq_ok.mp finished).elim
      · exact ⟨_, isVariant, .created unused (variantKey ▸ noLine),
          (pure_eq_ok.mp finished).2.symm⟩

theorem mergeItems_eq_ok {draw : Uuid → Uuid} {lines : List CartItem}
    {value : Unit}
    (returned : (Statements.mergeItems session userCart draw lines).alone db =
      .ok value after) :
    ∃ items, AbsorbsAll session userCart draw db.variants lines db.cartItems
        items ∧
      after = { db with cartItems := items } := by
  induction lines generalizing db with
  | nil =>
      obtain ⟨rfl, rfl⟩ := pure_eq_ok.mp returned
      exact ⟨_, .nil _, rfl⟩
  | cons item lines ih =>
      rw [Statements.mergeItems, alone_bind] at returned
      obtain ⟨_, _, merged, rest⟩ := bind_eq_ok.mp returned
      obtain ⟨variant, middle, found, first, rfl⟩ := mergeItem_eq_ok merged
      obtain ⟨items, others, rfl⟩ := ih rest
      exact ⟨items, .cons found first others, rfl⟩

theorem alone_lockCarts (chosen : Cart → Bool) :
    (Statements.lockCarts session chosen).alone db =
      .ok (session.filter db.carts chosen) db := by
  apply alone_selectForUpdate
  intro cart listed
  have selected := (session.filter_perm db.carts chosen).mem_iff.mp listed
  exact List.mem_filter.mp selected

/-- A query that returns at most one cart returns it in every order. -/
theorem chosenCarts_eq {chosen : Cart → Bool} {found : List Cart}
    (short : found.length ≤ 1) (same : session.filter db.carts chosen = found) :
    db.chosenCarts chosen = found := by
  have perm : found.Perm (db.chosenCarts chosen) :=
    same ▸ session.scan_perm Cart _
  cases found with
  | nil => exact List.nil_perm.mp perm
  | cons cart others =>
      obtain rfl : others = [] := by
        cases others with
        | nil => rfl
        | cons => simp at short
      exact (List.singleton_perm.mp perm).symm

/-- The cart that `get_or_create` returns, and the carts that it leaves. -/
inductive GivesCart (db : Database) (chosen : Cart → Bool) (new : Cart) :
    Cart → Table Cart → Prop
  | found {cart : Cart} (only : db.chosenCarts chosen = [cart]) :
      GivesCart db chosen new cart db.carts
  | created (noneFound : db.chosenCarts chosen = [])
      (unused : new.id ∉ db.carts.keys) :
      GivesCart db chosen new new (db.carts.insertNew new)

theorem GivesCart.hasCart {chosen : Cart → Bool} {new cart : Cart}
    {carts : Table Cart} (gives : GivesCart db chosen new cart carts) :
    HasCart db.carts (db.chosenCarts chosen) new.currency cart carts := by
  cases gives with
  | found only => exact .found only
  | created noneFound unused => exact .created noneFound unused rfl

theorem oneOrCreate_gives {chosen : Cart → Bool} {new cart : Cart}
    (returned : (Statements.oneOrCreate (session.filter db.carts chosen)
      new).alone db = .ok cart after) :
    ∃ carts, GivesCart db chosen new cart carts ∧
      after = { db with carts := carts } := by
  cases found : session.filter db.carts chosen with
  | nil =>
      rw [found, Statements.oneOrCreate, alone_bind] at returned
      obtain ⟨_, _, inserted, finished⟩ := bind_eq_ok.mp returned
      obtain ⟨rfl, rfl⟩ := pure_eq_ok.mp finished
      change (if _ then _ else _ : Statements Unit).alone db = _ at inserted
      split at inserted
      · exact (throw_eq_ok.mp inserted).elim
      · next unused =>
        exact ⟨_, .created (chosenCarts_eq (Nat.zero_le 1) found) unused,
          (pure_eq_ok.mp inserted).2.symm⟩
  | cons first others =>
      cases others with
      | cons second others =>
          rw [found] at returned
          exact (throw_eq_ok.mp returned).elim
      | nil =>
          rw [found] at returned
          obtain ⟨rfl, rfl⟩ := pure_eq_ok.mp returned
          exact ⟨_, .found (chosenCarts_eq (Nat.le_refl 1) found), rfl⟩

theorem oneOrCreate_eq_ok {chosen : Cart → Bool} {new cart : Cart}
    (returned : (Statements.oneOrCreate (session.filter db.carts chosen)
      new).alone db = .ok cart after) :
    ∃ carts, HasCart db.carts (db.chosenCarts chosen) new.currency cart carts ∧
      after = { db with carts := carts } := by
  obtain ⟨carts, gives, after_eq⟩ := oneOrCreate_gives returned
  exact ⟨carts, gives.hasCart, after_eq⟩

end Merge

section Effects

open Transaction

variable {db after : Database} {session : Session}

theorem getOrCreateCart_eq_ok {user : Option Uuid} {sessionKey : String}
    {cart : Cart}
    (returned : getOrCreateCart session user sessionKey db =
      .ok cart after) :
    ∃ found carts, HasCart db.carts found "USD" cart carts ∧
      after = { db with carts := carts } := by
  have alone := atomic_eq_ok.mp returned
  unfold Statements.getOrCreateCart at alone
  cases user with
  | some user =>
      obtain ⟨carts, hasCart, after_eq⟩ := oneOrCreate_eq_ok alone
      exact ⟨_, carts, hasCart, after_eq⟩
  | none =>
      by_cases noKey : sessionKey = ""
      · simp only [noKey, if_true] at alone
        exact (throw_eq_ok.mp alone).elim
      · simp only [noKey, if_false] at alone
        obtain ⟨carts, hasCart, after_eq⟩ := oneOrCreate_eq_ok alone
        exact ⟨_, carts, hasCart, after_eq⟩

theorem addItem_eq_ok {cart variantId : Uuid} {quantity : Int}
    {saved : CartItem}
    (returned : addItem session cart variantId quantity db = .ok saved after) :
    ∃ line items, AddsTo exclusive cart variantId quantity db after line saved
      items ∧ cart ∈ db.carts.keys := by
  obtain ⟨value, middle, added, rest⟩ :=
    bind_eq_ok.mp (atomic_eq_ok.mp returned)
  rw [get_bind]
    at rest
  obtain ⟨progress, leads, rfl⟩ :=
    leads_of_alone_start exclusive added
  obtain ⟨line, items, adds, _⟩ := leads_addItem linesKept_of_exclusive leads
  split at rest
  · next hasCart =>
    obtain ⟨rfl, rfl⟩ := pure_eq_ok.mp rest
    refine ⟨line, items, adds, ?_⟩
    have sameCart : value.cart = cart := by
      obtain ⟨_, _, _, _, rfl⟩ := adds.saved_eq
      have ofLine := adds.ofLine
      rw [Statements.isLineOf, Bool.and_eq_true, decide_eq_true_eq] at ofLine
      exact ofLine.1
    have sameCarts : (progress.own db).carts = db.carts := by
      rw [adds.after_eq]
    exact sameCarts ▸ sameCart ▸ hasCart
  · exact (throw_eq_ok.mp rest).elim

theorem updateItem_eq_ok {cart itemId : Uuid} {quantity : Int}
    {saved : Option CartItem}
    (returned : updateItem session cart itemId quantity db =
      .ok saved after) :
    ∃ found, Updates session cart itemId quantity db after found saved := by
  obtain ⟨progress, leads, rfl⟩ := service_eq_ok returned
  obtain ⟨⟨found, item⟩, _, updated, finished⟩ := leads_bind.mp leads
  obtain ⟨rfl, rfl⟩ := leads_pure.mp finished
  exact ⟨found, (leads_updateItem linesKept_of_exclusive updated).1⟩

theorem removeItem_eq_ok {cart itemId : Uuid} {value : Unit}
    (returned : removeItem session cart itemId db = .ok value after) :
    ∃ ids, after = { db with
      cartItems := Statements.withDeleted session ids db.cartItems } := by
  obtain ⟨progress, leads, rfl⟩ := service_eq_ok returned
  obtain ⟨items, _, removed, finished⟩ := leads_bind.mp leads
  obtain ⟨_, rfl⟩ := leads_pure.mp finished
  exact ⟨_, (leads_removeItem removed).2.1⟩

theorem saveCartCoupon_eq_ok {cart : Uuid} {value : Unit}
    (returned : (Statements.saveCartCoupon cart).alone db =
      .ok value after) :
    after = { db with carts := Statements.withoutCoupon db.carts cart } := by
  change (if _ then _ else _ : Statements Unit).alone db = _ at returned
  split at returned
  · exact (throw_eq_ok.mp returned).elim
  · exact (pure_eq_ok.mp returned).2.symm

theorem clearCart_eq_ok {cart : Uuid} {value : Unit}
    (returned : clearCart session cart db = .ok value after) :
    ∃ ids, after = { db with
      cartItems := Statements.withDeleted session ids db.cartItems
      carts := Statements.withoutCoupon db.carts cart } := by
  have alone := atomic_eq_ok.mp returned
  rw [Statements.clearCart, alone_bind] at alone
  obtain ⟨items, _, deleted, saved⟩ := bind_eq_ok.mp alone
  obtain ⟨progress, leads, rfl⟩ :=
    leads_of_alone_start exclusive deleted
  have written := (leads_softDelete (fun _ => rfl) leads).2 db
  rw [written] at saved
  exact ⟨_, saveCartCoupon_eq_ok saved⟩

/-- The cart that a merge creates for a user without one. -/
def mergedCart (session : Session) (db : Database) (user : Uuid)
    (currency : String) : Cart where
  id := FreshKey.fresh db.carts.keys
  createdAt := session.now
  user := some user
  currency

/-- What a merge that returned has done. -/
inductive MergesGuest (session : Session) (sessionKey : String) (user : Uuid)
    (db : Database) : Option Cart → Database → Prop
  | nothing (noGuest : sessionKey = "" ∨
      db.chosenCarts (isCartOfSession sessionKey) = []) :
      MergesGuest session sessionKey user db none db
  | merged {anon userCart : Cart} {carts : Table Cart}
      {items : Table CartItem} (hasKey : sessionKey ≠ "")
      (anonOnly : db.chosenCarts (isCartOfSession sessionKey) = [anon])
      (gives : GivesCart db (isCartOfUser user)
        (mergedCart session db user anon.currency) userCart carts)
      (absorbs : AbsorbsAll session userCart.id
        (fun item => FreshKey.fresh db.cartItems.keys + item) db.variants
        (session.scan CartItem (db.itemsOf anon.id)) db.cartItems items) :
      MergesGuest session sessionKey user db (some userCart) { db with
        cartItems := items
        carts := Statements.withDeletedCart session carts anon.id }

theorem mergesGuest_of_returned {sessionKey : String} {user : Uuid}
    {result : Option Cart}
    (returned : mergeAnonymousIntoUser session sessionKey user db =
      .ok result after) :
    MergesGuest session sessionKey user db result after := by
  have alone := atomic_eq_ok.mp returned
  rw [Statements.mergeAnonymousIntoUser] at alone
  by_cases noKey : sessionKey = ""
  · simp only [noKey, if_true] at alone
    obtain ⟨rfl, rfl⟩ := pure_eq_ok.mp alone
    exact .nothing (Or.inl noKey)
  simp only [noKey, if_false] at alone
  rw [alone_bind, bind_of_eq_ok (alone_lockCarts _)] at alone
  cases found : session.filter db.carts fun cart =>
      cart.sessionKey = sessionKey && cart.user = none with
  | nil =>
      simp only [found] at alone
      obtain ⟨rfl, rfl⟩ := pure_eq_ok.mp alone
      exact .nothing (Or.inr (chosenCarts_eq (Nat.zero_le 1) found))
  | cons anon others =>
      cases others with
      | cons second others =>
          simp only [found] at alone
          exact (throw_eq_ok.mp alone).elim
      | nil =>
          simp only [found] at alone
          rw [alone_bind, bind_of_eq_ok (alone_lockCarts _), alone_bind]
            at alone
          obtain ⟨userCart, _, got, rest⟩ := bind_eq_ok.mp alone
          obtain ⟨carts, gives, rfl⟩ := oneOrCreate_gives got
          rw [alone_bind] at rest
          obtain ⟨_, _, read, rest⟩ := bind_eq_ok.mp rest
          obtain ⟨rfl, rfl⟩ := pure_eq_ok.mp read
          rw [alone_bind] at rest
          obtain ⟨_, _, merged, rest⟩ := bind_eq_ok.mp rest
          obtain ⟨items, absorbs, rfl⟩ := mergeItems_eq_ok merged
          obtain ⟨rfl, rfl⟩ := pure_eq_ok.mp rest
          exact .merged noKey (chosenCarts_eq (Nat.le_refl 1) found) gives
            absorbs

theorem mergeAnonymousIntoUser_eq_ok {sessionKey : String} {user : Uuid}
    {result : Option Cart}
    (returned : mergeAnonymousIntoUser session sessionKey user db =
      .ok result after) :
    after = db ∨ ∃ anon userCart carts lines items,
      db.chosenCarts (isCartOfSession sessionKey) = [anon] ∧
      HasCart db.carts (db.chosenCarts (isCartOfUser user)) anon.currency
        userCart carts ∧
      lines.Perm (db.itemsOf anon.id) ∧
      MergesLines userCart.id db.variants lines db.cartItems items ∧
      after = { db with
        cartItems := items
        carts := Statements.withDeletedCart session carts anon.id } := by
  cases mergesGuest_of_returned returned with
  | nothing => exact Or.inl rfl
  | merged _ anonOnly gives absorbs =>
      exact Or.inr ⟨_, _, _, _, _, anonOnly, gives.hasCart,
        session.scan_perm CartItem _, absorbs.mergesLines, rfl⟩

/-- What holds if nothing changes and of what a call returns holds of what it
leaves. -/
theorem effect_settle {Value : Type} {call : Service Value}
    {effect : Database → Prop}
    (undoes : ∀ error after, call db = .error error after → after = db)
    (unchanged : effect db)
    (returned : ∀ value after, call db = .ok value after → effect after) :
    effect (settle call db) := by
  rcases settle_cases call undoes with ⟨value, called⟩ | same
  · exact returned _ _ called
  · exact same.symm ▸ unchanged

/-- A call has one of the effects that were listed. -/
theorem cartEffect_step (db : Database) (command : CartCommand) :
    CartEffect db command (command.step db) := by
  cases command with
  | getOrCreateCart session user sessionKey =>
      refine effect_settle (fun _ _ => atomic_eq_error) .unchanged ?_
      intro cart after returned
      obtain ⟨found, carts, hasCart, rfl⟩ := getOrCreateCart_eq_ok returned
      exact .created hasCart
  | addItem session cart variantId quantity =>
      refine effect_settle (fun _ _ => atomic_eq_error) .unchanged ?_
      intro saved after returned
      obtain ⟨line, items, adds, hasCart⟩ := addItem_eq_ok returned
      exact .added adds hasCart
  | updateItem session cart itemId quantity =>
      refine effect_settle (fun _ _ => atomic_eq_error) .unchanged ?_
      intro saved after returned
      obtain ⟨found, updates⟩ := updateItem_eq_ok returned
      exact .updated updates
  | removeItem session cart itemId =>
      refine effect_settle (fun _ _ => atomic_eq_error) .unchanged ?_
      intro value after returned
      obtain ⟨ids, rfl⟩ := removeItem_eq_ok returned
      exact .removed ids
  | clearCart session cart =>
      refine effect_settle (fun _ _ => atomic_eq_error) .unchanged ?_
      intro value after returned
      obtain ⟨ids, rfl⟩ := clearCart_eq_ok returned
      exact .cleared ids
  | mergeAnonymousIntoUser session sessionKey user =>
      refine effect_settle (fun _ _ => atomic_eq_error) .unchanged ?_
      intro result after returned
      rcases mergeAnonymousIntoUser_eq_ok returned with rfl |
        ⟨anon, userCart, carts, lines, items, anonOnly, hasCart, perm, merges,
          rfl⟩
      · exact .unchanged
      · exact .merged anonOnly hasCart perm merges
  | createOrderFromCart session cart user payload =>
      rw [CartCommand.step]
      cases found : db.carts.find? cart with
      | none => exact .unchanged
      | some row =>
          obtain ⟨member, rfl⟩ := Table.find?_eq_some.mp found
          refine effect_settle (fun _ _ => createOrderFromCart_eq_error)
            .unchanged ?_
          intro order after returned
          obtain ⟨_, _, _, _, _, _, checkedOut⟩ :=
            createOrderFromCart_eq_ok returned
          exact .checkedOut member checkedOut

/-- No call changes the catalog. -/
theorem CartEffect.catalog_eq {command : CartCommand}
    (effect : CartEffect db command after) :
    after.variants = db.variants ∧ after.products = db.products := by
  cases effect with
  | unchanged => exact ⟨rfl, rfl⟩
  | created => exact ⟨rfl, rfl⟩
  | added adds => exact adds.after_eq ▸ ⟨rfl, rfl⟩
  | updated updates =>
      rcases updates.after_eq with ⟨_, _, rfl⟩ | ⟨_, _, rfl⟩ <;>
        exact ⟨rfl, rfl⟩
  | removed => exact ⟨rfl, rfl⟩
  | cleared => exact ⟨rfl, rfl⟩
  | merged => exact ⟨rfl, rfl⟩
  | checkedOut _ checkedOut =>
      rw [checkedOut.after_eq, checkedOut.itemsSold.frame]
      exact ⟨rfl, rfl⟩

end Effects

end NovaCommerce
