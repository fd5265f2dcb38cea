import NovaCommerce.CheckoutTransactions

/-!
# The cart services, statement by statement

Lines of a cart are locked when they are changed, but not when they are read.
A deleted line keeps its place in the unique index of carts and variants: it is
hidden from every query, and yet the insert of a new line for its variant
fails.  The identifiers that new rows draw at random are arguments.
-/

namespace NovaCommerce

open AtomicCall LockingTransactions

namespace Statements

/-- `ProductVariant.objects.select_related("product").get(pk=...,
is_active=True)`. -/
def activeVariant (variantId : Uuid) : Statements ProductVariant := do
  let db ← .query false
  match (objects db.variants).find? fun variant =>
      variant.id = variantId && variant.isActive &&
        (db.products.find? variant.product).isSome with
  | some variant => pure variant
  | none => .fail (.doesNotExist "ProductVariant")

/-- The line of a cart for a variant. -/
def isLineOf (cart variant : Uuid) (item : CartItem) : Bool :=
  item.cart = cart && item.variant = variant

/-- `select_for_update().get(cart=..., variant=...)`, if there is one. -/
def lockLine (session : Session) (cart variant : Uuid) :
    Statements (Option CartItem) := do
  let items ← lockItems session (isLineOf cart variant)
  match items with
  | [] => pure none
  | [item] => pure (some item)
  | _ => .fail (.multipleObjectsReturned "CartItem")

/-- Insert a line, unless its identifier or its cart and variant are in use: an
insert waits for others with the same entry in an index. -/
def insertLine (item : CartItem) : Statements Bool := do
  let _ ← .acquire (.cartItem item.id)
  let db ← .acquire (.cartLine item.cart item.variant)
  if item.id ∈ db.cartItems.keys then pure false
  else if db.cartItems.rows.any (isLineOf item.cart item.variant) then
    pure false
  else do
    .execute fun db => { db with cartItems := db.cartItems.insertNew item }
    pure true

/-- `get_or_create(cart=..., variant=...)`: after a failed insert the line is
looked for once more. -/
def getOrCreateLine (session : Session) (line : CartItem) :
    Statements CartItem := do
  let found ← lockLine session line.cart line.variant
  match found with
  | some item => pure item
  | none => do
      let inserted ← insertLine line
      if inserted then pure line
      else do
        let found ← lockLine session line.cart line.variant
        match found with
        | some item => pure item
        | none => .fail (.integrityError "unique cart, variant")

/-- `item.save()`: an update of every column locks the row. -/
def saveLine (item : CartItem) : Statements Unit := do
  let _ ← .acquire (.cartItem item.id)
  .execute fun db => { db with cartItems := db.cartItems.save item }

/-- The line that `add_item` creates; `itemId` is its identifier. -/
def newLine (session : Session) (itemId cart : Uuid)
    (variant : ProductVariant) : CartItem where
  id := itemId
  createdAt := session.now
  cart
  variant := variant.id
  quantity := 0
  unitPrice := variant.price

/-- The line with more units, at the price of its variant. -/
def addedTo (item : CartItem) (quantity : Int) (variant : ProductVariant) :
    CartItem :=
  { item with
    quantity := item.quantity + quantity.toNat
    unitPrice := variant.price }

def addItem (session : Session) (itemId cart variantId : Uuid)
    (quantity : Int) : Statements CartItem :=
  if quantity ≤ 0 then .fail (.valueError "quantity must be positive")
  else do
    let variant ← activeVariant variantId
    let item ← getOrCreateLine session (newLine session itemId cart variant)
    let newQty := item.quantity + quantity
    let db ← .query false
    let available := getAvailable db variantId
    if available < newQty then
      .fail (.outOfStockError
        s!"requested {newQty}, only {available} available for {variant.sku}")
    else do
      saveLine (addedTo item quantity variant)
      pure (addedTo item quantity variant)

/-- The lines with another quantity of one of them. -/
def withQuantity (items : Table CartItem) (id : Uuid) (quantity : Nat) :
    Table CartItem :=
  items.alter
    (fun row => if row.id = id then { row with quantity } else row)
    (by
      intro row
      split <;> rfl)

/-- `item.variant.sku`. -/
def skuOf (item : CartItem) : Statements String := do
  let db ← .query false
  match db.variants.find? item.variant with
  | some variant => pure variant.sku
  | none => .fail (.doesNotExist "ProductVariant")

/-- The line that was found, and the line that is returned. -/
def updateItem (session : Session) (cart itemId : Uuid) (quantity : Int) :
    Statements (CartItem × Option CartItem) := do
  let items ← lockItems session fun item =>
    item.id = itemId && item.cart = cart
  match items with
  | [] => .fail (.doesNotExist "CartItem")
  | item :: _ =>
      if quantity ≤ 0 then do
        -- `item.delete()`
        .execute fun db => { db with
          cartItems := withDeleted session [item.id] db.cartItems }
        pure (item, none)
      else do
        let db ← .query false
        let available := getAvailable db item.variant
        if available < quantity then do
          let sku ← skuOf item
          .fail (.outOfStockError s!"only {available} available for {sku}")
        else do
          -- `item.save(update_fields=["quantity", "updated_at"])`
          .execute fun db => { db with
            cartItems := withQuantity db.cartItems item.id quantity.toNat }
          pure (item, some { item with quantity := quantity.toNat })

def removeItem (session : Session) (cart itemId : Uuid) :
    Statements (List CartItem) :=
  softDelete session fun item => item.id = itemId && item.cart = cart

def clearCart (session : Session) (cart : Uuid) : Statements Unit := do
  let _ ← deleteItems session cart
  saveCartCoupon cart

/-- `select_for_update()` of carts, or a query for them. -/
def lockCarts (session : Session) (chosen : Cart → Bool) :
    Statements (List Cart) :=
  selectForUpdate .cart Database.carts (fun _ => chosen)
    (fun db => session.filter db.carts chosen)

/-- The insert of a cart. -/
def insertCart (cart : Cart) : Statements Unit := do
  let db ← .acquire (.cart cart.id)
  if cart.id ∈ db.carts.keys then .fail (.integrityError "unique id")
  else .execute fun db => { db with carts := db.carts.insertNew cart }

/-- The result of `get_or_create` from the carts that were found. -/
def oneOrCreate (found : List Cart) (cart : Cart) : Statements Cart :=
  match found with
  | [] => do
      insertCart cart
      pure cart
  | [found] => pure found
  | _ => .fail (.multipleObjectsReturned "Cart")

/-- The cart of a user, or the one of a session without a user; its query is
one for a write. -/
def getOrCreateCart (session : Session) (cartId : Uuid) (user : Option Uuid)
    (sessionKey : String) : Statements Cart :=
  match user with
  | some user => do
      let db ← .query true
      oneOrCreate (session.filter db.carts fun cart => cart.user = some user)
        { id := cartId, createdAt := session.now, user := some user,
          currency := "USD" }
  | none =>
      if sessionKey = "" then
        .fail (.valueError "session_key required for anonymous carts")
      else do
        let db ← .query true
        oneOrCreate (session.filter db.carts fun cart =>
            cart.sessionKey = sessionKey && cart.user = none)
          { id := cartId, createdAt := session.now, sessionKey,
            currency := "USD" }

/-- `user_cart.items.filter(variant=...).first()`. -/
def firstLine (session : Session) (cart variant : Uuid) :
    Statements (Option CartItem) := do
  let db ← .query false
  pure (session.orderBy db.cartItems (isLineOf cart variant)
    (fun first second => first.id ≤ second.id)).head?

/-- `item.variant`. -/
def variantOf (item : CartItem) : Statements ProductVariant := do
  let db ← .query false
  match db.variants.find? item.variant with
  | some variant => pure variant
  | none => .fail (.doesNotExist "ProductVariant")

/-- One guest line; `lineId` is the identifier that a new line draws. -/
def mergeItem (session : Session) (userCart : Uuid) (lineId : Uuid)
    (item : CartItem) : Statements Unit := do
  let variant ← variantOf item
  let existing ← firstLine session userCart item.variant
  match existing with
  | some existing => saveLine (addedTo existing item.quantity variant)
  | none => do
      let inserted ← insertLine (addedTo
        (newLine session lineId userCart variant) item.quantity variant)
      if inserted then pure ()
      else .fail (.integrityError "unique cart, variant")

/-- `draw` names the lines that are created, each by the guest line that it
comes from. -/
def mergeItems (session : Session) (userCart : Uuid) (draw : Uuid → Uuid) :
    List CartItem → Statements Unit
  | [] => pure ()
  | item :: items => do
      mergeItem session userCart (draw item.id) item
      mergeItems session userCart draw items

/-- The carts after the deletion of one of them. -/
def withDeletedCart (session : Session) (carts : Table Cart) (id : Uuid) :
    Table Cart :=
  carts.alter
    (fun row => if row.id = id then
      { row with deletedAt := some session.now } else row)
    (by
      intro row
      split <;> rfl)

def mergeAnonymousIntoUser (session : Session) (cartId : Uuid)
    (draw : Uuid → Uuid) (sessionKey : String) (user : Uuid) :
    Statements (Option Cart) :=
  if sessionKey = "" then pure none
  else do
    let anonymous ← lockCarts session fun cart =>
      cart.sessionKey = sessionKey && cart.user = none
    match anonymous with
    | [] => pure none
    | [anon] => do
        let found ← lockCarts session fun cart => cart.user = some user
        let userCart ← oneOrCreate found
          { id := cartId, createdAt := session.now, user := some user,
            currency := anon.currency }
        let db ← .query false
        mergeItems session userCart.id draw
          (session.scan CartItem (db.itemsOf anon.id))
        -- `anon.delete()`
        .execute fun db => { db with
          carts := withDeletedCart session db.carts anon.id }
        pure (some userCart)
    | _ => .fail (.multipleObjectsReturned "Cart")

end Statements

end NovaCommerce
