import NovaCommerce.CartServices
import NovaCommerce.OrderViews

/-!
# The views of the cart

The endpoints of the one cart of a user or of a guest.  Each request first
resolves the cart of whoever sends it, in a transaction of its own, and then
calls a cart service with it.
-/

namespace NovaCommerce

open AtomicCall

structure CartItemData where
  id : Uuid
  variant : Uuid
  sku : Option String
  productName : Option String
  quantity : Nat
  unitPrice : Cents
  lineTotal : Cents

structure CartData where
  id : Uuid
  user : Option Uuid
  sessionKey : String
  currency : String
  items : List CartItemData
  coupon : Option Uuid
  subtotal : Cents
  totalItems : Nat
  metadata : Json
  lastActiveAt : Time

/-- `CartItemSerializer(item).data`. -/
def CartItem.data (db : Database) (item : CartItem) : CartItemData :=
  let variant := db.variants.find? item.variant
  { item with
    sku := variant.map ProductVariant.sku
    productName := variant.bind fun variant =>
      (db.products.find? variant.product).map Product.name
    lineTotal := item.lineTotal }

/-- `CartSerializer(cart).data`. -/
def Cart.data (session : Session) (db : Database) (cart : Cart) : CartData :=
  let items := session.filter db.cartItems fun item => item.cart = cart.id
  { cart with
    items := items.map (CartItem.data db)
    subtotal := (items.map CartItem.lineTotal).sum
    totalItems := (items.map CartItem.quantity).sum
    metadata := db.cartMetadata cart.id }

/-- A quantity that `IntegerField(min_value=...)` accepted. -/
structure AcceptedQuantity (minValue : Int) where
  value : Int
  accepted : minValue ≤ value

/-- What the fields of `AddItemSerializer` make of the data of a request:
values, or the errors of a field. -/
structure AddItemData where
  variantId : Except Json Uuid
  quantity : Except Json (AcceptedQuantity 1) := .ok ⟨1, le_refl 1⟩

/-- `validate_variant_id`. -/
def validateVariantId (db : Database) (variantId : Uuid) :
    Except Json Uuid :=
  if (objects db.variants).any fun variant =>
      variant.id = variantId && variant.isActive then .ok variantId
  else .error (.arr [.str "variant not found or inactive"])

/-- The errors of a field under its name. -/
def errorsUnder {Value : Type} (name : String) :
    Except Json Value → List (String × Json)
  | .ok _ => []
  | .error details => [(name, details)]

/-- `AddItemSerializer(data=...).is_valid(raise_exception=True)`. -/
def validateAddItem (db : Database) (data : AddItemData) :
    Except Json (Uuid × AcceptedQuantity 1) :=
  let variantId := data.variantId.bind (validateVariantId db)
  match variantId, data.quantity with
  | .ok variantId, .ok quantity => .ok (variantId, quantity)
  | _, _ => .error (.obj
      (errorsUnder "variant_id" variantId ++
        errorsUnder "quantity" data.quantity))

inductive CartAnswer where
  | cart (status : Nat) (data : CartData)
  | refused (response : Response)

/-- `except OutOfStockError as exc: return Response(...)`. -/
def exceptOutOfStock {Value : Type} (call : Service Value)
    (answer : Service CartAnswer) : Service CartAnswer := fun before =>
  match call before with
  | .ok _ after => answer after
  | .error (.outOfStockError message) after =>
      .ok (.refused (.error 409 "out_of_stock" message none)) after
  | .error raised after => .error raised after

/-- The key that the ORM makes of a text, or the error of the field. -/
def primaryKeyOf (reader : UuidReader) (text : String) : Service Uuid :=
  match reader.read text with
  | some id => pure id
  | none => throw (.validationError s!"“{text}” is not a valid UUID.")

/-- Who sends a request: an authenticated user, or a guest with the key of a
session; `newKey` is the key that a session draws if there is none yet. -/
structure Visitor where
  user : Option Uuid
  sessionKey : String
  newKey : String

namespace Visitor

/-- `request.session.session_key`, after `request.session.create()` if there
was no session. -/
def key (visitor : Visitor) : String :=
  if visitor.sessionKey = "" then visitor.newKey else visitor.sessionKey

end Visitor

namespace CartViewSet

def resolveCart (session : Session) (visitor : Visitor) : Service Cart :=
  getOrCreateCart session visitor.user visitor.key

/-- `Response(CartSerializer(cart).data, status=...)`. -/
def answer (session : Session) (cart : Cart) (status : Nat) :
    Service CartAnswer := do
  let db ← get
  pure (.cart status (cart.data session db))

def list (session : Session) (visitor : Visitor) : Service CartAnswer := do
  let cart ← resolveCart session visitor
  answer session cart 200

def add (session : Session) (visitor : Visitor) (data : AddItemData) :
    Service CartAnswer := do
  let cart ← resolveCart session visitor
  let db ← get
  match validateAddItem db data with
  | .error details => pure (.refused (invalid details))
  | .ok (variantId, quantity) =>
      exceptOutOfStock (addItem session cart.id variantId quantity.value)
        (answer session cart 201)

/-- `PATCH` of an item; the data has a quantity, or errors. -/
def update (reader : UuidReader) (session : Session) (visitor : Visitor)
    (itemId : String) (data : Except Json (AcceptedQuantity 0)) :
    Service CartAnswer := do
  let cart ← resolveCart session visitor
  match data with
  | .error details =>
      pure (.refused (invalid (.obj [("quantity", details)])))
  | .ok quantity =>
      exceptOutOfStock
        (do
          let id ← primaryKeyOf reader itemId
          updateItem session cart.id id quantity.value)
        (answer session cart 200)

/-- `DELETE` of an item. -/
def remove (reader : UuidReader) (session : Session) (visitor : Visitor)
    (itemId : String) : Service CartAnswer := do
  let cart ← resolveCart session visitor
  let id ← primaryKeyOf reader itemId
  removeItem session cart.id id
  answer session cart 200

def clear (session : Session) (visitor : Visitor) : Service CartAnswer := do
  let cart ← resolveCart session visitor
  clearCart session cart.id
  -- `clear_cart` took the coupon off the object that is shown.
  answer session { cart with coupon := none } 200

end CartViewSet

inductive CartEndpoint where
  | list
  | add (data : AddItemData)
  | update (itemId : String) (data : Except Json (AcceptedQuantity 0))
  | remove (itemId : String)
  | clear

/-- A request of a visitor, with what its handling takes from outside. -/
structure CartVisit where
  session : Session
  visitor : Visitor
  request : CartEndpoint

namespace CartVisit

def view (reader : UuidReader) (visit : CartVisit) : Service CartAnswer :=
  match visit.request with
  | .list => CartViewSet.list visit.session visit.visitor
  | .add data => CartViewSet.add visit.session visit.visitor data
  | .update itemId data =>
      CartViewSet.update reader visit.session visit.visitor itemId data
  | .remove itemId =>
      CartViewSet.remove reader visit.session visit.visitor itemId
  | .clear => CartViewSet.clear visit.session visit.visitor

/-- The answer to a request, and what it leaves; anyone may ask. -/
def respond (reader : UuidReader) (visit : CartVisit) (db : Database) :
    CartAnswer × Database :=
  match visit.view reader db with
  | .ok response after => (response, after)
  | .error raised after => (.refused (apiExceptionHandler raised), after)

def step (reader : UuidReader) (db : Database) (visit : CartVisit) :
    Database :=
  (visit.respond reader db).2

end CartVisit

end NovaCommerce
