import NovaCommerce.KeyedTable
import NovaCommerce.AtomicCall
import NovaCommerce.Json
import Mathlib.Data.List.Sort

/-!
# The tables of the store

The rows that the services read and write, under the names of their models,
and the database they make up.  Identifiers are numbers, moments are numbers
of ticks, and amounts of money are whole numbers of cents, which is what a
column with two decimal places holds.  Models that share
`TimeStampedUUIDModel` are soft-deleted: a manager hides the rows whose
`deletedAt` is set, while the table keeps them.
-/

namespace NovaCommerce

abbrev Uuid := Nat

abbrev Time := Int

/-- An amount of money in cents. -/
abbrev Cents := Int

/-- The columns that every model inherits. -/
structure TimeStampedUUIDModel where
  id : Uuid
  createdAt : Time
  deletedAt : Option Time := none
  deriving DecidableEq, Repr

/-- A model whose rows carry the inherited columns. -/
class IsModel (Row : Type) where
  base : Row → TimeStampedUUIDModel

instance (priority := low) {Row : Type} [IsModel Row] : Keyed Row Uuid where
  key row := (IsModel.base row).id

/-- The row is not soft-deleted. -/
def alive {Row : Type} [IsModel Row] (row : Row) : Bool :=
  (IsModel.base row).deletedAt.isNone

/-- The rows that the default manager of a model returns. -/
def objects {Row : Type} [IsModel Row] (table : Table Row) : List Row :=
  table.rows.filter alive

structure Warehouse extends TimeStampedUUIDModel where
  code : String
  isActive : Bool := true
  priority : Nat := 10
  deriving DecidableEq, Repr

structure Stock extends TimeStampedUUIDModel where
  variant : Uuid
  warehouse : Uuid
  onHand : Int := 0
  reserved : Int := 0
  safetyBuffer : Nat := 0
  deriving DecidableEq, Repr

inductive MovementReason where
  | purchase
  | sale
  | return
  | adjustment
  | transferIn
  | transferOut
  | reservation
  | reservationRelease
  deriving DecidableEq, Repr

structure StockMovement extends TimeStampedUUIDModel where
  stock : Uuid
  quantity : Int
  reason : MovementReason
  reference : String := ""
  note : String := ""
  deriving DecidableEq, Repr

structure Product extends TimeStampedUUIDModel where
  name : String

structure ProductVariant extends TimeStampedUUIDModel where
  product : Uuid
  sku : String
  price : Cents
  currency : String := "USD"
  isActive : Bool := true
  attributesSnapshot : Json := .obj []

inductive CouponKind where
  | percent
  | fixed
  | freeShipping
  deriving DecidableEq, Repr

/-- `value` is an amount in cents, or hundredths of a percent. -/
structure Coupon extends TimeStampedUUIDModel where
  code : String
  kind : CouponKind := .percent
  value : Int := 0
  minSubtotal : Cents := 0
  maxDiscount : Option Cents := none
  maxUses : Nat := 0
  usedCount : Nat := 0
  perUserLimit : Nat := 1
  startsAt : Option Time := none
  endsAt : Option Time := none
  isActive : Bool := true
  deriving DecidableEq, Repr

structure Cart extends TimeStampedUUIDModel where
  user : Option Uuid := none
  sessionKey : String := ""
  currency : String := "USD"
  coupon : Option Uuid := none
  /-- `auto_now`: the moment at which the row was last saved as a whole, that of
  its creation at first. -/
  lastActiveAt : Time := createdAt
  deriving DecidableEq, Repr

structure CartItem extends TimeStampedUUIDModel where
  cart : Uuid
  variant : Uuid
  quantity : Nat := 1
  unitPrice : Cents
  deriving DecidableEq, Repr

inductive OrderStatus where
  | pending
  | paid
  | packed
  | shipped
  | delivered
  | cancelled
  | refunded
  deriving DecidableEq, Repr

structure Order extends TimeStampedUUIDModel where
  number : String
  user : Option Uuid
  emailSnapshot : String
  phoneSnapshot : String
  status : OrderStatus := .pending
  currency : String := "USD"
  subtotal : Cents := 0
  shippingTotal : Cents := 0
  taxTotal : Cents := 0
  discountTotal : Cents := 0
  grandTotal : Cents := 0
  couponCode : String := ""
  shippingAddress : Json := .obj []
  billingAddress : Json := .obj []
  paymentProvider : String := ""
  paymentReference : String := ""
  paidAt : Option Time := none
  cancelledAt : Option Time := none
  refundedAt : Option Time := none
  notesCustomer : String := ""
  metadata : Json := .obj []

structure OrderItem extends TimeStampedUUIDModel where
  order : Uuid
  variant : Option Uuid
  sku : String
  nameSnapshot : String
  attributesSnapshot : Json := .obj []
  quantity : Nat
  unitPrice : Cents
  lineTotal : Cents

structure OrderEvent extends TimeStampedUUIDModel where
  order : Uuid
  code : String
  message : String := ""
  actor : Option Uuid := none
  payload : Json := .obj []

inductive PaymentStatus where
  | pending
  | authorized
  | captured
  | failed
  | cancelled
  | refunded
  deriving DecidableEq, Repr

inductive Provider where
  | stripe
  | paypal
  | click
  | payme
  | uzum
  | manual
  deriving DecidableEq, Repr

structure Payment extends TimeStampedUUIDModel where
  order : Uuid
  provider : Provider
  status : PaymentStatus := .pending
  amount : Cents := 0
  currency : String := "USD"
  providerReference : String := ""
  providerIntentId : String := ""
  redirectUrl : String := ""
  rawRequest : Json := .obj []
  rawResponse : Json := .obj []
  error : Json := .obj []

instance : IsModel Warehouse := ⟨Warehouse.toTimeStampedUUIDModel⟩
instance : IsModel Stock := ⟨Stock.toTimeStampedUUIDModel⟩
instance : IsModel StockMovement := ⟨StockMovement.toTimeStampedUUIDModel⟩
instance : IsModel Product := ⟨Product.toTimeStampedUUIDModel⟩
instance : IsModel ProductVariant := ⟨ProductVariant.toTimeStampedUUIDModel⟩
instance : IsModel Coupon := ⟨Coupon.toTimeStampedUUIDModel⟩
instance : IsModel Cart := ⟨Cart.toTimeStampedUUIDModel⟩
instance : IsModel CartItem := ⟨CartItem.toTimeStampedUUIDModel⟩
instance : IsModel Order := ⟨Order.toTimeStampedUUIDModel⟩
instance : IsModel OrderItem := ⟨OrderItem.toTimeStampedUUIDModel⟩
instance : IsModel OrderEvent := ⟨OrderEvent.toTimeStampedUUIDModel⟩
instance : IsModel Payment := ⟨Payment.toTimeStampedUUIDModel⟩

/-- The text can be sent to the database in UTF-8. -/
def isSendable (text : String) : Bool :=
  !text.toList.contains '\x00' &&
    !text.toList.any TextDecoding.standsForSurrogate

/-- A text column of this width holds the text. -/
def fitsColumn (width : Nat) (text : String) : Bool :=
  text.length ≤ width && isSendable text

/-- The primary database. -/
structure Database where
  warehouses : Table Warehouse := ∅
  stocks : Table Stock := ∅
  movements : Table StockMovement := ∅
  products : Table Product := ∅
  variants : Table ProductVariant := ∅
  coupons : Table Coupon := ∅
  carts : Table Cart := ∅
  cartItems : Table CartItem := ∅
  orders : Table Order := ∅
  orderItems : Table OrderItem := ∅
  orderEvents : Table OrderEvent := ∅
  payments : Table Payment := ∅
  /-- The column `metadata` of the carts, which nothing writes. -/
  cartMetadata : Uuid → Json := fun _ => .obj []

namespace Database

/-- `order.items.all()`. -/
def orderItemsOf (db : Database) (order : Uuid) : List OrderItem :=
  (objects db.orderItems).filter fun item => item.order = order

/-- The foreign key from order items to orders. -/
def ItemsHaveOrders (db : Database) : Prop :=
  ∀ item ∈ db.orderItems.rows, item.order ∈ db.orders.keys

/-- The foreign key from cart items to carts. -/
def LinesHaveCarts (db : Database) : Prop :=
  ∀ item ∈ db.cartItems.rows, item.cart ∈ db.carts.keys

/-- The foreign key from cart items to variants. -/
def LinesHaveVariants (db : Database) : Prop :=
  ∀ item ∈ db.cartItems.rows, item.variant ∈ db.variants.keys

end Database

/-- The exceptions that the services raise or let through. -/
inductive Exception where
  | valueError (message : String)
  | outOfStockError (message : String)
  | checkoutError (message : String)
  | doesNotExist (model : String)
  | multipleObjectsReturned (model : String)
  | integrityError (constraint : String)
  | validationError (message : String)
  | databaseError (message : String)
  | builtinError (kind : String)
  deriving DecidableEq, Repr

/-- A service call on the database. -/
abbrev Service (Value : Type) := EStateM Exception Database Value

/-- What a call takes from outside: the clock, the order number that it draws
at random, the database's `UPPER`, which depends on its locale, and the order in
which the database returns rows that a query leaves unordered. -/
structure Session where
  now : Time
  orderNumber : String := ""
  upper : List Char → List Char := List.map Char.toUpper
  scan : (Row : Type) → List Row → List Row := fun _ rows => rows
  scan_perm : ∀ Row rows, (scan Row rows).Perm rows := by
    intro Row rows
    exact List.Perm.refl rows

namespace Session

/-- `column__iexact`: equality under the database's `UPPER`. -/
def iexact (session : Session) (first second : String) : Bool :=
  session.upper first.toList = session.upper second.toList

/-- The rows of a model that satisfy a filter, in the order in which the
database happens to return them. -/
def filter {Row : Type} [IsModel Row] (session : Session)
    (table : Table Row) (condition : Row → Bool) : List Row :=
  session.scan Row ((objects table).filter condition)

/-- A query with an `ORDER BY`: rows that compare equal come in any order. -/
def orderBy {Row : Type} [IsModel Row] (session : Session)
    (table : Table Row) (condition : Row → Bool)
    (before : Row → Row → Prop) [DecidableRel before] : List Row :=
  (session.filter table condition).insertionSort before

variable {Row : Type} [IsModel Row]

theorem filter_perm (session : Session) (table : Table Row)
    (condition : Row → Bool) :
    (session.filter table condition).Perm
      (table.rows.filter fun row => alive row && condition row) := by
  have filtered : (objects table).filter condition =
      table.rows.filter fun row => alive row && condition row := by
    simp [objects, List.filter_filter, Bool.and_comm]
  exact filtered ▸ session.scan_perm Row _

theorem orderBy_perm (session : Session) (table : Table Row)
    (condition : Row → Bool) (before : Row → Row → Prop)
    [DecidableRel before] :
    (session.orderBy table condition before).Perm
      (table.rows.filter fun row => alive row && condition row) :=
  (List.perm_insertionSort before _).trans
    (session.filter_perm table condition)

end Session

section Visible

variable {Row : Type} [IsModel Row] {table : Table Row} {id : Uuid}

/-- The visible row under an identifier is the only one. -/
theorem find?_objects_eq_some {row : Row} :
    (objects table).find? (fun row => (IsModel.base row).id = id) = some row ↔
      row ∈ objects table ∧ (IsModel.base row).id = id := by
  constructor
  · intro found
    exact ⟨List.mem_of_find?_eq_some found,
      by simpa using List.find?_some found⟩
  · rintro ⟨live, hasId⟩
    cases found : (objects table).find? fun row =>
        (IsModel.base row).id = id with
    | none =>
        have absent := List.find?_eq_none.mp found row live
        simp [hasId] at absent
    | some other =>
        have otherLive := List.mem_of_find?_eq_some found
        have otherId : (IsModel.base other).id = id := by
          simpa using List.find?_some found
        rw [table.eq_of_key_eq (List.mem_filter.mp otherLive).1
          (List.mem_filter.mp live).1 (otherId.trans hasId.symm)]

theorem find?_objects_id :
    (objects table).find? (fun row => (IsModel.base row).id = id) =
      (table.find? id).filter alive := by
  apply Option.ext
  intro row
  rw [find?_objects_eq_some, objects, List.mem_filter,
    Option.filter_eq_some_iff, Table.find?_eq_some]
  exact and_right_comm

end Visible

end NovaCommerce
