import NovaCommerce.Database

/-!
# The inventory services

Stock is kept in one row for each variant and warehouse.  A reservation is
spread over the active warehouses by priority; a release and a sale draw the
reserved units from the rows that hold most of them; an adjustment changes
the units on hand of one row.
-/

namespace NovaCommerce

open AtomicCall

structure StockSnapshot where
  variantId : Uuid
  available : Int
  onHand : Int
  reserved : Int
  deriving DecidableEq, Repr

namespace Stock

/-- Units that can still be promised from this row. -/
def available (stock : Stock) : Int :=
  max (stock.onHand - stock.reserved - stock.safetyBuffer) 0

/-- Units that a sale can take from this row. -/
def sellable (stock : Stock) : Int :=
  min stock.reserved stock.onHand

/-- The row after `amount` more of its units were reserved. -/
def reserve (stock : Stock) (amount : Int) : Stock :=
  { stock with reserved := stock.reserved + amount }

/-- The row after `amount` of its reserved units were given back. -/
def release (stock : Stock) (amount : Int) : Stock :=
  { stock with reserved := stock.reserved - amount }

/-- The row after `amount` of its reserved units were sold. -/
def sell (stock : Stock) (amount : Int) : Stock :=
  { stock with
    reserved := stock.reserved - amount
    onHand := stock.onHand - amount }

end Stock

namespace Database

/-- The warehouse that a stock row belongs to. -/
def warehouseOf (db : Database) (stock : Stock) : Option Warehouse :=
  db.warehouses.find? stock.warehouse

def inActiveWarehouse (db : Database) (stock : Stock) : Bool :=
  match db.warehouseOf stock with
  | some warehouse => warehouse.isActive
  | none => false

def warehousePriority (db : Database) (stock : Stock) : Nat :=
  match db.warehouseOf stock with
  | some warehouse => warehouse.priority
  | none => 0

end Database

/-- The table of movements with one more row. -/
def recordMovement (session : Session) (stock : Uuid) (quantity : Int)
    (reason : MovementReason) (reference note : String)
    (movements : Table StockMovement) : Table StockMovement :=
  movements.create
    (fun id =>
      { id, createdAt := session.now, stock, quantity, reason, reference,
        note })
    (fun _ => rfl)

/-- `stock.save`: write the row back under its identifier. -/
def saveStock (stock : Stock) : Service Unit :=
  modify fun db => { db with stocks := db.stocks.save stock }

/-- `StockMovement.objects.create`. -/
def createMovement (session : Session) (stock : Uuid) (quantity : Int)
    (reason : MovementReason) (reference note : String) : Service Unit :=
  modify fun db => { db with
    movements :=
      recordMovement session stock quantity reason reference note
        db.movements }

def getAvailable (db : Database) (variantId : Uuid) : Int :=
  (((objects db.stocks).filter fun stock => stock.variant = variantId).map
    Stock.available).sum

/-- The loop of `reserve_stock` over the locked rows: the units that could
not be reserved, and the sums of `on_hand` and `reserved` over the rows. -/
def reserveRows (session : Session) (reference : String) :
    List Stock → Int → Int → Int → Service (Int × Int × Int)
  | [], remaining, onHand, reserved => pure (remaining, onHand, reserved)
  | stock :: rows, remaining, onHand, reserved =>
      if remaining ≤ 0 then
        reserveRows session reference rows remaining
          (onHand + stock.onHand) (reserved + stock.reserved)
      else
        let take := min stock.available remaining
        if 0 < take then do
          saveStock (stock.reserve take)
          createMovement session stock.id (-take) .reservation reference ""
          reserveRows session reference rows (remaining - take)
            (onHand + stock.onHand) (reserved + (stock.reserve take).reserved)
        else
          reserveRows session reference rows remaining
            (onHand + stock.onHand) (reserved + stock.reserved)

/-- The rows that `reserve_stock` locks, by warehouse priority. -/
def reservableRows (session : Session) (db : Database)
    (variantId : Uuid) : List Stock :=
  session.orderBy db.stocks
    (fun stock => stock.variant = variantId && db.inActiveWarehouse stock)
    (fun first second =>
      db.warehousePriority first ≤ db.warehousePriority second)

def reserveStock (session : Session) (variantId : Uuid) (quantity : Int)
    (reference : String := "") : Service StockSnapshot :=
  atomic do
    if quantity ≤ 0 then
      throw (.valueError "quantity must be positive")
    else do
      let db ← get
      let (remaining, onHand, reserved) ←
        reserveRows session reference (reservableRows session db variantId)
          quantity 0 0
      if 0 < remaining then
        throw (.outOfStockError
          s!"insufficient stock for variant {variantId}: short by {remaining}")
      else
        pure
          { variantId, available := onHand - reserved, onHand, reserved }

/-- The loop that `release_reservation` and `commit_sale` share: each row
gives at most its capacity, until nothing remains to be drawn.  The result
is what could not be drawn. -/
def drawRows (session : Session) (capacity : Stock → Int)
    (draw : Stock → Int → Stock) (signed : Int → Int)
    (reason : MovementReason) (reference : String) :
    List Stock → Int → Service Int
  | [], remaining => pure remaining
  | stock :: rows, remaining =>
      if remaining ≤ 0 then pure remaining
      else
        let amount := min (capacity stock) remaining
        if amount ≠ 0 then do
          saveStock (draw stock amount)
          createMovement session stock.id (signed amount) reason reference ""
          drawRows session capacity draw signed reason reference rows
            (remaining - amount)
        else
          drawRows session capacity draw signed reason reference rows remaining

/-- The rows that hold reserved units of a variant, largest holding first. -/
def reservedRows (session : Session) (db : Database)
    (variantId : Uuid) : List Stock :=
  session.orderBy db.stocks
    (fun stock => stock.variant = variantId && 0 < stock.reserved)
    (fun first second => second.reserved ≤ first.reserved)

def releaseReservation (session : Session) (variantId : Uuid)
    (quantity : Int) (reference : String := "") : Service Unit :=
  atomic do
    let db ← get
    let _ ← drawRows session Stock.reserved Stock.release
      (fun giveBack => giveBack) .reservationRelease reference
      (reservedRows session db variantId) quantity
    pure ()

def commitSale (session : Session) (variantId : Uuid) (quantity : Int)
    (reference : String) : Service Unit :=
  atomic do
    let db ← get
    let remaining ← drawRows session
      Stock.sellable Stock.sell (fun take => -take) .sale reference
      (reservedRows session db variantId) quantity
    if 0 < remaining then
      throw (.outOfStockError
        s!"could not commit {quantity} for variant {variantId} (short by {remaining})")
    else
      pure ()

namespace Database

/-- `Warehouse.objects.get(code=...)`: codes are unique. -/
def findWarehouse (db : Database) (code : String) : Option Warehouse :=
  (objects db.warehouses).find? fun warehouse => warehouse.code = code

/-- The stock row of a variant in a warehouse that the manager can see. -/
def findStock (db : Database) (variantId warehouse : Uuid) : Option Stock :=
  (objects db.stocks).find? fun stock =>
    stock.variant = variantId && stock.warehouse = warehouse

/-- Some row, possibly a soft-deleted one, has this variant and
warehouse. -/
def stockPairTaken (db : Database) (variantId warehouse : Uuid) : Bool :=
  db.stocks.rows.any fun stock =>
    stock.variant = variantId && stock.warehouse = warehouse

end Database

/-- A stock row without units. -/
def newStock (session : Session) (variantId warehouse id : Uuid) : Stock :=
  { id, createdAt := session.now, variant := variantId, warehouse }

theorem key_newStock (session : Session) (variantId warehouse id : Uuid) :
    Keyed.key (newStock session variantId warehouse id) = id :=
  rfl

/-- `Stock.objects.select_for_update().get_or_create(variant, warehouse)`.
The pair is unique over all rows, soft-deleted ones included, and the
variant must exist. -/
def getOrCreateStock (session : Session) (variantId warehouse : Uuid) :
    Service Stock := do
  let db ← get
  match db.findStock variantId warehouse with
  | some stock => pure stock
  | none =>
      if db.stockPairTaken variantId warehouse then
        throw (.integrityError "unique (variant, warehouse)")
      else if (db.variants.find? variantId).isNone then
        throw (.integrityError "foreign key variant")
      else do
        modify fun db => { db with
          stocks := db.stocks.create (newStock session variantId warehouse)
            (key_newStock session variantId warehouse) }
        pure (newStock session variantId warehouse
          (FreshKey.fresh db.stocks.keys))

def adjustStock (session : Session) (variantId : Uuid)
    (warehouseCode : String) (delta : Int) (note : String := "") :
    Service Stock :=
  atomic do
    let db ← get
    match db.findWarehouse warehouseCode with
    | none => throw (.doesNotExist "Warehouse")
    | some warehouse => do
        let stock ← getOrCreateStock session variantId warehouse.id
        let stock := { stock with onHand := max (stock.onHand + delta) 0 }
        saveStock stock
        createMovement session stock.id delta .adjustment "" note
        pure stock

end NovaCommerce
