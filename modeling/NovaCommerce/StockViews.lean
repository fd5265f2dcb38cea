import NovaCommerce.MirroredCall
import NovaCommerce.PaymentServices

/-!
# Views that show the stock

A view of the database that shows the stock and its movements as they are, and
whatever else in its own way, does not get in the way of the inventory
services: each of them does on the view what it does on the database.
-/

namespace NovaCommerce

open AtomicCall

/-- A loop over items does on the view what its body does there. -/
theorem mirrors_forItems {view : Database → Database}
    {call : Uuid → Int → Service Unit}
    (mirrors : ∀ variantId quantity db,
      Mirrors view (call variantId quantity) (call variantId quantity) db)
    (items : List OrderItem) (db : Database) :
    Mirrors view (forItems call items) (forItems call items) db := by
  induction items generalizing db with
  | nil => exact mirrors_pure _
  | cons item items ih =>
      have first : Mirrors view (forItem call item) (forItem call item) db := by
        unfold forItem
        split
        · exact mirrors _ _ db
        · exact mirrors_pure _
      apply first.bind
      intro _ middle _
      exact ih middle

theorem mirrors_raising {view : Database → Database} {Value : Type}
    (result : Raising Value) (db : Database) :
    Mirrors view (raising result) (raising result) db := by
  cases result with
  | ok value => exact mirrors_pure value
  | error exception => exact mirrors_throw exception

/-- The view shows warehouses, stock and movements as they are, and shows
nothing else differently on their account. -/
structure ShowsStock (view : Database → Database) : Prop where
  warehouses : ∀ db, (view db).warehouses = db.warehouses
  withStocks : ∀ db stocks,
    view { db with stocks := stocks } = { view db with stocks := stocks }
  withMovements : ∀ db movements,
    view { db with movements := movements } =
      { view db with movements := movements }

namespace ShowsStock

variable {view : Database → Database} (shows : ShowsStock view)

include shows

theorem stocks (db : Database) : (view db).stocks = db.stocks := by
  have same := congrArg Database.stocks (shows.withStocks db db.stocks)
  exact same

theorem movements (db : Database) : (view db).movements = db.movements := by
  have same := congrArg Database.movements
    (shows.withMovements db db.movements)
  exact same

theorem saveStock (stock : Stock) (db : Database) :
    Mirrors view (saveStock stock) (NovaCommerce.saveStock stock) db := by
  apply mirrors_modify
  rw [shows.stocks db]
  exact (shows.withStocks db _).symm

theorem createMovement (session : Session) (stock : Uuid) (quantity : Int)
    (reason : MovementReason) (reference note : String) (db : Database) :
    Mirrors view
      (createMovement session stock quantity reason reference note)
      (NovaCommerce.createMovement session stock quantity reason reference
        note) db := by
  apply mirrors_modify
  rw [shows.movements db]
  exact (shows.withMovements db _).symm

theorem reserveRows (session : Session) (reference : String)
    (rows : List Stock) (remaining onHand reserved : Int) (db : Database) :
    Mirrors view (reserveRows session reference rows remaining onHand reserved)
      (NovaCommerce.reserveRows session reference rows remaining onHand
        reserved) db := by
  induction rows generalizing remaining onHand reserved db with
  | nil => exact mirrors_pure _
  | cons stock rows ih =>
      unfold NovaCommerce.reserveRows
      split
      · exact ih _ _ _ db
      · dsimp only
        split
        · apply (shows.saveStock _ _).bind
          intro _ saved _
          apply (shows.createMovement _ _ _ _ _ _ _).bind
          intro _ moved _
          exact ih _ _ _ moved
        · exact ih _ _ _ db

/-- The view selects the rows that the database selects. -/
theorem reservableRows (session : Session) (variantId : Uuid)
    (db : Database) :
    NovaCommerce.reservableRows session (view db) variantId =
      NovaCommerce.reservableRows session db variantId := by
  unfold NovaCommerce.reservableRows Database.inActiveWarehouse
    Database.warehousePriority Database.warehouseOf
  rw [shows.stocks, shows.warehouses]

theorem reserveStock (session : Session) (variantId : Uuid) (quantity : Int)
    (reference : String) (db : Database) :
    Mirrors view (reserveStock session variantId quantity reference)
      (NovaCommerce.reserveStock session variantId quantity reference) db := by
  apply Mirrors.atomic
  split
  · exact mirrors_throw _
  · apply mirrors_get_bind
    rw [shows.reservableRows]
    apply (shows.reserveRows _ _ _ _ _ _ _).bind
    rintro ⟨remaining, onHand, reserved⟩ after _
    dsimp only
    split
    · exact mirrors_throw _
    · exact mirrors_pure _

theorem drawRows (session : Session) (capacity : Stock → Int)
    (draw : Stock → Int → Stock) (signed : Int → Int)
    (reason : MovementReason) (reference : String) (rows : List Stock)
    (remaining : Int) (db : Database) :
    Mirrors view
      (drawRows session capacity draw signed reason reference rows remaining)
      (NovaCommerce.drawRows session capacity draw signed reason reference
        rows remaining) db := by
  induction rows generalizing remaining db with
  | nil => exact mirrors_pure _
  | cons stock rows ih =>
      unfold NovaCommerce.drawRows
      split
      · exact mirrors_pure _
      · dsimp only
        split
        · apply (shows.saveStock _ _).bind
          intro _ saved _
          apply (shows.createMovement _ _ _ _ _ _ _).bind
          intro _ moved _
          exact ih _ moved
        · exact ih _ db

theorem reservedRows (session : Session) (variantId : Uuid) (db : Database) :
    NovaCommerce.reservedRows session (view db) variantId =
      NovaCommerce.reservedRows session db variantId := by
  unfold NovaCommerce.reservedRows
  rw [shows.stocks]

theorem releaseReservation (session : Session) (variantId : Uuid)
    (quantity : Int) (reference : String) (db : Database) :
    Mirrors view (releaseReservation session variantId quantity reference)
      (NovaCommerce.releaseReservation session variantId quantity reference)
      db := by
  apply Mirrors.atomic
  apply mirrors_get_bind
  rw [shows.reservedRows]
  apply (shows.drawRows _ _ _ _ _ _ _ _ _).bind
  intro _ drawn _
  exact mirrors_pure _

theorem commitSale (session : Session) (variantId : Uuid) (quantity : Int)
    (reference : String) (db : Database) :
    Mirrors view (commitSale session variantId quantity reference)
      (NovaCommerce.commitSale session variantId quantity reference) db := by
  apply Mirrors.atomic
  apply mirrors_get_bind
  rw [shows.reservedRows]
  apply (shows.drawRows _ _ _ _ _ _ _ _ _).bind
  intro remaining drawn _
  split
  · exact mirrors_throw _
  · exact mirrors_pure _

/-- The stock is settled on the view as it is on the database, if the view
shows the items of the order. -/
theorem settleStock (session : Session) {order : Order} {db : Database}
    (sameItems : (view db).orderItemsOf order.id = db.orderItemsOf order.id)
    (newStatus : OrderStatus) :
    Mirrors view (settleStock session order newStatus)
      (NovaCommerce.settleStock session order newStatus) db := by
  apply mirrors_get_bind
  rw [sameItems]
  cases newStatus with
  | paid =>
      exact mirrors_forItems (fun _ _ _ => shows.commitSale _ _ _ _ _) _ db
  | cancelled =>
      exact mirrors_forItems
        (fun _ _ _ => shows.releaseReservation _ _ _ _ _) _ db
  | pending | packed | shipped | delivered | refunded => exact mirrors_pure _

end ShowsStock

end NovaCommerce
