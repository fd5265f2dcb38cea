import NovaCommerce.OrderTransitions
import NovaCommerce.StockInvariants

/-!
# What a transition does to the tables

A transition that returns has written one order and recorded one event.  It
touched the stock only on the way to `paid`, where the items of the order were
sold in full, and on the way to `cancelled`, where the reservations that could
be found were given back.
-/

namespace NovaCommerce

open AtomicCall GreedyAllocation

/-- The bounds that a stock row keeps: nothing negative is reserved, nothing
is reserved of a negative stock, and hidden rows hold no reservations. -/
structure SoundRow (stock : Stock) : Prop where
  reserved_nonneg : 0 ≤ stock.reserved
  inStock : 0 < stock.reserved → 0 ≤ stock.onHand
  hidden : alive stock = false → stock.reserved = 0

def SoundRows (stocks : Table Stock) : Prop :=
  ∀ stock ∈ stocks.rows, SoundRow stock

theorem SoundRows.reservedInStock {db : Database}
    (sound : SoundRows db.stocks) : db.ReservedInStock :=
  fun stock stockMem => (sound stock stockMem).inStock

/-- In sound rows every reserved unit is visible. -/
theorem SoundRows.visibleReservedOf_eq {db : Database}
    (sound : SoundRows db.stocks) (variant : Uuid) :
    db.visibleReservedOf variant = db.reservedOf variant := by
  apply Table.total_congr
  intro stock stockMem
  cases visible : alive stock with
  | true => simp
  | false => simp [(sound stock stockMem).hidden visible]

namespace Draws

variable {selected : Stock → Bool} {before after : Table Stock}
  {amount wanted : Uuid → Int}

/-- What keeps the bounds of the visible rows that it draws from keeps the rows
sound. -/
theorem soundRows {drawing : Drawing}
    (draws : Draws drawing selected before after amount wanted)
    (onlyAlive : ∀ stock, selected stock = true → alive stock = true)
    (inBounds : ∀ stock taken, SoundRow stock → 0 ≤ taken →
      taken ≤ drawing.capacity stock →
        0 ≤ (drawing.draw stock taken).reserved ∧
          (0 < (drawing.draw stock taken).reserved →
            0 ≤ (drawing.draw stock taken).onHand))
    (sound : SoundRows before) : SoundRows after := by
  intro row rowMem
  obtain ⟨stock, stockMem, taken, rfl, bounds⟩ := draws.exists_row rowMem
  rcases bounds with rfl | ⟨isSelected, takenNonneg, atMost⟩
  · rw [Drawing.draw_zero]
    exact sound stock stockMem
  · obtain ⟨nonneg, inStock⟩ :=
      inBounds stock taken (sound stock stockMem) takenNonneg atMost
    refine ⟨nonneg, inStock, ?_⟩
    intro isHidden
    rw [Drawing.alive_draw, onlyAlive stock isSelected] at isHidden
    cases isHidden

theorem soundRows_reserve
    (draws : Draws .reserve selected before after amount wanted)
    (onlyAlive : ∀ stock, selected stock = true → alive stock = true)
    (sound : SoundRows before) : SoundRows after := by
  refine draws.soundRows onlyAlive ?_ sound
  intro stock taken row takenNonneg atMost
  have nonneg := row.reserved_nonneg
  have inStock := row.inStock
  simp only [Drawing.reserve, Stock.available, Stock.reserve] at atMost ⊢
  omega

theorem soundRows_release
    (draws : Draws .release alive before after amount wanted)
    (sound : SoundRows before) : SoundRows after := by
  refine draws.soundRows (fun _ isAlive => isAlive) ?_ sound
  intro stock taken row takenNonneg atMost
  have inStock := row.inStock
  simp only [Drawing.release, Stock.release] at atMost ⊢
  omega

theorem soundRows_sell
    (draws : Draws .sell alive before after amount wanted)
    (sound : SoundRows before) : SoundRows after := by
  refine draws.soundRows (fun _ isAlive => isAlive) ?_ sound
  intro stock taken row takenNonneg atMost
  simp only [Drawing.sell, Stock.sellable, Stock.sell] at atMost ⊢
  omega

end Draws

/-- Units of a variant in a list of order items. -/
def soldUnits (items : List OrderItem) (variant : Uuid) : Int :=
  (items.map fun item =>
    if item.variant = some variant then (item.quantity : Int) else 0).sum

@[simp]
theorem soldUnits_nil (variant : Uuid) : soldUnits [] variant = 0 :=
  rfl

theorem soldUnits_cons (item : OrderItem) (items : List OrderItem)
    (variant : Uuid) :
    soldUnits (item :: items) variant =
      (if item.variant = some variant then (item.quantity : Int) else 0) +
        soldUnits items variant := by
  simp [soldUnits]

theorem soldUnits_nonneg (items : List OrderItem) (variant : Uuid) :
    0 ≤ soldUnits items variant := by
  apply List.sum_nonneg
  intro units unitsMem
  obtain ⟨item, _, rfl⟩ := List.mem_map.mp unitsMem
  split <;> omega

/-- A loop over the items touches the stock and its movements only. -/
def StockOnly (before after : Database) : Prop :=
  after = { before with stocks := after.stocks, movements := after.movements }

theorem StockOnly.refl (db : Database) : StockOnly db db :=
  rfl

theorem StockOnly.trans {first second third : Database}
    (earlier : StockOnly first second) (later : StockOnly second third) :
    StockOnly first third := by
  unfold StockOnly at *
  rw [later, earlier]

theorem forItem_of_eq_none (call : Uuid → Int → Service Unit)
    {item : OrderItem} (noVariant : item.variant = none) (db : Database) :
    forItem call item db = .ok () db := by
  rw [forItem, noVariant]
  rfl

theorem forItem_of_eq_some (call : Uuid → Int → Service Unit)
    {item : OrderItem} {variantId : Uuid}
    (hasVariant : item.variant = some variantId) :
    forItem call item = call variantId item.quantity := by
  rw [forItem, hasVariant]

theorem soldUnits_cons_of_eq_none {item : OrderItem}
    (noVariant : item.variant = none) (items : List OrderItem) :
    soldUnits (item :: items) = soldUnits items := by
  funext variant
  simp [soldUnits_cons, noVariant]

theorem soldUnits_cons_of_eq_some {item : OrderItem} {variantId : Uuid}
    (hasVariant : item.variant = some variantId) (items : List OrderItem) :
    soldUnits (item :: items) = fun variant =>
      (if variant = variantId then (item.quantity : Int) else 0) +
        soldUnits items variant := by
  funext variant
  simp [soldUnits_cons, hasVariant, eq_comm]

/-- Calls that touch the stock only make up a loop that touches the stock
only. -/
theorem forItems_stockOnly {call : Uuid → Int → Service Unit}
    (each : ∀ variant quantity before after,
      call variant quantity before = .ok () after → StockOnly before after)
    {items : List OrderItem} {db after : Database}
    (returned : forItems call items db = .ok () after) :
    StockOnly db after := by
  induction items generalizing db with
  | nil =>
      obtain ⟨_, rfl⟩ := pure_eq_ok.mp returned
      exact .refl db
  | cons item items ih =>
      obtain ⟨_, middle, called, rest⟩ := bind_eq_ok.mp returned
      have first : StockOnly db middle := by
        cases variantEq : item.variant with
        | none =>
            rw [forItem_of_eq_none _ variantEq] at called
            cases called
            exact .refl db
        | some variantId =>
            rw [forItem_of_eq_some _ variantEq] at called
            exact each _ _ _ _ called
      exact first.trans (ih rest)

section Loops

variable {session : Session} {reference : String}

theorem commitSale_stockOnly {variantId : Uuid} {quantity : Int}
    {db after : Database}
    (returned : commitSale session variantId quantity reference db =
      .ok () after) :
    StockOnly db after := by
  rw [commitSale_eq] at returned
  by_cases short : 0 < unmet Stock.sellable
      (reservedRows session db variantId) quantity
  · simp [short] at returned
  · simp only [short, if_false] at returned
    cases returned
    rfl

theorem releaseReservation_stockOnly {variantId : Uuid} {quantity : Int}
    {db after : Database}
    (returned : releaseReservation session variantId quantity reference db =
      .ok () after) :
    StockOnly db after := by
  rw [releaseReservation_eq] at returned
  cases returned
  rfl

theorem commitSale_eq_ok {variantId : Uuid} {quantity : Int}
    {db after : Database} (quantityNonneg : 0 ≤ quantity)
    (inStock : db.ReservedInStock)
    (returned : commitSale session variantId quantity reference db =
      .ok () after) :
    ∃ amount, Draws .sell alive db.stocks after.stocks amount
      (fun variant => if variant = variantId then quantity else 0) := by
  rw [commitSale_eq] at returned
  by_cases short : 0 < unmet Stock.sellable
      (reservedRows session db variantId) quantity
  · simp [short] at returned
  simp only [short, if_false] at returned
  cases returned
  obtain ⟨amount, draws⟩ :=
    draws_afterCommit session variantId quantity reference
      fun stock visible _ => inStock stock (List.mem_filter.mp visible).1
  rw [unmet_eq_zero quantityNonneg short, sub_zero] at draws
  exact ⟨amount, draws⟩

/-- A loop of sales that returned has sold every item in full. -/
theorem commitItems_eq_ok {items : List OrderItem} {db after : Database}
    (sound : SoundRows db.stocks)
    (returned : forItems (fun variant quantity =>
      commitSale session variant quantity reference) items db =
        .ok () after) :
    ∃ amount,
      Draws .sell alive db.stocks after.stocks amount (soldUnits items) := by
  induction items generalizing db with
  | nil =>
      obtain ⟨_, rfl⟩ := pure_eq_ok.mp returned
      exact ⟨_, .refl db.stocks⟩
  | cons item items ih =>
      obtain ⟨_, middle, called, rest⟩ := bind_eq_ok.mp returned
      cases variantEq : item.variant with
      | none =>
          rw [forItem_of_eq_none _ variantEq] at called
          cases called
          rw [soldUnits_cons_of_eq_none variantEq]
          exact ih sound rest
      | some variantId =>
          rw [forItem_of_eq_some _ variantEq] at called
          obtain ⟨first, firstDraws⟩ := commitSale_eq_ok
            (Int.natCast_nonneg _) sound.reservedInStock called
          obtain ⟨later, laterDraws⟩ :=
            ih (firstDraws.soundRows_sell sound) rest
          rw [soldUnits_cons_of_eq_some variantEq]
          exact ⟨_, firstDraws.trans laterDraws⟩

/-- A loop of releases always returns. -/
theorem releaseItems_returns (items : List OrderItem) (db : Database) :
    Returns (forItems (fun variant quantity =>
      releaseReservation session variant quantity reference) items) db := by
  induction items generalizing db with
  | nil => exact ⟨(), db, rfl⟩
  | cons item items ih =>
      cases variantEq : item.variant with
      | none =>
          obtain ⟨value, after, returned⟩ := ih db
          refine ⟨value, after, ?_⟩
          rw [forItems, bind_of_eq_ok (forItem_of_eq_none _ variantEq db)]
          exact returned
      | some variantId =>
          obtain ⟨value, after, returned⟩ :=
            ih (db.afterRelease session variantId item.quantity reference)
          refine ⟨value, after, ?_⟩
          rw [forItems, forItem_of_eq_some _ variantEq,
            bind_of_eq_ok (releaseReservation_eq session variantId
              item.quantity reference db)]
          exact returned

/-- A loop of releases gives back what it finds. -/
theorem releaseItems_eq_ok {items : List OrderItem} {db after : Database}
    (returned : forItems (fun variant quantity =>
      releaseReservation session variant quantity reference) items db =
        .ok () after) :
    ∃ amount wanted,
      Draws .release alive db.stocks after.stocks amount wanted := by
  induction items generalizing db with
  | nil =>
      obtain ⟨_, rfl⟩ := pure_eq_ok.mp returned
      exact ⟨_, _, .refl db.stocks⟩
  | cons item items ih =>
      obtain ⟨_, middle, called, rest⟩ := bind_eq_ok.mp returned
      obtain ⟨later, laterWanted, laterDraws⟩ := ih rest
      cases variantEq : item.variant with
      | none =>
          rw [forItem_of_eq_none _ variantEq] at called
          cases called
          exact ⟨_, _, laterDraws⟩
      | some variantId =>
          rw [forItem_of_eq_some _ variantEq, releaseReservation_eq] at called
          cases called
          obtain ⟨first, firstDraws⟩ := draws_afterRelease session variantId
            item.quantity reference db
          exact ⟨_, _, firstDraws.trans laterDraws⟩

/-- A loop of releases gives every item back in full when as much is
reserved. -/
theorem releaseItems_covered {items : List OrderItem} {db after : Database}
    (sound : SoundRows db.stocks)
    (covered : ∀ variant, soldUnits items variant ≤ db.reservedOf variant)
    (returned : forItems (fun variant quantity =>
      releaseReservation session variant quantity reference) items db =
        .ok () after) :
    ∃ amount,
      Draws .release alive db.stocks after.stocks amount (soldUnits items) := by
  induction items generalizing db with
  | nil =>
      obtain ⟨_, rfl⟩ := pure_eq_ok.mp returned
      exact ⟨_, .refl db.stocks⟩
  | cons item items ih =>
      obtain ⟨_, middle, called, rest⟩ := bind_eq_ok.mp returned
      cases variantEq : item.variant with
      | none =>
          rw [forItem_of_eq_none _ variantEq] at called
          cases called
          rw [soldUnits_cons_of_eq_none variantEq] at covered ⊢
          exact ih sound covered rest
      | some variantId =>
          rw [soldUnits_cons_of_eq_some variantEq] at covered ⊢
          rw [forItem_of_eq_some _ variantEq, releaseReservation_eq] at called
          cases called
          have enough :
              (item.quantity : Int) ≤ db.visibleReservedOf variantId := by
            have total := covered variantId
            have others := soldUnits_nonneg items variantId
            rw [sound.visibleReservedOf_eq]
            simp only [if_true] at total
            omega
          have met := release_met session
            (fun stock visible _ =>
              (sound stock (List.mem_filter.mp visible).1).reserved_nonneg)
            (Int.natCast_nonneg _) enough
          obtain ⟨first, firstDraws⟩ := draws_afterRelease session variantId
            item.quantity reference db
          rw [unmet_eq_zero (Int.natCast_nonneg _) met, sub_zero] at firstDraws
          have stillCovered : ∀ variant, soldUnits items variant ≤
              (db.afterRelease session variantId item.quantity
                reference).reservedOf variant := by
            intro variant
            have total := covered variant
            rw [firstDraws.reservedOf_release variant]
            dsimp only at total
            omega
          obtain ⟨later, laterDraws⟩ :=
            ih (firstDraws.soundRows_release sound) stillCovered rest
          exact ⟨_, firstDraws.trans laterDraws⟩

/-- Where nothing is reserved, a release finds nothing. -/
theorem afterRelease_of_none {variantId : Uuid} {quantity : Int}
    {db : Database} (sound : SoundRows db.stocks)
    (none : db.reservedOf variantId = 0) :
    db.afterRelease session variantId quantity reference = db := by
  have noRows : reservedRows session db variantId = [] := by
    rw [List.eq_nil_iff_forall_not_mem]
    intro stock visited
    obtain ⟨_, _, _, holds⟩ := (mem_reservedRows session variantId).mp visited
    have sum := sum_reservedRows session variantId fun stock visible _ =>
      (sound stock (List.mem_filter.mp visible).1).reserved_nonneg
    rw [sound.visibleReservedOf_eq, none] at sum
    have nonneg : ∀ reserved ∈ (reservedRows session db variantId).map
        Stock.reserved, 0 ≤ reserved := by
      intro reserved reservedMem
      obtain ⟨row, rowMem, rfl⟩ := List.mem_map.mp reservedMem
      exact ((mem_reservedRows session variantId).mp rowMem).2.2.2.le
    have atMost := List.single_le_sum nonneg stock.reserved
      (List.mem_map_of_mem visited)
    omega
  rw [Database.afterRelease, noRows, Database.afterPass]
  have untouched : Drawing.release.apply db.stocks
      (takenFrom Drawing.release.capacity [] quantity) = db.stocks :=
    Drawing.release.apply_zero db.stocks (fun _ => rfl)
  rw [untouched]
  rfl

/-- Where nothing is reserved of any item, a loop of releases changes
nothing. -/
theorem releaseItems_of_none (session : Session) (reference : String)
    {items : List OrderItem} {db : Database}
    (sound : SoundRows db.stocks)
    (none : ∀ item ∈ items, ∀ variant ∈ item.variant,
      db.reservedOf variant = 0) :
    forItems (fun variant quantity =>
      releaseReservation session variant quantity reference) items db =
        .ok () db := by
  induction items with
  | nil => rfl
  | cons item items ih =>
      have rest := ih fun item itemMem =>
        none item (List.mem_cons_of_mem _ itemMem)
      cases variantEq : item.variant with
      | none =>
          rw [forItems, bind_of_eq_ok (forItem_of_eq_none _ variantEq db)]
          exact rest
      | some variantId =>
          have nothing := none item List.mem_cons_self variantId variantEq
          have returned := releaseReservation_eq session variantId
            item.quantity reference db
          rw [afterRelease_of_none sound nothing] at returned
          rw [forItems, forItem_of_eq_some _ variantEq, bind_of_eq_ok returned]
          exact rest

end Loops

section Transition

variable {session : Session} {orderId : Uuid} {newStatus : OrderStatus}
  {actor : Option Uuid} {message : String} {db after : Database}
  {changed : Order}

theorem lockOrder_eq_ok {order : Order}
    (returned : lockOrder orderId db = .ok order after) :
    after = db ∧ order ∈ db.orders.rows ∧ alive order = true ∧
      order.id = orderId := by
  obtain ⟨_, _, read, rest⟩ := bind_eq_ok.mp returned
  obtain ⟨rfl, rfl⟩ := get_eq_ok.mp read
  cases found : (objects db.orders).find? fun order => order.id = orderId with
  | none =>
      simp only [found] at rest
      exact (throw_eq_ok.mp rest).elim
  | some row =>
      simp only [found] at rest
      obtain ⟨rfl, rfl⟩ := pure_eq_ok.mp rest
      have member := List.mem_filter.mp (List.mem_of_find?_eq_some found)
      have hasId := List.find?_some found
      exact ⟨rfl, member.1, member.2, by simpa using hasId⟩

theorem lockOrder_of_mem {order : Order} (member : order ∈ db.orders.rows)
    (isAlive : alive order = true) :
    lockOrder order.id db = .ok order db := by
  rw [lockOrder, get_bind]
  have visible : order ∈ objects db.orders :=
    List.mem_filter.mpr ⟨member, isAlive⟩
  cases found : (objects db.orders).find? fun row => row.id = order.id with
  | none =>
      have absent := List.find?_eq_none.mp found order visible
      simp at absent
  | some row =>
      have rowMem := List.mem_filter.mp (List.mem_of_find?_eq_some found)
      have hasId : row.id = order.id := by simpa using List.find?_some found
      have rowEq : row = order :=
        db.orders.eq_of_key_eq rowMem.1 member hasId
      rw [rowEq]
      rfl

theorem base_enterStatus (order : Order) (new : OrderStatus) (now : Time) :
    (order.enterStatus new now).toTimeStampedUUIDModel =
      order.toTimeStampedUUIDModel := by
  cases new <;> rfl

@[simp]
theorem status_enterStatus (order : Order) (new : OrderStatus) (now : Time) :
    (order.enterStatus new now).status = new := by
  cases new <;> rfl

theorem settleStock_stockOnly {order : Order}
    (returned : settleStock session order newStatus db = .ok () after) :
    StockOnly db after := by
  unfold settleStock at returned
  rw [get_bind] at returned
  cases newStatus with
  | paid =>
      exact forItems_stockOnly (fun _ _ _ _ => commitSale_stockOnly) returned
  | cancelled =>
      exact forItems_stockOnly (fun _ _ _ _ => releaseReservation_stockOnly)
        returned
  | pending | packed | shipped | delivered | refunded =>
      obtain ⟨_, rfl⟩ := pure_eq_ok.mp returned
      exact .refl db

/-- Only the way to `paid` can fail to settle the stock. -/
theorem settleStock_returns (session : Session) (order : Order)
    (notPaid : newStatus ≠ .paid) (db : Database) :
    Returns (settleStock session order newStatus) db := by
  unfold Returns settleStock
  rw [get_bind]
  cases newStatus with
  | paid => exact absurd rfl notPaid
  | cancelled => exact releaseItems_returns _ db
  | pending | packed | shipped | delivered | refunded => exact ⟨(), db, rfl⟩

/-- What a transition that returned has done to the tables. -/
structure Transitioned (session : Session) (order : Order)
    (newStatus : OrderStatus) (db after : Database) : Prop where
  member : order ∈ db.orders.rows
  isAlive : alive order = true
  allowed : order.canTransitionTo newStatus = true
  settled : ∃ middle, settleStock session order newStatus db = .ok () middle ∧
    after.stocks = middle.stocks
  frame : after = { db with
    stocks := after.stocks
    movements := after.movements
    orders := db.orders.save (order.enterStatus newStatus session.now)
    orderEvents := after.orderEvents }

theorem transitionStatus_eq_ok
    (returned : transitionStatus session orderId newStatus actor message db =
      .ok changed after) :
    ∃ order, order.id = orderId ∧
      changed = order.enterStatus newStatus session.now ∧
      Transitioned session order newStatus db after := by
  rw [transitionStatus, atomic_eq_ok] at returned
  obtain ⟨order, _, locked, rest⟩ := bind_eq_ok.mp returned
  obtain ⟨rfl, member, isAlive, hasId⟩ := lockOrder_eq_ok locked
  by_cases allowed : order.canTransitionTo newStatus = true
  · simp only [allowed, if_true] at rest
    obtain ⟨_, middle, settled, rest⟩ := bind_eq_ok.mp rest
    obtain ⟨_, _, saved, rest⟩ := bind_eq_ok.mp rest
    rw [saveOrder, modify_eq_ok] at saved
    subst saved
    obtain ⟨_, _, recorded, finished⟩ := bind_eq_ok.mp rest
    obtain ⟨_, rfl⟩ := recorded_of_createOrderEvent recorded
    obtain ⟨rfl, rfl⟩ := pure_eq_ok.mp finished
    have stockOnly := settleStock_stockOnly settled
    refine ⟨order, hasId, rfl, member, isAlive, allowed,
      ⟨middle, settled, rfl⟩, ?_⟩
    rw [stockOnly]
  · simp only [allowed] at rest
    exact (throw_eq_ok.mp rest).elim

/-- A transition whose message does not fit is rolled back. -/
theorem message_fits_of_transitionStatus {orderId : Uuid}
    {actor : Option Uuid} {message : String} {changed : Order}
    (returned : transitionStatus session orderId newStatus actor message db =
      .ok changed after) : fitsColumn 500 message = true := by
  rw [transitionStatus, atomic_eq_ok] at returned
  obtain ⟨order, _, _, rest⟩ := bind_eq_ok.mp returned
  by_cases allowed : order.canTransitionTo newStatus = true
  · simp only [allowed, if_true] at rest
    obtain ⟨_, _, _, rest⟩ := bind_eq_ok.mp rest
    obtain ⟨_, _, _, rest⟩ := bind_eq_ok.mp rest
    obtain ⟨_, _, recorded, _⟩ := bind_eq_ok.mp rest
    exact (recordable_status newStatus message).symm.trans
      (recorded_of_createOrderEvent recorded).1
  · simp only [allowed] at rest
    exact (throw_eq_ok.mp rest).elim

/-- An allowed transition returns if its message fits and the stock can be
settled. -/
theorem transitionStatus_returns (actor : Option Uuid) {message : String}
    (fits : fitsColumn 500 message = true) {order : Order}
    (member : order ∈ db.orders.rows)
    (isAlive : alive order = true)
    (allowed : order.canTransitionTo newStatus = true)
    (settles : Returns (settleStock session order newStatus) db) :
    Returns (transitionStatus session order.id newStatus actor message)
      db := by
  obtain ⟨_, middle, settled⟩ := settles
  unfold Returns
  simp only [transitionStatus, atomic_eq_ok]
  rw [bind_of_eq_ok (lockOrder_of_mem member isAlive)]
  simp only [allowed, if_true]
  rw [bind_of_eq_ok settled]
  have saved : saveOrder (order.enterStatus newStatus session.now) middle =
      .ok () { middle with
        orders := middle.orders.save
          (order.enterStatus newStatus session.now) } := rfl
  have recorded := createOrderEvent_of_recordable
    ((recordable_status newStatus message).trans fits) session order.id actor
    { middle with
      orders := middle.orders.save (order.enterStatus newStatus session.now) }
  rw [bind_of_eq_ok saved, bind_of_eq_ok recorded]
  exact ⟨_, _, rfl⟩

end Transition

end NovaCommerce
