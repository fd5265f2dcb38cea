import NovaCommerce.InventoryRuns

/-!
# The ledger of a stock row

What is kept about one stock row are its two counts and its movements.  Every
inventory call either leaves the ledger of a row alone or posts one movement
to it, and the posting changes the counts as the reason of the movement says.
-/

namespace NovaCommerce

open AtomicCall GreedyAllocation GuardedRun

/-- The counts of a stock row and the movements that are recorded for it. -/
structure StockLedger where
  onHand : Int
  reserved : Int
  movements : List StockMovement

namespace StockLedger

/-- The ledger after a movement was posted. -/
def post (ledger : StockLedger) (movement : StockMovement) : StockLedger where
  onHand :=
    match movement.reason with
    | .sale => ledger.onHand + movement.quantity
    | .adjustment => max (ledger.onHand + movement.quantity) 0
    | _ => ledger.onHand
  reserved :=
    match movement.reason with
    | .reservation | .reservationRelease =>
        ledger.reserved - movement.quantity
    | .sale => ledger.reserved + movement.quantity
    | _ => ledger.reserved
  movements := ledger.movements ++ [movement]

/-- The movements that the inventory services may post: a reservation and a
sale flow out, a release flows in, and a release and a sale draw on what is
reserved. -/
def Allows (ledger : StockLedger) (movement : StockMovement) : Prop :=
  match movement.reason with
  | .reservation => movement.quantity < 0
  | .reservationRelease =>
      0 < movement.quantity ∧ movement.quantity ≤ ledger.reserved
  | .sale =>
      movement.quantity ≠ 0 ∧ 0 < ledger.reserved ∧
        -movement.quantity ≤ ledger.reserved ∧
        -movement.quantity ≤ ledger.onHand ∧
        (0 ≤ ledger.onHand → movement.quantity < 0)
  | .adjustment => True
  | _ => False

/-- A step of a ledger: nothing, or a movement that it allows is posted. -/
inductive Step (reason : MovementReason) (reference : String) :
    StockLedger → StockLedger → Prop
  | kept (ledger : StockLedger) : Step reason reference ledger ledger
  | posted {ledger : StockLedger} {movement : StockMovement}
      (ofReason : movement.reason = reason)
      (ofReference : movement.reference = reference)
      (allowed : ledger.Allows movement) :
      Step reason reference ledger (ledger.post movement)

/-- The quantities of the movements with a reason, added up. -/
def quantity (ledger : StockLedger) (reason : MovementReason) : Int :=
  ((ledger.movements.filter fun movement => movement.reason = reason).map
    StockMovement.quantity).sum

theorem quantity_post (ledger : StockLedger) (movement : StockMovement)
    (reason : MovementReason) :
    (ledger.post movement).quantity reason =
      ledger.quantity reason +
        if movement.reason = reason then movement.quantity else 0 := by
  unfold quantity post
  rw [List.filter_append, List.map_append, List.sum_append]
  by_cases same : movement.reason = reason <;> simp [same]

end StockLedger

namespace Database

/-- The movements that are recorded for a stock row. -/
def movementsOf (db : Database) (stock : Uuid) : List StockMovement :=
  db.movements.rows.filter fun movement => movement.stock = stock

/-- A row that is not there counts as a row without units. -/
def ledgerOf (db : Database) (stock : Uuid) : StockLedger where
  onHand := (db.stocks.find? stock).elim 0 Stock.onHand
  reserved := (db.stocks.find? stock).elim 0 Stock.reserved
  movements := db.movementsOf stock

theorem ledgerOf_of_find {db : Database} {stock : Stock} {id : Uuid}
    (found : db.stocks.find? id = some stock) :
    db.ledgerOf id = ⟨stock.onHand, stock.reserved, db.movementsOf id⟩ := by
  simp [ledgerOf, found]

end Database

theorem filter_recordMovement (session : Session) (stock id : Uuid)
    (quantity : Int) (reason : MovementReason) (reference note : String)
    (movements : Table StockMovement) :
    ∃ movement : StockMovement, movement.stock = stock ∧
      movement.quantity = quantity ∧ movement.reason = reason ∧
      movement.reference = reference ∧
      (recordMovement session stock quantity reason reference note
        movements).rows.filter (fun row => row.stock = id) =
        movements.rows.filter (fun row => row.stock = id) ++
          if stock = id then [movement] else [] := by
  refine ⟨
    { id := FreshKey.fresh movements.keys, createdAt := session.now
      stock, quantity, reason, reference, note },
    rfl, rfl, rfl, rfl, ?_⟩
  unfold recordMovement
  rw [Table.rows_create, List.filter_append]
  congr 1
  by_cases same : stock = id <;> simp [same]

/-- The movements of a row after a pass are those before and one for each
grant to the row. -/
theorem filter_recordGrants (session : Session) (signed : Int → Int)
    (reason : MovementReason) (reference : String) (id : Uuid)
    (granted : List (Stock × Int)) (movements : Table StockMovement) :
    ∃ posted : List StockMovement,
      (∀ movement ∈ posted, movement.reason = reason ∧
        movement.reference = reference) ∧
      posted.map StockMovement.quantity =
        (granted.filter fun grant => id = grant.1.id).map
          (fun grant => signed grant.2) ∧
      (recordGrants session signed reason reference granted
        movements).rows.filter (fun row => row.stock = id) =
        movements.rows.filter (fun row => row.stock = id) ++ posted := by
  induction granted generalizing movements with
  | nil => exact ⟨[], by simp, rfl, (List.append_nil _).symm⟩
  | cons grant later ih =>
      obtain ⟨stock, amount⟩ := grant
      obtain ⟨movement, _, quantity_eq, reason_eq, reference_eq, first⟩ :=
        filter_recordMovement session stock.id id (signed amount) reason
          reference "" movements
      obtain ⟨posted, ofCall, quantities, others⟩ := ih
        (recordMovement session stock.id (signed amount) reason reference ""
          movements)
      unfold recordGrants
      rw [others, first, List.append_assoc]
      by_cases same : stock.id = id
      · refine ⟨movement :: posted, ?_, ?_, ?_⟩
        · simpa [reason_eq, reference_eq] using ofCall
        · rw [List.filter_cons_of_pos (by simp [same]), List.map_cons,
            List.map_cons, quantity_eq, quantities]
        · simp [same]
      · refine ⟨posted, ofCall, ?_, ?_⟩
        · rw [List.filter_cons_of_neg (by simpa using Ne.symm same),
            quantities]
        · simp [same]

/-- What a pass does to the ledger of a row: nothing, or the row gives what is
taken from it and one movement is posted for that. -/
theorem ledgerOf_afterPass (session : Session) (drawing : Drawing)
    (signed : Int → Int) (reason : MovementReason) (reference : String)
    {db : Database} {rows : List Stock}
    (visitable : Visitable db.stocks rows) (demand : Int) (id : Uuid) :
    let amount := takenFrom drawing.capacity rows demand id
    let after :=
      db.afterPass session drawing signed reason reference rows demand
    amount = 0 ∧ after.ledgerOf id = db.ledgerOf id ∨
      ∃ stock ∈ rows, ∃ movement : StockMovement,
        db.stocks.find? id = some stock ∧
        amount ≠ 0 ∧ amount ≤ drawing.capacity stock ∧
        (0 ≤ drawing.capacity stock → 0 < amount) ∧
        movement.reason = reason ∧ movement.reference = reference ∧
        movement.quantity = signed amount ∧
        after.ledgerOf id =
          ⟨(drawing.draw stock amount).onHand,
            (drawing.draw stock amount).reserved,
            db.movementsOf id ++ [movement]⟩ := by
  obtain ⟨posted, ofCall, quantities, movements_eq⟩ :=
    filter_recordGrants session signed reason reference id
      (grants drawing.capacity rows demand) db.movements
  have found_eq : (db.afterPass session drawing signed reason reference rows
      demand).stocks.find? id = (db.stocks.find? id).map fun stock =>
        drawing.draw stock
          (takenFrom drawing.capacity rows demand stock.id) :=
    Table.find?_alter _ (fun stock => drawing.draw_id stock _) _
  rcases @grants_of_key _ _ _ _ _ _ (fun stock : Stock => stock.id)
      drawing.capacity rows visitable.ids_nodup demand id with
    ⟨takesNone, none⟩ | ⟨stock, rfl, one⟩
  · left
    rw [none] at quantities
    rw [List.map_eq_nil_iff.mp quantities, List.append_nil] at movements_eq
    have sameRow : (db.afterPass session drawing signed reason reference rows
        demand).stocks.find? id = db.stocks.find? id := by
      rw [found_eq]
      cases found : db.stocks.find? id with
      | none => rfl
      | some stock =>
          have sameId : stock.id = id := (Table.find?_eq_some.mp found).2
          have takesNone : takenFrom drawing.capacity rows demand stock.id =
              0 := sameId ▸ takesNone
          rw [Option.map_some, takesNone, drawing.draw_zero]
    refine ⟨takesNone, ?_⟩
    unfold Database.ledgerOf Database.movementsOf
    rw [sameRow]
    exact congrArg _ movements_eq
  · right
    have granted : (stock, takenFrom drawing.capacity rows demand stock.id) ∈
        grants drawing.capacity rows demand := by
      apply List.mem_of_mem_filter
      rw [one]
      exact List.mem_singleton_self _
    obtain ⟨visited, nonzero, atMost, positive⟩ := grant_bounds granted
    have found : db.stocks.find? stock.id = some stock :=
      Table.find?_eq_some.mpr ⟨visitable.subset stock visited, rfl⟩
    rw [one] at quantities
    obtain ⟨movement, rfl, quantity_eq⟩ :=
      List.map_eq_singleton_iff.mp quantities
    refine ⟨stock, visited, movement, found, nonzero, atMost, positive,
      (ofCall movement (List.mem_singleton_self _)).1,
      (ofCall movement (List.mem_singleton_self _)).2, quantity_eq, ?_⟩
    rw [found, Option.map_some] at found_eq
    rw [Database.ledgerOf_of_find found_eq]
    congr 1

namespace Database

/-- The row that `adjust_stock` works on, found or created; there is none
where it raises. -/
def adjustable (session : Session) (db : Database) (variantId : Uuid)
    (warehouseCode : String) : Option Stock :=
  match db.findWarehouse warehouseCode with
  | none => none
  | some warehouse =>
      match db.findStock variantId warehouse.id with
      | some stock => some stock
      | none =>
          if db.stockPairTaken variantId warehouse.id then none
          else if (db.variants.find? variantId).isNone then none
          else some (newStock session variantId warehouse.id
            (FreshKey.fresh db.stocks.keys))

end Database

section Adjustment

variable {session : Session} {db : Database} {variantId : Uuid}
  {warehouseCode : String} {delta : Int} {note : String} {stock : Stock}

theorem settle_adjustStock_of_none
    (none : db.adjustable session variantId warehouseCode = none) :
    settle (adjustStock session variantId warehouseCode delta note) db =
      db := by
  have undoes : ∀ error after, adjustStock session variantId warehouseCode delta
      note db = .error error after → after = db :=
    fun _ _ => atomic_eq_error
  rcases settle_cases _ undoes with ⟨_, returned⟩ | unchanged
  · obtain ⟨warehouse, stocks, stock, located, row, _⟩ :=
      adjustStock_eq_ok returned
    rw [adjustStock, atomic_eq_ok, get_bind] at returned
    simp only [located] at returned
    obtain ⟨_, _, created, _⟩ := bind_eq_ok.mp returned
    rw [getOrCreateStock, get_bind] at created
    cases found : db.findStock variantId warehouse.id with
    | some row => simp [Database.adjustable, located, found] at none
    | none =>
        simp only [Database.adjustable, located, found] at none created
        split at none
        · next taken => simp [taken] at created
        · next free =>
          split at none
          · next noVariant => simp [free, noVariant] at created
          · cases none
  · exact unchanged

theorem settle_adjustStock_of_some
    (isSome : db.adjustable session variantId warehouseCode = some stock) :
    ∃ warehouse stocks,
      AdjustedRow session db variantId warehouse stocks stock ∧
      settle (adjustStock session variantId warehouseCode delta note) db =
        { db with
          stocks := stocks.save
            { stock with onHand := max (stock.onHand + delta) 0 }
          movements := recordMovement session stock.id delta .adjustment ""
            note db.movements } := by
  unfold Database.adjustable at isSome
  cases located : db.findWarehouse warehouseCode with
  | none => simp [located] at isSome
  | some warehouse =>
      simp only [located] at isSome
      refine ⟨warehouse.id, ?_⟩
      cases found : db.findStock variantId warehouse.id with
      | some row =>
          simp only [found, Option.some.injEq] at isSome
          subst isSome
          refine ⟨db.stocks, .existing found, ?_⟩
          apply settle_of_eq_ok
          rw [adjustStock, atomic_eq_ok, get_bind]
          simp only [located]
          rw [bind_of_eq_ok (show getOrCreateStock session variantId
            warehouse.id db = .ok row db by
              rw [getOrCreateStock, get_bind]
              simp only [found]
              rfl)]
          rfl
      | none =>
          simp only [found] at isSome
          split at isSome
          · cases isSome
          split at isSome
          · cases isSome
          next free hasVariant =>
          cases isSome
          refine ⟨_, .created found, ?_⟩
          apply settle_of_eq_ok
          rw [adjustStock, atomic_eq_ok, get_bind]
          simp only [located]
          rw [bind_of_eq_ok (show getOrCreateStock session variantId
            warehouse.id db = .ok _ _ by
              rw [getOrCreateStock, get_bind]
              simp only [found, free, hasVariant]
              rfl)]
          rfl

/-- The counts of the row that is adjusted, and the ledgers of all others. -/
theorem AdjustedRow.find?_eq {warehouse : Uuid} {stocks : Table Stock}
    (row : AdjustedRow session db variantId warehouse stocks stock) :
    (db.ledgerOf stock.id).onHand = stock.onHand ∧
      (db.ledgerOf stock.id).reserved = stock.reserved ∧
      ∀ id ≠ stock.id, stocks.find? id = db.stocks.find? id := by
  cases row with
  | existing found =>
      have located : db.stocks.find? stock.id = some stock :=
        Table.find?_eq_some.mpr ⟨(findStock_eq_some found).1, rfl⟩
      rw [Database.ledgerOf_of_find located]
      exact ⟨rfl, rfl, fun _ _ => rfl⟩
  | created absent =>
      have unused : db.stocks.find? (FreshKey.fresh db.stocks.keys) = none :=
        Table.find?_eq_none.mpr (FreshKey.fresh_notMem _)
      refine ⟨?_, ?_, ?_⟩
      · simp [Database.ledgerOf, newStock, unused]
      · simp [Database.ledgerOf, newStock, unused]
      · intro id otherId
        unfold Table.find?
        rw [Table.rows_create, List.find?_append]
        have notNew : FreshKey.fresh db.stocks.keys ≠ id := Ne.symm otherId
        simp [key_newStock, notNew]

/-- An adjustment posts its delta to the ledger of its row, and nothing to
any other. -/
theorem ledgerOf_adjustStock
    (isSome : db.adjustable session variantId warehouseCode = some stock)
    (id : Uuid) :
    (id ≠ stock.id →
      (settle (adjustStock session variantId warehouseCode delta note)
        db).ledgerOf id = db.ledgerOf id) ∧
      (id = stock.id → ∃ movement : StockMovement,
        movement.reason = .adjustment ∧ movement.reference = "" ∧
        movement.quantity = delta ∧
        (settle (adjustStock session variantId warehouseCode delta note)
          db).ledgerOf id = (db.ledgerOf id).post movement) := by
  obtain ⟨warehouse, stocks, row, after⟩ :=
    @settle_adjustStock_of_some _ _ _ _ delta note _ isSome
  rw [after]
  obtain ⟨onHand_eq, reserved_eq, others⟩ := row.find?_eq
  obtain ⟨movement, _, quantity_eq, reason_eq, reference_eq, movements_eq⟩ :=
    filter_recordMovement session stock.id id delta .adjustment "" note
      db.movements
  constructor
  · intro otherId
    unfold Database.ledgerOf Database.movementsOf
    rw [Table.find?_save_of_ne (show Keyed.key _ ≠ id from Ne.symm otherId),
      others id otherId, movements_eq]
    simp [Ne.symm otherId]
  · rintro rfl
    refine ⟨movement, reason_eq, reference_eq, quantity_eq, ?_⟩
    have found : (stocks.save { stock with
        onHand := max (stock.onHand + delta) 0 }).find? stock.id =
        some { stock with onHand := max (stock.onHand + delta) 0 } :=
      Table.find?_eq_some.mpr
        ⟨Table.mem_save.mpr (Or.inr
          ⟨rfl, List.mem_map.mpr ⟨stock, row.mem, rfl⟩⟩), rfl⟩
    rw [Database.ledgerOf_of_find found, StockLedger.post]
    simp only [reason_eq, quantity_eq, onHand_eq, reserved_eq]
    congr 1
    exact movements_eq.trans (by simp [Database.ledgerOf,
      Database.movementsOf])

end Adjustment

namespace InventoryCall

/-- The reason of the movements that a call records. -/
def reason : InventoryCall → MovementReason
  | reserveStock .. => .reservation
  | releaseReservation .. => .reservationRelease
  | commitSale .. => .sale
  | adjustStock .. => .adjustment

/-- The reference that a call records with its movements. -/
def reference : InventoryCall → String
  | reserveStock _ _ _ reference => reference
  | releaseReservation _ _ _ reference => reference
  | commitSale _ _ _ reference => reference
  | adjustStock .. => ""

end InventoryCall

section Calls

variable (session : Session) (variantId : Uuid) (quantity : Int)
  (reference : String) (db : Database) (id : Uuid)

theorem step_afterReserve :
    StockLedger.Step .reservation reference (db.ledgerOf id)
      ((db.afterReserve session variantId quantity reference).ledgerOf
        id) := by
  rcases ledgerOf_afterPass session .reserve (fun take => -take) .reservation
      reference (visitable_reservableRows session variantId db) quantity id
    with ⟨_, same⟩ | ⟨stock, _, movement, found, _, _, positive, reason_eq,
      reference_eq, quantity_eq, after⟩
  · rw [Database.afterReserve, same]
    exact .kept _
  · have before := Database.ledgerOf_of_find found
    have taken := positive (available_nonneg stock)
    have allowed : (db.ledgerOf id).Allows movement := by
      simp only [StockLedger.Allows, reason_eq, quantity_eq]
      omega
    have post : (db.ledgerOf id).post movement =
        (db.afterReserve session variantId quantity reference).ledgerOf
          id := by
      rw [Database.afterReserve, after, before, StockLedger.post]
      simp [reason_eq, quantity_eq, Drawing.reserve, Stock.reserve]
    exact post ▸ .posted reason_eq reference_eq allowed

theorem step_afterRelease :
    StockLedger.Step .reservationRelease reference (db.ledgerOf id)
      ((db.afterRelease session variantId quantity reference).ledgerOf
        id) := by
  rcases ledgerOf_afterPass session .release (fun giveBack => giveBack)
      .reservationRelease reference
      (visitable_reservedRows session variantId db) quantity id
    with ⟨_, same⟩ | ⟨stock, visited, movement, found, _, atMost, positive,
      reason_eq, reference_eq, quantity_eq, after⟩
  · rw [Database.afterRelease, same]
    exact .kept _
  · have before := Database.ledgerOf_of_find found
    have holds := ((mem_reservedRows session variantId).mp visited).2.2.2
    have given := positive holds.le
    have allowed : (db.ledgerOf id).Allows movement := by
      simp only [StockLedger.Allows, reason_eq, quantity_eq, before]
      exact ⟨given, atMost⟩
    have post : (db.ledgerOf id).post movement =
        (db.afterRelease session variantId quantity reference).ledgerOf
          id := by
      rw [Database.afterRelease, after, before, StockLedger.post]
      simp [reason_eq, quantity_eq, Drawing.release, Stock.release]
    exact post ▸ .posted reason_eq reference_eq allowed

theorem step_afterCommit :
    StockLedger.Step .sale reference (db.ledgerOf id)
      ((db.afterCommit session variantId quantity reference).ledgerOf
        id) := by
  rcases ledgerOf_afterPass session .sell (fun take => -take) .sale reference
      (visitable_reservedRows session variantId db) quantity id
    with ⟨_, same⟩ | ⟨stock, visited, movement, found, nonzero, atMost,
      positive, reason_eq, reference_eq, quantity_eq, after⟩
  · rw [Database.afterCommit, same]
    exact .kept _
  · have before := Database.ledgerOf_of_find found
    have holds := ((mem_reservedRows session variantId).mp visited).2.2.2
    have capacity_eq : Drawing.sell.capacity stock =
        min stock.reserved stock.onHand := rfl
    rw [capacity_eq] at atMost positive
    have allowed : (db.ledgerOf id).Allows movement := by
      simp only [StockLedger.Allows, reason_eq, quantity_eq, before]
      omega
    have post : (db.ledgerOf id).post movement =
        (db.afterCommit session variantId quantity reference).ledgerOf
          id := by
      rw [Database.afterCommit, after, before, StockLedger.post]
      simp [reason_eq, quantity_eq, Drawing.sell, Stock.sell]
      omega
    exact post ▸ .posted reason_eq reference_eq allowed

end Calls

/-- The ledger of every row takes a step with every call: the runs of the
database are runs of the ledger. -/
theorem ledgerOf_step (call : InventoryCall) (db : Database) (id : Uuid) :
    StockLedger.Step call.reason call.reference (db.ledgerOf id)
      ((call.step db).ledgerOf id) := by
  cases call with
  | reserveStock session variantId quantity reference =>
      rw [InventoryCall.step, settle, reserveStock_eq]
      by_cases nonpos : quantity ≤ 0
      · simp only [nonpos, if_true]
        exact .kept _
      by_cases short : 0 < unmet Stock.available
          (reservableRows session db variantId) quantity
      · simp only [nonpos, short, if_true, if_false]
        exact .kept _
      · simp only [nonpos, short, if_false]
        exact step_afterReserve session variantId quantity reference db id
  | releaseReservation session variantId quantity reference =>
      rw [InventoryCall.step, settle, releaseReservation_eq]
      exact step_afterRelease session variantId quantity reference db id
  | commitSale session variantId quantity reference =>
      rw [InventoryCall.step, settle, commitSale_eq]
      by_cases short : 0 < unmet Stock.sellable
          (reservedRows session db variantId) quantity
      · simp only [short, if_true]
        exact .kept _
      · simp only [short, if_false]
        exact step_afterCommit session variantId quantity reference db id
  | adjustStock session variantId warehouseCode delta note =>
      rw [InventoryCall.step]
      cases adjusts : db.adjustable session variantId warehouseCode with
      | none =>
          rw [settle_adjustStock_of_none adjusts]
          exact .kept _
      | some stock =>
          have posts := @ledgerOf_adjustStock _ _ _ _ delta note _ adjusts id
          by_cases sameId : id = stock.id
          · obtain ⟨movement, reason_eq, reference_eq, _, after⟩ :=
              posts.2 sameId
            rw [after]
            refine .posted reason_eq reference_eq ?_
            simp [StockLedger.Allows, reason_eq]
          · rw [posts.1 sameId]
            exact .kept _

end NovaCommerce
