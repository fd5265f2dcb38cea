import NovaCommerce.InventoryRuns
import NovaCommerce.InventoryTransactions

/-!
# Concurrent reservations

Any number of clients reserve stock at the same time.  Each row that a
reservation reads is locked until its commit, so that every commit takes its
quantity from the rows as they are at that moment: no update is lost, the
buffers stay covered, and never more is reserved than was available at first.
-/

namespace NovaCommerce

open AtomicCall GreedyAllocation GuardedRun LockingTransactions

/-- A `reserve_stock` call of a client. -/
structure ReserveRequest where
  session : Session
  variantId : Uuid
  quantity : Int
  reference : String := ""

def ReserveRequest.program (request : ReserveRequest) :
    Statements StockSnapshot :=
  Statements.reserveStock request.session request.variantId request.quantity
    request.reference

/-- Reservations change unlocked rows, and only their reserved units. -/
def stockRely : Rely RowKey Database where
  allows := StocksKept
  refl _ := StocksKept.refl
  trans _ _ _ _ := StocksKept.trans
  anti _ _ _ _ subset := StocksKept.anti subset

/-- A movement records a grant. -/
structure RecordsGrant (signed : Int → Int) (reason : MovementReason)
    (reference : String) (grant : Stock × Int) (movement : StockMovement) :
    Prop where
  stock_eq : movement.stock = grant.1.id
  quantity_eq : movement.quantity = signed grant.2
  reason_eq : movement.reason = reason
  reference_eq : movement.reference = reference

theorem rows_recordGrants (session : Session) (signed : Int → Int)
    (reason : MovementReason) (reference : String)
    (granted : List (Stock × Int)) (movements : Table StockMovement) :
    ∃ recorded,
      (recordGrants session signed reason reference granted movements).rows =
        movements.rows ++ recorded ∧
      List.Forall₂ (RecordsGrant signed reason reference) granted recorded := by
  induction granted generalizing movements with
  | nil => exact ⟨[], by simp [recordGrants], .nil⟩
  | cons grant later ih =>
      obtain ⟨recorded, rows, records⟩ := ih (recordMovement session grant.1.id
        (signed grant.2) reason reference "" movements)
      refine ⟨{
          id := FreshKey.fresh movements.keys
          createdAt := session.now
          stock := grant.1.id
          quantity := signed grant.2
          reason
          reference } :: recorded, ?_, .cons ⟨rfl, rfl, rfl, rfl⟩ records⟩
      rw [recordGrants, rows, recordMovement, Table.rows_create,
        List.append_assoc]
      rfl

theorem reason_of_records {signed : Int → Int} {reason : MovementReason}
    {reference : String} {granted : List (Stock × Int)}
    {recorded : List StockMovement}
    (records : List.Forall₂ (RecordsGrant signed reason reference) granted
      recorded) :
    ∀ movement ∈ recorded,
      movement.reason = reason ∧ movement.reference = reference := by
  induction records with
  | nil => simp
  | cons record _ ih =>
      intro movement member
      rcases List.mem_cons.mp member with rfl | later
      · exact ⟨record.reason_eq, record.reference_eq⟩
      · exact ih movement later

/-- The units that movements of a stock row reserve. -/
def unitsReserved (movements : List StockMovement) (stock : Uuid) : Int :=
  -((movements.filter fun movement => stock = movement.stock).map
    StockMovement.quantity).sum

theorem unitsReserved_eq {reason : MovementReason} {reference : String}
    {granted : List (Stock × Int)} {recorded : List StockMovement}
    (records : List.Forall₂ (RecordsGrant (fun take => -take) reason reference)
      granted recorded) (stock : Uuid) :
    unitsReserved recorded stock =
      ((granted.filter fun grant => stock = grant.1.id).map Prod.snd).sum := by
  unfold unitsReserved
  induction records with
  | nil => rfl
  | @cons grant movement _ _ record _ ih =>
      by_cases same : stock = grant.1.id
      · rw [List.filter_cons_of_pos (by simpa [record.stock_eq] using same),
          List.filter_cons_of_pos (by simpa using same), List.map_cons,
          List.map_cons, List.sum_cons, List.sum_cons, record.quantity_eq, ← ih]
        ring
      · rw [List.filter_cons_of_neg (by simpa [record.stock_eq] using same),
          List.filter_cons_of_neg (by simpa using same), ih]

/-- A commit took `take` from each row: its quantity in total, from visible
rows of its variant in active warehouses that had as much available, and it
recorded what it took. -/
structure Takes (commit : Commit ReserveRequest Database StockSnapshot)
    (take : Uuid → Int) : Prop where
  draws : Draws .reserve commit.before.isReservable commit.before.stocks
    commit.after.stocks take (fun variant =>
      if variant = commit.request.variantId then commit.request.quantity
      else 0)
  sameWarehouses : commit.after.warehouses = commit.before.warehouses
  recorded : ∃ recorded,
    commit.after.movements.rows = commit.before.movements.rows ++ recorded ∧
    (∀ movement ∈ recorded, movement.reason = .reservation ∧
      movement.reference = commit.request.reference) ∧
    ∀ stock, take stock = unitsReserved recorded stock

/-- Greedy passes are movements of what they take. -/
theorem recorded_afterPass (db : Database) (session : Session)
    (reference : String) {rows : List Stock}
    (keysNodup : (rows.map fun stock => stock.id).Nodup) (quantity : Int) :
    ∃ recorded,
      (db.afterPass session .reserve (fun take => -take) .reservation
        reference rows quantity).movements.rows =
        db.movements.rows ++ recorded ∧
      (∀ movement ∈ recorded, movement.reason = .reservation ∧
        movement.reference = reference) ∧
      ∀ stock, takenFrom Stock.available rows quantity stock =
        unitsReserved recorded stock := by
  obtain ⟨recorded, rowsEq, records⟩ := rows_recordGrants session
    (fun take => -take) .reservation reference
    (grants Stock.available rows quantity) db.movements
  refine ⟨recorded, rowsEq, reason_of_records records, ?_⟩
  intro stock
  rw [unitsReserved_eq records, sum_grants keysNodup]

section Commits

variable {commit : Commit ReserveRequest Database StockSnapshot}
  {after : Progress RowKey Database} {rows : List Stock}

theorem takes_of_reservedRows
    (reserved : ReservedRows commit.request.session commit.request.variantId
      commit.request.quantity commit.request.reference commit.before .start
      after rows)
    (after_eq : commit.after = after.own commit.before) :
    Takes commit (takenFrom Stock.available rows commit.request.quantity) := by
  have pass : commit.after = commit.before.afterPass commit.request.session
      .reserve (fun take => -take) .reservation commit.request.reference rows
      commit.request.quantity :=
    after_eq.trans reserved.after_eq
  refine ⟨after_eq ▸ reserved.draws, by rw [pass]; rfl, ?_⟩
  rw [pass]
  exact recorded_afterPass commit.before commit.request.session
    commit.request.reference (ids_nodup_of_perm reserved.perm)
    commit.request.quantity

/-- A reservation leaves the rows alone that it has not locked. -/
theorem stocksKept_of_reservedRows {session : Session} {variantId : Uuid}
    {quantity : Int} {reference : String} {before : Database}
    (reserved : ReservedRows session variantId quantity reference before .start
      after rows) :
    StocksKept after.heldᶜ before (after.own before) where
  warehouses_eq := by
    rw [reserved.after_eq]
    rfl
  rows := reserved.draws.rowsKept reserved.locksTaken

end Commits

theorem reservedRows_of_isOf
    {commit : Commit ReserveRequest Database StockSnapshot}
    (isOf : commit.IsOf stockRely ReserveRequest.program) :
    ∃ take, Takes commit take := by
  obtain ⟨progress, leads, after_eq⟩ := isOf
  obtain ⟨rows, reserved⟩ := leads_reserveStock (fun _ _ kept => kept)
    (keepsRows_of_frame fun _ => ⟨rfl, rfl⟩) leads
  exact ⟨_, takes_of_reservedRows reserved after_eq⟩

theorem guarantees_reserve :
    Guarantees stockRely ReserveRequest.program (fun _ => True) := by
  intro request before snapshot progress leads _
  obtain ⟨rows, reserved⟩ := leads_reserveStock (fun _ _ kept => kept)
    (keepsRows_of_frame fun _ => ⟨rfl, rfl⟩) leads
  exact stocksKept_of_reservedRows reserved

/-- Units that the commits reserved of a variant. -/
def committedUnits
    (commits : List (Commit ReserveRequest Database StockSnapshot))
    (variant : Uuid) : Int :=
  ((commits.filter fun commit => variant = commit.request.variantId).map
    fun commit => commit.request.quantity).sum

/-- Units of a variant that are available in active warehouses. -/
def Database.activeAvailableOf (db : Database) (variant : Uuid) : Int :=
  db.stocks.total fun stock =>
    if db.isReservable stock = true ∧ stock.variant = variant then
      stock.available
    else 0

/-- The takes of a chain of commits add up. -/
theorem draws_of_chained {initial final : Database}
    {commits : List (Commit ReserveRequest Database StockSnapshot)}
    (chained : Chained initial commits final)
    (takesEach : ∀ commit ∈ commits, ∃ take, Takes commit take) :
    ∃ takes, List.Forall₂ Takes commits takes ∧
      Draws .reserve initial.isReservable initial.stocks final.stocks
        (fun stock => (takes.map fun take => take stock).sum)
        (committedUnits commits) := by
  induction commits generalizing initial with
  | nil =>
      subst chained
      exact ⟨[], .nil, .refl initial.stocks⟩
  | cons commit commits ih =>
      obtain ⟨rfl, chained⟩ := chained
      obtain ⟨take, first⟩ := takesEach commit List.mem_cons_self
      obtain ⟨takes, others, draws⟩ := ih chained fun later laterMem =>
        takesEach later (List.mem_cons_of_mem _ laterMem)
      have sameReservable : commit.after.isReservable =
          commit.before.isReservable := by
        funext stock
        simp only [Database.isReservable, Database.inActiveWarehouse,
          Database.warehouseOf, first.sameWarehouses]
      have together := first.draws.trans (sameReservable ▸ draws)
      refine ⟨take :: takes, .cons first others, ?_⟩
      have amounts : (fun stock =>
          ((take :: takes).map fun take => take stock).sum) =
          fun stock => take stock + (takes.map fun take => take stock).sum := by
        funext stock
        simp
      have units : committedUnits (commit :: commits) = fun variant =>
          (if variant = commit.request.variantId then commit.request.quantity
            else 0) + committedUnits commits variant := by
        funext variant
        by_cases same : variant = commit.request.variantId <;>
          simp [committedUnits, same]
      rw [amounts, units]
      exact together

/-- What is drawn of a variant was available at first. -/
theorem wanted_le_activeAvailable {initial : Database} {after : Table Stock}
    {amount wanted : Uuid → Int}
    (draws : Draws .reserve initial.isReservable initial.stocks after amount
      wanted) (variant : Uuid) :
    wanted variant ≤ initial.activeAvailableOf variant := by
  rw [← draws.total_eq variant]
  apply List.sum_le_sum
  intro stock member
  by_cases ofVariant : stock.variant = variant
  · rw [if_pos ofVariant]
    rcases draws.bounds stock member with none | ⟨selected, _, atMost⟩
    · rw [none]
      split
      · exact available_nonneg stock
      · exact le_refl 0
    · rw [if_pos ⟨selected, ofVariant⟩]
      exact atMost
  · rw [if_neg ofVariant, if_neg fun both => ofVariant both.2]

/-- Concurrent reservations neither lose updates nor oversell: in any
interleaving of any number of clients, the committed reserved units of every
row are the initial ones plus what the commits took, the buffers stay covered,
and the commits took no more than was available at first. -/
theorem concurrent_reservations {Client : Type} [DecidableEq Client]
    (initial : Database)
    (covered : ∀ stock ∈ initial.stocks.rows,
      stock.reserved + stock.safetyBuffer ≤ stock.onHand)
    (actions : List (Action Client ReserveRequest)) :
    let final := exec (System.step ReserveRequest.program)
      { committed := initial } actions
    ∃ takes, List.Forall₂ Takes final.log takes ∧
      final.committed.stocks.rows = initial.stocks.rows.map (fun stock =>
        stock.reserve (takes.map fun take => take stock.id).sum) ∧
      (∀ stock ∈ final.committed.stocks.rows,
        stock.reserved + stock.safetyBuffer ≤ stock.onHand) ∧
      ∀ variant, committedUnits final.log variant ≤
        initial.activeAvailableOf variant := by
  intro final
  have tracked : Tracked stockRely ReserveRequest.program (fun _ => True)
      initial final :=
    exec_tracked guarantees_reserve (commitsMeet_true _ _)
  obtain ⟨takes, each, draws⟩ := draws_of_chained tracked.chained
    fun commit member => reservedRows_of_isOf (tracked.commits commit member).1
  refine ⟨takes, each, ?_, ?_, wanted_le_activeAvailable draws⟩
  · exact congrArg Table.rows draws.after_eq
  · intro row rowMem
    obtain ⟨stock, member, taken, rfl, bounds⟩ := draws.exists_row rowMem
    have atFirst := covered stock member
    simp only [Drawing.reserve, Stock.reserve, Stock.available] at bounds ⊢
    omega

/-- Two clients reserve from one shelf; the second waits for the lock of the
first, takes what the first has left, and is rolled back. -/
def contendedShelf : List (Action Nat ReserveRequest) :=
  [.start 0 { session := { now := 1 }, variantId := 7, quantity := 3 },
    .start 1 { session := { now := 1 }, variantId := 7, quantity := 3 },
    .advance 0, .advance 1, .advance 0, .advance 1, .advance 0, .advance 0,
    .advance 1, .advance 0, .advance 0, .advance 1, .advance 1, .advance 1,
    .advance 1, .advance 1]

theorem concurrent_reservations_contended :
    let final := exec (System.step ReserveRequest.program)
      { committed := oneShelf 5 0 } contendedShelf
    (∃ takes, List.Forall₂ Takes final.log takes ∧
      final.committed.stocks.rows = (oneShelf 5 0).stocks.rows.map (fun stock =>
        stock.reserve (takes.map fun take => take stock.id).sum) ∧
      (∀ stock ∈ final.committed.stocks.rows,
        stock.reserved + stock.safetyBuffer ≤ stock.onHand) ∧
      ∀ variant, committedUnits final.log variant ≤
        (oneShelf 5 0).activeAvailableOf variant) ∧
      final.log.length = 1 ∧
      final.committed.stocks.rows.map Stock.reserved = [3] ∧
      (final.flights 0).isNone = true ∧ (final.flights 1).isNone = true :=
  ⟨concurrent_reservations (oneShelf 5 0) (by decide) contendedShelf,
    by decide +kernel⟩

end NovaCommerce
