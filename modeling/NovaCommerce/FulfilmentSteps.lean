import NovaCommerce.FulfilmentEffects

/-!
# What a fulfilment call has done to the orders by its commit

Every call takes its steps of the order log from the store that it finds at
its commit: the status of a locked order and the items of any order are what
they were when they were read.  Units are sold under the reference of an order
when it is moved to `paid`, as many as its items ask for.
-/

namespace NovaCommerce

open AtomicCall LockingTransactions

/-- The units that were sold under a reference. -/
def Database.soldUnder (db : Database) (reference : String) : Int :=
  db.movements.total fun movement =>
    if movement.reason = .sale ∧ movement.reference = reference
    then -movement.quantity else 0

/-- A write that records no sale. -/
def SparesSales (change : Database → Database) : Prop :=
  ∀ db, (change db).soldUnder = db.soldUnder

theorem SparesStock.sales {change : Database → Database}
    (spares : SparesStock change) : SparesSales change := by
  intro db
  funext reference
  rw [Database.soldUnder, spares.movements_eq, Database.soldUnder]

/-- What a new movement adds to the units that were sold. -/
theorem soldUnder_recordMovement (session : Session) (db : Database)
    (stock : Uuid) (quantity : Int) (reason : MovementReason)
    (reference note under : String) :
    ({ db with
        movements := recordMovement session stock quantity reason reference
          note db.movements } : Database).soldUnder under =
      db.soldUnder under +
        if reason = .sale ∧ reference = under then -quantity else 0 :=
  Table.total_create _ _ _ _

/-- The units of an item that are reserved and sold; an item whose variant was
deleted has none. -/
def OrderItem.units (item : OrderItem) : Int :=
  if item.variant.isSome then item.quantity else 0

/-- The units that the items of an order ask for. -/
def Database.orderedUnits (db : Database) (order : Uuid) : Int :=
  ((db.orderItemsOf order).map OrderItem.units).sum

section Sales

open Statements

variable {rely : Rely RowKey Database} {now : Database}
  {before after : Progress RowKey Database} {session : Session}
  {reference : String}

/-- A part that records no sale. -/
theorem soldUnder_of_sparesSales {Value : Type} {part : Statements Value}
    {value : Value} (leads : Leads rely now part before value after)
    (writes : part.Writes SparesSales) :
    (after.own now).soldUnder = (before.own now).soldUnder :=
  leads.own_keeps writes now

theorem sparesSales_createMovement {stock : Uuid} {quantity : Int}
    {reason : MovementReason} (noSale : reason ≠ .sale) :
    (Statements.createMovement session stock quantity reason reference
      "").Writes SparesSales := by
  refine ⟨?_, trivial⟩
  intro db
  funext under
  refine (soldUnder_recordMovement _ _ _ _ _ _ _ _).trans ?_
  rw [if_neg fun both => noSale both.1, add_zero]

theorem sparesSales_reserveStock (variantId : Uuid) (quantity : Int) :
    (Statements.reserveStock session variantId quantity reference).Writes
      SparesSales := by
  have looped : ∀ rows demand onHand reserved, (Statements.reserveRows session
      reference rows demand onHand reserved).Writes SparesSales := by
    intro rows
    induction rows with
    | nil => exact fun _ _ _ => trivial
    | cons stock rows ih =>
        intro demand onHand reserved
        unfold Statements.reserveRows
        split
        · exact ih _ _ _
        · dsimp only
          split
          · refine Transaction.writes_bind ⟨fun _ => rfl, trivial⟩ fun _ => ?_
            exact Transaction.writes_bind
              (sparesSales_createMovement (by decide)) fun _ => ih _ _ _
          · exact ih _ _ _
  unfold Statements.reserveStock
  split
  · trivial
  · refine Transaction.writes_bind (fun _ => writes_lockRows _ _ _ _)
      fun _ => ?_
    refine Transaction.writes_bind (looped _ _ _ _) fun _ => ?_
    dsimp only
    split <;> trivial

theorem sparesSales_releaseReservation (variantId : Uuid) (quantity : Int) :
    (Statements.releaseReservation session variantId quantity
      reference).Writes SparesSales :=
  writes_releaseReservation (fun _ => ⟨fun _ => rfl, trivial⟩)
    (fun _ _ => sparesSales_createMovement (by decide)) variantId quantity

/-- The loop of a sale sells what the remaining demand falls by. -/
theorem soldUnder_drawRows {capacity : Stock → Int}
    {draw : Stock → Int → Stock} {rows : List Stock} {demand remaining : Int}
    (leads : Leads rely now (Statements.drawRows session saveUnits capacity
      draw (fun take => -take) .sale reference rows demand) before remaining
      after) (under : String) :
    (after.own now).soldUnder under = (before.own now).soldUnder under +
      if reference = under then demand - remaining else 0 := by
  induction rows generalizing before demand with
  | nil =>
      obtain ⟨rfl, rfl⟩ := leads_pure.mp leads
      simp
  | cons stock rows ih =>
      unfold Statements.drawRows at leads
      split at leads
      · obtain ⟨rfl, rfl⟩ := leads_pure.mp leads
        simp
      dsimp only at leads
      split at leads
      · obtain ⟨_, saved, saving, rest⟩ := leads_bind.mp leads
        obtain ⟨_, recorded, recording, rest⟩ := leads_bind.mp rest
        have savedEq := leads_execute.mp saving
        have recordedEq := leads_execute.mp recording
        have sold : (recorded.own now).soldUnder under =
            (before.own now).soldUnder under +
              if reference = under then min (capacity stock) demand
              else 0 := by
          rw [recordedEq, savedEq]
          refine (soldUnder_recordMovement _ _ _ _ _ _ _ _).trans ?_
          rw [neg_neg]
          simp only [true_and]
          rfl
        rw [ih rest, sold]
        split <;> ring
      · next nothing =>
          rw [ih leads]

/-- The loop of a sale takes no more than is asked for. -/
theorem remaining_nonneg_of_drawRows {save : Stock → Statements Unit}
    {capacity : Stock → Int} {draw : Stock → Int → Stock}
    {signed : Int → Int} {reason : MovementReason} {rows : List Stock}
    {demand remaining : Int} (nonneg : 0 ≤ demand)
    (leads : Leads rely now (Statements.drawRows session save capacity draw
      signed reason reference rows demand) before remaining after) :
    0 ≤ remaining := by
  induction rows generalizing before demand with
  | nil =>
      obtain ⟨rfl, _⟩ := leads_pure.mp leads
      exact nonneg
  | cons stock rows ih =>
      unfold Statements.drawRows at leads
      split at leads
      · obtain ⟨rfl, _⟩ := leads_pure.mp leads
        exact nonneg
      dsimp only at leads
      split at leads
      · obtain ⟨_, _, _, rest⟩ := leads_bind.mp leads
        obtain ⟨_, _, _, rest⟩ := leads_bind.mp rest
        exact ih (sub_nonneg.mpr (min_le_right _ _)) rest
      · exact ih nonneg leads

/-- A sale that did not raise has sold what it was asked for, under its own
reference only. -/
theorem soldUnder_commitSale {variantId : Uuid} {quantity : Int}
    {value : Unit}
    (leads : Leads rely now (Statements.commitSale session variantId quantity
      reference) before value after) :
    ∃ sold, (0 ≤ quantity → sold = quantity) ∧ ∀ under,
      (after.own now).soldUnder under = (before.own now).soldUnder under +
        if reference = under then sold else 0 := by
  obtain ⟨rows, locked, locking, rest⟩ := leads_bind.mp leads
  obtain ⟨remaining, drawn, drawing, finished⟩ := leads_bind.mp rest
  have sameSales := soldUnder_of_sparesSales locking
    (fun _ => writes_lockRows _ _ _ _)
  have notShort : ¬0 < remaining := by
    intro short
    simp only [short, if_true] at finished
    exact finished.elim
  simp only [notShort, if_false] at finished
  obtain ⟨_, rfl⟩ := leads_pure.mp finished
  refine ⟨quantity - remaining, ?_, ?_⟩
  · intro nonneg
    have covered := remaining_nonneg_of_drawRows nonneg drawing
    omega
  · intro under
    rw [soldUnder_drawRows drawing, sameSales]

theorem soldUnder_forItems {items : List OrderItem} {value : Unit}
    (leads : Leads rely now (Statements.forItems (fun variant quantity =>
      Statements.commitSale session variant quantity reference) items) before
      value after) (under : String) :
    (after.own now).soldUnder under = (before.own now).soldUnder under +
      if reference = under then (items.map OrderItem.units).sum else 0 := by
  induction items generalizing before with
  | nil =>
      obtain ⟨_, rfl⟩ := leads_pure.mp leads
      simp
  | cons item items ih =>
      obtain ⟨_, middle, selling, rest⟩ := leads_bind.mp leads
      have sold : (middle.own now).soldUnder under =
          (before.own now).soldUnder under +
            if reference = under then item.units else 0 := by
        unfold Statements.forItem at selling
        cases variant : item.variant with
        | none =>
            simp only [variant] at selling
            obtain ⟨_, rfl⟩ := leads_pure.mp selling
            simp [OrderItem.units, variant]
        | some id =>
            simp only [variant] at selling
            obtain ⟨sold, all, sells⟩ := soldUnder_commitSale selling
            rw [sells, all (Int.natCast_nonneg _)]
            simp [OrderItem.units, variant]
      rw [ih rest, sold, List.map_cons, List.sum_cons]
      split <;> ring

/-- What the items of a locked order ask for is sold when it is paid for. -/
theorem soldUnder_settleStock {order : Order} {newStatus : OrderStatus}
    {value : Unit}
    (sparesItems : ∀ db, (before.own db).orderItems = db.orderItems)
    (isLocked : .order order.id ∈ before.held)
    (placed : order.id ∈ now.orders.keys)
    (leads : Leads storeRely now (Statements.settleStock session order
      newStatus) before value after) (under : String) :
    (after.own now).soldUnder under = (before.own now).soldUnder under +
      if newStatus = .paid ∧ toString order.id = under
      then now.orderedUnits order.id else 0 := by
  cases newStatus with
  | paid =>
      obtain ⟨items, asked, asking, rest⟩ := leads_bind.mp leads
      obtain ⟨_, started, ⟨earlier, allowed, rfl, sameStart⟩, finished⟩ :=
        leads_bind.mp asking
      obtain ⟨rfl, sameAsked⟩ := leads_pure.mp finished
      rw [sameAsked, sameStart] at rest
      have kept : StoreKept before.held earlier now := allowed
      have placedEarlier : order.id ∈ earlier.orders.keys := by
        by_contra missing
        have unfound := Table.find?_eq_none.mpr missing
        rw [← kept.orders order.id isLocked] at unfound
        exact Table.find?_eq_none.mp unfound placed
      have sameItems : (before.own earlier).orderItemsOf order.id =
          now.orderItemsOf order.id := by
        rw [kept.items.items_eq order.id placedEarlier,
          Database.orderItemsOf, sparesItems]
        rfl
      have perm := session.scan_perm OrderItem (now.orderItemsOf order.id)
      rw [soldUnder_forItems rest, sameItems,
        (perm.map OrderItem.units).sum_eq]
      simp [Database.orderedUnits]
  | cancelled =>
      obtain ⟨items, asked, asking, rest⟩ := leads_bind.mp leads
      obtain ⟨_, _, ⟨_, _, rfl, rfl⟩, finished⟩ := leads_bind.mp asking
      obtain ⟨_, rfl⟩ := leads_pure.mp finished
      rw [soldUnder_of_sparesSales rest
        (writes_forItems (fun _ _ => sparesSales_releaseReservation _ _) _)]
      simp
  | pending | packed | shipped | delivered | refunded =>
      obtain ⟨_, rfl⟩ := leads_pure.mp leads
      simp

/-- A write that records no sale, and leaves the items of all orders but one
as they are. -/
structure SparesAccounts (order : Uuid) (change : Database → Database) :
    Prop where
  items_eq : ∀ db other, other ≠ order →
    (change db).orderItemsOf other = db.orderItemsOf other
  sold_eq : SparesSales change

theorem SparesGoods.accounts {order : Uuid} {change : Database → Database}
    (spares : SparesGoods change) : SparesAccounts order change where
  items_eq db other _ := by
    rw [Database.orderItemsOf, spares.orders.items_eq]
    rfl
  sold_eq := spares.stock.sales

/-- A checkout sells nothing, and its items are those of a new order. -/
theorem sparesAccounts_createOrderFromCart (session : Session)
    (orderId : Uuid) (cart : Cart) (user : Option Uuid)
    (payload : CheckoutInput) :
    (Statements.createOrderFromCart session orderId cart user payload).Writes
      (SparesAccounts orderId) := by
  have toAccounts : ∀ change, SparesGoods change →
      SparesAccounts orderId change := fun _ => SparesGoods.accounts
  have loops : ∀ lines, (Statements.checkoutItems session orderId lines).Writes
      (SparesAccounts orderId) := by
    refine fun lines => writes_checkoutItems ?_ ?_ lines
    · intro variant quantity
      refine ((sparesOrders_reserveStock _ _ _ _).and
        (sparesSales_reserveStock _ _)).mono ?_
      rintro change ⟨sparesOrders, sparesSales⟩
      refine ⟨fun db other _ => ?_, sparesSales⟩
      rw [Database.orderItemsOf, sparesOrders.items_eq]
      rfl
    · intro item variant product
      refine ⟨⟨?_, fun _ => rfl⟩, trivial⟩
      intro db other otherNe
      simp only [Database.orderItemsOf, objects, Table.rows_create,
        List.filter_append]
      have notOfOther : orderId ≠ other := otherNe.symm
      simp [newOrderItem, notOfOther]
  unfold Statements.createOrderFromCart
  intro db
  change Transaction.Writes _ (if _ then _ else _)
  split
  · trivial
  refine Transaction.writes_bind (fun _ => trivial) fun db => ?_
  refine Transaction.writes_bind (writes_applyCoupon _ _ _) fun _ => ?_
  refine Transaction.writes_bind (writes_createOrder
    ⟨fun _ _ _ => rfl, fun _ => rfl⟩) fun _ => ?_
  refine Transaction.writes_bind (fun _ => trivial) fun db => ?_
  refine Transaction.writes_bind (loops _) fun _ => ?_
  refine Transaction.writes_bind
    ((sparesGoods_countCouponUse _).mono toAccounts) fun _ => ?_
  refine Transaction.writes_bind
    ⟨⟨fun _ _ _ => rfl, fun _ => rfl⟩, trivial⟩ fun _ => ?_
  refine Transaction.writes_bind
    ((sparesGoods_softDelete _ _).mono toAccounts) fun _ => ?_
  exact Transaction.writes_bind
    ((sparesGoods_saveCartCoupon _).mono toAccounts) fun _ => trivial

end Sales

/-- The orders are told apart by the references of their movements. -/
theorem reference_injective {first second : Uuid}
    (same : toString first = toString second) : first = second := by
  have texts : (Nat.repr first).toList = (Nat.repr second).toList :=
    congrArg String.toList same
  rw [Nat.toList_repr, Nat.toList_repr] at texts
  have numbers := congrArg (fun digits => Nat.ofDigitChars 10 digits 0) texts
  simpa using numbers

/-- What a call did to the orders by its commit: it took steps of the log and
moved orders that were there, left the other orders and all items alone, and
sold what the orders that it moved to `paid` ask for.  A sale that names its
reference `direct`ly is not accounted for. -/
structure OrdersStepped (moves : Uuid → List OrderStatus)
    (direct : Option String) (before after : Database)
    (held : Set RowKey) : Prop where
  logs : Logs before after
  codes : ∀ order, after.statusCodes order =
    before.statusCodes order ++ (moves order).map statusCode
  known : ∀ order, moves order ≠ [] → order ∈ before.orders.keys
  kept : LockedSame .order heldᶜ before.orders after.orders
  items : KeepsItems before after
  sold : ∀ order, direct ≠ some (toString order) →
    after.soldUnder (toString order) = before.soldUnder (toString order) +
      if .paid ∈ moves order then before.orderedUnits order else 0

/-- What a transaction has written so far leaves the orders and their items as
they are. -/
structure LeavesOrders (own : Database → Database) : Prop where
  orders_eq : ∀ db, (own db).orders = db.orders
  items_eq : ∀ db, (own db).orderItems = db.orderItems

theorem leavesOrders_start :
    LeavesOrders (Progress.start : Progress RowKey Database).own :=
  ⟨fun _ => rfl, fun _ => rfl⟩

section Steps

variable {now : Database} {before after : Progress RowKey Database}

/-- The orders and their events after a part that spares them. -/
theorem log_of_sparesLog {Value : Type} {part : Statements Value}
    {value : Value} (leads : Leads storeRely now part before value after)
    (writes : part.Writes SparesLog) :
    (after.own now).orders = (before.own now).orders ∧
      (after.own now).orderEvents = (before.own now).orderEvents := by
  let tables (db : Database) := (db.orders, db.orderEvents)
  have kept : tables (after.own now) = tables (before.own now) := by
    apply leads.own_keeps
    exact writes
  exact Prod.mk.inj kept

theorem items_of_sparesOrders {Value : Type} {part : Statements Value}
    {value : Value} (leads : Leads storeRely now part before value after)
    (writes : part.Writes SparesOrders) (db : Database) :
    (after.own db).orderItems = (before.own db).orderItems := by
  apply leads.own_keeps
  exact writes.mono fun _ spares => spares.items_eq

theorem keepsItems_of_eq {first second : Database}
    (sameOrders : second.orders = first.orders)
    (sameItems : second.orderItems = first.orderItems) :
    KeepsItems first second where
  keys_subset := sameOrders ▸ List.Subset.refl _
  items_eq _ _ := by
    rw [Database.orderItemsOf, sameItems]
    rfl

/-- A call of the inventory services takes no step. -/
theorem ordersStepped_of_spares {Value : Type} {part : Statements Value}
    {value : Value} {direct : Option String}
    (leads : Leads storeRely now part .start value after)
    (writes : part.Writes SparesOrders)
    (sold : ∀ order : Uuid, direct ≠ some (toString order) →
      (after.own now).soldUnder (toString order) =
        now.soldUnder (toString order)) :
    OrdersStepped (fun _ => []) direct now (after.own now) after.held := by
  obtain ⟨sameOrders, sameEvents⟩ :=
    log_of_sparesLog leads (writes.mono fun _ => SparesOrders.log)
  have sameItems := items_of_sparesOrders leads writes now
  have sameNow : (after.own now).orderEvents = now.orderEvents := sameEvents
  refine ⟨.single (.same sameOrders sameEvents), ?_,
    fun _ never => absurd rfl never, ?_, keepsItems_of_eq sameOrders sameItems,
    ?_⟩
  · intro order
    rw [Database.statusCodes, Database.statusCodes, sameNow]
    exact (List.append_nil _).symm
  · intro id _
    exact congrArg (fun orders => orders.find? id) sameOrders
  · intro order notDirect
    simpa using sold order notDirect

/-- A locked order is read as it is at the commit. -/
theorem leads_lockOrder {orderId : Uuid} {order : Order}
    (leaves : LeavesOrders before.own)
    (leads : Leads storeRely now (Statements.lockOrder orderId) before order
      after) :
    after.own = before.own ∧ order ∈ now.orders.rows ∧ order.id = orderId ∧
      .order orderId ∈ after.held := by
  obtain ⟨orders, locked, locking, choosing⟩ := leads_bind.mp leads
  obtain ⟨_, started, ⟨_, _, rfl, sameStart⟩, lockingRows⟩ :=
    leads_bind.mp locking
  rw [sameStart] at lockingRows
  obtain ⟨orders_eq, own_eq, held⟩ := leads_lockRows
    (fun id _ held other holds (allowed : StoreKept held other now) => by
      have sameRow := (allowed.orders id holds).symm
      rw [← leaves.orders_eq other, ← leaves.orders_eq now] at sameRow
      exact congrArg (fun row => Option.filter (fun order : Order =>
        alive order && decide (order.id = orderId)) row) sameRow) lockingRows
  cases orders with
  | nil => exact choosing.elim
  | cons first others =>
      obtain ⟨rfl, rfl⟩ := leads_pure.mp choosing
      have visited : order ∈ order :: others := List.mem_cons_self
      rw [orders_eq] at visited
      obtain ⟨id, listed, selected⟩ := List.mem_filterMap.mp visited
      obtain ⟨isFound, holds⟩ := Option.filter_eq_some_iff.mp selected
      rw [leaves.orders_eq now] at isFound
      obtain ⟨member, hasId⟩ := Table.find?_eq_some.mp isFound
      have isOrder : order.id = orderId :=
        of_decide_eq_true ((Bool.and_eq_true _ _).mp holds).2
      have sameId : id = orderId := hasId.symm.trans isOrder
      exact ⟨own_eq, member, isOrder, sameId ▸ held id listed⟩

/-- An event that a transaction records is one write. -/
theorem leads_createOrderEvent {session : Session} {order : Uuid}
    {code message : String} {actor : Option Uuid} {payload : Json}
    {value : Unit}
    (leads : Leads storeRely now (Statements.createOrderEvent session order
      code message actor payload) before value after) :
    after = before.write fun db => { db with
      orderEvents := db.orderEvents.create
        (createdEvent session order code message actor payload)
        (key_createdEvent session order code message actor payload) } := by
  unfold Statements.createOrderEvent at leads
  split at leads
  · exact leads.elim
  · exact leads_execute.mp leads

/-- A transition moves its order from the status that it has at the commit. -/
theorem ordersStepped_transitionStatus {session : Session} {orderId : Uuid}
    {newStatus : OrderStatus} {actor : Option Uuid} {message : String}
    {changed : Order} (leaves : LeavesOrders before.own)
    (leads : Leads storeRely now (Statements.transitionStatus session orderId
      newStatus actor message) before changed after) :
    OrdersStepped (fun order => if orderId = order then [newStatus] else [])
      none (before.own now) (after.own now) after.held := by
  obtain ⟨order, locked, locking, rest⟩ := leads_bind.mp leads
  obtain ⟨own_eq, listed, rfl, isLocked⟩ := leads_lockOrder leaves locking
  have member : order ∈ (before.own now).orders.rows :=
    leaves.orders_eq now ▸ listed
  by_cases allowed : order.canTransitionTo newStatus = true
  · simp only [allowed, if_true] at rest
    obtain ⟨_, settled, settling, rest⟩ := leads_bind.mp rest
    obtain ⟨_, moved, moving, rest⟩ := leads_bind.mp rest
    obtain ⟨_, recorded, recording, finished⟩ := leads_bind.mp rest
    obtain ⟨_, rfl⟩ := leads_pure.mp finished
    have movedEq := leads_execute.mp moving
    have recordedEq := leads_createOrderEvent recording
    obtain ⟨sameOrders, sameEvents⟩ := log_of_sparesLog settling
      ((sparesOrders_settleStock _ _ _).mono fun _ => SparesOrders.log)
    have sameItems := items_of_sparesOrders settling
      (sparesOrders_settleStock _ _ _) now
    have settledUnits := soldUnder_settleStock (own_eq ▸ leaves.items_eq)
      isLocked (List.mem_map_of_mem listed) settling
    rw [own_eq] at sameOrders sameEvents sameItems settledUnits
    have orders_eq : (after.own now).orders =
        (before.own now).orders.save
          (order.enterStatus newStatus session.now) := by
      rw [← withStatus_eq_save member, recordedEq, movedEq,
        Progress.own_write, Progress.own_write]
      exact congrArg (fun orders => Statements.withStatus orders order.id
        newStatus session.now) sameOrders
    obtain ⟨event, ofOrder, code_eq, events_eq⟩ : ∃ event : OrderEvent,
        event.order = order.id ∧ event.code = statusCode newStatus ∧
          (after.own now).orderEvents.rows =
            (before.own now).orderEvents.rows ++ [event] := by
      have rows := congrArg Table.rows sameEvents
      rw [recordedEq, movedEq, Progress.own_write, Progress.own_write]
      exact ⟨createdEvent session order.id _ _ actor _ _, rfl, rfl,
        congrArg (· ++ _) rows⟩
    have items_eq : (after.own now).orderItems =
        (before.own now).orderItems := by
      rw [recordedEq, movedEq]
      exact sameItems
    have sales_eq :
        (after.own now).soldUnder = (settled.own now).soldUnder := by
      rw [recordedEq, movedEq]
      rfl
    have units_eq : (before.own now).orderedUnits order.id =
        now.orderedUnits order.id := by
      rw [Database.orderedUnits, Database.orderItemsOf, leaves.items_eq]
      rfl
    refine ⟨.single (.moved member allowed orders_eq events_eq ofOrder
      code_eq), ?_, ?_, ?_, ⟨?_, ?_⟩, ?_⟩
    · intro other
      by_cases same : order.id = other
      · rw [if_pos same]
        exact statusCodes_append_self events_eq (ofOrder.trans same) code_eq
      · rw [if_neg same, List.map_nil, List.append_nil]
        apply statusCodes_append events_eq
        intro event' listed ofOther
        rw [List.mem_singleton.mp listed, ofOrder] at ofOther
        exact absurd ofOther same
    · intro other moves
      by_cases same : order.id = other
      · exact same ▸ List.mem_map_of_mem member
      · exact absurd (if_neg same) moves
    · intro id notHeld
      rw [orders_eq]
      apply Table.find?_save_of_ne
      rintro rfl
      have sameKey : Keyed.key (order.enterStatus newStatus session.now) =
          order.id :=
        congrArg TimeStampedUUIDModel.id (base_enterStatus _ _ _)
      have grown := (settling.held_subset.trans moving.held_subset).trans
        recording.held_subset
      exact notHeld (sameKey ▸ grown isLocked)
    · rw [orders_eq, Table.keys_save]
      exact List.Subset.refl _
    · intro other _
      rw [Database.orderItemsOf, items_eq]
      rfl
    · intro other _
      rw [sales_eq, settledUnits]
      congr 1
      by_cases same : order.id = other
      · subst same
        simp [units_eq, eq_comm]
      · have otherText : toString order.id ≠ toString other :=
          fun sameText => same (reference_injective sameText)
        rw [if_neg fun both => otherText both.2, if_neg same]
        simp
  · simp only [allowed] at rest
    exact rest.elim

/-- A checkout places a pending order under an unused identifier. -/
theorem ordersStepped_createOrderFromCart {session : Session}
    {orderId : Uuid} {cart : Cart} {user : Option Uuid}
    {payload : CheckoutInput} {receipt : CheckoutReceipt}
    (leads : Leads storeRely now (Statements.createOrderFromCart session
      orderId cart user payload) .start receipt after) :
    OrdersStepped (fun _ => []) none now (after.own now) after.held := by
  have accounts := sparesAccounts_createOrderFromCart session orderId cart
    user payload
  have sameSales : (after.own now).soldUnder = now.soldUnder :=
    soldUnder_of_sparesSales leads
      (accounts.mono fun _ => SparesAccounts.sold_eq)
  obtain ⟨first, _, ⟨_, _, rfl, rfl⟩, rest⟩ := leads_bind.mp leads
  by_cases isEmpty : (first.itemsOf cart.id).isEmpty = true
  · simp only [isEmpty, if_true] at rest
    exact rest.elim
  simp only [isEmpty] at rest
  obtain ⟨second, _, ⟨_, _, rfl, rfl⟩, rest⟩ := leads_bind.mp rest
  obtain ⟨⟨coupon, discount⟩, locked, applying, rest⟩ := leads_bind.mp rest
  obtain ⟨noWrites, _⟩ := leads_applyCoupon rfl applying
  obtain ⟨_, created, creating, rest⟩ := leads_bind.mp rest
  obtain ⟨ownCreated, isLocked, held, earlier, holds, allowed, missing⟩ :=
    leads_createOrder noWrites creating
  obtain ⟨_, started, ⟨_, _, rfl, rfl⟩, rest⟩ := leads_bind.mp rest
  obtain ⟨_, looped, looping, rest⟩ := leads_bind.mp rest
  obtain ⟨_, counted, counting, rest⟩ := leads_bind.mp rest
  obtain ⟨_, recorded, recording, rest⟩ := leads_bind.mp rest
  obtain ⟨_, emptied, emptying, rest⟩ := leads_bind.mp rest
  obtain ⟨_, saved, saving, rest⟩ := leads_bind.mp rest
  obtain ⟨_, rfl⟩ := leads_pure.mp rest
  have recordedEq := leads_execute.mp recording
  have isNew := (allowed.orders).notMem holds missing
  have createdNow := congrFun ownCreated now
  have spared : ∀ change, SparesGoods change → SparesLog change :=
    fun _ spares => spares.orders.log
  obtain ⟨loopedOrders, loopedEvents⟩ :=
    log_of_sparesLog looping (sparesLog_checkoutItems _ _ _)
  obtain ⟨countedOrders, countedEvents⟩ :=
    log_of_sparesLog counting ((sparesGoods_countCouponUse _).mono spared)
  obtain ⟨emptiedOrders, emptiedEvents⟩ :=
    log_of_sparesLog emptying ((sparesGoods_softDelete _ _).mono spared)
  obtain ⟨savedOrders, savedEvents⟩ :=
    log_of_sparesLog saving ((sparesGoods_saveCartCoupon _).mono spared)
  let order := pricedOrder session cart user payload coupon
    ((second.itemsOf cart.id).map CartItem.lineTotal).sum discount orderId
  have orders_eq : (after.own now).orders = now.orders.insertNew order := by
    rw [savedOrders, emptiedOrders, recordedEq, Progress.own_write]
    exact countedOrders.trans (loopedOrders.trans
      (congrArg Database.orders createdNow))
  have sameEvents : (counted.own now).orderEvents = now.orderEvents :=
    countedEvents.trans (loopedEvents.trans
      (by rw [createdNow]))
  obtain ⟨event, ofOrder, code_eq, events_eq⟩ : ∃ event : OrderEvent,
      event.order = orderId ∧ event.code = "created" ∧
        (after.own now).orderEvents.rows =
          now.orderEvents.rows ++ [event] := by
    rw [savedEvents, emptiedEvents, recordedEq, Progress.own_write]
    exact ⟨createdEvent session orderId _ _ user _ _, rfl, rfl,
      congrArg (· ++ _) (congrArg Table.rows sameEvents)⟩
  have isNote : isStatusCode event.code = false := code_eq ▸ by decide
  have isNewOrder : order.id ∉ now.orders.keys := isNew
  have rows_eq : (after.own now).orders.rows = now.orders.rows ++ [order] := by
    rw [orders_eq]
    exact Table.rows_insertNew isNew
  refine ⟨.single (.placed isNewOrder rfl rows_eq events_eq ofOrder isNote),
    ?_, fun _ never => absurd rfl never, ?_, ⟨?_, ?_⟩, ?_⟩
  · intro other
    rw [List.map_nil, List.append_nil]
    apply statusCodes_append events_eq
    intro event' listed _
    rw [List.mem_singleton.mp listed]
    exact isNote
  · intro id notHeld
    rw [orders_eq]
    apply Table.find?_insertNew_of_ne
    rintro rfl
    have grown := (((looping.held_subset.trans counting.held_subset).trans
      recording.held_subset).trans emptying.held_subset).trans
        saving.held_subset
    exact notHeld (grown isLocked)
  · rw [Table.keys, Table.keys, rows_eq, List.map_append]
    exact List.subset_append_left _ _
  · intro other placed
    have otherNe : other ≠ orderId := by
      rintro rfl
      exact isNewOrder placed
    let itemsOfOther (db : Database) := db.orderItemsOf other
    have kept : itemsOfOther (after.own now) = itemsOfOther now := by
      apply leads.own_keeps
      exact accounts.mono fun _ spares db => spares.items_eq db other otherNe
    exact kept
  · intro other _
    rw [sameSales]
    simp

/-- The tables that this module is about are the same. -/
structure GoodsFrame (before after : Database) : Prop where
  orders_eq : after.orders = before.orders
  events_eq : after.orderEvents = before.orderEvents
  items_eq : after.orderItems = before.orderItems
  sold_eq : after.soldUnder = before.soldUnder

theorem GoodsFrame.refl (db : Database) : GoodsFrame db db :=
  ⟨rfl, rfl, rfl, rfl⟩

theorem GoodsFrame.trans {first second third : Database}
    (before : GoodsFrame first second) (later : GoodsFrame second third) :
    GoodsFrame first third :=
  ⟨later.orders_eq.trans before.orders_eq,
    later.events_eq.trans before.events_eq,
    later.items_eq.trans before.items_eq, later.sold_eq.trans before.sold_eq⟩

/-- A part that spares the tables, at any store. -/
theorem frame_of_sparesGoods {Value : Type} {part : Statements Value}
    {value : Value} (leads : Leads storeRely now part before value after)
    (writes : part.Writes SparesGoods) (db : Database) :
    GoodsFrame (before.own db) (after.own db) where
  orders_eq := leads.own_keeps (writes.mono fun _ spares db =>
    (Prod.mk.inj (spares.orders.log db)).1) db
  events_eq := leads.own_keeps (writes.mono fun _ spares db =>
    (Prod.mk.inj (spares.orders.log db)).2) db
  items_eq := leads.own_keeps (writes.mono fun _ spares =>
    spares.orders.items_eq) db
  sold_eq := leads.own_keeps (writes.mono fun _ spares => spares.stock.sales)
    db

theorem leads_raising {Value : Type} {result : Raising Value} {value : Value}
    (leads : Leads storeRely now (Statements.raising result) before value
      after) :
    result = .ok value ∧ after = before := by
  cases result with
  | error raised => exact leads.elim
  | ok answer =>
      obtain ⟨rfl, rfl⟩ := leads_pure.mp leads
      exact ⟨rfl, rfl⟩

variable {moves : Uuid → List OrderStatus} {direct : Option String}
  {first second third : Database} {held : Set RowKey}

theorem ordersStepped_of_frame (frame : GoodsFrame first second) :
    OrdersStepped (fun _ => []) direct first second held := by
  refine ⟨.single (.same frame.orders_eq frame.events_eq), ?_,
    fun _ never => absurd rfl never, ?_,
    keepsItems_of_eq frame.orders_eq frame.items_eq, ?_⟩
  · intro order
    rw [Database.statusCodes, frame.events_eq]
    exact (List.append_nil _).symm
  · intro id _
    rw [frame.orders_eq]
  · intro order _
    rw [frame.sold_eq]
    simp

/-- What follows the step spares the tables. -/
theorem OrdersStepped.frame {more : Set RowKey}
    (stepped : OrdersStepped moves direct first second held)
    (frame : GoodsFrame second third) (grown : held ⊆ more) :
    OrdersStepped moves direct first third more where
  logs := stepped.logs.tail (.same frame.orders_eq frame.events_eq)
  codes order := by
    have same : third.statusCodes order = second.statusCodes order := by
      rw [Database.statusCodes, frame.events_eq]
      rfl
    rw [same, stepped.codes]
  known := stepped.known
  kept id free := by
    rw [frame.orders_eq]
    exact stepped.kept id fun holds => free (grown holds)
  items := stepped.items.trans
    (keepsItems_of_eq frame.orders_eq frame.items_eq)
  sold order notDirect := by
    rw [frame.sold_eq]
    exact stepped.sold order notDirect

/-- A note about an order precedes the step. -/
theorem OrdersStepped.afterNote {event : OrderEvent}
    (stepped : OrdersStepped moves direct second third held)
    (orders_eq : second.orders = first.orders)
    (items_eq : second.orderItems = first.orderItems)
    (sold_eq : second.soldUnder = first.soldUnder)
    (events_eq : second.orderEvents.rows = first.orderEvents.rows ++ [event])
    (isNote : isStatusCode event.code = false)
    (ofOrder : event.order ∈ first.orders.keys) :
    OrdersStepped moves direct first third held := by
  have areNotes : ∀ other ∈ [event], isStatusCode other.code = false ∧
      other.order ∈ first.orders.keys := by
    intro other listed
    rw [List.mem_singleton.mp listed]
    exact ⟨isNote, ofOrder⟩
  have noted : LogStep first second :=
    .noted (by rw [orders_eq]) events_eq areNotes
  refine ⟨(Relation.ReflTransGen.single noted).trans stepped.logs, ?_, ?_,
    ?_, (keepsItems_of_eq orders_eq items_eq).trans stepped.items, ?_⟩
  · intro order
    rw [stepped.codes, statusCodes_append events_eq fun other listed _ =>
      (areNotes other listed).1]
  · intro order moved
    exact orders_eq ▸ stepped.known order moved
  · intro id free
    rw [stepped.kept id free, orders_eq]
  · intro order notDirect
    have sameUnits : second.orderedUnits order = first.orderedUnits order := by
      rw [Database.orderedUnits, Database.orderItemsOf, items_eq]
      rfl
    rw [stepped.sold order notDirect, sold_eq, sameUnits]

/-- A charge attempt writes other columns of its order. -/
theorem ordersStepped_createPayment {session : Session} {gateway : Gateway}
    {order : Order} {paymentId : Uuid}
    {providerCode successUrl cancelUrl : String} {payment : Payment}
    (leads : Leads storeRely now (Statements.createPayment session gateway
      order paymentId providerCode successUrl cancelUrl) .start payment
      after) :
    OrdersStepped (fun _ => []) none now (after.own now) after.held := by
  obtain ⟨provider, looked, looking, rest⟩ := leads_bind.mp leads
  obtain ⟨row, created, creating, rest⟩ := leads_bind.mp rest
  obtain ⟨result, charged, charging, rest⟩ := leads_bind.mp rest
  obtain ⟨_, saved, saving, rest⟩ := leads_bind.mp rest
  obtain ⟨_, recorded, recording, finished⟩ := leads_bind.mp rest
  obtain ⟨_, rfl⟩ := leads_pure.mp finished
  have frame : ∀ db, GoodsFrame db (saved.own db) := fun db =>
    (((frame_of_sparesGoods looking (writes_raising _) db).trans
      (frame_of_sparesGoods creating
        (sparesGoods_createPaymentRow _ _ _ _ _) db)).trans
      (frame_of_sparesGoods charging (writes_raising _) db)).trans
      (frame_of_sparesGoods saving (sparesGoods_savePayment _) db)
  unfold Statements.recordCharge at recording
  split at recording
  · obtain ⟨view, locked, ⟨earlier, allowed, rfl, rfl⟩, writing⟩ :=
      leads_bind.mp recording
    split at writing
    · exact writing.elim
    have written := leads_execute.mp writing
    have orders_eq : (after.own now).orders = Statements.withReference
        now.orders order.id providerCode result.providerReference := by
      rw [written, Progress.own_write, Progress.own_lock]
      exact congrArg (fun orders => Statements.withReference orders _ _ _)
        (frame now).orders_eq
    have sameEvents : (after.own now).orderEvents = now.orderEvents := by
      rw [written]
      exact (frame now).events_eq
    have sameItems : (after.own now).orderItems = now.orderItems := by
      rw [written]
      exact (frame now).items_eq
    have sameSales : (after.own now).soldUnder = now.soldUnder := by
      rw [written]
      exact (frame now).sold_eq
    have stamps_eq : (after.own now).orders.rows.map Order.stamps =
        now.orders.rows.map Order.stamps := by
      rw [orders_eq, Statements.withReference, Table.rows_alter, List.map_map]
      apply List.map_congr_left
      intro row _
      simp only [Function.comp_apply]
      split <;> rfl
    have isLocked : .order order.id ∈ after.held := by
      rw [written]
      exact Set.mem_insert _ _
    refine ⟨.single (.noted stamps_eq (by rw [sameEvents, List.append_nil])
      (fun _ never => absurd never List.not_mem_nil)), ?_,
      fun _ never => absurd rfl never, ?_, ⟨?_, ?_⟩, ?_⟩
    · intro other
      rw [Database.statusCodes, sameEvents]
      exact (List.append_nil _).symm
    · intro id free
      rw [orders_eq]
      apply Table.find?_alter_of_same
      intro row hasId
      have idEq : row.id = id := hasId
      apply if_neg
      rintro sameId
      exact free (idEq ▸ sameId ▸ isLocked)
    · rw [orders_eq, Statements.withReference, Table.keys_alter]
      exact List.Subset.refl _
    · intro other _
      rw [Database.orderItemsOf, sameItems]
      rfl
    · intro other _
      rw [sameSales]
      simp
  · obtain ⟨_, rfl⟩ := leads_pure.mp recording
    exact ordersStepped_of_frame (frame now)

/-- The row that a locking query settles on is read as it is at the commit. -/
theorem leads_lockFirst {Row : Type} {key : Uuid → RowKey}
    {current : Database → Uuid → Option Row} {ids : List Uuid}
    {found : Option Row}
    (stable : ∀ id ∈ ids, ∀ held earlier, key id ∈ held →
      storeRely.allows held earlier now →
      current (before.own earlier) id = current (before.own now) id)
    (leads : Leads storeRely now (Statements.lockFirst key current ids) before
      found after) :
    after.own = before.own ∧ ∀ row ∈ found, ∃ id ∈ ids,
      current (before.own now) id = some row ∧ key id ∈ after.held := by
  induction ids generalizing before with
  | nil =>
      obtain ⟨rfl, rfl⟩ := leads_pure.mp leads
      exact ⟨rfl, by simp⟩
  | cons id ids ih =>
      obtain ⟨_, locked, ⟨earlier, allowed, rfl, rfl⟩, rest⟩ :=
        leads_bind.mp leads
      have same := stable id List.mem_cons_self _ earlier
        (Set.mem_insert _ _) allowed
      cases selected : current (before.own earlier) id with
      | some row =>
          simp only [selected] at rest
          obtain ⟨rfl, rfl⟩ := leads_pure.mp rest
          refine ⟨rfl, ?_⟩
          rintro _ ⟨rfl⟩
          exact ⟨id, List.mem_cons_self, same ▸ selected, Set.mem_insert _ _⟩
      | none =>
          simp only [selected] at rest
          have tail : ∀ other ∈ ids, ∀ held earlier, key other ∈ held →
              storeRely.allows held earlier now →
              current ((before.lock (key id)).own earlier) other =
                current ((before.lock (key id)).own now) other :=
            fun other otherMem => stable other (List.mem_cons_of_mem _ otherMem)
          obtain ⟨own_eq, picked⟩ := ih tail rest
          refine ⟨own_eq, fun row isFound => ?_⟩
          obtain ⟨other, otherMem, otherFound, holds⟩ := picked row isFound
          exact ⟨other, List.mem_cons_of_mem _ otherMem, otherFound, holds⟩

/-- The order that a webhook is matched to is locked. -/
theorem leads_matchOrder {session : Session} {gateway : Gateway}
    {parsed : WebhookResult} {found : Option Order}
    (leaves : LeavesOrders before.own)
    (leads : Leads storeRely now (Statements.matchOrder session gateway parsed)
      before found after) :
    after.own = before.own ∧ ∀ order ∈ found, order ∈ now.orders.rows := by
  have stable : ∀ {own : Database → Database} (condition : Order → Bool),
      LeavesOrders own → ∀ id held earlier, RowKey.order id ∈ held →
        storeRely.allows held earlier now →
        Statements.selectedRow Database.orders (fun _ => condition)
            (own earlier) id =
          Statements.selectedRow Database.orders (fun _ => condition)
            (own now) id := by
    intro own condition leavesOwn id held earlier holds allowed
    have kept : StoreKept held earlier now := allowed
    rw [Statements.selectedRow, Statements.selectedRow, leavesOwn.orders_eq,
      leavesOwn.orders_eq, kept.orders id holds]
  have listed : ∀ {own : Database → Database} {condition : Order → Bool}
      {id : Uuid} {order : Order}, LeavesOrders own →
      Statements.selectedRow Database.orders (fun _ => condition) (own now)
        id = some order → order ∈ now.orders.rows := by
    intro own condition id order leavesOwn selected
    have isFound := (Option.filter_eq_some_iff.mp selected).1
    rw [leavesOwn.orders_eq] at isFound
    exact (Table.find?_eq_some.mp isFound).1
  have keyed : ∀ {byKey : Option Order} {middle : Progress RowKey Database},
      Leads storeRely now (Statements.orderByKey gateway parsed.orderId)
        before byKey middle →
      middle.own = before.own ∧ ∀ order ∈ byKey, order ∈ now.orders.rows := by
    intro byKey middle looking
    unfold Statements.orderByKey at looking
    split at looking
    · split at looking
      · exact looking.elim
      obtain ⟨orders, locked, locking, finished⟩ := leads_bind.mp looking
      obtain ⟨rfl, rfl⟩ := leads_pure.mp finished
      obtain ⟨_, started, ⟨_, _, rfl, sameStart⟩, lockingRows⟩ :=
        leads_bind.mp locking
      rw [sameStart] at lockingRows
      obtain ⟨orders_eq, own_eq, _⟩ := leads_lockRows
        (fun id _ => stable _ leaves id) lockingRows
      refine ⟨own_eq, fun order isHead => ?_⟩
      have member := List.mem_of_head? isHead
      rw [orders_eq] at member
      obtain ⟨id, _, selected⟩ := List.mem_filterMap.mp member
      exact listed leaves selected
    · obtain ⟨rfl, rfl⟩ := leads_pure.mp looking
      exact ⟨rfl, by simp⟩
  obtain ⟨byKey, middle, looking, rest⟩ := leads_bind.mp leads
  obtain ⟨own_eq, visible⟩ := keyed looking
  cases byKey with
  | some order =>
      obtain ⟨rfl, rfl⟩ := leads_pure.mp rest
      exact ⟨own_eq, visible⟩
  | none =>
      have leavesMiddle : LeavesOrders middle.own := own_eq ▸ leaves
      dsimp only at rest
      obtain ⟨_, asked, asking, searching⟩ := leads_bind.mp rest
      rw [(leads_raising asking).2] at searching
      unfold Statements.orderByReference at searching
      split at searching
      · obtain ⟨_, started, ⟨_, _, rfl, sameStart⟩, locking⟩ :=
          leads_bind.mp searching
        rw [sameStart] at locking
        obtain ⟨sameOwn, picked⟩ := leads_lockFirst
          (fun id _ => stable _ leavesMiddle id) locking
        refine ⟨sameOwn.trans own_eq, fun order isFound => ?_⟩
        obtain ⟨id, _, selected, _⟩ := picked order isFound
        exact listed leavesMiddle selected
      · obtain ⟨rfl, rfl⟩ := leads_pure.mp searching
        exact ⟨own_eq, by simp⟩

/-- The status that the payment status of an event asks for. -/
def PaymentStatus.asks : PaymentStatus → Option OrderStatus
  | .captured => some .paid
  | .refunded => some .refunded
  | .failed | .cancelled => some .cancelled
  | .pending | .authorized => none

/-- At most one order is moved, to the status that is asked for. -/
def MovesAsAsked (asked : Option OrderStatus)
    (moves : Uuid → List OrderStatus) : Prop :=
  (∀ order, moves order = []) ∨
    ∃ moved status, asked = some status ∧
      ∀ order, moves order = if moved = order then [status] else []

theorem ordersStepped_moveOrder {session : Session} {order : Order}
    {newStatus : Option PaymentStatus} {value : Unit}
    (leaves : LeavesOrders before.own)
    (leads : Leads storeRely now (Statements.moveOrder session order newStatus)
      before value after) :
    ∃ moves, MovesAsAsked (newStatus.bind PaymentStatus.asks) moves ∧
      OrdersStepped moves none (before.own now) (after.own now)
        after.held := by
  have stays : ∀ {last : Progress RowKey Database}, last.own = before.own →
      ∃ moves, MovesAsAsked (newStatus.bind PaymentStatus.asks) moves ∧
        OrdersStepped moves none (before.own now) (last.own now)
          last.held := by
    intro last own_eq
    refine ⟨fun _ => [], .inl fun _ => rfl, ?_⟩
    rw [own_eq]
    exact ordersStepped_of_frame (.refl _)
  have moves : ∀ {status message changed} {last : Progress RowKey Database},
      newStatus.bind PaymentStatus.asks = some status →
      Leads storeRely now (Statements.transitionStatus session order.id status
        none message) before changed last →
      ∃ moves, MovesAsAsked (newStatus.bind PaymentStatus.asks) moves ∧
        OrdersStepped moves none (before.own now) (last.own now)
          last.held :=
    fun asked called => ⟨_, .inr ⟨order.id, _, asked, fun _ => rfl⟩,
      ordersStepped_transitionStatus leaves called⟩
  have cancels : ∀ status : PaymentStatus, newStatus = some status →
      Leads storeRely now
        (if (status = .failed || status = .cancelled) &&
            order.status = .pending then do
          let _ ← Statements.transitionStatus session order.id .cancelled none
            s!"cancelled via webhook ({status.value})"
          pure ()
        else pure () : Statements Unit) before value after →
      ∃ moves, MovesAsAsked (newStatus.bind PaymentStatus.asks) moves ∧
        OrdersStepped moves none (before.own now) (after.own now)
          after.held := by
    rintro status rfl called
    split at called
    · next isFailure =>
        obtain ⟨_, _, called, finished⟩ := leads_bind.mp called
        obtain ⟨_, rfl⟩ := leads_pure.mp finished
        refine moves ?_ called
        cases status <;> simp_all [PaymentStatus.asks]
    · obtain ⟨_, rfl⟩ := leads_pure.mp called
      exact stays rfl
  cases newStatus with
  | none =>
      obtain ⟨_, rfl⟩ := leads_pure.mp leads
      exact stays rfl
  | some status =>
      cases status with
      | captured =>
          obtain ⟨result, _, called, finished⟩ := leads_bind.mp leads
          obtain ⟨_, rfl⟩ := leads_pure.mp finished
          cases result with
          | ok changed => exact moves rfl (leads_attempt_ok.mp called)
          | error raised => exact stays (leads_attempt_error called).1
      | refunded =>
          obtain ⟨_, _, called, finished⟩ := leads_bind.mp leads
          obtain ⟨_, rfl⟩ := leads_pure.mp finished
          exact moves rfl called
      | pending => exact cancels .pending rfl leads
      | authorized => exact cancels .authorized rfl leads
      | failed => exact cancels .failed rfl leads
      | cancelled => exact cancels .cancelled rfl leads

/-- The status that a delivery asks for, if its provider accepts it. -/
def askedByWebhook (gateway : Gateway) (providerCode : String)
    (headers : Headers) (body : TextDecoding.Bytes) : Option OrderStatus :=
  match getProvider providerCode with
  | .error _ => none
  | .ok provider =>
      match provider.parseWebhook gateway headers body with
      | .error _ => none
      | .ok parsed => parsed.newStatus.bind PaymentStatus.asks

/-- A webhook records its event, and may move the order that it names. -/
theorem ordersStepped_handleWebhook {session : Session} {gateway : Gateway}
    {providerCode : String} {headers : Headers} {body : TextDecoding.Bytes}
    {outcome : WebhookOutcome}
    (leads : Leads storeRely now (Statements.handleWebhook session gateway
      providerCode headers body) .start outcome after) :
    ∃ moves, MovesAsAsked (askedByWebhook gateway providerCode headers body)
        moves ∧
      OrdersStepped moves none now (after.own now) after.held := by
  have idle : ∃ moves, MovesAsAsked
        (askedByWebhook gateway providerCode headers body) moves ∧
      OrdersStepped moves none now now after.held :=
    ⟨fun _ => [], .inl fun _ => rfl, ordersStepped_of_frame (.refl now)⟩
  obtain ⟨provider, _, looking, rest⟩ := leads_bind.mp leads
  obtain ⟨looked, rfl⟩ := leads_raising looking
  obtain ⟨parsed, _, parsing, rest⟩ := leads_bind.mp rest
  obtain ⟨isParsed, rfl⟩ := leads_raising parsing
  have asked : askedByWebhook gateway providerCode headers body =
      parsed.newStatus.bind PaymentStatus.asks := by
    rw [askedByWebhook, looked]
    dsimp only
    rw [isParsed]
  unfold Statements.applyWebhook at rest
  split at rest
  · obtain ⟨found, matched, matching, rest⟩ := leads_bind.mp rest
    obtain ⟨own_eq, visible⟩ := leads_matchOrder leavesOrders_start matching
    cases found with
    | none =>
        obtain ⟨_, rfl⟩ := leads_pure.mp rest
        rw [own_eq]
        exact idle
    | some order =>
        have member := visible order rfl
        obtain ⟨_, recorded, recording, rest⟩ := leads_bind.mp rest
        obtain ⟨_, moved, moving, rest⟩ := leads_bind.mp rest
        obtain ⟨_, updated, updating, finished⟩ := leads_bind.mp rest
        obtain ⟨_, rfl⟩ := leads_pure.mp finished
        have recordedEq := leads_createOrderEvent recording
        have noWrites : matched.own = id := own_eq
        have leaves : LeavesOrders recorded.own := by
          constructor <;> intro db <;>
            rw [recordedEq, Progress.own_write, noWrites, id]
        obtain ⟨moves, asAsked, stepped⟩ :=
          ordersStepped_moveOrder leaves moving
        obtain ⟨event, ofOrder, code_eq, events_eq⟩ : ∃ event : OrderEvent,
            event.order = order.id ∧
              event.code = s!"webhook:{gateway.text parsed.eventType}" ∧
              (recorded.own now).orderEvents.rows =
                now.orderEvents.rows ++ [event] := by
          rw [recordedEq, Progress.own_write, noWrites]
          exact ⟨createdEvent session order.id _ _ none _ _, rfl, rfl, rfl⟩
        have sameSales : (recorded.own now).soldUnder = now.soldUnder := by
          rw [recordedEq, Progress.own_write, noWrites]
          rfl
        have noted : OrdersStepped moves none now (moved.own now)
            moved.held :=
          stepped.afterNote (leaves.orders_eq now) (leaves.items_eq now)
            sameSales events_eq (code_eq ▸ isStatusCode_webhook _)
            (ofOrder ▸ List.mem_map_of_mem member)
        exact ⟨moves, asked ▸ asAsked, noted.frame
          (frame_of_sparesGoods updating (sparesGoods_updatePayments _ _ _) now)
          updating.held_subset⟩
  · obtain ⟨_, rfl⟩ := leads_pure.mp rest
    exact idle

end Steps

end NovaCommerce
