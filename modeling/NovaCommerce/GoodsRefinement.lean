import NovaCommerce.CancellationLaw
import NovaCommerce.StockCommitment
import NovaCommerce.PromisedGoods

/-!
# The store keeps a book of promised goods

Seen through its stock rows and its orders, the store is a book of promised
goods: a checkout promises goods to its order, the way to `paid` sells them, and
the cancellation of a pending order withdraws them.  So nothing is promised that
is not on hand, and every pending order can be paid for, all of them together
and in any order.
-/

namespace NovaCommerce

open AtomicCall GuardedRun PromisedGoods

def OrderStatus.stage : OrderStatus → Stage
  | pending => .promised
  | paid | packed | shipped | delivered | refunded => .sold
  | cancelled => .withdrawn

def Database.stageOf (db : Database) (order : Uuid) : Stage :=
  ((db.orders.find? order).map fun order =>
    order.status.stage).getD .withdrawn

/-- The book that the tables keep. -/
def Database.book (db : Database) : Book Uuid Uuid where
  stock := db.onHandOf
  orders := db.orders.keys.toFinset
  stage := db.stageOf
  units := db.unitsOfOrder

section Views

variable {db after : Database} {order changed : Order}

theorem stageOf_of_mem (member : order ∈ db.orders.rows) :
    db.stageOf order.id = order.status.stage := by
  have found : db.orders.find? order.id = some order :=
    Table.find?_eq_some.mpr ⟨member, rfl⟩
  rw [Database.stageOf, found]
  rfl

theorem among_book (db : Database) (stage : Stage) (variant : Uuid) :
    db.book.among stage variant =
      db.unitsIn (fun status => status.stage = stage) variant := by
  rw [Book.among_eq_sum, Database.unitsIn, Table.total]
  have nodup : db.orders.keys.Nodup := db.orders.keys_nodup
  change (∑ id ∈ db.orders.keys.toFinset, _) = _
  rw [List.sum_toFinset _ nodup, Table.keys, List.map_map]
  apply congrArg List.sum
  apply List.map_congr_left
  intro order member
  change (if db.stageOf order.id = stage then
    db.unitsOfOrder order.id variant else 0) = _
  rw [stageOf_of_mem member]
  simp only [decide_eq_true_eq]

theorem promised_book (db : Database) (variant : Uuid) :
    db.book.among .promised variant =
      db.unitsIn OrderStatus.isPending variant := by
  have same : (fun status : OrderStatus =>
      decide (status.stage = Stage.promised)) = OrderStatus.isPending := by
    funext status
    cases status <;> rfl
  rw [among_book, same]

/-- Saving an order writes its stage. -/
theorem stageOf_save (member : order ∈ db.orders.rows)
    (sameId : changed.id = order.id)
    (ordersEq : after.orders = db.orders.save changed) :
    after.stageOf =
      Function.update db.stageOf order.id changed.status.stage := by
  funext id
  by_cases isOrder : id = order.id
  · subst isOrder
    have known : Keyed.key changed ∈ db.orders.keys := by
      change changed.id ∈ _
      rw [sameId]
      exact List.mem_map_of_mem member
    have saved : changed ∈ after.orders.rows := by
      rw [ordersEq, Table.mem_save]
      exact Or.inr ⟨rfl, known⟩
    rw [Function.update_self, ← sameId, stageOf_of_mem saved]
  · have otherKey : Keyed.key changed ≠ id :=
      fun same => isOrder (same.symm.trans sameId)
    rw [Function.update_of_ne isOrder, Database.stageOf, ordersEq,
      Table.find?_save_of_ne otherKey, Database.stageOf]

theorem SameGoods.book_eq (same : SameGoods db after) :
    after.book = db.book := by
  have sameUnits : after.book.units = db.book.units := by
    funext id variant
    exact unitsOfOrder_congr same.orderItems_eq id
  have sameStage : after.stageOf = db.stageOf := by
    rcases same.orders_eq with
      sameOrders | ⟨order, member, changed, sameId, sameStatus, saved⟩
    · funext id
      rw [Database.stageOf, sameOrders, Database.stageOf]
    · rw [stageOf_save member sameId saved, sameStatus,
        ← stageOf_of_mem member, Function.update_eq_self]
  exact Book.ext (funext same.onHandOf_eq)
    (congrArg List.toFinset same.orderKeys_eq) sameStage sameUnits

end Views

/-- Reserved units belong to pending orders, or to nobody known, and are on
hand. -/
structure Stocked (unclaimed : Uuid → Int) (db : Database) : Prop where
  accounted : Accounted unclaimed db
  covered : db.NoOversell

section Stock

variable {unclaimed : Uuid → Int} {db after : Database}
  {amount wanted : Uuid → Int} {selected : Stock → Bool}

theorem Draws.noOversell_reserve (covered : db.NoOversell)
    (draws : Draws .reserve selected db.stocks after.stocks amount wanted) :
    after.NoOversell := by
  intro row rowMem
  obtain ⟨stock, stockMem, taken, rfl, bounds⟩ := draws.exists_row rowMem
  have := covered stock stockMem
  simp only [Drawing.reserve, Stock.reserve, Stock.available] at bounds ⊢
  omega

theorem Draws.noOversell_release (covered : db.NoOversell)
    (draws : Draws .release selected db.stocks after.stocks amount wanted) :
    after.NoOversell := by
  intro row rowMem
  obtain ⟨stock, stockMem, taken, rfl, bounds⟩ := draws.exists_row rowMem
  have := covered stock stockMem
  simp only [Drawing.release, Stock.release] at bounds ⊢
  omega

theorem Draws.noOversell_sell (covered : db.NoOversell)
    (draws : Draws .sell selected db.stocks after.stocks amount wanted) :
    after.NoOversell := by
  intro row rowMem
  obtain ⟨stock, stockMem, taken, rfl, bounds⟩ := draws.exists_row rowMem
  have := covered stock stockMem
  simp only [Drawing.sell, Stock.sell, Stock.sellable] at bounds ⊢
  omega

theorem noOversell_transitioned {session : Session} {order : Order}
    {newStatus : OrderStatus} (sound : SoundRows db.stocks)
    (covered : db.NoOversell)
    (transitioned : Transitioned session order newStatus db after) :
    after.NoOversell := by
  cases newStatus with
  | paid =>
      obtain ⟨amount, draws⟩ := transitioned.draws_paid sound
      exact draws.noOversell_sell covered
  | cancelled =>
      obtain ⟨amount, wanted, draws⟩ := transitioned.draws_released
      exact draws.noOversell_release covered
  | pending | packed | shipped | delivered | refunded =>
      have same := transitioned.stocks_eq (by simp) (by simp)
      exact fun stock member => covered stock (same ▸ member)

theorem noOversell_checkedOut {session : Session} {cart : Cart}
    {user : Option Uuid} {payload : CheckoutInput} {middle : Database}
    {order : Order} {coupon : Option Coupon} {discount : Cents}
    {sold : List OrderItem} {row : Cart} (covered : db.NoOversell)
    (checkedOut : CheckedOut session cart user payload db after order coupon
      discount middle sold amount row) : after.NoOversell := by
  have draws := checkedOut.itemsSold.draws
  have stocksEq : after.stocks = middle.stocks := by rw [checkedOut.after_eq]
  rw [← stocksEq] at draws
  exact draws.noOversell_reserve covered

theorem reservedOf_le_onHandOf (covered : db.NoOversell) (variant : Uuid) :
    db.reservedOf variant ≤ db.onHandOf variant := by
  apply List.sum_le_sum
  intro stock member
  have := covered stock member
  split
  · exact this.2
  · exact le_refl 0

/-- What the book promises is on hand. -/
theorem Stocked.honest (stocked : Stocked unclaimed db) : db.book.Honest where
  units_nonneg order _ _ := unitsOfOrder_nonneg order
  covered variant := by
    have reserved := stocked.accounted.reserved_eq variant
    have unclaimedNonneg := stocked.accounted.unclaimed_nonneg variant
    have onHand := reservedOf_le_onHandOf stocked.covered variant
    rw [promised_book]
    change _ ≤ db.onHandOf variant
    omega

/-- An adjustment that leaves the reserved units on hand. -/
theorem noOversell_adjusted {session : Session} {variantId warehouse : Uuid}
    {delta : Int} {stocks : Table Stock} {stock : Stock}
    (covered : db.NoOversell)
    (row : AdjustedRow session db variantId warehouse stocks stock)
    (within :
      ((db.findStock variantId warehouse).getD
          (newStock session variantId warehouse 0)).reserved ≤
        ((db.findStock variantId warehouse).getD
          (newStock session variantId warehouse 0)).onHand + delta)
    (stocksEq : after.stocks = stocks.save
      { stock with onHand := max (stock.onHand + delta) 0 }) :
    after.NoOversell := by
  have others : ∀ other ∈ stocks.rows,
      0 ≤ other.reserved ∧ other.reserved ≤ other.onHand := by
    cases row with
    | existing => exact covered
    | created =>
        intro other otherMem
        rcases List.mem_append.mp otherMem with old | new
        · exact covered other old
        · rw [List.mem_singleton.mp new]
          exact ⟨le_refl _, le_refl _⟩
  have enough : stock.reserved ≤ stock.onHand + delta := by
    cases row with
    | existing found =>
        rw [found, Option.getD_some] at within
        exact within
    | created absent =>
        rw [absent, Option.getD_none] at within
        exact within
  intro other otherMem
  rw [stocksEq] at otherMem
  rcases Table.mem_save.mp otherMem with ⟨member, _⟩ | ⟨rfl, _⟩
  · exact others other member
  · exact ⟨(others stock row.mem).1, enough.trans (le_max_left _ _)⟩

theorem Stocked.of_same (stocked : Stocked unclaimed db)
    (same : SameGoods db after) : Stocked unclaimed after where
  accounted := stocked.accounted.of_same same
  covered stock member :=
    stocked.covered stock (same.stocks_eq ▸ member)

theorem Stocked.noOversell_step {command : StoreCommand}
    (stocked : Stocked unclaimed db) (within : command.AdjustsWithin db) :
    (command.step db).NoOversell := by
  have effect := goodsStepped db command
  generalize command.step db = after at effect
  cases effect with
  | same same => exact (stocked.of_same same).covered
  | checkedOut checkedOut =>
      exact noOversell_checkedOut stocked.covered checkedOut
  | webhook before transitioned _ later =>
      have recorded := stocked.of_same before
      have moved := noOversell_transitioned recorded.accounted.sound
        recorded.covered transitioned
      exact fun stock member => moved stock (later.stocks_eq ▸ member)
  | transitioned transitioned =>
      exact noOversell_transitioned stocked.accounted.sound stocked.covered
        transitioned
  | adjusted returned located row after_eq =>
      exact noOversell_adjusted stocked.covered row
        (within returned _ located) (congrArg Database.stocks after_eq)

/-- The units on hand stay enough, and reserved ones stay those of pending
orders. -/
theorem stocked_step {command : StoreCommand}
    (stocked : Stocked unclaimed db) (within : command.AdjustsWithin db)
    (spares : command.SparesPaid db) : Stocked unclaimed (command.step db) :=
  ⟨accounted_step stocked.accounted spares.sparesReserved,
    stocked.noOversell_step within⟩

end Stock

/-- The moves that a call can make. -/
def StoreCommand.Asks : StoreCommand → Move Uuid Uuid → Prop
  | createOrderFromCart .., .promise _ _ => True
  | transitionStatus _ orderId .paid _ _, .sell order
  | transitionStatus _ orderId .cancelled _ _, .withdraw order =>
      order = orderId
  | handleWebhook .., .sell _ | handleWebhook .., .withdraw _ => True
  | adjustStock _ variantId _ delta _, .supply amounts =>
      amounts = Pi.single variantId delta
  | _, _ => False

section Moves

variable {unclaimed : Uuid → Int} {db after : Database}

theorem book_checkedOut {session : Session} {cart : Cart}
    {user : Option Uuid} {payload : CheckoutInput} {middle : Database}
    {order : Order} {coupon : Option Coupon} {discount : Cents}
    {sold : List OrderItem} {amount : Uuid → Int} {row : Cart}
    (checkedOut : CheckedOut session cart user payload db after order coupon
      discount middle sold amount row) :
    after.book = db.book.step
      (.promise order.id (after.unitsOfOrder order.id)) := by
  have conversion := exactConversion_of_checkedOut checkedOut
  have isNew := checkedOut.isNew
  have draws := checkedOut.itemsSold.draws
  have stocksEq : after.stocks = middle.stocks := by rw [checkedOut.after_eq]
  rw [← stocksEq] at draws
  apply Book.ext
  · exact funext draws.onHandOf_reserve
  · change after.orders.keys.toFinset = insert order.id db.orders.keys.toFinset
    rw [Table.keys, conversion.orders_eq, List.map_append]
    ext id
    simp [Table.keys]
    rfl
  · funext id
    change after.stageOf id = Function.update db.stageOf order.id .promised id
    by_cases isOrder : id = order.id
    · subst isOrder
      have member : order ∈ after.orders.rows := by
        rw [conversion.orders_eq]
        exact List.mem_append_right _ (List.mem_singleton_self _)
      rw [stageOf_of_mem member, checkedOut.isPending, Function.update_self]
      rfl
    · have sameRow : after.orders.find? id = db.orders.find? id := by
        have notId : ¬Keyed.key order = id := fun same => isOrder same.symm
        rw [Table.find?, conversion.orders_eq, List.find?_append, Table.find?]
        simp [notId]
      rw [Function.update_of_ne isOrder, Database.stageOf, sameRow,
        Database.stageOf]
  · funext id
    change after.unitsOfOrder id =
      Function.update db.unitsOfOrder order.id (after.unitsOfOrder order.id) id
    by_cases isOrder : id = order.id
    · rw [isOrder, Function.update_self]
    · rw [Function.update_of_ne isOrder]
      funext variant
      exact unitsOfOrder_append conversion.orderItems_eq conversion.soldAs
        isOrder

section Transition

variable {session : Session} {order : Order} {newStatus : OrderStatus}

/-- A transition writes the stage of its order, and the units on hand. -/
theorem book_transitioned
    (transitioned : Transitioned session order newStatus db after) :
    after.book = { db.book.enter order.id newStatus.stage with
      stock := after.onHandOf } := by
  have sameId : (order.enterStatus newStatus session.now).id = order.id :=
    congrArg TimeStampedUUIDModel.id (base_enterStatus order _ _)
  have ordersEq : after.orders =
      db.orders.save (order.enterStatus newStatus session.now) := by
    rw [transitioned.frame]
  have sameItems : after.orderItems = db.orderItems := by
    rw [transitioned.frame]
  have stages := stageOf_save transitioned.member sameId ordersEq
  rw [status_enterStatus] at stages
  apply Book.ext
  · rfl
  · change after.orders.keys.toFinset = db.orders.keys.toFinset
    rw [ordersEq, Table.keys_save]
  · exact stages
  · funext id variant
    exact unitsOfOrder_congr sameItems id

theorem isPromised_book (member : order ∈ db.orders.rows)
    (isPending : order.status = .pending) : db.book.IsPromised order.id := by
  refine ⟨List.mem_toFinset.mpr (List.mem_map_of_mem member), ?_⟩
  change db.stageOf order.id = .promised
  rw [stageOf_of_mem member, isPending]
  rfl

/-- Paying sells the promised goods. -/
theorem book_paid (sound : SoundRows db.stocks)
    (transitioned : Transitioned session order .paid db after) :
    after.book = db.book.step (.sell order.id) := by
  obtain ⟨amount, draws⟩ := transitioned.draws_paid sound
  have stock : after.onHandOf = db.onHandOf - db.unitsOfOrder order.id :=
    funext draws.onHandOf_sell
  rw [book_transitioned transitioned, stock]
  rfl

/-- Cancelling withdraws the promise. -/
theorem book_cancelled
    (transitioned : Transitioned session order .cancelled db after) :
    after.book = db.book.step (.withdraw order.id) := by
  obtain ⟨amount, wanted, draws⟩ := transitioned.draws_released
  have stock : after.onHandOf = db.onHandOf := funext draws.onHandOf_release
  rw [book_transitioned transitioned, stock]
  rfl

/-- The other ways of an order are not in the book. -/
theorem book_fulfilled (notPaid : newStatus ≠ .paid)
    (notCancelled : newStatus ≠ .cancelled)
    (transitioned : Transitioned session order newStatus db after) :
    after.book = db.book := by
  have allowed := transitioned.allowed
  have sameStage : newStatus.stage = db.stageOf order.id := by
    rw [stageOf_of_mem transitioned.member]
    cases newStatus <;> cases status : order.status <;>
      simp [Order.canTransitionTo, OrderStatus.allowedTransitions, status,
        OrderStatus.stage] at allowed notPaid notCancelled ⊢
  have stock : after.onHandOf = db.onHandOf := by
    funext variant
    rw [Database.onHandOf, transitioned.stocks_eq notPaid notCancelled]
    rfl
  rw [book_transitioned transitioned, stock, sameStage]
  apply Book.ext
  · rfl
  · rfl
  · exact Function.update_eq_self _ _
  · rfl

theorem book_transitioned_cases (sound : SoundRows db.stocks)
    (transitioned : Transitioned session order newStatus db after)
    (wasPending : newStatus = .cancelled → order.status = .pending) :
    after.book = db.book ∨ db.book.IsPromised order.id ∧
      (newStatus = .paid ∧ after.book = db.book.step (.sell order.id) ∨
        newStatus = .cancelled ∧
          after.book = db.book.step (.withdraw order.id)) := by
  by_cases isPaid : newStatus = .paid
  · subst isPaid
    have allowed := transitioned.allowed
    have isPending : order.status = .pending := by
      cases status : order.status <;>
        simp [Order.canTransitionTo, OrderStatus.allowedTransitions, status]
          at allowed ⊢
    exact Or.inr ⟨isPromised_book transitioned.member isPending,
      Or.inl ⟨rfl, book_paid sound transitioned⟩⟩
  · by_cases isCancelled : newStatus = .cancelled
    · subst isCancelled
      exact Or.inr ⟨isPromised_book transitioned.member (wasPending rfl),
        Or.inr ⟨rfl, book_cancelled transitioned⟩⟩
    · exact Or.inl (book_fulfilled isPaid isCancelled transitioned)

end Transition

theorem book_adjusted {session : Session} {variantId warehouse : Uuid}
    {delta : Int} {stocks : Table Stock} {stock : Stock}
    (sound : SoundRows db.stocks)
    (row : AdjustedRow session db variantId warehouse stocks stock)
    (within :
      ((db.findStock variantId warehouse).getD
          (newStock session variantId warehouse 0)).reserved ≤
        ((db.findStock variantId warehouse).getD
          (newStock session variantId warehouse 0)).onHand + delta)
    (after_eq : after = { db with
      stocks := stocks.save
        { stock with onHand := max (stock.onHand + delta) 0 }
      movements := after.movements }) :
    after.book = db.book.step (.supply (Pi.single variantId delta)) := by
  have stocksEq := congrArg Database.stocks after_eq
  have sameOrders : after.orders = db.orders := by rw [after_eq]
  have sameItems : after.orderItems = db.orderItems := by rw [after_eq]
  apply Book.ext
  · funext variant
    have onHand := onHandOf_adjusted sound row within stocksEq variant
    change after.onHandOf variant =
      db.onHandOf variant + (Pi.single variantId delta : Uuid → ℤ) variant
    rw [onHand, Pi.single_apply]
    simp only [eq_comm]
  · change after.orders.keys.toFinset = _
    rw [sameOrders]
    rfl
  · funext id
    change after.stageOf id = db.stageOf id
    rw [Database.stageOf, sameOrders, Database.stageOf]
  · funext id variant
    exact unitsOfOrder_congr sameItems id

/-- A call makes a move that the book can make, or leaves the book as it
was. -/
theorem Stocked.book_step {command : StoreCommand}
    (stocked : Stocked unclaimed db) (within : command.AdjustsWithin db)
    (spares : command.SparesPaid db) :
    (command.step db).book = db.book ∨
      ∃ move, command.Asks move ∧ db.book.Enabled move ∧
        (command.step db).book = db.book.step move := by
  have honest := (stocked_step stocked within spares).honest
  have effect := goodsStepped db command
  generalize command.step db = after at effect honest ⊢
  cases effect with
  | same same => exact Or.inl same.book_eq
  | @checkedOut _ _ _ _ _ _ order _ _ _ _ _ checkedOut =>
      have promised := book_checkedOut checkedOut
      have isNew : order.id ∉ db.book.orders :=
        fun member => checkedOut.isNew (List.mem_toFinset.mp member)
      refine Or.inr ⟨.promise order.id (after.unitsOfOrder order.id), trivial,
        ⟨isNew, fun variant => ⟨unitsOfOrder_nonneg order.id, ?_⟩⟩, promised⟩
      have covered := honest.covered variant
      rw [promised, Book.among_promise isNew, if_pos rfl] at covered
      exact covered
  | @webhook _ _ _ _ _ order newStatus recorded moved after before transitioned
      wasPending later =>
      have recordedStocked := stocked.of_same before
      rw [later.book_eq, ← before.book_eq]
      rcases book_transitioned_cases recordedStocked.accounted.sound
          transitioned wasPending with
        same | ⟨able, ⟨-, sold⟩ | ⟨-, withdrawn⟩⟩
      · exact Or.inl same
      · exact Or.inr ⟨.sell order.id, trivial, able, sold⟩
      · exact Or.inr ⟨.withdraw order.id, trivial, able, withdrawn⟩
  | @transitioned session order newStatus actor message after transitioned =>
      have wasPending : newStatus = .cancelled → order.status = .pending := by
        rintro rfl
        exact transitioned.pending_of_cancelled spares
      rcases book_transitioned_cases stocked.accounted.sound transitioned
          wasPending with
        same | ⟨able, ⟨rfl, sold⟩ | ⟨rfl, withdrawn⟩⟩
      · exact Or.inl same
      · exact Or.inr ⟨.sell order.id, rfl, able, sold⟩
      · exact Or.inr ⟨.withdraw order.id, rfl, able, withdrawn⟩
  | @adjusted _ variantId _ _ delta _ _ _ _ returned located row after_eq =>
      have supplied := book_adjusted stocked.accounted.sound row
        (within returned _ located) after_eq
      refine Or.inr ⟨.supply (Pi.single variantId delta), rfl,
        fun variant => ?_, supplied⟩
      have covered := honest.covered variant
      rw [supplied] at covered
      exact covered

end Moves

section Runs

variable {db : Database} {commands : List StoreCommand}

theorem stocked_of_noOrders (noOrders : db.NoOrders)
    (sound : SoundRows db.stocks) (covered : db.NoOversell) :
    Stocked db.reservedOf db :=
  ⟨accounted_of_noOrders noOrders sound, covered⟩

/-- The adjustments leave what is reserved on hand, and no order that was paid
for is cancelled. -/
def StoreCommand.IsCareful (db : Database) (command : StoreCommand) : Prop :=
  command.AdjustsWithin db ∧ command.SparesPaid db

instance (db : Database) (command : StoreCommand) :
    Decidable (command.IsCareful db) :=
  inferInstanceAs (Decidable (_ ∧ _))

theorem stocked_exec {unclaimed : Uuid → Int} (stocked : Stocked unclaimed db)
    (careful : Guarded StoreCommand.step StoreCommand.IsCareful db commands) :
    Stocked unclaimed (exec StoreCommand.step db commands) :=
  exec_invariant (fun _ _ stocked meets =>
    stocked_step stocked meets.1 meets.2) stocked careful

/-- In careful runs the store keeps a book of promised goods: whatever the calls
do is a run of moves that they ask for and that the book can make, so what is
promised to pending orders is on hand. -/
theorem store_keeps_book (noOrders : db.NoOrders) (sound : SoundRows db.stocks)
    (covered : db.NoOversell)
    (careful : Guarded StoreCommand.step StoreCommand.IsCareful db commands) :
    let reached := (exec StoreCommand.step db commands).book
    (∃ moves, Follows StoreCommand.Asks commands moves ∧
      Guarded Book.step Book.Enabled db.book moves ∧
      reached = exec Book.step db.book moves) ∧
    reached.Honest := by
  have stocked := stocked_of_noOrders noOrders sound covered
  have preserved : ∀ state command, Stocked db.reservedOf state →
      StoreCommand.IsCareful state command →
      Stocked db.reservedOf (StoreCommand.step state command) :=
    fun _ _ stocked meets => stocked_step stocked meets.1 meets.2
  have simulated : ∀ state command, Stocked db.reservedOf state →
      StoreCommand.IsCareful state command →
      (command.step state).book = state.book ∨
        ∃ move, command.Asks move ∧ state.book.Enabled move ∧
          (command.step state).book = state.book.step move :=
    fun _ _ stocked meets => stocked.book_step meets.1 meets.2
  obtain ⟨moves, follows, able, seen⟩ :=
    exec_simulation Database.book preserved simulated stocked careful
  refine ⟨⟨moves, follows, able, seen⟩, ?_⟩
  rw [seen]
  exact exec_invariant (fun _ _ honest enabled => honest.step enabled)
    stocked.honest able

end Runs

/-- Two units are delivered, one of two orders is paid for, and the other one is
cancelled. -/
theorem store_keeps_book_twoCarts :
    ∃ moves : List (Move Uuid Uuid),
      Follows StoreCommand.Asks
        [checkoutOf 10 "N1", checkoutOf 11 "N2", restockOf 2,
          transitionOf 1 .paid, transitionOf 2 .cancelled] moves ∧
      Guarded Book.step Book.Enabled (twoCarts 5).book moves ∧
      (exec StoreCommand.step (twoCarts 5)
        [checkoutOf 10 "N1", checkoutOf 11 "N2", restockOf 2,
          transitionOf 1 .paid, transitionOf 2 .cancelled]).book =
        exec Book.step (twoCarts 5).book moves :=
  (store_keeps_book ⟨rfl, rfl⟩ (soundRows_of_unreserved (by decide))
    (by decide) (by decide)).1

section Settlements

variable {unclaimed : Uuid → Int} {db : Database}

/-- All that is reserved can be sold. -/
theorem Stocked.sellableOf_eq (stocked : Stocked unclaimed db)
    (variant : Uuid) : db.sellableOf variant = db.reservedOf variant := by
  apply Table.total_congr
  intro stock member
  have covered := stocked.covered stock member
  have hidden := (stocked.accounted.sound stock member).hidden
  cases visible : alive stock with
  | true =>
      simp only [true_and, Stock.sellable]
      split
      · split <;> omega
      · rfl
  | false => simp [hidden visible]

/-- Pay for an order, or cancel it, with a message that its column holds. -/
structure Settlement where
  session : Session
  order : Uuid
  pays : Bool
  actor : Option Uuid
  message : String
  fits : fitsColumn 500 message = true

namespace Settlement

def newStatus (settlement : Settlement) : OrderStatus :=
  if settlement.pays then .paid else .cancelled

def command (settlement : Settlement) : StoreCommand :=
  .transitionStatus settlement.session settlement.order settlement.newStatus
    settlement.actor settlement.message

def step (db : Database) (settlement : Settlement) : Database :=
  settlement.command.step db

def Succeeds (db : Database) (settlement : Settlement) : Prop :=
  Returns (transitionStatus settlement.session settlement.order
    settlement.newStatus settlement.actor settlement.message) db

def move (settlement : Settlement) : Move Uuid Uuid :=
  if settlement.pays then .sell settlement.order
  else .withdraw settlement.order

end Settlement

/-- The order can be seen and waits to be paid for. -/
def Database.IsOpen (db : Database) (id : Uuid) : Prop :=
  ∃ order ∈ objects db.orders, order.id = id ∧ order.status = .pending

/-- A pending order can be paid for and cancelled. -/
theorem Stocked.settles (stocked : Stocked unclaimed db)
    {settlement : Settlement} (isOpen : db.IsOpen settlement.order) :
    settlement.Succeeds db ∧ Stocked unclaimed (settlement.step db) ∧
      (settlement.step db).book = db.book.step settlement.move ∧
      ∀ other ≠ settlement.order, db.IsOpen other →
        (settlement.step db).IsOpen other := by
  obtain ⟨session, _, pays, actor, message, fits⟩ := settlement
  obtain ⟨order, visible, rfl, isPending⟩ := isOpen
  obtain ⟨member, isAlive⟩ := List.mem_filter.mp visible
  let settlement : Settlement :=
    ⟨session, order.id, pays, actor, message, fits⟩
  have allowed : order.canTransitionTo settlement.newStatus = true := by
    rw [Order.canTransitionTo, isPending]
    cases pays <;> rfl
  have settles : Returns
      (settleStock session order settlement.newStatus) db := by
    cases pays with
    | false =>
        have notPaid : settlement.newStatus ≠ .paid := by
          simp [settlement, Settlement.newStatus]
        exact settleStock_returns session order notPaid db
    | true =>
        refine (settleStock_paid_iff stocked.accounted.sound order).mpr ?_
        rw [isCommittable_iff stocked.accounted.sound]
        intro variant
        rw [stocked.sellableOf_eq]
        exact stocked.accounted.covers member isPending variant
  have succeeds : settlement.Succeeds db :=
    transitionStatus_returns actor fits member isAlive allowed settles
  obtain ⟨changed, after, called⟩ := succeeds
  have stepped : settlement.step db = after := settle_of_eq_ok called
  have transitioned := transitioned_of_member member called
  have stockedAfter : Stocked unclaimed (settlement.step db) := by
    refine stocked_step stocked trivial ?_
    cases pays with
    | true => trivial
    | false =>
        rintro row rowVisible sameId
        obtain rfl : row = order := db.orders.eq_of_key_eq
          (List.mem_filter.mp rowVisible).1 member sameId
        simp [isPending]
  refine ⟨⟨changed, after, called⟩, stockedAfter, ?_, ?_⟩
  · change (settlement.step db).book = db.book.step settlement.move
    rw [stepped]
    cases pays with
    | true => exact book_paid stocked.accounted.sound transitioned
    | false => exact book_cancelled transitioned
  · rintro other isOther ⟨row, rowVisible, rfl, rowPending⟩
    obtain ⟨rowMem, rowAlive⟩ := List.mem_filter.mp rowVisible
    have sameId : (order.enterStatus settlement.newStatus session.now).id =
        order.id := congrArg TimeStampedUUIDModel.id (base_enterStatus _ _ _)
    refine ⟨row, List.mem_filter.mpr ⟨?_, rowAlive⟩, rfl, rowPending⟩
    change row ∈ (settlement.step db).orders.rows
    rw [stepped, transitioned.frame]
    exact Table.mem_save_of_ne rowMem fun same => isOther (same.trans sameId)

theorem Stocked.settle_all (stocked : Stocked unclaimed db)
    {settlements : List Settlement}
    (distinct : (settlements.map Settlement.order).Nodup)
    (areOpen : ∀ settlement ∈ settlements, db.IsOpen settlement.order) :
    Guarded Settlement.step Settlement.Succeeds db settlements ∧
      (exec Settlement.step db settlements).book =
        exec Book.step db.book (settlements.map Settlement.move) := by
  induction settlements generalizing db with
  | nil => exact ⟨trivial, rfl⟩
  | cons settlement settlements ih =>
      rw [List.map_cons, List.nodup_cons] at distinct
      rw [List.forall_mem_cons] at areOpen
      obtain ⟨succeeds, stockedAfter, moved, stayOpen⟩ :=
        stocked.settles areOpen.1
      have othersOpen : ∀ other ∈ settlements,
          (settlement.step db).IsOpen other.order := by
        intro other otherMem
        refine stayOpen other.order ?_ (areOpen.2 other otherMem)
        intro same
        exact distinct.1 (same ▸ List.mem_map_of_mem otherMem)
      obtain ⟨others, seen⟩ := ih stockedAfter distinct.2 othersOpen
      refine ⟨⟨succeeds, others⟩, ?_⟩
      rw [exec_cons, seen, moved]
      rfl

end Settlements

/-- In every state that a careful run reaches, all pending orders can be
settled, whichever are paid for and whichever are cancelled, and in any order:
every call returns, and does to the goods what the book does. -/
theorem pending_orders_settle {db : Database} {commands : List StoreCommand}
    (noOrders : db.NoOrders) (sound : SoundRows db.stocks)
    (covered : db.NoOversell)
    (careful : Guarded StoreCommand.step StoreCommand.IsCareful db commands)
    {settlements : List Settlement}
    (distinct : (settlements.map Settlement.order).Nodup)
    (areOpen : ∀ settlement ∈ settlements,
      (exec StoreCommand.step db commands).IsOpen settlement.order) :
    let reached := exec StoreCommand.step db commands
    Guarded Settlement.step Settlement.Succeeds reached settlements ∧
      (exec Settlement.step reached settlements).book =
        exec Book.step reached.book (settlements.map Settlement.move) :=
  (stocked_exec (stocked_of_noOrders noOrders sound covered)
    careful).settle_all distinct areOpen

/-- The second of two orders is paid for, and then the first one cancelled. -/
theorem pending_orders_settle_twoCarts :
    let settlements : List Settlement :=
      [⟨{ now := 3 }, 2, true, none, "", by decide⟩,
        ⟨{ now := 4 }, 1, false, none, "", by decide⟩]
    Guarded Settlement.step Settlement.Succeeds
      (exec StoreCommand.step (twoCarts 5)
        [checkoutOf 10 "N1", checkoutOf 11 "N2"]) settlements := by
  intro settlements
  let reached := exec StoreCommand.step (twoCarts 5)
    [checkoutOf 10 "N1", checkoutOf 11 "N2"]
  have firstOpen : reached.IsOpen 1 := by
    unfold Database.IsOpen
    decide
  have secondOpen : reached.IsOpen 2 := by
    unfold Database.IsOpen
    decide
  have distinct : (settlements.map Settlement.order).Nodup := by decide
  have areOpen : ∀ settlement ∈ settlements,
      reached.IsOpen settlement.order :=
    List.forall_mem_cons.mpr ⟨secondOpen, List.forall_mem_singleton.mpr
      firstOpen⟩
  exact (pending_orders_settle ⟨rfl, rfl⟩ (soundRows_of_unreserved (by decide))
    (by decide) (by decide) distinct areOpen).1

end NovaCommerce
