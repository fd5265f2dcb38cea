import NovaCommerce.CartHistories
import NovaCommerce.CheckoutAlone
import NovaCommerce.OrderTransactions
import NovaCommerce.RoutedTransactions

/-!
# Calls whose reads are routed to a replica

With a read replica configured, every query that is neither locking nor part
of a write asks the router, and the router picks one of the two databases at
random.  Checkouts, transitions and merges have such queries: the lines of a
cart, the items of an order, the variant of a line.  A call leaves the primary
as if it had been asked alone, provided that the replica shows these rows as
the primary does.
-/

namespace NovaCommerce

open AtomicCall GuardedRun LockingTransactions

section PinnedStatements

open Transaction

theorem pinned_lockJoined (key : RowKey) (joined : List RowKey) :
    (Statements.lockJoined key joined).Pinned := by
  induction joined generalizing key with
  | nil => exact fun _ => trivial
  | cons other others ih => exact fun _ => ih other

theorem pinned_lockRows {Row : Type} (key : Uuid → RowKey)
    (joined : Uuid → List RowKey) (current : Database → Uuid → Option Row)
    (ids : List Uuid) :
    (Statements.lockRows key joined current ids).Pinned := by
  induction ids with
  | nil => trivial
  | cons id ids ih =>
      refine pinned_bind (pinned_lockJoined _ _) fun db => ?_
      split
      · exact pinned_bind ih fun _ => trivial
      · exact ih

theorem pinned_selectForUpdate {Row : Type} [IsModel Row]
    (key : Uuid → RowKey) (table : Database → Table Row)
    (condition : Database → Row → Bool) (query : Database → List Row)
    (joined : Database → Uuid → List RowKey) :
    (Statements.selectForUpdate key table condition query joined).Pinned :=
  ⟨rfl, fun _ => pinned_lockRows _ _ _ _⟩

theorem pinned_reserveRows (session : Session) (reference : String)
    (rows : List Stock) (demand onHand reserved : Int) :
    (Statements.reserveRows session reference rows demand onHand
      reserved).Pinned := by
  induction rows generalizing demand onHand reserved with
  | nil => trivial
  | cons stock rows ih =>
      unfold Statements.reserveRows
      split
      · exact ih _ _ _
      · dsimp only
        split
        · exact ih _ _ _
        · exact ih _ _ _

theorem pinned_reserveStock (session : Session) (variantId : Uuid)
    (quantity : Int) (reference : String) :
    (Statements.reserveStock session variantId quantity reference).Pinned := by
  unfold Statements.reserveStock
  split
  · trivial
  · refine pinned_bind (pinned_selectForUpdate _ _ _ _ _) fun rows => ?_
    refine pinned_bind (pinned_reserveRows _ _ _ _ _ _) fun result => ?_
    dsimp only
    split <;> trivial

theorem pinned_checkoutItems (session : Session) (order : Uuid)
    (lines : List CartLine) :
    (Statements.checkoutItems session order lines).Pinned := by
  induction lines with
  | nil => trivial
  | cons line lines ih =>
      refine pinned_bind ?_ fun _ => ih
      refine pinned_bind (pinned_mapError (pinned_reserveStock _ _ _ _))
        fun _ => ?_
      split
      · trivial
      · split <;> trivial

theorem pinned_applyCoupon (session : Session) (code : String)
    (subtotal : Cents) :
    (Statements.applyCoupon session code subtotal).Pinned := by
  unfold Statements.applyCoupon
  split
  · trivial
  · refine pinned_bind ?_ fun _ => ?_
    · refine pinned_bind (pinned_selectForUpdate _ _ _ _ _) fun coupons => ?_
      split <;> trivial
    · split <;> trivial

theorem pinned_createOrder (order : Order) :
    (Statements.createOrder order).Pinned := by
  intro _ db
  change Pinned (if _ then _ else if order.id ∈ db.orders.keys then _
    else if _ then _ else _)
  split
  · trivial
  · split
    · trivial
    · split <;> trivial

theorem pinned_createOrderEvent (session : Session) (order : Uuid)
    (code message : String) (actor : Option Uuid) (payload : Json) :
    (Statements.createOrderEvent session order code message actor
      payload).Pinned := by
  unfold Statements.createOrderEvent
  split <;> trivial

theorem pinned_softDelete (session : Session) (chosen : CartItem → Bool) :
    (Statements.softDelete session chosen).Pinned :=
  pinned_bind (pinned_selectForUpdate _ _ _ _ _) fun _ => trivial

theorem pinned_saveCartCoupon (cart : Uuid) :
    (Statements.saveCartCoupon cart).Pinned := by
  intro db
  change Pinned (if (db.carts.find? cart).isNone then _ else _)
  split <;> trivial

theorem pinned_drawRows (session : Session) {save : Stock → Statements Unit}
    (saves : ∀ stock, (save stock).Pinned) (capacity : Stock → Int)
    (draw : Stock → Int → Stock) (signed : Int → Int)
    (reason : MovementReason) (reference : String) (rows : List Stock)
    (remaining : Int) :
    (Statements.drawRows session save capacity draw signed reason reference
      rows remaining).Pinned := by
  induction rows generalizing remaining with
  | nil => trivial
  | cons stock rows ih =>
      unfold Statements.drawRows
      split
      · trivial
      · dsimp only
        split
        · exact pinned_bind (saves _) fun _ => ih _
        · exact ih _

theorem pinned_forItems {call : Uuid → Int → Statements Unit}
    (pinned : ∀ variant quantity, (call variant quantity).Pinned)
    (items : List OrderItem) : (Statements.forItems call items).Pinned := by
  induction items with
  | nil => trivial
  | cons item items ih =>
      refine pinned_bind ?_ fun _ => ih
      unfold Statements.forItem
      split
      · exact pinned _ _
      · trivial

theorem pinned_releaseReservation (session : Session) (variantId : Uuid)
    (quantity : Int) (reference : String) :
    (Statements.releaseReservation session variantId quantity
      reference).Pinned := by
  have saves : ∀ stock, (Statements.saveReserved stock).Pinned :=
    fun _ => trivial
  exact pinned_bind (pinned_selectForUpdate _ _ _ _ _) fun _ =>
    pinned_bind (pinned_drawRows _ saves _ _ _ _ _ _ _) fun _ => trivial

theorem pinned_commitSale (session : Session) (variantId : Uuid)
    (quantity : Int) (reference : String) :
    (Statements.commitSale session variantId quantity reference).Pinned := by
  refine pinned_bind (pinned_selectForUpdate _ _ _ _ _) fun _ => ?_
  have saves : ∀ stock, (Statements.saveUnits stock).Pinned :=
    fun _ => trivial
  refine pinned_bind (pinned_drawRows _ saves _ _ _ _ _ _ _) fun _ => ?_
  split <;> trivial

theorem pinned_insertLine (line : CartItem) :
    (Statements.insertLine line).Pinned := by
  intro _ db
  change Pinned (if line.id ∈ db.cartItems.keys then _
    else if _ then _ else _)
  split
  · trivial
  · split <;> trivial

theorem pinned_oneOrCreate (found : List Cart) (cart : Cart) :
    (Statements.oneOrCreate found cart).Pinned := by
  unfold Statements.oneOrCreate
  split
  · refine pinned_bind ?_ fun _ => trivial
    intro db
    change Pinned (if cart.id ∈ db.carts.keys then _ else _)
    split <;> trivial
  · trivial
  · trivial

end PinnedStatements

/-- The names of the databases in the settings. -/
inductive DatabaseAlias where
  | default
  | readReplica
deriving DecidableEq

namespace PrimaryReplicaRouter

/-- `choice` is what `random.choice` picks: the first of the two or not. -/
def dbForRead (databases : List DatabaseAlias) (choice : Bool) :
    DatabaseAlias :=
  if .readReplica ∈ databases then
    if choice then .readReplica else .default
  else .default

def dbForWrite : DatabaseAlias :=
  .default

/-- Which of the queries that ask the router the replica answers. -/
def toReplica (databases : List DatabaseAlias) (choices : List Bool) :
    List Bool :=
  choices.map fun choice => dbForRead databases choice = .readReplica

end PrimaryReplicaRouter

/-- A call whose reads are routed. -/
inductive RoutedCall where
  | createOrderFromCart (session : Session) (cart : Cart)
      (user : Option Uuid) (payload : CheckoutInput)
  | transitionStatus (session : Session) (orderId : Uuid)
      (newStatus : OrderStatus) (actor : Option Uuid) (message : String)
  | mergeAnonymousIntoUser (session : Session) (sessionKey : String)
      (user : Uuid)

namespace RoutedCall

/-- The identifier of the cart that guest lines are merged into. -/
def userCartId (db : Database) (user : Uuid) : Uuid :=
  match db.chosenCarts (isCartOfUser user) with
  | cart :: _ => cart.id
  | [] => FreshKey.fresh db.carts.keys

/-- The primary database after a call whose statements are run in one way or
another; new rows draw unused identifiers. -/
def run (run : ∀ {Value : Type}, Statements Value → Service Value)
    (primary : Database) : RoutedCall → Database
  | createOrderFromCart session cart user payload =>
      settle (atomic (run (Statements.createOrderFromCart session
        (FreshKey.fresh primary.orders.keys) cart user payload))) primary
  | transitionStatus session orderId newStatus actor message =>
      settle (atomic (run (Statements.transitionStatus session orderId
        newStatus actor message))) primary
  | mergeAnonymousIntoUser session sessionKey user =>
      settle (atomic (run (Statements.mergeAnonymousIntoUser session
        (FreshKey.fresh primary.carts.keys)
        (fun item => FreshKey.fresh primary.cartItems.keys + item) sessionKey
        user))) primary

/-- The primary database after a call with routed reads. -/
def routed (databases : List DatabaseAlias) (replica : Database)
    (choices : List Bool) (primary : Database) (call : RoutedCall) : Database :=
  call.run (fun statements => statements.routed replica
    (PrimaryReplicaRouter.toReplica databases choices)) primary

/-- The primary database after a call whose reads all go to it. -/
def onPrimary (primary : Database) (call : RoutedCall) : Database :=
  call.run Transaction.alone primary

/-- The replica shows the rows that the call asks the router for as the
primary does: the lines of the cart with their variants and products; the
items of an order that is to be paid or cancelled; the guest lines, their
variants, and the lines of the user's cart for these variants. -/
def ReadsAgree (primary replica : Database) : RoutedCall → Prop
  | createOrderFromCart session cart _ _ =>
      replica.itemsOf cart.id = primary.itemsOf cart.id ∧
        replica.linesOf session cart.id = primary.linesOf session cart.id
  | transitionStatus _ orderId newStatus _ _ =>
      (newStatus = .paid ∨ newStatus = .cancelled) →
        ∀ order ∈ objects primary.orders, order.id = orderId →
          order.canTransitionTo newStatus = true →
            replica.orderItemsOf orderId = primary.orderItemsOf orderId
  | mergeAnonymousIntoUser _ sessionKey user =>
      ∀ anon, primary.chosenCarts (isCartOfSession sessionKey) = [anon] →
        replica.itemsOf anon.id = primary.itemsOf anon.id ∧
          ∀ item ∈ primary.itemsOf anon.id,
            replica.variants.find? item.variant =
                primary.variants.find? item.variant ∧
              replica.chosenItems (Statements.isLineOf
                  (userCartId primary user) item.variant) =
                primary.chosenItems (Statements.isLineOf
                  (userCartId primary user) item.variant)

end RoutedCall

section Agreement

open Transaction

variable {primary replica : Database} {session : Session}

theorem agrees_settleStock {order : Order} {newStatus : OrderStatus}
    (same : newStatus = .paid ∨ newStatus = .cancelled →
      replica.orderItemsOf order.id = primary.orderItemsOf order.id) :
    (Statements.settleStock session order newStatus).Agrees replica
      primary := by
  have found : replica.orderItemsOf order.id = primary.orderItemsOf order.id →
      (Statements.itemsOfOrder session order.id).Agrees replica primary :=
    fun items_eq => agrees_query (by rw [items_eq]) trivial
  cases newStatus with
  | paid =>
      refine agrees_bind (found (same (Or.inl rfl))) fun items after _ => ?_
      exact agrees_of_pinned
        (pinned_forItems (fun _ _ => pinned_commitSale _ _ _ _) items) after
  | cancelled =>
      refine agrees_bind (found (same (Or.inr rfl))) fun items after _ => ?_
      exact agrees_of_pinned
        (pinned_forItems (fun _ _ => pinned_releaseReservation _ _ _ _) items)
        after
  | pending | packed | shipped | delivered | refunded => trivial

theorem agrees_transitionStatus {orderId : Uuid} {newStatus : OrderStatus}
    {actor : Option Uuid} {message : String}
    (agree : (RoutedCall.transitionStatus session orderId newStatus actor
      message).ReadsAgree primary replica) :
    (Statements.transitionStatus session orderId newStatus actor
      message).Agrees replica primary := by
  have pinned : (Statements.lockOrder orderId).Pinned := by
    refine pinned_bind (pinned_selectForUpdate _ _ _ _ _) fun orders => ?_
    split <;> trivial
  refine agrees_bind (agrees_of_pinned pinned primary) ?_
  intro order after locked
  obtain ⟨rfl, member, isAlive, rfl⟩ :=
    lockOrder_eq_ok (alone_lockOrder.mp locked)
  split
  · next allowed =>
    refine agrees_bind (agrees_settleStock fun settles => ?_)
      fun _ settled _ => ?_
    swap
    · refine agrees_of_pinned ?_ settled
      exact pinned_bind trivial fun _ =>
        pinned_bind (pinned_createOrderEvent _ _ _ _ _ _) fun _ => trivial
    exact agree settles order (List.mem_filter.mpr ⟨member, isAlive⟩) rfl
      allowed
  · trivial

theorem agrees_createOrderFromCart {orderId : Uuid} {cart : Cart}
    {user : Option Uuid} {payload : CheckoutInput}
    (agree : (RoutedCall.createOrderFromCart session cart user
      payload).ReadsAgree primary replica) :
    (Statements.createOrderFromCart session orderId cart user
      payload).Agrees replica primary := by
  obtain ⟨items_eq, lines_eq⟩ := agree
  refine agrees_query (by rw [items_eq]) ?_
  split
  · trivial
  refine agrees_query (by rw [items_eq]) ?_
  refine agrees_bind (agrees_of_pinned (pinned_applyCoupon _ _ _) _) ?_
  rintro ⟨coupon, discount⟩ after applied
  rw [alone_applyCoupon] at applied
  obtain ⟨rfl, _⟩ := applyCoupon_eq_ok applied
  refine agrees_bind (agrees_of_pinned (pinned_createOrder _) _) ?_
  intro _ ordered created
  have frame := createOrder_writes created
  refine agrees_query ?_ (agrees_of_pinned ?_ _)
  · have same : replica.linesOf session cart.id =
        ordered.linesOf session cart.id := by
      rw [frame]
      exact lines_eq
    dsimp only
    rw [same]
  · refine pinned_bind (pinned_checkoutItems _ _ _) fun _ => ?_
    refine pinned_bind ?_ fun _ => pinned_bind trivial fun _ => ?_
    · cases coupon <;> trivial
    · exact pinned_bind (pinned_softDelete _ _) fun _ =>
        pinned_bind (pinned_saveCartCoupon _) fun _ => trivial

/-- A line for one variant leaves the lines of the others as they are. -/
theorem chosenItems_mergesInto {userCart other : Uuid} {item : CartItem}
    {variant : ProductVariant} {items : Table CartItem}
    (merges : MergesInto userCart item variant primary.cartItems items)
    (unlike : item.variant ≠ other) :
    Database.chosenItems { primary with cartItems := items }
        (Statements.isLineOf userCart other) =
      primary.chosenItems (Statements.isLineOf userCart other) := by
  have elsewhere : ∀ line : CartItem,
      Statements.isLineOf userCart item.variant line = true →
        Statements.isLineOf userCart other line = false := by
    intro line ofLine
    simp only [Statements.isLineOf, Bool.and_eq_true, decide_eq_true_eq]
      at ofLine
    simp [Statements.isLineOf, ofLine.2, unlike]
  simp only [Database.chosenItems, objects, List.filter_filter]
  cases merges with
  | existing member _ ofLine =>
      refine Table.filter_save member ?_ ?_ ?_
      · rfl
      · rw [elsewhere _ ofLine, Bool.false_and]
      · rw [elsewhere (Statements.addedTo _ _ _) ofLine, Bool.false_and]
  | created unused ofLine _ _ =>
      rw [Table.rows_insertNew unused, List.filter_append]
      simp [elsewhere _ ofLine]

theorem agrees_mergeItem {userCart lineId : Uuid} {item : CartItem}
    (sameVariant : replica.variants.find? item.variant =
      primary.variants.find? item.variant)
    (sameLines : replica.chosenItems
        (Statements.isLineOf userCart item.variant) =
      primary.chosenItems (Statements.isLineOf userCart item.variant)) :
    (Statements.mergeItem session userCart lineId item).Agrees replica
      primary := by
  have found : (Statements.variantOf item).Agrees replica primary := by
    refine agrees_query (by rw [sameVariant]) (agrees_of_pinned ?_ _)
    split <;> trivial
  have looked : (Statements.firstLine session userCart item.variant).Agrees
      replica primary := by
    refine agrees_query ?_ trivial
    change (pure (session.scan CartItem (replica.chosenItems _) |>.insertionSort
      _).head? : Statements (Option CartItem)) = _
    rw [sameLines]
    rfl
  refine agrees_bind found fun variant after loaded => ?_
  obtain ⟨rfl, _⟩ := variantOf_eq_ok loaded
  refine agrees_bind looked fun existing after returned => ?_
  apply agrees_of_pinned
  cases existing with
  | some line => exact fun _ => trivial
  | none =>
      refine pinned_bind (pinned_insertLine _) fun inserted => ?_
      split <;> trivial

theorem agrees_mergeItems {userCart : Uuid} {draw : Uuid → Uuid}
    {lines : List CartItem}
    (unlike : lines.Pairwise fun first second =>
      first.variant ≠ second.variant)
    (sameVariants : ∀ item ∈ lines, replica.variants.find? item.variant =
      primary.variants.find? item.variant)
    (sameLines : ∀ item ∈ lines, replica.chosenItems
        (Statements.isLineOf userCart item.variant) =
      primary.chosenItems (Statements.isLineOf userCart item.variant)) :
    (Statements.mergeItems session userCart draw lines).Agrees replica
      primary := by
  induction lines generalizing primary with
  | nil => trivial
  | cons item lines ih =>
      obtain ⟨unlikeItem, unlike⟩ := List.pairwise_cons.mp unlike
      refine agrees_bind (agrees_mergeItem
        (sameVariants item List.mem_cons_self)
        (sameLines item List.mem_cons_self)) ?_
      intro _ after merged
      obtain ⟨variant, items, found, absorbs, rfl⟩ := mergeItem_eq_ok merged
      have merges := absorbs.mergesInto (Table.find?_eq_some.mp found).2
      apply ih unlike
      · intro other member
        exact sameVariants other (List.mem_cons_of_mem _ member)
      · intro other member
        rw [chosenItems_mergesInto merges (unlikeItem other member)]
        exact sameLines other (List.mem_cons_of_mem _ member)

/-- The lines of one cart are for different variants. -/
theorem variants_itemsOf (unique : LinesUnique primary.cartItems)
    (cart : Uuid) :
    (primary.itemsOf cart).Pairwise fun first second =>
      first.variant ≠ second.variant := by
  have nodup : (primary.itemsOf cart).Nodup :=
    List.Nodup.of_map Keyed.key (nodup_chosenItems primary _)
  refine nodup.pairwise_of_forall_ne ?_
  intro first firstMem second secondMem distinct sameVariant
  obtain ⟨firstMem, _, firstCart⟩ := mem_chosenItems.mp firstMem
  obtain ⟨secondMem, _, secondCart⟩ := mem_chosenItems.mp secondMem
  simp only [decide_eq_true_eq] at firstCart secondCart
  exact distinct (unique first firstMem second secondMem
    (firstCart.trans secondCart.symm) sameVariant)

/-- The cart that guest lines are merged into. -/
theorem userCart_id {user : Uuid} {new cart : Cart} {after : Database}
    (drawn : new.id = FreshKey.fresh primary.carts.keys)
    (returned : (Statements.oneOrCreate
      (session.filter primary.carts (isCartOfUser user)) new).alone primary =
        .ok cart after) :
    cart.id = RoutedCall.userCartId primary user := by
  rw [RoutedCall.userCartId]
  cases found : session.filter primary.carts (isCartOfUser user) with
  | nil =>
      have noneFound := chosenCarts_eq (by simp) found
      rw [found, Statements.oneOrCreate, alone_bind] at returned
      obtain ⟨_, _, _, finished⟩ := bind_eq_ok.mp returned
      obtain ⟨rfl, rfl⟩ := pure_eq_ok.mp finished
      rw [noneFound]
      exact drawn
  | cons first others =>
      cases others with
      | cons second others =>
          rw [found] at returned
          exact (throw_eq_ok.mp returned).elim
      | nil =>
          have oneFound := chosenCarts_eq (by simp) found
          rw [found] at returned
          obtain ⟨rfl, rfl⟩ := pure_eq_ok.mp returned
          rw [oneFound]

theorem agrees_mergeAnonymousIntoUser {draw : Uuid → Uuid}
    {sessionKey : String} {user : Uuid}
    (unique : LinesUnique primary.cartItems)
    (agree : (RoutedCall.mergeAnonymousIntoUser session sessionKey
      user).ReadsAgree primary replica) :
    (Statements.mergeAnonymousIntoUser session
      (FreshKey.fresh primary.carts.keys) draw sessionKey user).Agrees replica
        primary := by
  unfold Statements.mergeAnonymousIntoUser
  split
  · trivial
  refine agrees_bind (agrees_of_pinned (pinned_selectForUpdate _ _ _ _ _) _) ?_
  intro anonymous after locked
  rw [alone_lockCarts] at locked
  obtain ⟨rfl, rfl⟩ := locked
  split
  · trivial
  · next anon anonOnly =>
    obtain ⟨items_eq, perItem⟩ :=
      agree anon (chosenCarts_eq (Nat.le_refl 1) anonOnly)
    refine agrees_bind
      (agrees_of_pinned (pinned_selectForUpdate _ _ _ _ _) _) ?_
    intro found after locked
    rw [alone_lockCarts] at locked
    obtain ⟨rfl, rfl⟩ := locked
    refine agrees_bind (agrees_of_pinned (pinned_oneOrCreate _ _) _) ?_
    intro userCart after returned
    have cartId := userCart_id rfl returned
    obtain ⟨carts, _, rfl⟩ := oneOrCreate_eq_ok returned
    refine agrees_query ?_ ?_
    · rw [items_eq]
      rfl
    · have perm := session.scan_perm CartItem (primary.itemsOf anon.id)
      refine agrees_bind (agrees_mergeItems ?_ ?_ ?_) fun _ _ _ => trivial
      · exact perm.symm.pairwise (variants_itemsOf unique anon.id) Ne.symm
      · intro item member
        exact (perItem item (perm.mem_iff.mp member)).1
      · intro item member
        rw [cartId]
        exact (perItem item (perm.mem_iff.mp member)).2
  · trivial

/-- A call leaves the primary as if it had been asked alone. -/
theorem RoutedCall.routed_eq_onPrimary {call : RoutedCall}
    (unique : LinesUnique primary.cartItems)
    (agree : call.ReadsAgree primary replica)
    (databases : List DatabaseAlias) (choices : List Bool) :
    call.routed databases replica choices primary =
      call.onPrimary primary := by
  have same : ∀ {Value : Type} {statements : Statements Value},
      statements.Agrees replica primary →
        settle (atomic (statements.routed replica
            (PrimaryReplicaRouter.toReplica databases choices))) primary =
          settle (atomic statements.alone) primary := by
    intro Value statements agrees
    simp only [settle, atomic, routed_of_agrees agrees]
  cases call with
  | createOrderFromCart session cart user payload =>
      exact same (agrees_createOrderFromCart agree)
  | transitionStatus session orderId newStatus actor message =>
      exact same (agrees_transitionStatus agree)
  | mergeAnonymousIntoUser session sessionKey user =>
      exact same (agrees_mergeAnonymousIntoUser unique agree)

end Agreement

/-- What a call of the service does when every read goes to the primary:
orders that are paid or cancelled settle all their items, and checkouts and
merges convert the lines that are stored. -/
def RoutedCall.Serves (before after : Database) : RoutedCall → Prop
  | createOrderFromCart session cart user payload =>
      Stepped before (.createOrderFromCart session cart user payload) after
  | transitionStatus session orderId newStatus actor message =>
      Stepped before (.transitionStatus session orderId newStatus actor message)
        after
  | mergeAnonymousIntoUser session sessionKey user =>
      CartEffect before (.mergeAnonymousIntoUser session sessionKey user) after

/-- With every read on the primary, a call is the one of the service. -/
theorem RoutedCall.serves_onPrimary (primary : Database) (call : RoutedCall) :
    call.Serves primary (call.onPrimary primary) := by
  cases call with
  | createOrderFromCart session cart user payload =>
      have same : onPrimary primary
          (.createOrderFromCart session cart user payload) =
            StoreCommand.step primary
              (.createOrderFromCart session cart user payload) := by
        refine settle_congr (fun _ _ => atomic_eq_error)
          (fun _ _ => atomic_eq_error) fun after => ?_
        simp only [← alone_createOrderFromCart, atomic_eq_ok]
        constructor
        · rintro ⟨receipt, returned⟩
          exact ⟨_, receipt, rfl, returned⟩
        · rintro ⟨_, receipt, _, returned⟩
          exact ⟨receipt, returned⟩
      rw [same]
      exact stepped _ _
  | transitionStatus session orderId newStatus actor message =>
      have same : onPrimary primary
          (.transitionStatus session orderId newStatus actor message) =
            StoreCommand.step primary
              (.transitionStatus session orderId newStatus actor message) := by
        refine settle_congr (fun _ _ => atomic_eq_error)
          (fun _ _ => atomic_eq_error) fun after => ?_
        simp only [← alone_transitionStatus, atomic_eq_ok]
      rw [same]
      exact stepped _ _
  | mergeAnonymousIntoUser session sessionKey user =>
      exact cartEffect_step primary
        (.mergeAnonymousIntoUser session sessionKey user)

/-- A primary, and its earlier states, the last one first. -/
structure Replicated where
  primary : Database
  past : List Database := []

namespace Replicated

/-- What a replica shows that lags behind by a number of calls. -/
def replica (state : Replicated) (lag : Nat) : Database :=
  (state.primary :: state.past).getD lag state.primary

end Replicated

/-- A call with routed reads, the lag of the replica and the choices of the
router, or another call of the store or of the cart services. -/
inductive ReplicatedCall where
  | routed (call : RoutedCall) (lag : Nat) (choices : List Bool)
  | store (command : StoreCommand)
  | cart (command : CartCommand)

namespace ReplicatedCall

/-- With a read replica configured. -/
def step (state : Replicated) (call : ReplicatedCall) : Replicated where
  primary := match call with
    | routed call lag choices =>
        call.routed [.default, .readReplica] (state.replica lag) choices
          state.primary
    | store command => command.step state.primary
    | cart command => command.step state.primary
  past := state.primary :: state.past

/-- The same call when every read goes to the primary. -/
def onPrimary (primary : Database) : ReplicatedCall → Database
  | routed call _ _ => call.onPrimary primary
  | store command => command.step primary
  | cart command => command.step primary

/-- The replica is up to date in the rows that the call asks the router
for. -/
def ReadsAgree (state : Replicated) : ReplicatedCall → Prop
  | routed call lag _ => call.ReadsAgree state.primary (state.replica lag)
  | store _ => True
  | cart _ => True

end ReplicatedCall

theorem LinesUnique.storeStep {db after : Database} {command : StoreCommand}
    (unique : LinesUnique db.cartItems) (stepped : Stepped db command after) :
    LinesUnique after.cartItems := by
  cases stepped with
  | unchanged => exact unique
  | checkedOut checkedOut => exact unique.checkedOut checkedOut
  | charged _ charged =>
      rw [charged.frame]
      exact unique
  | @webhook _ _ _ _ _ _ _ _ recorded moved _ _ _ matched =>
      have recordedSame : recorded.cartItems = db.cartItems := by
        rw [matched.recorded_eq]
      have movedSame : moved.cartItems = recorded.cartItems := by
        have movedOrder := matched.movedOrder
        generalize WebhookResult.newStatus _ = status at movedOrder
        cases movedOrder with
        | paid transitioned => rw [transitioned.frame]
        | cancelled _ _ transitioned => rw [transitioned.frame]
        | refunded transitioned => rw [transitioned.frame]
        | notPaid | notCancelled | stayed => rfl
      rw [matched.after_eq]
      exact (movedSame.trans recordedSame) ▸ unique
  | transitioned transitioned =>
      rw [transitioned.frame]
      exact unique
  | adjusted _ _ _ after_eq =>
      rw [after_eq]
      exact unique
  | expired => exact unique

/-- A call whose reads agree does to the primary what it does alone. -/
theorem ReplicatedCall.primary_step {state : Replicated}
    {call : ReplicatedCall} (unique : LinesUnique state.primary.cartItems)
    (agree : call.ReadsAgree state) :
    (call.step state).primary = call.onPrimary state.primary := by
  cases call with
  | routed call lag choices =>
      exact RoutedCall.routed_eq_onPrimary unique agree _ choices
  | store command => rfl
  | cart command => rfl

theorem LinesUnique.onPrimary {primary : Database}
    (unique : LinesUnique primary.cartItems) (call : ReplicatedCall) :
    LinesUnique (call.onPrimary primary).cartItems := by
  cases call with
  | routed call lag choices =>
      have serves := call.serves_onPrimary primary
      cases call with
      | createOrderFromCart => exact unique.storeStep serves
      | transitionStatus => exact unique.storeStep serves
      | mergeAnonymousIntoUser => exact unique.step serves
  | store command => exact unique.storeStep (stepped primary command)
  | cart command => exact unique.step (cartEffect_step primary command)

/-- Writes do not depend on where reads are routed: in every run in which the
replica is up to date in the rows that the calls ask the router for, the
primary is the one of the run whose reads all go to the primary, and every
call has done what its service does. -/
theorem writes_independent_of_routing {state : Replicated}
    {calls : List ReplicatedCall}
    (unique : LinesUnique state.primary.cartItems)
    (agree : Guarded ReplicatedCall.step
      (fun state call => call.ReadsAgree state) state calls) :
    (exec ReplicatedCall.step state calls).primary =
        exec ReplicatedCall.onPrimary state.primary calls ∧
      ∀ earlier call lag choices later,
        calls = earlier ++ .routed call lag choices :: later →
          call.Serves (exec ReplicatedCall.step state earlier).primary
            (exec ReplicatedCall.step state
              (earlier ++ [.routed call lag choices])).primary := by
  have preserved : ∀ (state : Replicated) (call : ReplicatedCall),
      LinesUnique state.primary.cartItems → call.ReadsAgree state →
        LinesUnique (call.step state).primary.cartItems := by
    intro state call unique agree
    rw [call.primary_step unique agree]
    exact unique.onPrimary call
  refine ⟨?_, ?_⟩
  · exact exec_project Replicated.primary preserved
      (fun _ call unique agree => call.primary_step unique agree) unique agree
  · rintro earlier call lag choices later rfl
    obtain ⟨before, agrees, _⟩ := guarded_append.mp agree
    have uniqueThen := exec_invariant preserved unique before
    rw [exec_append, exec_cons, exec_nil,
      ReplicatedCall.primary_step uniqueThen agrees]
    exact call.serves_onPrimary _

/-- An order is placed, and paid while the replica lags by some calls. -/
def paidAfterCheckout (lag : Nat) : List ReplicatedCall :=
  [.store (checkoutOf 10 "N1"),
    .routed (.transitionStatus { now := 2 } 1 .paid none "") lag [true]]

/-- The start: one unit in each of two carts, and five on the shelf. -/
def replicatedCarts : Replicated where
  primary := twoCarts 5

theorem writes_independent_of_routing_paid :
    (exec ReplicatedCall.step replicatedCarts
      (paidAfterCheckout 0)).primary =
        exec ReplicatedCall.onPrimary (twoCarts 5) (paidAfterCheckout 0) := by
  have unique : LinesUnique (twoCarts 5).cartItems := by
    unfold LinesUnique
    decide
  have agree : Guarded ReplicatedCall.step
      (fun state call => call.ReadsAgree state) replicatedCarts
      (paidAfterCheckout 0) :=
    ⟨trivial, fun _ _ _ _ _ => rfl, trivial⟩
  exact (writes_independent_of_routing unique agree).1

/-- The replica does not show the order yet: it becomes paid, and its unit
stays reserved and on the shelf. -/
theorem paid_without_items :
    let routed := (exec ReplicatedCall.step replicatedCarts
      (paidAfterCheckout 1)).primary
    let onPrimary := exec ReplicatedCall.onPrimary (twoCarts 5)
      (paidAfterCheckout 1)
    routed.orders.rows.map Order.status = [.paid] ∧
      routed.stocks.rows.map (fun stock => (stock.onHand, stock.reserved)) =
        [(5, 1)] ∧
      onPrimary.stocks.rows.map
        (fun stock => (stock.onHand, stock.reserved)) = [(4, 0)] ∧
      routed ≠ onPrimary := by
  have reservedStill : (exec ReplicatedCall.step replicatedCarts
      (paidAfterCheckout 1)).primary.stocks.rows.map
        (fun stock => (stock.onHand, stock.reserved)) = [(5, 1)] := by
    decide +kernel
  have committed : (exec ReplicatedCall.onPrimary (twoCarts 5)
      (paidAfterCheckout 1)).stocks.rows.map
        (fun stock => (stock.onHand, stock.reserved)) = [(4, 0)] := by
    decide +kernel
  refine ⟨by decide +kernel, reservedStill, committed, ?_⟩
  intro same
  rw [same, committed] at reservedStill
  cases reservedStill

end NovaCommerce
