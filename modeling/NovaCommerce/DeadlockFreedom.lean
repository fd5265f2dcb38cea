import NovaCommerce.InventoryRuns
import NovaCommerce.OrderTransactions
import NovaCommerce.TransactionProgress
import Mathlib.Data.Prod.Lex

/-!
# Checkouts and transitions that do not wait in a cycle

A checkout locks the stock rows of its cart lines, line by line and by warehouse
priority, and with each of them the row of its warehouse; a transition to a paid
or cancelled order locks the order and the stock rows of its items, item by item
and by reserved units.  No two of these orders agree in general.  If there is
one order of the rows that all of them follow, in every state that their
statements see, then no transactions wait for each other in a cycle.
-/

namespace NovaCommerce

open AtomicCall GuardedRun LockingTransactions

/-- Rows are compared by their kind, then by their place. -/
abbrev Level := Nat ×ₗ Nat

def level (kind place : Nat) : Level :=
  toLex (kind, place)

theorem level_lt {kind place kind' place' : Nat} :
    level kind place < level kind' place' ↔
      kind < kind' ∨ kind = kind' ∧ place < place' := by
  simp [level, Prod.Lex.toLex_lt_toLex]

theorem level_le {kind place kind' place' : Nat} :
    level kind place ≤ level kind' place' ↔
      kind < kind' ∨ kind = kind' ∧ place ≤ place' := by
  simp [level, Prod.Lex.toLex_le_toLex]

/-- Stock rows are of one kind with warehouses, which are locked between
them. -/
def RowKey.kind : RowKey → Nat
  | .coupon _ => 0
  | .order _ => 1
  | .orderNumber _ => 2
  | .stock _ | .warehouse _ => 3
  | .cartItem _ => 4
  | .cart _ => 5
  | .cartLine _ _ => 6

/-- The rows that a reservation of a variant locks: each stock row, and then its
warehouse. -/
def reservationLocks (session : Session) (db : Database) (variantId : Uuid) :
    List RowKey :=
  (reservableRows session db variantId).flatMap fun stock =>
    [.stock stock.id, .warehouse stock.warehouse]

/-- The rows that a release or a sale of a variant locks. -/
def settlementLocks (session : Session) (db : Database) (variantId : Uuid) :
    List RowKey :=
  (reservedRows session db variantId).map fun stock => .stock stock.id

/-- A place for every row; for every variant the rows that a reservation locks,
and bounds for the places of its stock rows. -/
structure RowOrder where
  place : RowKey → Nat
  locksOf : Uuid → List RowKey
  lowest : Uuid → Nat
  highest : Uuid → Nat
  lowest_le : ∀ variant, lowest variant ≤ highest variant

def RowOrder.rank (order : RowOrder) (key : RowKey) : Level :=
  level key.kind (order.place key)

/-- A checkout or a transition of an order. -/
inductive OrderRequest where
  | createOrderFromCart (session : Session) (orderId : Uuid) (cart : Cart)
      (user : Option Uuid) (payload : CheckoutInput)
  | transitionStatus (session : Session) (orderId : Uuid)
      (newStatus : OrderStatus) (actor : Option Uuid) (message : String)

namespace OrderRequest

def program : OrderRequest → Statements Unit
  | createOrderFromCart session orderId cart user payload => do
      let _ ← Statements.createOrderFromCart session orderId cart user payload
      pure ()
  | transitionStatus session orderId newStatus actor message => do
      let _ ← Statements.transitionStatus session orderId newStatus actor
        message
      pure ()

/-- What a request goes through is listed in the order of the rows.  For a
checkout, reservations lock what the order lists for their variant, and the rows
of one line after the other rise, as do the coupons of its code and the items of
its cart.  For a transition that moves goods, the rows of each variant rise
within the bounds of the variant, and the bounds rise from one item to the
next. -/
def FollowsOrder (order : RowOrder) : OrderRequest → Database → Prop
  | createOrderFromCart session _ cart _ payload, db =>
      (∀ stock ∈ db.stocks.rows, reservationLocks session db stock.variant =
        order.locksOf stock.variant) ∧
      RisesFrom order.rank [] ((db.linesOf session cart.id).flatMap
        fun line => order.locksOf line.item.variant) ∧
      RisesFrom order.rank [] ((db.couponsNamed session
        payload.couponCode).map fun coupon => .coupon coupon.id) ∧
      RisesFrom order.rank [] ((session.filter db.cartItems
        fun item => item.cart = cart.id).map fun item => .cartItem item.id)
  | transitionStatus session orderId newStatus _ _, db =>
      newStatus = .paid ∨ newStatus = .cancelled →
        (∀ stock ∈ db.stocks.rows,
          RisesFrom order.rank [] (settlementLocks session db stock.variant) ∧
          order.lowest stock.variant ≤ order.place (.stock stock.id) ∧
          order.place (.stock stock.id) ≤ order.highest stock.variant) ∧
        ((session.scan OrderItem (db.orderItemsOf orderId)).filterMap
          OrderItem.variant).Pairwise fun first second =>
            order.highest first < order.lowest second

instance (order : RowOrder) :
    ∀ request db, Decidable (FollowsOrder order request db)
  | createOrderFromCart .., _ => inferInstanceAs (Decidable (_ ∧ _))
  | transitionStatus .., _ => inferInstanceAs (Decidable (_ ∨ _ → _ ∧ _))

end OrderRequest

section Rising

variable {order : RowOrder} {sees : Database → Prop} {held : Set RowKey}
  {lower upper : Level} {earlier : List RowKey}

/-- A row and those that are joined to it are locked rising. -/
theorem rises_lockJoined {key : RowKey} {joined : List RowKey}
    (holding : Holding order.rank lower upper held earlier)
    (within : ∀ row ∈ key :: joined,
      lower ≤ order.rank row ∧ order.rank row < upper)
    (rises : RisesFrom order.rank earlier (key :: joined)) :
    Rises order.rank sees held (Statements.lockJoined key joined)
      fun _ after => Holding order.rank lower upper after
        ((key :: joined).reverse ++ earlier) := by
  obtain ⟨atLeast, isBelow⟩ := within key List.mem_cons_self
  have now := holding.acquire rises atLeast
  have next := holding.insert isBelow
  induction joined generalizing key held earlier with
  | nil => exact ⟨now, fun _ _ => next⟩
  | cons other joined ih =>
      rw [Statements.lockJoined, rises_acquire_bind]
      refine ⟨now, fun _ _ => ?_⟩
      obtain ⟨otherLeast, otherBelow⟩ :=
        within other (List.mem_cons_of_mem _ List.mem_cons_self)
      have locked := ih next
        (fun row rowMem => within row (List.mem_cons_of_mem _ rowMem))
        rises.2 otherLeast otherBelow (next.acquire rises.2 otherLeast)
        (next.insert otherBelow)
      simpa using locked

/-- Rows that are locked with those joined to them, rising from what is held
already. -/
theorem rises_lockRows {Row : Type} {key : Uuid → RowKey}
    {joined : Uuid → List RowKey} {current : Database → Uuid → Option Row}
    {ids : List Uuid} (holding : Holding order.rank lower upper held earlier)
    (within : ∀ id ∈ ids, ∀ row ∈ key id :: joined id,
      lower ≤ order.rank row ∧ order.rank row < upper)
    (rises : RisesFrom order.rank earlier
      (ids.flatMap fun id => key id :: joined id)) :
    Rises order.rank sees held (Statements.lockRows key joined current ids)
      fun rows after => rows.length ≤ ids.length ∧
        (∀ row ∈ rows, ∃ db id, current db id = some row) ∧
        Holding order.rank lower upper after
          ((ids.flatMap fun id => key id :: joined id).reverse ++
            earlier) := by
  induction ids generalizing held earlier with
  | nil => exact ⟨le_refl _, by simp, holding⟩
  | cons id ids ih =>
      rw [List.flatMap_cons, risesFrom_append] at rises
      rw [Statements.lockRows, rises_bind]
      have later := fun held holding => @ih held _ holding
        (fun other otherMem => within other (List.mem_cons_of_mem _ otherMem))
        rises.2
      refine (rises_lockJoined holding (within id List.mem_cons_self)
        rises.1).mono ?_
      intro db after next
      have locked := later after next
      simp only [List.flatMap_cons, List.reverse_append, List.append_assoc]
      cases isCurrent : current db id with
      | none =>
          refine locked.mono fun rows _ result => ?_
          exact ⟨result.1.trans (Nat.le_succ _), result.2⟩
      | some row =>
          rw [rises_bind]
          refine locked.mono ?_
          rintro rows _ ⟨fewer, areCurrent, holding⟩
          refine ⟨Nat.succ_le_succ fewer, ?_, holding⟩
          intro other otherMem
          rcases List.mem_cons.mp otherMem with rfl | isLater
          · exact ⟨db, id, isCurrent⟩
          · exact areCurrent other isLater

/-- Rows that every query selects rising from what is held are locked
rising. -/
theorem rises_selectForUpdate {Row : Type} [IsModel Row]
    {key : Uuid → RowKey} {table : Database → Table Row}
    {condition : Database → Row → Bool} {query : Database → List Row}
    {joined : Database → Uuid → List RowKey} {locks : Database → List RowKey}
    (locks_eq : ∀ db, ((query db).map Keyed.key).flatMap
      (fun id => key id :: joined db id) = locks db)
    (holding : Holding order.rank lower upper held earlier)
    (within : ∀ db, sees db → ∀ row ∈ locks db,
      lower ≤ order.rank row ∧ order.rank row < upper)
    (rises : ∀ db, sees db → RisesFrom order.rank earlier (locks db)) :
    Rises order.rank sees held
      (Statements.selectForUpdate key table condition query joined)
      fun rows after => (∀ row ∈ rows, ∃ db, condition db row = true) ∧
        ∃ db, sees db ∧ rows.length ≤ (query db).length ∧
          Holding order.rank lower upper after
            ((locks db).reverse ++ earlier) := by
  rw [Statements.selectForUpdate, rises_bind]
  intro db seen
  have inBand := within db seen
  have rising := rises db seen
  rw [← locks_eq db] at inBand rising
  refine (rises_lockRows holding ?_ rising).mono ?_
  · intro id idMem row rowMem
    exact inBand row (List.mem_flatMap.mpr ⟨id, idMem, rowMem⟩)
  · rintro rows after ⟨fewer, areCurrent, holding⟩
    rw [locks_eq db] at holding
    rw [List.length_map] at fewer
    refine ⟨?_, db, seen, fewer, holding⟩
    intro row rowMem
    obtain ⟨db, id, isCurrent⟩ := areCurrent row rowMem
    have selected := (Option.mem_filter_iff.mp isCurrent).2
    simp only [Bool.and_eq_true] at selected
    exact ⟨db, selected.2⟩

/-- Writes after some locks keep them. -/
theorem rises_blind_bind {Value Next : Type} {writes : Statements Value}
    {next : Value → Statements Next} {post : Next → Set RowKey → Prop}
    (blind : writes.Blind)
    (rises : ∀ value, Rises order.rank sees held (next value) post) :
    Rises order.rank sees held (writes >>= next) post := by
  rw [rises_bind]
  refine (rises_of_blind blind).mono ?_
  rintro value _ rfl
  exact rises value

theorem locks_of_reservable (session : Session) (variantId : Uuid)
    (db : Database) :
    ((reservableRows session db variantId).map Keyed.key).flatMap
        (fun id => RowKey.stock id :: Statements.warehouseOf db id) =
      reservationLocks session db variantId := by
  rw [List.flatMap_map, reservationLocks]
  apply List.flatMap_congr
  intro stock visited
  have member := ((mem_reservableRows session variantId).mp visited).1
  have found : db.stocks.find? (Keyed.key stock) = some stock :=
    Table.find?_eq_some.mpr ⟨member, rfl⟩
  rw [Statements.warehouseOf, found]
  rfl

theorem kind_reservationLocks {session : Session} {variantId : Uuid}
    {db : Database} {row : RowKey}
    (rowMem : row ∈ reservationLocks session db variantId) : row.kind = 3 := by
  obtain ⟨stock, _, isLock⟩ := List.mem_flatMap.mp rowMem
  simp only [List.mem_cons, List.not_mem_nil, or_false] at isLock
  rcases isLock with rfl | rfl <;> rfl

/-- A row lies in the band of its kind. -/
theorem rank_within (row : RowKey) :
    level row.kind 0 ≤ order.rank row ∧
      order.rank row < level (row.kind + 1) 0 :=
  ⟨level_le.mpr (by simp), level_lt.mpr (by simp)⟩

/-- A reservation locks what the order lists for its variant. -/
theorem rises_reserveStock {session : Session} {variantId : Uuid}
    {quantity : Int} {reference : String}
    (follows : ∀ db, sees db → ∀ stock ∈ db.stocks.rows,
      reservationLocks session db stock.variant =
        order.locksOf stock.variant)
    (holding : Holding order.rank (level 3 0) (level 4 0) held earlier)
    (rises : RisesFrom order.rank earlier (order.locksOf variantId)) :
    Rises order.rank sees held
      (Statements.reserveStock session variantId quantity reference)
      fun _ after => Holding order.rank (level 3 0) (level 4 0) after
        ((order.locksOf variantId).reverse ++ earlier) := by
  have listed : ∀ db, sees db → reservableRows session db variantId ≠ [] →
      reservationLocks session db variantId = order.locksOf variantId := by
    intro db seen nonempty
    obtain ⟨stock, visited⟩ := List.exists_mem_of_ne_nil _ nonempty
    obtain ⟨member, _, rfl, _⟩ :=
      (mem_reservableRows session variantId).mp visited
    exact follows db seen stock member
  unfold Statements.reserveStock
  split
  · trivial
  next positive =>
  rw [rises_bind]
  refine (rises_selectForUpdate (locks_of_reservable session variantId)
    holding ?_ ?_).mono ?_
  · intro db _ row rowMem
    have within : level row.kind 0 ≤ order.rank row ∧
        order.rank row < level (row.kind + 1) 0 := rank_within row
    rwa [kind_reservationLocks rowMem] at within
  · intro db seen
    by_cases none : reservableRows session db variantId = []
    · rw [reservationLocks, none]
      trivial
    · rw [listed db seen none]
      exact rises
  · rintro rows after ⟨_, db, seen, fewer, holding⟩
    by_cases none : reservableRows session db variantId = []
    · -- Without rows there are no units to reserve.
      rw [none, List.length_nil, Nat.le_zero, List.length_eq_zero_iff] at fewer
      subst fewer
      change Rises _ _ _ (if 0 < quantity then _ else _) _
      rw [if_pos (by omega)]
      trivial
    · rw [listed db seen none] at holding
      apply rises_blind_bind (reserveRows_blind _ _ _ _ _ _)
      rintro ⟨remaining, onHand, reserved⟩
      dsimp only
      split
      · trivial
      · exact holding

theorem drawRows_blind {session : Session} (save : Stock → Statements Unit)
    (saves : ∀ stock, (save stock).Blind) (capacity : Stock → Int)
    (draw : Stock → Int → Stock) (signed : Int → Int)
    (reason : MovementReason) (reference : String) (rows : List Stock)
    (remaining : Int) :
    (Statements.drawRows session save capacity draw signed reason reference
      rows remaining).Blind := by
  induction rows generalizing remaining with
  | nil => trivial
  | cons stock rows ih =>
      unfold Statements.drawRows
      split
      · trivial
      · dsimp only
        split
        · exact Transaction.blind_bind (saves _) fun _ => ih _
        · exact ih _

theorem locks_of_reserved (session : Session) (variantId : Uuid)
    (db : Database) :
    ((reservedRows session db variantId).map Keyed.key).flatMap
        (fun id => [RowKey.stock id]) =
      settlementLocks session db variantId := by
  rw [List.flatMap_map, settlementLocks, List.map_eq_flatMap]
  rfl

section Settled

variable {session : Session} {variantId : Uuid} {quantity : Int}
  {reference : String}
  (follows : ∀ db, sees db → ∀ stock ∈ db.stocks.rows,
    RisesFrom order.rank [] (settlementLocks session db stock.variant) ∧
      order.lowest stock.variant ≤ order.place (.stock stock.id) ∧
      order.place (.stock stock.id) ≤ order.highest stock.variant)
  (below : Below order.rank held (level 3 (order.lowest variantId)))

include follows below

/-- The rows of a variant are locked within its bounds. -/
theorem rises_lockReserved :
    Rises order.rank sees held (Statements.lockReserved session variantId)
      fun _ after =>
        Below order.rank after (level 3 (order.highest variantId + 1)) := by
  have atMost : level 3 (order.lowest variantId) ≤
      level 3 (order.highest variantId + 1) :=
    level_le.mpr (.inr ⟨rfl, (order.lowest_le variantId).trans
      (Nat.le_succ _)⟩)
  refine (rises_selectForUpdate (locks_of_reserved session variantId)
    (below.holding atMost) ?_ ?_).mono ?_
  · intro db seen row rowMem
    obtain ⟨stock, visited, rfl⟩ := List.mem_map.mp rowMem
    obtain ⟨member, _, rfl, _⟩ :=
      (mem_reservedRows session variantId).mp visited
    obtain ⟨_, atLeast, atMost⟩ := follows db seen stock member
    exact ⟨level_le.mpr (.inr ⟨rfl, atLeast⟩),
      level_lt.mpr (.inr ⟨rfl, by omega⟩)⟩
  · intro db seen
    cases selected : reservedRows session db variantId with
    | nil =>
        rw [settlementLocks, selected]
        trivial
    | cons stock others =>
        have visited : stock ∈ reservedRows session db variantId := by
          simp [selected]
        obtain ⟨member, _, rfl, _⟩ :=
          (mem_reservedRows session variantId).mp visited
        exact (follows db seen stock member).1
  · rintro rows after ⟨_, _, _, _, holding⟩
    exact holding.below

theorem rises_releaseReservation :
    Rises order.rank sees held
      (Statements.releaseReservation session variantId quantity reference)
      fun _ after =>
        Below order.rank after (level 3 (order.highest variantId + 1)) := by
  rw [Statements.releaseReservation, rises_bind]
  refine (rises_lockReserved follows below).mono ?_
  intro rows after below
  exact rises_blind_bind (drawRows_blind Statements.saveReserved
    (fun _ => trivial) _ _ _ _ _ _ _) fun _ => below

theorem rises_commitSale :
    Rises order.rank sees held
      (Statements.commitSale session variantId quantity reference)
      fun _ after =>
        Below order.rank after (level 3 (order.highest variantId + 1)) := by
  rw [Statements.commitSale, rises_bind]
  refine (rises_lockReserved follows below).mono ?_
  intro rows after below
  apply rises_blind_bind (drawRows_blind Statements.saveUnits
    (fun _ => trivial) _ _ _ _ _ _ _)
  intro remaining
  split
  · trivial
  · exact below

end Settled

theorem rises_checkoutItem {session : Session} {orderId : Uuid}
    {line : CartLine}
    (follows : ∀ db, sees db → ∀ stock ∈ db.stocks.rows,
      reservationLocks session db stock.variant =
        order.locksOf stock.variant)
    (holding : Holding order.rank (level 3 0) (level 4 0) held earlier)
    (rises : RisesFrom order.rank earlier
      (order.locksOf line.item.variant)) :
    Rises order.rank sees held (Statements.checkoutItem session orderId line)
      fun _ after => Holding order.rank (level 3 0) (level 4 0) after
        ((order.locksOf line.item.variant).reverse ++ earlier) := by
  rw [Statements.checkoutItem, rises_bind]
  refine (rises_reserveStock follows holding rises).mapError.mono ?_
  intro _ after holding
  cases line.variant with
  | none => trivial
  | some variant =>
      cases line.product with
      | none => trivial
      | some product => exact holding

theorem rises_checkoutItems {session : Session} {orderId : Uuid}
    {lines : List CartLine}
    (follows : ∀ db, sees db → ∀ stock ∈ db.stocks.rows,
      reservationLocks session db stock.variant =
        order.locksOf stock.variant)
    (holding : Holding order.rank (level 3 0) (level 4 0) held earlier)
    (rises : RisesFrom order.rank earlier
      (lines.flatMap fun line => order.locksOf line.item.variant)) :
    Rises order.rank sees held
      (Statements.checkoutItems session orderId lines)
      fun _ after => Below order.rank after (level 4 0) := by
  induction lines generalizing held earlier with
  | nil => exact holding.below
  | cons line lines ih =>
      rw [List.flatMap_cons, risesFrom_append] at rises
      rw [Statements.checkoutItems, rises_bind]
      refine (rises_checkoutItem follows holding rises.1).mono ?_
      intro _ after holding
      exact ih holding rises.2

/-- The items of an order are settled rising, if each of them is. -/
theorem rises_forItems {call : Uuid → Int → Statements Unit}
    {items : List OrderItem}
    (rises : ∀ held variantId quantity,
      Below order.rank held (level 3 (order.lowest variantId)) →
      Rises order.rank sees held (call variantId quantity) fun _ after =>
        Below order.rank after (level 3 (order.highest variantId + 1)))
    (ordered : (items.filterMap OrderItem.variant).Pairwise
      fun first second => order.highest first < order.lowest second)
    (above : ∀ variantId ∈ items.filterMap OrderItem.variant,
      Below order.rank held (level 3 (order.lowest variantId))) :
    Rises order.rank sees held (Statements.forItems call items)
      fun _ _ => True := by
  induction items generalizing held with
  | nil => trivial
  | cons item items ih =>
      rw [Statements.forItems, rises_bind, Statements.forItem]
      cases ofVariant : item.variant with
      | none =>
          rw [List.filterMap_cons_none ofVariant] at ordered above
          exact ih ordered above
      | some variantId =>
          rw [List.filterMap_cons_some ofVariant] at ordered above
          rw [List.pairwise_cons] at ordered
          refine (rises held variantId item.quantity
            (above variantId List.mem_cons_self)).mono ?_
          intro _ after taken
          apply ih ordered.2
          intro other otherMem
          have before := ordered.1 other otherMem
          exact taken.mono (level_le.mpr (.inr ⟨rfl, before⟩))

theorem createOrderEvent_blind (session : Session) (order : Uuid)
    (code message : String) (actor : Option Uuid) (payload : Json) :
    (Statements.createOrderEvent session order code message actor
      payload).Blind := by
  unfold Statements.createOrderEvent
  split <;> trivial

theorem below_empty (upper : Level) : Below order.rank ∅ upper :=
  fun _ none => none.elim

/-- Rows of one kind that come rising are locked above those of the kinds
before. -/
theorem rises_selectKind {Row : Type} [IsModel Row] (key : Uuid → RowKey)
    {table : Database → Table Row} {condition : Database → Row → Bool}
    {query : Database → List Row} {kind : Nat}
    (ofKind : ∀ id, (key id).kind = kind)
    (below : Below order.rank held (level kind 0))
    (rises : ∀ db, sees db → RisesFrom order.rank []
      ((query db).map fun row => key (Keyed.key row))) :
    Rises order.rank sees held
      (Statements.selectForUpdate key table condition query)
      fun rows after => (∀ row ∈ rows, ∃ db, condition db row = true) ∧
        Below order.rank after (level (kind + 1) 0) := by
  have locks_eq : ∀ db, ((query db).map Keyed.key).flatMap
      (fun id => [key id]) = (query db).map fun row => key (Keyed.key row) := by
    intro db
    rw [List.flatMap_map, List.map_eq_flatMap]
  have atMost : level kind 0 ≤ level (kind + 1) 0 :=
    level_le.mpr (.inl (Nat.lt_succ_self _))
  refine (rises_selectForUpdate locks_eq (below.holding atMost) ?_
    rises).mono ?_
  · intro db _ row rowMem
    obtain ⟨found, _, rfl⟩ := List.mem_map.mp rowMem
    rw [← ofKind (Keyed.key found)]
    exact rank_within _
  · rintro rows after ⟨selected, _, _, _, holding⟩
    exact ⟨selected, holding.below⟩

theorem rises_applyCoupon {session : Session} {code : String}
    {subtotal : Cents}
    (rises : ∀ db, sees db → RisesFrom order.rank []
      ((db.couponsNamed session code).map fun coupon => .coupon coupon.id)) :
    Rises order.rank sees ∅ (Statements.applyCoupon session code subtotal)
      fun _ after => Below order.rank after (level 1 0) := by
  unfold Statements.applyCoupon
  split
  · exact below_empty _
  · rw [rises_bind, Statements.lockCoupon, rises_bind]
    refine (rises_selectKind .coupon (fun _ => rfl) (below_empty (level 0 0))
      rises).mono ?_
    rintro (_ | ⟨coupon, _ | ⟨second, others⟩⟩) after ⟨_, below⟩
    · trivial
    · change Rises _ _ _ (if coupon.isValidNow session.now then _ else _) _
      split
      · exact below
      · trivial
    · trivial

theorem rises_createOrder (row : Order)
    (below : Below order.rank held (level 1 0)) :
    Rises order.rank sees held (Statements.createOrder row)
      fun _ after => Below order.rank after (level 3 0) := by
  have ordered : Below order.rank (insert (.order row.id) held) (level 2 0) :=
    (below.mono (level_le.mpr (by omega))).insert (rank_within _).2
  have numbered : Below order.rank
      (insert (.orderNumber row.number) (insert (.order row.id) held))
      (level 3 0) :=
    (ordered.mono (level_le.mpr (by omega))).insert (rank_within _).2
  rw [Statements.createOrder, rises_bind]
  refine ⟨Or.inr (below.mono (rank_within (.order row.id)).1), fun _ _ => ?_⟩
  change Rises _ _ _ (_ >>= _) _
  rw [rises_bind]
  refine ⟨Or.inr (ordered.mono (rank_within (.orderNumber row.number)).1),
    fun db _ => ?_⟩
  change Rises _ _ _
    (if _ then _ else if row.id ∈ db.orders.keys then _ else _) _
  split
  · trivial
  · split
    · trivial
    · split
      · trivial
      · exact numbered

theorem rises_deleteItems {session : Session} {cart : Uuid}
    (rises : ∀ db, sees db → RisesFrom order.rank []
      ((session.filter db.cartItems fun item => item.cart = cart).map
        fun item => .cartItem item.id))
    (below : Below order.rank held (level 4 0)) :
    Rises order.rank sees held (Statements.deleteItems session cart)
      fun _ after => Below order.rank after (level 5 0) := by
  rw [Statements.deleteItems, Statements.softDelete, rises_bind]
  refine (rises_selectKind .cartItem (fun _ => rfl) below rises).mono ?_
  rintro items after ⟨_, below⟩
  exact below

theorem rises_createOrderFromCart (session : Session) (orderId : Uuid)
    (cart : Cart) (user : Option Uuid) (payload : CheckoutInput) :
    Rises order.rank
      (OrderRequest.FollowsOrder order
        (.createOrderFromCart session orderId cart user payload)) ∅
      (Statements.createOrderFromCart session orderId cart user payload)
      fun _ _ => True := by
  rw [Statements.createOrderFromCart, rises_bind]
  intro db _
  change Rises _ _ _ (if (db.itemsOf cart.id).isEmpty then _ else _) _
  split
  · trivial
  rw [rises_bind]
  intro db _
  change Rises _ _ _ (_ >>= _) _
  rw [rises_bind]
  refine (rises_applyCoupon fun db follows => follows.2.2.1).mono ?_
  rintro ⟨coupon, discount⟩ _ below
  dsimp only
  rw [rises_bind]
  refine (rises_createOrder _ below).mono ?_
  intro _ _ below
  rw [rises_bind]
  intro db follows
  change Rises _ _ _ (_ >>= _) _
  rw [rises_bind]
  refine (rises_checkoutItems (fun db follows => follows.1)
    (below.holding (level_le.mpr (by omega))) follows.2.1).mono ?_
  intro _ _ below
  apply rises_blind_bind
  · cases coupon <;> trivial
  intro _
  apply rises_blind_bind (createOrderEvent_blind _ _ _ _ _ _)
  intro _
  rw [rises_bind]
  refine (rises_deleteItems (fun db follows => follows.2.2.2) below).mono ?_
  intro emptied _ below
  rw [rises_bind]
  refine ⟨Or.inr (below.mono (rank_within (.cart cart.id)).1), fun db _ => ?_⟩
  change Rises _ _ _ (if (db.carts.find? cart.id).isNone then _ else _) _
  split <;> trivial

theorem rises_lockOrder (id : Uuid) :
    Rises order.rank sees ∅ (Statements.lockOrder id)
      fun row after =>
        row.id = id ∧ Below order.rank after (level 2 0) := by
  rw [Statements.lockOrder, rises_bind]
  refine (rises_selectKind .order (fun _ => rfl) (below_empty (level 1 0))
    ?_).mono ?_
  · intro db _
    cases (objects db.orders).find? fun row => row.id = id <;>
      simp [RisesFrom]
  · rintro (_ | ⟨row, others⟩) after ⟨selected, below⟩
    · trivial
    · obtain ⟨_, hasId⟩ := selected row List.mem_cons_self
      exact ⟨decide_eq_true_eq.mp hasId, below⟩

theorem rises_settleStock {session : Session} {row : Order}
    {newStatus : OrderStatus} {actor : Option Uuid} {message : String}
    (below : Below order.rank held (level 2 0)) :
    Rises order.rank
      (OrderRequest.FollowsOrder order
        (.transitionStatus session row.id newStatus actor message)) held
      (Statements.settleStock session row newStatus) fun _ _ => True := by
  have above : ∀ variantId,
      Below order.rank held (level 3 (order.lowest variantId)) :=
    fun _ => below.mono (level_le.mpr (by omega))
  cases newStatus with
  | paid =>
      rw [Statements.settleStock, rises_bind]
      intro db seen
      exact rises_forItems
        (fun _ _ _ => rises_commitSale fun db seen => (seen (.inl rfl)).1)
        (seen (.inl rfl)).2 fun variantId _ => above variantId
  | cancelled =>
      rw [Statements.settleStock, rises_bind]
      intro db seen
      exact rises_forItems
        (fun _ _ _ => rises_releaseReservation
          fun db seen => (seen (.inr rfl)).1)
        (seen (.inr rfl)).2 fun variantId _ => above variantId
  | pending | packed | shipped | delivered | refunded => trivial

theorem rises_transitionStatus (session : Session) (orderId : Uuid)
    (newStatus : OrderStatus) (actor : Option Uuid) (message : String) :
    Rises order.rank
      (OrderRequest.FollowsOrder order
        (.transitionStatus session orderId newStatus actor message)) ∅
      (Statements.transitionStatus session orderId newStatus actor message)
      fun _ _ => True := by
  rw [Statements.transitionStatus, rises_bind]
  refine (rises_lockOrder orderId).mono ?_
  rintro row held ⟨rfl, below⟩
  split
  · rw [rises_bind]
    refine (rises_settleStock below).mono ?_
    intro _ _ _
    refine rises_blind_bind ?_ fun _ => ?_
    · trivial
    · exact rises_blind_bind (createOrderEvent_blind _ _ _ _ _ _)
        fun _ => trivial
  · trivial

end Rising

theorem rises_program (order : RowOrder) (request : OrderRequest) :
    Rises order.rank (request.FollowsOrder order) ∅ request.program
      fun _ _ => True := by
  cases request with
  | createOrderFromCart session orderId cart user payload =>
      rw [OrderRequest.program, rises_bind]
      exact (rises_createOrderFromCart session orderId cart user payload).mono
        fun _ _ _ => trivial
  | transitionStatus session orderId newStatus actor message =>
      rw [OrderRequest.program, rises_bind]
      exact (rises_transitionStatus session orderId newStatus actor
        message).mono fun _ _ _ => trivial

/-- Checkouts and transitions never wait for each other in a cycle, as long as
all that they go through is listed in one order of the rows. -/
theorem no_deadlock_in_order {Client : Type} [DecidableEq Client]
    (order : RowOrder) {initial : Database}
    {actions : List (Action Client OrderRequest)}
    (follows : Guarded (System.step OrderRequest.program)
      (fun system => System.SeesExpected
        (fun request => request.FollowsOrder order) system)
      { committed := initial } actions) :
    ¬(exec (System.step OrderRequest.program) { committed := initial }
      actions).Deadlocked :=
  exec_not_deadlocked (rises_program order) follows

/-- Two variants on the shelf, and carts that list them in either order. -/
def crossedCarts : Database :=
  { oneShelf 5 0 with
    stocks := ⟨[
        { id := 2, createdAt := 0, variant := 7, warehouse := 1, onHand := 5 },
        { id := 4, createdAt := 0, variant := 8, warehouse := 1, onHand := 5 }],
      by decide⟩
    variants := ⟨[
        { id := 7, createdAt := 0, product := 6, sku := "NOVA-TEE-M",
          price := 1999 },
        { id := 8, createdAt := 0, product := 6, sku := "NOVA-TEE-L",
          price := 1999 }],
      by decide⟩
    carts := ⟨[
        { id := 10, createdAt := 0 }, { id := 11, createdAt := 0 },
        { id := 12, createdAt := 0 }, { id := 13, createdAt := 0 }],
      by decide⟩
    cartItems := ⟨[
        { id := 20, createdAt := 0, cart := 10, variant := 7,
          unitPrice := 1999 },
        { id := 21, createdAt := 0, cart := 10, variant := 8,
          unitPrice := 1999 },
        { id := 22, createdAt := 0, cart := 11, variant := 8,
          unitPrice := 1999 },
        { id := 23, createdAt := 0, cart := 11, variant := 7,
          unitPrice := 1999 },
        { id := 24, createdAt := 0, cart := 12, variant := 7,
          unitPrice := 1999 },
        { id := 25, createdAt := 0, cart := 12, variant := 8,
          unitPrice := 1999 },
        { id := 26, createdAt := 0, cart := 13, variant := 8,
          unitPrice := 1999 }],
      by decide⟩ }

/-- The row of the first variant, the warehouse, and the row of the second
variant. -/
def shelfOrder : RowOrder where
  place
    | .warehouse _ => 1
    | .stock 4 => 2
    | .cartItem id => id
    | _ => 0
  locksOf
    | 7 => [.stock 2, .warehouse 1]
    | 8 => [.stock 4, .warehouse 1]
    | _ => []
  lowest variant := if variant = 7 then 0 else 2
  highest variant := if variant = 7 then 0 else 2
  lowest_le _ := le_refl _

def checkoutOfCart (cart order : Uuid) (number : String) : OrderRequest :=
  .createOrderFromCart { now := 1, orderNumber := number } order
    { id := cart, createdAt := 0 } none
    { email := "buyer@example.com", phone := "", shippingAddress := .obj [] }

/-- Two clients check two carts out; the first one has reserved its first line,
and the second one has begun with its own. -/
def sideBySide (first second : Uuid) : List (Action Nat OrderRequest) :=
  [.start 0 (checkoutOfCart first 1 "N1"),
    .start 1 (checkoutOfCart second 2 "N2")] ++
    List.replicate 13 (.advance 0) ++ List.replicate 13 (.advance 1)

theorem no_deadlock_sideBySide :
    ¬(exec (System.step OrderRequest.program) { committed := crossedCarts }
      (sideBySide 10 12)).Deadlocked :=
  no_deadlock_in_order shelfOrder (by decide +kernel)

/-- A cart with two variants and one with the same in the opposite order; or one
with the second variant alone, which waits for the warehouse. -/
theorem checkouts_deadlock :
    (exec (System.step OrderRequest.program) { committed := crossedCarts }
      (sideBySide 10 11)).Deadlocked ∧
    (exec (System.step OrderRequest.program) { committed := crossedCarts }
      (sideBySide 10 13)).Deadlocked := by
  have waits : ∀ second ∈ [11, 13],
      (exec (System.step OrderRequest.program) { committed := crossedCarts }
        (sideBySide 10 second)).WaitsFor 0 1 ∧
      (exec (System.step OrderRequest.program) { committed := crossedCarts }
        (sideBySide 10 second)).WaitsFor 1 0 := by
    decide +kernel
  have deadlocked : ∀ second ∈ [11, 13],
      (exec (System.step OrderRequest.program) { committed := crossedCarts }
        (sideBySide 10 second)).Deadlocked := by
    intro second secondMem
    obtain ⟨forward, backward⟩ := waits second secondMem
    exact ⟨0, .tail (.single forward) backward⟩
  exact ⟨deadlocked 11 (by decide), deadlocked 13 (by decide)⟩

/-- Where checkouts and transitions follow one order of the rows, everybody
gets through: whenever somebody is in flight, one of the clients in flight is
not blocked, and clients who let such a one go on each time have all committed
or failed after finitely many statements, whoever of them it is. -/
theorem everyone_gets_through {Client : Type} [DecidableEq Client]
    (order : RowOrder) {initial : Database}
    {actions : List (Action Client OrderRequest)}
    (follows : Guarded (System.step OrderRequest.program)
      (fun system => System.SeesExpected
        (fun request => request.FollowsOrder order) system)
      { committed := initial } actions) :
    let reached := exec (System.step OrderRequest.program)
      { committed := initial } actions
    (reached.Busy → ∃ client, reached.Ready client) ∧
      ∀ schedule : Nat → Client,
        (∀ moment,
          (reached.advancedBy OrderRequest.program schedule moment).Busy →
          (reached.advancedBy OrderRequest.program schedule moment).Ready
            (schedule moment)) →
        ∃ moment,
          ¬(reached.advancedBy OrderRequest.program schedule moment).Busy := by
  intro reached
  have rising := exec_rising (rises_program order) follows
  have finite := finite_exec OrderRequest.program initial actions
  refine ⟨rising.exists_ready finite, ?_⟩
  intro schedule goesOn
  have within : ∀ client, (reached.flights client).isSome →
      client ∈ finite.toFinset := fun client flies =>
    finite.mem_toFinset.mpr flies
  exact advancedBy_finishes OrderRequest.program within schedule goesOn

/-- One of two checkouts waits for the other one's first row. -/
theorem everyone_gets_through_sideBySide :
    let reached := exec (System.step OrderRequest.program)
      { committed := crossedCarts } (sideBySide 10 12)
    reached.Busy ∧ ∃ client, reached.Ready client := by
  have busy : (exec (System.step OrderRequest.program)
      { committed := crossedCarts } (sideBySide 10 12)).Busy :=
    ⟨0, by decide +kernel⟩
  exact ⟨busy,
    (everyone_gets_through shelfOrder (by decide +kernel)).1 busy⟩

end NovaCommerce
