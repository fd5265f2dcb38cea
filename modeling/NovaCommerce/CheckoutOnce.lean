import NovaCommerce.ConcurrentCheckouts
import NovaCommerce.ReservationAccounting

/-!
# Checkouts of one cart

The cart and its items are not locked, so that a checkout converts the items
that its loop has read, whatever has been committed since.  A checkout that
commits while these items are still in the cart takes every one of them out of
it; as long as all checkouts commit like that, no item is converted twice, and
the stock that is reserved is the quantity of the converted items, each one
counted once.
-/

namespace NovaCommerce

open GreedyAllocation GuardedRun LockingTransactions

/-- When the checkout commits, the items that it converts are still lines of
the cart. -/
def StillInCart (commit : CheckoutCommit) : Prop :=
  ∀ item ∈ commit.value.converted,
    item ∈ commit.before.itemsOf commit.request.cart.id

instance : DecidablePred StillInCart := fun commit =>
  inferInstanceAs (Decidable (∀ item ∈ commit.value.converted, _ ∈ _))

/-- The items that committed checkouts converted. -/
def convertedItems (commits : List CheckoutCommit) : List CartItem :=
  commits.flatMap fun commit => commit.value.converted

/-- The order items that a commit wrote for the items that it converted. -/
def SoldBy (commit : CheckoutCommit) (sold : List OrderItem) : Prop :=
  List.Forall₂ (SoldAs commit.value.order.id) commit.value.converted sold

theorem unitsOf_append (first second : List CartItem) :
    unitsOf (first ++ second) =
      fun variant => unitsOf first variant + unitsOf second variant := by
  funext variant
  simp [unitsOf]

/-- What a commit did to the cart items and to the stock. -/
structure ConvertsOnce (commit : CheckoutCommit) : Prop where
  nodup : (commit.value.converted.map Keyed.key).Nodup
  inCart : ∀ item ∈ commit.value.converted,
    item ∈ commit.before.cartItems.rows ∧ alive item = true
  shrinks : ∀ item ∈ commit.after.cartItems.rows, alive item = true →
    item ∈ commit.before.cartItems.rows
  takesOut : ∀ item ∈ commit.after.cartItems.rows, alive item = true →
    Keyed.key item ∉ commit.value.converted.map Keyed.key
  sold : ∃ sold, SoldBy commit sold ∧
    commit.after.orderItems.rows = commit.before.orderItems.rows ++ sold
  draws : ∃ amount, Draws .reserve commit.before.isReservable
    commit.before.stocks commit.after.stocks amount
    (unitsOf commit.value.converted)
  sameReservable : commit.after.isReservable = commit.before.isReservable

/-- A line that is alive at the commit was found by the statement that empties
the cart. -/
theorem mem_emptied {now : Database} {cart : Uuid} {locks : Set RowKey}
    {emptied : List CartItem} {item : CartItem}
    (found : FoundItems checkoutRely now (fun item => item.cart = cart) locks
      emptied)
    (inCart : item ∈ now.itemsOf cart) : item ∈ emptied := by
  obtain ⟨member, isAlive, ofCart⟩ := mem_itemsOf.mp inCart
  have earlierToo : ∀ held earlier, checkoutRely.allows held earlier now →
      item ∈ earlier.itemsOf cart := fun held earlier allowed =>
    mem_itemsOf.mpr ⟨allowed.items item member isAlive, isAlive, ofCart⟩
  obtain ⟨earlier, allowed, complete⟩ := found.complete
  obtain ⟨held, later, _, laterAllowed, visited⟩ :=
    complete item (earlierToo _ earlier allowed)
  exact visited item (earlierToo _ later laterAllowed) rfl

theorem convertsOnce_of_committed {commit : CheckoutCommit}
    (committed : commit.Committed) (stillInCart : StillInCart commit) :
    ConvertsOnce commit := by
  obtain ⟨_, _, sold, amount, checkout⟩ := committed
  obtain ⟨_, warehouses_eq, _, _, _, cartItems_eq⟩ := checkout.frame
  constructor
  case nodup =>
    obtain ⟨earlier, _, perm⟩ := checkout.converted
    exact ((perm.map Keyed.key).nodup_iff).mpr (nodup_chosenItems _ _)
  case inCart =>
    intro item member
    obtain ⟨inTable, isAlive, _⟩ := mem_itemsOf.mp (stillInCart item member)
    exact ⟨inTable, isAlive⟩
  case shrinks =>
    intro item member isAlive
    rw [cartItems_eq] at member
    exact ((mem_withDeleted isAlive).mp member).1
  case takesOut =>
    intro item member isAlive converted
    rw [cartItems_eq] at member
    obtain ⟨_, kept⟩ := (mem_withDeleted isAlive).mp member
    obtain ⟨old, oldMem, sameKey⟩ := List.mem_map.mp converted
    have emptied := mem_emptied checkout.emptied (stillInCart old oldMem)
    have idMem : Keyed.key old ∈ commit.value.emptied.map Keyed.key :=
      List.mem_map_of_mem emptied
    rw [sameKey] at idMem
    exact kept idMem
  case sold =>
    refine ⟨sold, ?_, checkout.orderItems_rows⟩
    rw [SoldBy, checkout.order_id]
    exact checkout.itemsSold.soldAs
  case draws => exact ⟨amount, checkout.draws⟩
  case sameReservable =>
    funext stock
    simp only [Database.isReservable, Database.inActiveWarehouse,
      Database.warehouseOf, warehouses_eq]

/-- The converted items of a chain of commits are lines of the first state, no
line twice. -/
theorem nodup_of_chained {initial final : Database}
    {commits : List CheckoutCommit} (chained : Chained initial commits final)
    (once : ∀ commit ∈ commits, ConvertsOnce commit) :
    ((convertedItems commits).map Keyed.key).Nodup ∧
      ∀ item ∈ convertedItems commits,
        item ∈ initial.cartItems.rows ∧ alive item = true := by
  induction commits generalizing initial with
  | nil => simp [convertedItems]
  | cons commit commits ih =>
      obtain ⟨rfl, chained⟩ := chained
      have first := once commit List.mem_cons_self
      obtain ⟨nodup, inCart⟩ := ih chained fun other otherMem =>
        once other (List.mem_cons_of_mem _ otherMem)
      have split : convertedItems (commit :: commits) =
          commit.value.converted ++ convertedItems commits :=
        List.flatMap_cons
      rw [split, List.map_append]
      constructor
      · refine List.nodup_append.mpr ⟨first.nodup, nodup, ?_⟩
        intro id converted other again same
        obtain ⟨item, itemMem, rfl⟩ := List.mem_map.mp again
        obtain ⟨member, isAlive⟩ := inCart item itemMem
        exact first.takesOut item member isAlive (same ▸ converted)
      · intro item itemMem
        rcases List.mem_append.mp itemMem with now | later
        · exact first.inCart item now
        · obtain ⟨member, isAlive⟩ := inCart item later
          exact ⟨first.shrinks item member isAlive, isAlive⟩

/-- Every converted item is written as an item of the order of its commit. -/
theorem sold_of_chained {initial final : Database}
    {commits : List CheckoutCommit} (chained : Chained initial commits final)
    (once : ∀ commit ∈ commits, ConvertsOnce commit) :
    ∃ sold, List.Forall₂ SoldBy commits sold ∧
      final.orderItems.rows = initial.orderItems.rows ++ sold.flatten := by
  induction commits generalizing initial with
  | nil =>
      subst chained
      exact ⟨[], .nil, by simp⟩
  | cons commit commits ih =>
      obtain ⟨rfl, chained⟩ := chained
      obtain ⟨first, soldFirst, rows⟩ :=
        (once commit List.mem_cons_self).sold
      obtain ⟨sold, soldLater, later⟩ := ih chained fun other otherMem =>
        once other (List.mem_cons_of_mem _ otherMem)
      refine ⟨first :: sold, .cons soldFirst soldLater, ?_⟩
      rw [later, rows, List.flatten_cons, List.append_assoc]

/-- The commits reserve the units of the items that they convert. -/
theorem reserved_of_chained {initial final : Database}
    {commits : List CheckoutCommit} (chained : Chained initial commits final)
    (once : ∀ commit ∈ commits, ConvertsOnce commit) :
    ∃ amount, Draws .reserve initial.isReservable initial.stocks final.stocks
      amount (unitsOf (convertedItems commits)) := by
  induction commits generalizing initial with
  | nil =>
      subst chained
      exact ⟨_, .refl initial.stocks⟩
  | cons commit commits ih =>
      obtain ⟨rfl, chained⟩ := chained
      have first := once commit List.mem_cons_self
      obtain ⟨amount, draws⟩ := first.draws
      obtain ⟨laterAmount, later⟩ := ih chained fun other otherMem =>
        once other (List.mem_cons_of_mem _ otherMem)
      have together := draws.trans (first.sameReservable ▸ later)
      rw [← unitsOf_append] at together
      exact ⟨_, together⟩

/-- Checkout happens once per cart content: in every interleaving of checkouts
that all commit while the items that they convert are still in the cart, no
cart item is converted by two committed checkouts or twice by one, the items of
the committed orders are the converted items, and the stock that is reserved is
their quantity. -/
theorem checkout_happens_once {Client : Type} [DecidableEq Client]
    {initial : Database} {actions : List (Action Client CheckoutRequest)}
    (stillInCart : Guarded (System.step CheckoutRequest.program)
      (System.CommitsMeet StillInCart) { committed := initial } actions) :
    let final := exec (System.step CheckoutRequest.program)
      { committed := initial } actions
    ((convertedItems final.log).map Keyed.key).Nodup ∧
      (∀ item ∈ convertedItems final.log,
        item ∈ initial.cartItems.rows ∧ alive item = true) ∧
      final.committed.orders.rows = initial.orders.rows ++
        final.log.map (fun commit => commit.value.order) ∧
      (∃ sold, List.Forall₂ SoldBy final.log sold ∧
        final.committed.orderItems.rows =
          initial.orderItems.rows ++ sold.flatten) ∧
      ∃ amount, Draws .reserve initial.isReservable initial.stocks
        final.committed.stocks amount (unitsOf (convertedItems final.log)) := by
  intro final
  have guarantees : Guarantees checkoutRely CheckoutRequest.program
      StillInCart := fun request before value progress leads _ =>
    guarantees_checkout request before value progress leads trivial
  have tracked : Tracked checkoutRely CheckoutRequest.program StillInCart
      initial final :=
    exec_tracked guarantees stillInCart
  have once : ∀ commit ∈ final.log, ConvertsOnce commit :=
    fun commit member => convertsOnce_of_committed
      (committed_of_isOf (tracked.commits commit member).1)
      (tracked.commits commit member).2
  obtain ⟨nodup, inCart⟩ := nodup_of_chained tracked.chained once
  exact ⟨nodup, inCart, orders_of_chained tracked.chained fun commit member =>
      committed_of_isOf (tracked.commits commit member).1,
    sold_of_chained tracked.chained once,
    reserved_of_chained tracked.chained once⟩

/-- A checkout of one of the carts. -/
def checkoutRequest (cart : Uuid) (order : Uuid) (number : String) :
    CheckoutRequest where
  session := { now := 1, orderNumber := number }
  orderId := order
  cart := { id := cart, createdAt := 0 }
  payload :=
    { email := "buyer@example.com", phone := "", shippingAddress := .obj [] }

/-- The next statements of a client. -/
def advances (client count : Nat) : List (Action Nat CheckoutRequest) :=
  List.replicate count (.advance client)

/-- Two clients check two carts out; both loops have been read before the first
commit. -/
def twoCheckouts (first second : Uuid) : List (Action Nat CheckoutRequest) :=
  [.start 0 (checkoutRequest first 1 "N1"),
    .start 1 (checkoutRequest second 2 "N2")] ++
    advances 0 6 ++ advances 1 6 ++ advances 0 13 ++ advances 1 13

theorem checkout_happens_once_twoCarts :
    let final := exec (System.step CheckoutRequest.program)
      { committed := twoCarts 5 } (twoCheckouts 10 11)
    ((convertedItems final.log).map Keyed.key).Nodup ∧
      (∀ item ∈ convertedItems final.log,
        item ∈ (twoCarts 5).cartItems.rows ∧ alive item = true) ∧
      final.committed.orders.rows = (twoCarts 5).orders.rows ++
        final.log.map (fun commit => commit.value.order) ∧
      (∃ sold, List.Forall₂ SoldBy final.log sold ∧
        final.committed.orderItems.rows =
          (twoCarts 5).orderItems.rows ++ sold.flatten) ∧
      ∃ amount, Draws .reserve (twoCarts 5).isReservable (twoCarts 5).stocks
        final.committed.stocks amount
        (unitsOf (convertedItems final.log)) := by
  have stillInCart : Guarded (System.step CheckoutRequest.program)
      (System.CommitsMeet StillInCart) { committed := twoCarts 5 }
      (twoCheckouts 10 11) := by
    decide +kernel
  exact checkout_happens_once stillInCart

/-- Two clients check the same cart out: its one item becomes an item of both
committed orders, and its unit is reserved twice. -/
theorem checkout_happens_twice :
    let final := exec (System.step CheckoutRequest.program)
      { committed := twoCarts 5 } (twoCheckouts 10 10)
    (convertedItems final.log).map Keyed.key = [20, 20] ∧
      final.committed.orderItems.rows.map (fun sold =>
        (sold.order, sold.variant, sold.quantity)) =
          [(1, some 7, 1), (2, some 7, 1)] ∧
      final.committed.stocks.rows.map Stock.reserved = [2] := by
  decide +kernel

end NovaCommerce
