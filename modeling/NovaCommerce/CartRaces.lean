import NovaCommerce.CartEdits
import NovaCommerce.CheckoutOnce

/-!
# Checkouts racing cart edits

A checkout reads the cart to price the order, reads it again to convert its
lines, and a third time to empty it, and an edit may be committed in between.
The order agrees with its items when the first two reads found lines of the
same total, and no unit is lost when the third one found no more units than
were converted.
-/

namespace NovaCommerce

open GuardedRun LockingTransactions

inductive CartRequest where
  | checkout (request : CheckoutRequest)
  | addItem (session : Session) (itemId cart variantId : Uuid)
      (quantity : Int)
  | updateItem (session : Session) (cart itemId : Uuid) (quantity : Int)
  | removeItem (session : Session) (cart itemId : Uuid)

/-- What a request returns, with the lines that it found. -/
inductive CartResponse where
  | placed (receipt : CheckoutReceipt)
  | added (item : CartItem)
  | updated (found : CartItem) (saved : Option CartItem)
  | removed (items : List CartItem)

def CartRequest.program : CartRequest → Statements CartResponse
  | checkout request => do
      let receipt ← request.program
      pure (.placed receipt)
  | addItem session itemId cart variantId quantity => do
      let item ← Statements.addItem session itemId cart variantId quantity
      pure (.added item)
  | updateItem session cart itemId quantity => do
      let (found, saved) ← Statements.updateItem session cart itemId quantity
      pure (.updated found saved)
  | removeItem session cart itemId => do
      let items ← Statements.removeItem session cart itemId
      pure (.removed items)

abbrev CartCommit := Commit CartRequest Database CartResponse

/-- Units that an addition put into a cart. -/
def CartRequest.putIn (cart variant : Uuid) : CartRequest → Int
  | addItem _ _ into variantId quantity =>
      if into = cart ∧ variantId = variant then quantity else 0
  | _ => 0

/-- Units that an update or a removal took out of a cart. -/
def CartResponse.takenOut (cart variant : Uuid) : CartResponse → Int
  | updated found saved => unitsForCart [found] cart variant -
      unitsForCart saved.toList cart variant
  | removed items => unitsForCart items cart variant
  | _ => 0

/-- Units that a checkout converted. -/
def CartResponse.ordered (cart variant : Uuid) : CartResponse → Int
  | placed receipt => unitsForCart receipt.converted cart variant
  | _ => 0

/-- Units that a checkout emptied the cart of. -/
def CartResponse.emptied (cart variant : Uuid) : CartResponse → Int
  | placed receipt => unitsForCart receipt.emptied cart variant
  | _ => 0

/-- No edit changed the total of the cart between the pricing and the loop of
the checkout, or put units into it between the loop and the statement that
empties it. -/
def Undisturbed (commit : CartCommit) : Prop :=
  match commit.value with
  | .placed receipt =>
      (receipt.priced.map CartItem.lineTotal).sum =
          (receipt.converted.map CartItem.lineTotal).sum ∧
        ∀ item ∈ receipt.emptied,
          unitsForCart receipt.emptied item.cart item.variant ≤
            unitsForCart receipt.converted item.cart item.variant
  | _ => True

instance : DecidablePred Undisturbed := fun commit => by
  unfold Undisturbed
  split <;> infer_instance

theorem emptied_le_ordered {commit : CartCommit}
    (undisturbed : Undisturbed commit) (cart variant : Uuid) :
    commit.value.emptied cart variant ≤ commit.value.ordered cart variant := by
  rw [Undisturbed] at undisturbed
  cases value : commit.value with
  | placed receipt =>
      rw [value] at undisturbed
      by_cases listed : ∃ item ∈ receipt.emptied,
          Statements.isLineOf cart variant item = true
      · obtain ⟨item, member, ofLine⟩ := listed
        rw [Statements.isLineOf, Bool.and_eq_true, decide_eq_true_eq,
          decide_eq_true_eq] at ofLine
        obtain ⟨rfl, rfl⟩ := ofLine
        exact undisturbed.2 item member
      · have none : unitsForCart receipt.emptied cart variant = 0 := by
          apply List.sum_eq_zero
          intro units unitsMem
          obtain ⟨item, member, rfl⟩ := List.mem_map.mp unitsMem
          exact if_neg fun ofLine => listed ⟨item, member, ofLine⟩
        change unitsForCart receipt.emptied cart variant ≤ _
        rw [none]
        exact unitsForCart_nonneg _ _ _
  | added item => exact le_refl 0
  | updated found saved => exact le_refl 0
  | removed items => exact le_refl 0

/-- A commit, with what its request did. -/
inductive CartCommit.Committed : CartCommit → Prop
  | placed {request : CheckoutRequest} {receipt : CheckoutReceipt}
      {before after : Database} {locks : Set RowKey} {middle : Database}
      {sold : List OrderItem} {amount : Uuid → Int}
      (checkout : CommittedCheckout cartRely request.session request.orderId
        request.cart request.user request.payload before after locks receipt
        middle sold amount) :
      Committed ⟨.checkout request, .placed receipt, before, after⟩
  | added {session : Session} {itemId cart variantId : Uuid} {quantity : Int}
      {before after : Database} {line saved : CartItem} {items : Table CartItem}
      (adds : AddsTo cartRely cart variantId quantity before after line saved
        items) :
      Committed ⟨.addItem session itemId cart variantId quantity, .added saved,
        before, after⟩
  | updated {session : Session} {cart itemId : Uuid} {quantity : Int}
      {before after : Database} {found : CartItem} {saved : Option CartItem}
      (updates : Updates session cart itemId quantity before after found
        saved) :
      Committed ⟨.updateItem session cart itemId quantity,
        .updated found saved, before, after⟩
  | removed {session : Session} {cart itemId : Uuid} {before after : Database}
      {items : List CartItem}
      (found : ∀ item ∈ items,
        item ∈ before.cartItems.rows ∧ alive item = true)
      (nodup : (items.map Keyed.key).Nodup)
      (after_eq : after = { before with
        cartItems := Statements.withDeleted session (items.map Keyed.key)
          before.cartItems }) :
      Committed ⟨.removeItem session cart itemId, .removed items, before, after⟩

/-- What the program of a request has done by its commit, and what it leaves
alone for the others. -/
theorem cart_committed_of_leads {request : CartRequest}
    {response : CartResponse} {before : Database}
    {progress : Progress RowKey Database}
    (leads : Leads cartRely before request.program .start response progress) :
    CartCommit.Committed ⟨request, response, before, progress.own before⟩ ∧
      LinesKept progress.heldᶜ before (progress.own before) := by
  cases request with
  | checkout request =>
      obtain ⟨receipt, _, placing, finished⟩ := leads_bind.mp leads
      obtain ⟨rfl, rfl⟩ := leads_pure.mp finished
      obtain ⟨middle, sold, amount, checkout⟩ :=
        leads_createOrderFromCart
          (fun _ _ (kept : LinesKept _ _ _) => kept.goods.stocks) placing
      refine ⟨.placed checkout, ?_, ?_⟩
      · exact checkout.goodsKept fun _ _ kept => LinesKept.goods kept
      · rw [checkout.frame.2.2.2.2.2]
        apply itemsKept_withDeleted
        intro id listed
        obtain ⟨item, member, rfl⟩ := List.mem_map.mp listed
        exact checkout.emptied.locked item member
  | addItem session itemId cart variantId quantity =>
      obtain ⟨item, _, adding, finished⟩ := leads_bind.mp leads
      obtain ⟨rfl, rfl⟩ := leads_pure.mp finished
      obtain ⟨line, items, adds, kept⟩ :=
        leads_addItem linesKept_of_allows adding
      exact ⟨.added adds, kept⟩
  | updateItem session cart itemId quantity =>
      obtain ⟨⟨found, saved⟩, _, updating, finished⟩ := leads_bind.mp leads
      obtain ⟨rfl, rfl⟩ := leads_pure.mp finished
      obtain ⟨updates, kept⟩ := leads_updateItem linesKept_of_allows updating
      exact ⟨.updated updates, kept⟩
  | removeItem session cart itemId =>
      obtain ⟨items, _, removing, finished⟩ := leads_bind.mp leads
      obtain ⟨rfl, rfl⟩ := leads_pure.mp finished
      obtain ⟨found, after_eq, kept⟩ := leads_removeItem removing
      refine ⟨.removed ?_ found.nodup after_eq, kept⟩
      intro item member
      obtain ⟨inTable, isAlive, _⟩ :=
        mem_chosenItems.mp (found.mem_now linesKept_of_allows member)
      exact ⟨inTable, isAlive⟩

/-- What a commit does to the units of a variant in a cart. -/
theorem cartUnits_of_committed {commit : CartCommit}
    (committed : commit.Committed) (cart variant : Uuid) :
    commit.after.cartUnits cart variant =
      commit.before.cartUnits cart variant +
        commit.request.putIn cart variant -
          commit.value.takenOut cart variant -
            commit.value.emptied cart variant := by
  cases committed with
  | placed checkout =>
      have deleted := cartUnits_of_deleted (fun item member =>
          (mem_chosenItems.mp (checkout.emptied.mem_now linesKept_of_allows
            member)).imp_right And.left)
        checkout.emptied.nodup checkout.frame.2.2.2.2.2 cart variant
      simp only [CartRequest.putIn, CartResponse.takenOut,
        CartResponse.emptied, deleted]
      omega
  | added adds =>
      simp only [CartRequest.putIn, CartResponse.takenOut,
        CartResponse.emptied, adds.cartUnits cart variant]
      omega
  | updated updates =>
      simp only [CartRequest.putIn, CartResponse.takenOut,
        CartResponse.emptied, updates.cartUnits cart variant]
      omega
  | removed found nodup after_eq =>
      have deleted := cartUnits_of_deleted found nodup
        (congrArg Database.cartItems after_eq) cart variant
      simp only [CartRequest.putIn, CartResponse.takenOut,
        CartResponse.emptied, deleted]
      omega

/-- The new orders add up to their items: `old` are the identifiers of the
orders that were there before. -/
structure Itemised (old : List Uuid) (db : Database) : Prop where
  haveOrders : db.ItemsHaveOrders
  subtotal_eq : ∀ order ∈ db.orders.rows, order.id ∉ old →
    ((db.orderItemsOf order.id).map OrderItem.lineTotal).sum = order.subtotal

/-- A write to the cart items does not concern the orders. -/
theorem itemised_of_items {old : List Uuid} {before after : Database}
    {items : Table CartItem} (itemised : Itemised old before)
    (after_eq : after = { before with cartItems := items }) :
    Itemised old after := by
  subst after_eq
  exact ⟨itemised.haveOrders, itemised.subtotal_eq⟩

theorem itemised_of_placed {old : List Uuid} {request : CheckoutRequest}
    {receipt : CheckoutReceipt} {before after : Database} {locks : Set RowKey}
    {middle : Database} {sold : List OrderItem} {amount : Uuid → Int}
    (checkout : CommittedCheckout cartRely request.session request.orderId
      request.cart request.user request.payload before after locks receipt
      middle sold amount)
    (sameTotal : (receipt.priced.map CartItem.lineTotal).sum =
      (receipt.converted.map CartItem.lineTotal).sum)
    (itemised : Itemised old before) : Itemised old after := by
  have relies : ∀ held earlier, cartRely.allows held earlier before →
      GoodsKept held earlier before := fun _ _ kept => LinesKept.goods kept
  have orders_rows := checkout.orders_rows relies
  have isNew : receipt.order.id ∉ before.orders.keys := checkout.isNew relies
  have items_rows := checkout.orderItems_rows
  have soldAs := checkout.itemsSold.soldAs
  rw [← checkout.order_id] at soldAs
  constructor
  case haveOrders =>
    intro item member
    rw [items_rows] at member
    rw [Table.keys, orders_rows, List.map_append]
    rcases List.mem_append.mp member with earlier | new
    · exact List.mem_append_left _ (itemised.haveOrders item earlier)
    · rw [(sold_order soldAs item new).1]
      exact List.mem_append_right _ (List.mem_singleton_self _)
  case subtotal_eq =>
    intro order member notOld
    rw [orders_rows] at member
    rcases List.mem_append.mp member with earlier | new
    · have otherNe : order.id ≠ receipt.order.id := by
        intro same
        exact isNew (same ▸ List.mem_map_of_mem earlier)
      rw [orderItemsOf_append_of_ne items_rows (sold_order soldAs) otherNe]
      exact itemised.subtotal_eq order earlier notOld
    · rw [List.mem_singleton] at new
      subst new
      have own : after.orderItemsOf receipt.order.id = sold := by
        apply orderItemsOf_append items_rows (sold_order soldAs)
        intro item itemMem same
        exact isNew (same ▸ itemised.haveOrders item itemMem)
      obtain ⟨_, order_eq⟩ := checkout.order_eq
      rw [own, sum_lineTotals soldAs, ← sameTotal, order_eq]
      rfl

theorem itemised_of_committed {old : List Uuid} {commit : CartCommit}
    (committed : commit.Committed) (undisturbed : Undisturbed commit)
    (itemised : Itemised old commit.before) : Itemised old commit.after := by
  cases committed with
  | placed checkout =>
      exact itemised_of_placed checkout undisturbed.1 itemised
  | added adds => exact itemised_of_items itemised adds.after_eq
  | updated updates =>
      rcases updates.after_eq with ⟨_, _, after_eq⟩ | ⟨_, _, after_eq⟩ <;>
        exact itemised_of_items itemised after_eq
  | removed found nodup after_eq => exact itemised_of_items itemised after_eq

/-- Units of a variant in a cart over the commits of a log. -/
def overLog (units : CartCommit → Int) (commits : List CartCommit) : Int :=
  (commits.map units).sum

theorem cartUnits_of_chained {initial final : Database}
    {commits : List CartCommit} (chained : Chained initial commits final)
    (each : ∀ commit ∈ commits, commit.Committed ∧ Undisturbed commit)
    (cart variant : Uuid) :
    initial.cartUnits cart variant +
        overLog (fun commit => commit.request.putIn cart variant) commits ≤
      final.cartUnits cart variant +
        overLog (fun commit => commit.value.ordered cart variant) commits +
        overLog (fun commit => commit.value.takenOut cart variant)
          commits := by
  induction commits generalizing initial with
  | nil =>
      subst chained
      simp [overLog]
  | cons commit commits ih =>
      obtain ⟨rfl, chained⟩ := chained
      obtain ⟨committed, undisturbed⟩ := each commit List.mem_cons_self
      have first := cartUnits_of_committed committed cart variant
      have atMost := emptied_le_ordered undisturbed cart variant
      have later := ih chained fun other otherMem =>
        each other (List.mem_cons_of_mem _ otherMem)
      simp only [overLog, List.map_cons, List.sum_cons] at later ⊢
      omega

/-- A checkout that races cart edits stays consistent: in every interleaving in
which no edit disturbs a checkout, the subtotal of every new order is the sum
of the line totals of its items, and of the units in a cart at first and those
that committed additions put into it each one is in an order, or in a visible
line of the cart, unless a committed update or removal took it out. -/
theorem cart_races_consistent {Client : Type} [DecidableEq Client]
    {initial : Database} {actions : List (Action Client CartRequest)}
    (haveOrders : initial.ItemsHaveOrders)
    (undisturbed : Guarded (System.step CartRequest.program)
      (System.CommitsMeet Undisturbed) { committed := initial } actions) :
    let final := exec (System.step CartRequest.program)
      { committed := initial } actions
    (∀ order ∈ final.committed.orders.rows, order.id ∉ initial.orders.keys →
      ((final.committed.orderItemsOf order.id).map OrderItem.lineTotal).sum =
        order.subtotal) ∧
    ∀ cart variant, initial.cartUnits cart variant +
        overLog (fun commit => commit.request.putIn cart variant) final.log ≤
      final.committed.cartUnits cart variant +
        overLog (fun commit => commit.value.ordered cart variant) final.log +
        overLog (fun commit => commit.value.takenOut cart variant)
          final.log := by
  intro final
  have guarantees : Guarantees cartRely CartRequest.program Undisturbed :=
    fun request before value progress leads _ =>
      (cart_committed_of_leads leads).2
  have tracked : Tracked cartRely CartRequest.program Undisturbed initial
      final :=
    exec_tracked guarantees undisturbed
  have each : ∀ commit ∈ final.log,
      CartCommit.Committed commit ∧ Undisturbed commit := by
    intro commit commitMem
    obtain ⟨⟨progress, leads, after_eq⟩, meets⟩ :=
      tracked.commits commit commitMem
    have committed := (cart_committed_of_leads leads).1
    rw [← after_eq] at committed
    exact ⟨committed, meets⟩
  have atFirst : Itemised initial.orders.keys initial :=
    ⟨haveOrders, fun order member isNew =>
      absurd (List.mem_map_of_mem member) isNew⟩
  have itemised : Itemised initial.orders.keys final.committed :=
    tracked.chained.invariant atFirst fun commit commitMem holds =>
      itemised_of_committed (each commit commitMem).1 (each commit commitMem).2
        holds
  exact ⟨itemised.subtotal_eq, cartUnits_of_chained tracked.chained each⟩

/-- Two units are added to the first cart once its checkout has executed some
statements. -/
def additionAfter (statements : Nat) : List (Action Nat CartRequest) :=
  [.start 0 (.checkout (checkoutRequest 10 1 "N1")),
    .start 1 (.addItem { now := 1 } 22 10 7 2)] ++
    List.replicate statements (.advance 0) ++
    List.replicate 7 (.advance 1) ++
    List.replicate (19 - statements) (.advance 0)

theorem cart_races_consistent_addition :
    let final := exec (System.step CartRequest.program)
      { committed := twoCarts 5 } (additionAfter 0)
    (∀ order ∈ final.committed.orders.rows,
      order.id ∉ (twoCarts 5).orders.keys →
      ((final.committed.orderItemsOf order.id).map OrderItem.lineTotal).sum =
        order.subtotal) ∧
    ∀ cart variant, (twoCarts 5).cartUnits cart variant +
        overLog (fun commit => commit.request.putIn cart variant) final.log ≤
      final.committed.cartUnits cart variant +
        overLog (fun commit => commit.value.ordered cart variant) final.log +
        overLog (fun commit => commit.value.takenOut cart variant)
          final.log := by
  have haveOrders : (twoCarts 5).ItemsHaveOrders := nofun
  have undisturbed : Guarded (System.step CartRequest.program)
      (System.CommitsMeet Undisturbed) { committed := twoCarts 5 }
      (additionAfter 0) := by
    decide +kernel
  exact cart_races_consistent haveOrders undisturbed

/-- Units that are added between the pricing and the loop are ordered without
being paid for, and units that are added between the loop and the statement
that empties the cart are lost: there is one in the order and none in the
cart. -/
theorem cart_race_inconsistent :
    (let final := exec (System.step CartRequest.program)
      { committed := twoCarts 5 } (additionAfter 2)
    final.committed.orders.rows.map Order.subtotal = [1999] ∧
      (final.committed.orderItemsOf 1).map OrderItem.lineTotal = [5997]) ∧
    let final := exec (System.step CartRequest.program)
      { committed := twoCarts 5 } (additionAfter 6)
    (twoCarts 5).cartUnits 10 7 = 1 ∧
      overLog (fun commit => commit.request.putIn 10 7) final.log = 2 ∧
      overLog (fun commit => commit.value.takenOut 10 7) final.log = 0 ∧
      (final.committed.orderItemsOf 1).map OrderItem.quantity = [1] ∧
      final.committed.cartUnits 10 7 = 0 := by
  decide +kernel

end NovaCommerce
