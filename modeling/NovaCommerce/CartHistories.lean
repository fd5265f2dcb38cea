import NovaCommerce.CartServices
import NovaCommerce.ReservationAccounting

/-!
# Adding to a cart after any history of it

A line that was removed, cleared or bought stays in the table under its cart
and its variant.  No query of the services sees it, but the unique index does:
as long as it is there, every addition of its variant fails.  Without such a
line an addition within the available units succeeds, whatever happened
before.
-/

namespace NovaCommerce

open AtomicCall GuardedRun LockingTransactions

/-- `unique_together = (("cart", "variant"),)`, over visible and deleted
lines. -/
def LinesUnique (items : Table CartItem) : Prop :=
  ∀ first ∈ items.rows, ∀ second ∈ items.rows, first.cart = second.cart →
    first.variant = second.variant → first = second

namespace LinesUnique

variable {items lines : Table CartItem}

/-- Lines that keep their places stay apart. -/
theorem alter (unique : LinesUnique items) {change : CartItem → CartItem}
    {keepsKey : ∀ item, Keyed.key (change item) = Keyed.key item}
    (keepsPlace : ∀ item ∈ items.rows, (change item).cart = item.cart ∧
      (change item).variant = item.variant) :
    LinesUnique (items.alter change keepsKey) := by
  intro first firstMem second secondMem sameCart sameVariant
  obtain ⟨old, oldMem, rfl⟩ := List.mem_map.mp firstMem
  obtain ⟨other, otherMem, rfl⟩ := List.mem_map.mp secondMem
  rw [(keepsPlace old oldMem).1, (keepsPlace other otherMem).1] at sameCart
  rw [(keepsPlace old oldMem).2, (keepsPlace other otherMem).2] at sameVariant
  rw [unique old oldMem other otherMem sameCart sameVariant]

theorem save (unique : LinesUnique items) {line saved : CartItem}
    (member : line ∈ items.rows)
    (samePlace : saved.id = line.id ∧ saved.cart = line.cart ∧
      saved.variant = line.variant) :
    LinesUnique (items.save saved) := by
  apply unique.alter
  intro item itemMem
  split
  · next sameKey =>
    have sameItem : item = line :=
      items.eq_of_key_eq itemMem member (sameKey.trans samePlace.1)
    rw [sameItem]
    exact samePlace.2
  · exact ⟨rfl, rfl⟩

theorem insertNew (unique : LinesUnique items) {line : CartItem}
    (unused : line.id ∉ items.keys)
    (noLine : NoLine items line.cart line.variant) :
    LinesUnique (items.insertNew line) := by
  have elsewhere : ∀ item ∈ items.rows,
      ¬(item.cart = line.cart ∧ item.variant = line.variant) := by
    intro item member
    simpa [Statements.isLineOf] using noLine item member
  intro first firstMem second secondMem sameCart sameVariant
  rw [Table.rows_insertNew unused, List.mem_append, List.mem_singleton]
    at firstMem secondMem
  rcases firstMem with firstMem | rfl <;> rcases secondMem with secondMem | rfl
  · exact unique first firstMem second secondMem sameCart sameVariant
  · exact (elsewhere first firstMem ⟨sameCart, sameVariant⟩).elim
  · exact (elsewhere second secondMem
      ⟨sameCart.symm, sameVariant.symm⟩).elim
  · rfl

theorem withDeleted (unique : LinesUnique items) (session : Session)
    (ids : List Uuid) :
    LinesUnique (Statements.withDeleted session ids items) := by
  apply unique.alter
  intro item _
  split <;> exact ⟨rfl, rfl⟩

theorem hasLine (unique : LinesUnique items) {line : CartItem}
    (hasLine : HasLine items line lines) : LinesUnique lines := by
  cases hasLine with
  | found => exact unique
  | created unused _ noLine => exact unique.insertNew unused noLine

theorem mergesInto (unique : LinesUnique items) {userCart : Uuid}
    {item : CartItem} {variant : ProductVariant}
    (merges : MergesInto userCart item variant items lines) :
    LinesUnique lines := by
  cases merges with
  | existing member _ _ => exact unique.save member ⟨rfl, rfl, rfl⟩
  | created unused ofLine _ noLine =>
      simp only [Statements.isLineOf, Bool.and_eq_true, decide_eq_true_eq]
        at ofLine
      obtain ⟨rfl, sameVariant⟩ := ofLine
      exact unique.insertNew unused (sameVariant.symm ▸ noLine)

theorem mergesLines (unique : LinesUnique items) {userCart : Uuid}
    {variants : Table ProductVariant} {guestLines : List CartItem}
    (merges : MergesLines userCart variants guestLines items lines) :
    LinesUnique lines := by
  induction merges with
  | nil => exact unique
  | cons _ first _ ih => exact ih (unique.mergesInto first)

theorem checkedOut {session : Session} {cart row : Cart}
    {user : Option Uuid} {payload : CheckoutInput} {db after middle : Database}
    {order : Order} {coupon : Option Coupon} {discount : Cents}
    {sold : List OrderItem} {amount : Uuid → Int}
    (unique : LinesUnique db.cartItems)
    (checkedOut : CheckedOut session cart user payload db after order coupon
      discount middle sold amount row) :
    LinesUnique after.cartItems := by
  rw [checkedOut.after_eq]
  change LinesUnique (db.cartItems.alter (softDeleteItemOf _ _)
    (key_softDeleteItemOf _ _))
  apply unique.alter
  intro item _
  unfold softDeleteItemOf
  split <;> exact ⟨rfl, rfl⟩

/-- Every call keeps the places of the lines apart. -/
theorem step {db after : Database} {command : CartCommand}
    (unique : LinesUnique db.cartItems)
    (effect : CartEffect db command after) :
    LinesUnique after.cartItems := by
  cases effect with
  | unchanged => exact unique
  | created => exact unique
  | added adds =>
      obtain ⟨_, hasLine, _, _, ⟨_, _, _, _, rfl⟩, rfl⟩ := adds
      exact (unique.hasLine hasLine).save hasLine.mem ⟨rfl, rfl, rfl⟩
  | updated updates =>
      rcases updates.after_eq with ⟨_, _, rfl⟩ | ⟨_, _, rfl⟩
      · exact unique.withDeleted _ _
      · exact unique.save updates.member ⟨rfl, rfl, rfl⟩
  | removed ids => exact unique.withDeleted _ ids
  | cleared ids => exact unique.withDeleted _ ids
  | merged _ _ _ merges => exact unique.mergesLines merges
  | checkedOut _ checkedOut => exact unique.checkedOut checkedOut

/-- Every history keeps the places of the lines apart. -/
theorem history {db : Database} (unique : LinesUnique db.cartItems)
    (commands : List CartCommand) :
    LinesUnique (exec CartCommand.step db commands).cartItems := by
  have kept : ∀ (state : Database) (command : CartCommand),
      LinesUnique state.cartItems →
        LinesUnique (command.step state).cartItems :=
    fun state command unique => unique.step (cartEffect_step state command)
  exact exec_invariant_of_steps kept unique commands

end LinesUnique

section Line

variable {db : Database} {cart variantId : Uuid}

/-- A visible line is the only one of its cart for its variant. -/
theorem chosenItems_eq_singleton (unique : LinesUnique db.cartItems)
    {line : CartItem} (member : line ∈ db.cartItems.rows)
    (isAlive : alive line = true)
    (ofLine : Statements.isLineOf cart variantId line = true) :
    db.chosenItems (Statements.isLineOf cart variantId) = [line] := by
  have perm : (db.chosenItems (Statements.isLineOf cart variantId)).Perm
      [line] := by
    have nodup := List.Nodup.of_map Keyed.key
      (nodup_chosenItems db (Statements.isLineOf cart variantId))
    apply (List.perm_ext_iff_of_nodup nodup (List.nodup_singleton line)).mpr
    intro item
    rw [mem_chosenItems, List.mem_singleton]
    constructor
    · rintro ⟨itemMem, _, ofItem⟩
      simp only [Statements.isLineOf, Bool.and_eq_true, decide_eq_true_eq]
        at ofItem ofLine
      exact unique item itemMem line member
        (ofItem.1.trans ofLine.1.symm) (ofItem.2.trans ofLine.2.symm)
    · rintro rfl
      exact ⟨member, isAlive, ofLine⟩
  exact List.perm_singleton.mp perm

theorem chosenItems_eq_nil (noLine : NoLine db.cartItems cart variantId) :
    db.chosenItems (Statements.isLineOf cart variantId) = [] := by
  apply List.eq_nil_iff_forall_not_mem.mpr
  intro item listed
  obtain ⟨member, _, ofItem⟩ := mem_chosenItems.mp listed
  rw [noLine item member] at ofItem
  cases ofItem

/-- The units of a variant are those of its visible lines. -/
theorem cartUnits_eq_sum (db : Database) (cart variantId : Uuid) :
    db.cartUnits cart variantId =
      ((db.chosenItems (Statements.isLineOf cart variantId)).map
        fun item => (item.quantity : Int)).sum := by
  rw [Database.cartUnits, unitsForCart, Database.chosenItems]
  induction objects db.cartItems with
  | nil => rfl
  | cons item items ih =>
      by_cases ofItem : Statements.isLineOf cart variantId item = true
      · simp [ofItem, ih]
      · simp [ofItem, ih]

end Line

section Alone

open Transaction

variable {db : Database} {session : Session} {cart variantId : Uuid}

theorem alone_activeVariant {variant : ProductVariant}
    (active : db.ActiveVariant variantId variant) :
    (Statements.activeVariant variantId).alone db = .ok variant db := by
  rw [Statements.activeVariant, alone_query_bind]
  cases found : (objects db.variants).find? fun variant =>
      variant.id = variantId && variant.isActive &&
        (db.products.find? variant.product).isSome with
  | none =>
      have listed : variant ∈ objects db.variants :=
        List.mem_filter.mpr ⟨active.member, active.isAlive⟩
      have notFound := List.find?_eq_none.mp found variant listed
      simp [active.id_eq, active.isActive, active.hasProduct] at notFound
  | some row =>
      have rowMem := (List.mem_filter.mp (List.mem_of_find?_eq_some found)).1
      have selected := List.find?_some found
      simp only [Bool.and_eq_true, decide_eq_true_eq] at selected
      have sameRow : row = variant := db.variants.eq_of_key_eq rowMem
        active.member (selected.1.1.trans active.id_eq.symm)
      rw [sameRow]
      rfl

theorem alone_lockLine {line : Option CartItem}
    (found : db.chosenItems (Statements.isLineOf cart variantId) =
      line.toList) :
    (Statements.lockLine session cart variantId).alone db = .ok line db := by
  have locked : (Statements.lockItems session
      (Statements.isLineOf cart variantId)).alone db =
        .ok (session.filter db.cartItems
          (Statements.isLineOf cart variantId)) db := by
    apply alone_selectForUpdate
    intro item listed
    exact List.mem_filter.mp ((session.filter_perm _ _).mem_iff.mp listed)
  have perm : (session.filter db.cartItems
      (Statements.isLineOf cart variantId)).Perm line.toList :=
    found ▸ session.scan_perm CartItem _
  rw [Statements.lockLine, alone_bind, bind_of_eq_ok locked]
  cases line with
  | none =>
      rw [List.perm_nil.mp perm]
      rfl
  | some line =>
      rw [List.perm_singleton.mp perm]
      rfl

theorem alone_insertLine {line : CartItem}
    (unused : line.id ∉ db.cartItems.keys)
    (noLine : NoLine db.cartItems line.cart line.variant) :
    (Statements.insertLine line).alone db =
      .ok true { db with cartItems := db.cartItems.insertNew line } := by
  have isFree : ¬db.cartItems.rows.any
      (Statements.isLineOf line.cart line.variant) = true := by
    rw [Bool.not_eq_true, List.any_eq_false]
    exact fun item member => Bool.eq_false_iff.mp (noLine item member)
  change (if line.id ∈ db.cartItems.keys then pure false
    else if db.cartItems.rows.any (Statements.isLineOf line.cart line.variant)
    then pure false else _ : Statements Bool).alone db = _
  rw [if_neg unused, if_neg isFree]
  rfl

/-- Without a deleted line the line is found or created. -/
theorem getOrCreateLine_returns (unique : LinesUnique db.cartItems)
    {line : CartItem} (unused : line.id ∉ db.cartItems.keys)
    (isEmpty : line.quantity = 0)
    (noneDeleted : ∀ item ∈ db.cartItems.rows,
      Statements.isLineOf line.cart line.variant item = true →
        alive item = true) :
    ∃ item items, (Statements.getOrCreateLine session line).alone db =
        .ok item { db with cartItems := items } ∧
      (item.quantity : Int) = db.cartUnits line.cart line.variant ∧
      item.cart = line.cart := by
  rw [Statements.getOrCreateLine, alone_bind, cartUnits_eq_sum]
  by_cases hasLine : ∃ item ∈ db.cartItems.rows,
      Statements.isLineOf line.cart line.variant item = true
  · obtain ⟨item, member, ofLine⟩ := hasLine
    have found := chosenItems_eq_singleton unique member
      (noneDeleted item member ofLine) ofLine
    have looked : (Statements.lockLine session line.cart line.variant).alone
        db = .ok (some item) db := alone_lockLine found
    rw [bind_of_eq_ok looked, found]
    simp only [Statements.isLineOf, Bool.and_eq_true, decide_eq_true_eq]
      at ofLine
    exact ⟨item, db.cartItems, rfl, by simp, ofLine.1⟩
  · have noLine : NoLine db.cartItems line.cart line.variant := by
      intro item member
      rw [← Bool.not_eq_true]
      exact fun ofLine => hasLine ⟨item, member, ofLine⟩
    have found := chosenItems_eq_nil noLine
    have looked : (Statements.lockLine session line.cart line.variant).alone
        db = .ok none db := alone_lockLine found
    rw [bind_of_eq_ok looked, found]
    dsimp only
    rw [alone_bind, bind_of_eq_ok (alone_insertLine unused noLine)]
    exact ⟨line, _, rfl, by simp [isEmpty], rfl⟩

end Alone

/-- An addition that returned has left one visible line for the variant, with
that many more units. -/
structure UnitsAdded (db after : Database) (cart variantId : Uuid)
    (quantity : Int) (line : CartItem) : Prop where
  onlyLine : after.chosenItems (Statements.isLineOf cart variantId) = [line]
  quantity_eq : (line.quantity : Int) =
    db.cartUnits cart variantId + quantity

section Addition

variable {db after : Database} {session : Session} {cart variantId : Uuid}
  {quantity : Int}

theorem unitsAdded_of_returned (unique : LinesUnique db.cartItems)
    {line saved : CartItem} {items : Table CartItem}
    (adds : AddsTo exclusive cart variantId quantity db after line saved
      items) :
    UnitsAdded db after cart variantId quantity saved := by
  have counted := adds.cartUnits cart variantId
  rw [if_pos ⟨rfl, rfl⟩] at counted
  obtain ⟨_, hasLine, isAlive, ofLine, ⟨_, row, _, _, rfl⟩, rfl⟩ := adds
  have placed : LinesUnique (items.save
      (Statements.addedTo line quantity row)) :=
    (unique.hasLine hasLine).save hasLine.mem ⟨rfl, rfl, rfl⟩
  have sameKey : Keyed.key line =
      Keyed.key (Statements.addedTo line quantity row) := rfl
  have saved : Statements.addedTo line quantity row ∈
      (items.save (Statements.addedTo line quantity row)).rows :=
    Table.mem_save.mpr (Or.inr ⟨rfl,
      sameKey ▸ List.mem_map_of_mem hasLine.mem⟩)
  have onlyLine : Database.chosenItems { db with
        cartItems := items.save (Statements.addedTo line quantity row) }
      (Statements.isLineOf cart variantId) =
        [Statements.addedTo line quantity row] :=
    chosenItems_eq_singleton placed saved isAlive ofLine
  refine ⟨onlyLine, ?_⟩
  rw [cartUnits_eq_sum, onlyLine] at counted
  simpa using counted

/-- A deleted line stands in the way. -/
theorem noneDeleted_of_returned (unique : LinesUnique db.cartItems)
    {line saved : CartItem} {items : Table CartItem}
    (adds : AddsTo exclusive cart variantId quantity db after line saved
      items) :
    ∀ item ∈ db.cartItems.rows,
      Statements.isLineOf cart variantId item = true → alive item = true := by
  intro item member ofItem
  have isAlive := adds.isAlive
  have ofLine := adds.ofLine
  simp only [Statements.isLineOf, Bool.and_eq_true, decide_eq_true_eq]
    at ofItem ofLine
  cases adds.hasLine with
  | found lineMem =>
      rw [unique item member line lineMem (ofItem.1.trans ofLine.1.symm)
        (ofItem.2.trans ofLine.2.symm)]
      exact isAlive
  | created _ _ noLine =>
      have elsewhere := noLine item member
      simp [Statements.isLineOf, ofItem, ofLine] at elsewhere

theorem addItem_returns (unique : LinesUnique db.cartItems)
    {variant : ProductVariant} (active : db.ActiveVariant variantId variant)
    (hasCart : cart ∈ db.carts.keys) (positive : 0 < quantity)
    (within : db.cartUnits cart variantId + quantity ≤
      getAvailable db variantId)
    (noneDeleted : ∀ item ∈ db.cartItems.rows,
      Statements.isLineOf cart variantId item = true → alive item = true) :
    ∃ line after, addItem session cart variantId quantity db =
      .ok line after := by
  obtain rfl := active.id_eq
  let new := Statements.newLine session (FreshKey.fresh db.cartItems.keys)
    cart variant
  have unused : new.id ∉ db.cartItems.keys :=
    FreshKey.fresh_notMem db.cartItems.keys
  have isEmpty : new.quantity = 0 := rfl
  obtain ⟨item, items, got, units, sameCart⟩ :=
    getOrCreateLine_returns unique unused isEmpty noneDeleted
  have enough : ¬getAvailable { db with cartItems := items } variant.id <
      item.quantity + quantity := by
    rw [units]
    exact not_lt.mpr within
  have added : (Statements.addItem session (FreshKey.fresh db.cartItems.keys)
      cart variant.id quantity).alone db =
        .ok (Statements.addedTo item quantity variant) { db with
          cartItems := items.save
            (Statements.addedTo item quantity variant) } := by
    rw [Statements.addItem, if_neg (not_le.mpr positive),
      Transaction.alone_bind, bind_of_eq_ok (alone_activeVariant active),
      Transaction.alone_bind, bind_of_eq_ok got]
    change (if _ then _ else _ : Statements CartItem).alone _ = _
    rw [if_neg enough]
    rfl
  refine ⟨Statements.addedTo item quantity variant, { db with
      cartItems := items.save (Statements.addedTo item quantity variant) },
    atomic_eq_ok.mpr (bind_eq_ok.mpr ⟨_, _, added, ?_⟩)⟩
  rw [get_bind]
  have stillThere : (Statements.addedTo item quantity variant).cart ∈
      db.carts.keys := sameCart.symm ▸ hasCart
  rw [if_pos stillThere]
  rfl

end Addition

/-- After any history an addition within the available units succeeds, and
leaves one line with that many more units, exactly if no line of the cart for
the variant was deleted. -/
theorem addItem_succeeds_iff {initial db : Database}
    {history : List CartCommand} (unique : LinesUnique initial.cartItems)
    (reached : exec CartCommand.step initial history = db)
    (session : Session) {cart variantId : Uuid} {quantity : Int}
    (hasCart : cart ∈ db.carts.keys)
    (isActive : ∃ variant, db.ActiveVariant variantId variant)
    (positive : 0 < quantity)
    (within : db.cartUnits cart variantId + quantity ≤
      getAvailable db variantId) :
    (∃ line after, addItem session cart variantId quantity db =
        .ok line after ∧
        UnitsAdded db after cart variantId quantity line) ↔
      ∀ item ∈ db.cartItems.rows,
        Statements.isLineOf cart variantId item = true →
          alive item = true := by
  have placed : LinesUnique db.cartItems := reached ▸ unique.history history
  constructor
  · rintro ⟨line, after, returned, _⟩
    obtain ⟨_, _, adds, _⟩ := addItem_eq_ok returned
    exact noneDeleted_of_returned placed adds
  · intro noneDeleted
    obtain ⟨variant, active⟩ := isActive
    obtain ⟨line, after, returned⟩ : ∃ line after,
        addItem session cart variantId quantity db = .ok line after :=
      addItem_returns placed active hasCart positive within noneDeleted
    obtain ⟨_, _, adds, _⟩ := addItem_eq_ok returned
    exact ⟨line, after, returned, unitsAdded_of_returned placed adds⟩

/-- The variant stays active whatever is done to the carts. -/
theorem activeVariant_twoCarts (history : List CartCommand) :
    ∃ variant, (exec CartCommand.step (twoCarts 5) history).ActiveVariant 7
      variant := by
  let SameCatalog (before after : Database) : Prop :=
    after.variants = before.variants ∧ after.products = before.products
  have catalog : SameCatalog (twoCarts 5)
      (exec CartCommand.step (twoCarts 5) history) := by
    refine exec_relation SameCatalog (fun _ => ⟨rfl, rfl⟩) ?_ ?_
      (guarded_true _ history)
    · rintro first second third ⟨variants, products⟩ ⟨sameVariants, same⟩
      exact ⟨sameVariants.trans variants, same.trans products⟩
    · exact fun db command _ => (cartEffect_step db command).catalog_eq
  obtain ⟨variants_eq, products_eq⟩ := catalog
  have member : _ ∈ (twoCarts 5).variants.rows := List.mem_singleton_self _
  refine ⟨_, variants_eq ▸ member, rfl, rfl, rfl, ?_⟩
  rw [products_eq]
  rfl

/-- The line is updated, and the cart of another line cleared. -/
theorem addItem_succeeds_updated :
    let db := exec CartCommand.step (twoCarts 5)
      [.updateItem { now := 1 } 10 20 2, .clearCart { now := 1 } 11]
    ∃ line after, addItem { now := 2 } 10 7 3 db = .ok line after ∧
      UnitsAdded db after 10 7 3 line := by
  have unique : LinesUnique (twoCarts 5).cartItems := by
    unfold LinesUnique
    decide
  exact (addItem_succeeds_iff unique rfl { now := 2 } (by decide +kernel)
    (activeVariant_twoCarts _) (by decide) (by decide +kernel)).mpr
      (by decide +kernel)

/-- The line is removed, and its variant cannot be added again although five
units of it are available. -/
theorem addItem_fails_after_removal :
    let db := exec CartCommand.step (twoCarts 5)
      [.removeItem { now := 1 } 10 20]
    LinesUnique (twoCarts 5).cartItems ∧ 10 ∈ db.carts.keys ∧
      (∃ variant, db.ActiveVariant 7 variant) ∧
      db.cartUnits 10 7 + 1 ≤ getAvailable db 7 ∧
      ¬Returns (addItem { now := 2 } 10 7 1) db := by
  refine ⟨?_, ?_, activeVariant_twoCarts _, ?_, ?_⟩
  · unfold LinesUnique
    decide
  · decide +kernel
  · decide +kernel
  · decide +kernel

end NovaCommerce
