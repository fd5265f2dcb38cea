import NovaCommerce.LiveCarts
import NovaCommerce.MergeEffects

/-!
# Carts after any history

What the constraints of the cart tables promise, and what the services keep
besides, holds after every history of calls: lines have carts and variants of
their own, visible lines have units, every owner has at most one live cart, and
a guest cart has a session key.
-/

namespace NovaCommerce

open AtomicCall GuardedRun LockingTransactions

/-- The visible lines have units. -/
def Database.LinesPositive (db : Database) : Prop :=
  ∀ item ∈ db.cartItems.rows, alive item = true → 0 < item.quantity

/-- The cart items obey the constraints of their table, and the visible ones
have units. -/
structure LinesSound (db : Database) : Prop where
  unique : LinesUnique db.cartItems
  haveCarts : db.LinesHaveCarts
  haveVariants : db.LinesHaveVariants
  positive : db.LinesPositive

/-- Every owner has one live cart at most, and guests have session keys. -/
structure OwnersSound (db : Database) : Prop where
  oneLive : db.OneLiveCart
  keyed : ∀ cart ∈ db.carts.rows, cart.user = none → cart.sessionKey ≠ ""

structure CartsSound (db : Database) : Prop extends
  LinesSound db, OwnersSound db

/-- Every line is in the place of an old one, or in a new place. -/
def PlacesKept (before after : Table CartItem) (isNew : Uuid → Uuid → Prop) :
    Prop :=
  ∀ row ∈ after.rows, (∃ old ∈ before.rows, old.cart = row.cart ∧
    old.variant = row.variant) ∨ isNew row.cart row.variant

section Places

variable {items lines : Table CartItem} {isNew : Uuid → Uuid → Prop}

theorem placesKept_refl (items : Table CartItem) :
    PlacesKept items items isNew :=
  fun row member => Or.inl ⟨row, member, rfl, rfl⟩

theorem placesKept_alter {change : CartItem → CartItem}
    {keepsKey : ∀ item, Keyed.key (change item) = Keyed.key item}
    (keepsPlace : ∀ item ∈ items.rows, (change item).cart = item.cart ∧
      (change item).variant = item.variant) :
    PlacesKept items (items.alter change keepsKey) isNew := by
  intro row member
  obtain ⟨old, oldMem, rfl⟩ := List.mem_map.mp member
  obtain ⟨sameCart, sameVariant⟩ := keepsPlace old oldMem
  exact Or.inl ⟨old, oldMem, sameCart.symm, sameVariant.symm⟩

theorem placesKept_withDeleted (session : Session) (ids : List Uuid) :
    PlacesKept items (Statements.withDeleted session ids items) isNew := by
  apply placesKept_alter
  intro item _
  split <;> exact ⟨rfl, rfl⟩

theorem placesKept_emptiedItems (session : Session) (cart : Uuid) :
    PlacesKept items (emptiedItems session cart items) isNew := by
  apply placesKept_alter
  intro item _
  unfold softDeleteItemOf
  split <;> exact ⟨rfl, rfl⟩

theorem placesKept_save {line saved : CartItem} (member : line ∈ items.rows)
    (sameCart : saved.cart = line.cart)
    (sameVariant : saved.variant = line.variant) :
    PlacesKept items (items.save saved) isNew := by
  intro row rowMem
  rcases Table.mem_save.mp rowMem with ⟨old, _⟩ | ⟨rfl, _⟩
  · exact Or.inl ⟨row, old, rfl, rfl⟩
  · exact Or.inl ⟨line, member, sameCart.symm, sameVariant.symm⟩

theorem placesKept_insertNew {line : CartItem}
    (place : isNew line.cart line.variant) :
    PlacesKept items (items.insertNew line) isNew := by
  intro row member
  by_cases unused : line.id ∉ items.keys
  · rw [Table.rows_insertNew unused, List.mem_append, List.mem_singleton]
      at member
    rcases member with old | rfl
    · exact Or.inl ⟨row, old, rfl, rfl⟩
    · exact Or.inr place
  · have unchanged : items.insertNew line = items := dif_neg unused
    rw [unchanged] at member
    exact Or.inl ⟨row, member, rfl, rfl⟩

theorem PlacesKept.trans {middle : Table CartItem}
    (first : PlacesKept items middle isNew)
    (second : PlacesKept middle lines isNew) :
    PlacesKept items lines isNew := by
  intro row member
  rcases second row member with ⟨old, oldMem, sameCart, sameVariant⟩ | new
  · rw [← sameCart, ← sameVariant]
    exact first old oldMem
  · exact Or.inr new

theorem placesKept_mergesLines {userCart : Uuid}
    {variants : Table ProductVariant} {guestLines : List CartItem}
    (merges : MergesLines userCart variants guestLines items lines) :
    PlacesKept items lines fun cart variant =>
      cart = userCart ∧ variant ∈ variants.keys := by
  induction merges with
  | nil items => exact placesKept_refl items
  | cons found first _ ih =>
      refine PlacesKept.trans ?_ ih
      obtain ⟨variantMem, variantKey⟩ := Table.find?_eq_some.mp found
      cases first with
      | existing member => exact placesKept_save member rfl rfl
      | created _ ofLine =>
          apply placesKept_insertNew
          obtain ⟨sameCart, sameVariant⟩ := isLineOf_iff.mp ofLine
          refine ⟨sameCart, ?_⟩
          rw [sameVariant, ← variantKey]
          exact List.mem_map_of_mem variantMem

end Places

/-- Lines that stay in their places, or have places in the tables. -/
theorem LinesSound.of_places {db after : Database} (sound : LinesSound db)
    (unique : LinesUnique after.cartItems)
    (places : PlacesKept db.cartItems after.cartItems fun cart variant =>
      cart ∈ after.carts.keys ∧ variant ∈ after.variants.keys)
    (carts : ∀ id ∈ db.carts.keys, id ∈ after.carts.keys)
    (sameVariants : after.variants = db.variants)
    (positive : after.LinesPositive) :
    LinesSound after := by
  refine ⟨unique, ?_, ?_, positive⟩
  · intro row member
    rcases places row member with ⟨old, oldMem, sameCart, _⟩ | new
    · exact sameCart ▸ carts _ (sound.haveCarts old oldMem)
    · exact new.1
  · intro row member
    rcases places row member with ⟨old, oldMem, _, sameVariant⟩ | new
    · rw [sameVariants, ← sameVariant]
      exact sound.haveVariants old oldMem
    · exact new.2

theorem keys_of_cartsKept {carts after : Table Cart}
    (kept : CartsKept carts after) : ∀ id ∈ carts.keys, id ∈ after.keys := by
  intro id member
  obtain ⟨cart, cartMem, rfl⟩ := List.mem_map.mp member
  obtain ⟨row, rowMem, sameId, _⟩ := kept cart cartMem
  exact List.mem_map.mpr ⟨row, rowMem, sameId⟩

/-- A line that absorbed a guest line has units. -/
theorem Absorbs.positive {session : Session} {userCart lineId : Uuid}
    {item : CartItem} {variant : ProductVariant} {items lines : Table CartItem}
    (absorbs : Absorbs session userCart lineId item variant items lines)
    (hasUnits : 0 < item.quantity)
    (positive : ∀ line ∈ items.rows, alive line = true → 0 < line.quantity) :
    ∀ line ∈ lines.rows, alive line = true → 0 < line.quantity := by
  cases absorbs with
  | existing =>
      exact forall_save positive (Nat.add_pos_right _ hasUnits)
  | created unused =>
      exact forall_insertNew positive unused (Nat.add_pos_right _ hasUnits)

theorem AbsorbsAll.positive {session : Session} {userCart : Uuid}
    {draw : Uuid → Uuid} {variants : Table ProductVariant}
    {guestLines : List CartItem} {items lines : Table CartItem}
    (absorbs : AbsorbsAll session userCart draw variants guestLines items
      lines)
    (haveUnits : ∀ item ∈ guestLines, 0 < item.quantity)
    (positive : ∀ line ∈ items.rows, alive line = true → 0 < line.quantity) :
    ∀ line ∈ lines.rows, alive line = true → 0 < line.quantity := by
  induction absorbs with
  | nil => exact positive
  | cons _ first _ ih =>
      exact ih (fun item listed => haveUnits item
        (List.mem_cons_of_mem _ listed))
        (first.positive (haveUnits _ List.mem_cons_self) positive)

section Owners

variable {db after : Database}

theorem isCartOfUser_iff {user : Uuid} {cart : Cart} :
    isCartOfUser user cart = true ↔ cart.owner = .user user := by
  rw [isCartOfUser, decide_eq_true_eq, Cart.owner]
  cases cart.user <;> simp

theorem isCartOfSession_iff {sessionKey : String} {cart : Cart} :
    isCartOfSession sessionKey cart = true ↔
      cart.owner = .guest sessionKey := by
  rw [isCartOfSession, Bool.and_eq_true, decide_eq_true_eq, decide_eq_true_eq,
    Cart.owner]
  cases cart.user <;> simp

/-- Carts that keep their owners, and that stay deleted. -/
theorem OwnersSound.of_rows (sound : OwnersSound db) {change : Cart → Cart}
    (rows_eq : after.carts.rows = db.carts.rows.map change)
    (keeps : ∀ cart ∈ db.carts.rows, (change cart).user = cart.user ∧
      (change cart).sessionKey = cart.sessionKey ∧
      alive (change cart) = alive cart) :
    OwnersSound after := by
  have sameOwners : (objects after.carts).map Cart.owner =
      (objects db.carts).map Cart.owner := by
    rw [objects, rows_eq, objects, List.filter_map, List.map_map]
    have sameAlive : db.carts.rows.filter (alive ∘ change) =
        db.carts.rows.filter alive :=
      List.filter_congr fun cart member => (keeps cart member).2.2
    rw [sameAlive]
    apply List.map_congr_left
    intro cart listed
    obtain ⟨sameUser, sameKey, _⟩ := keeps cart (List.mem_filter.mp listed).1
    rw [Function.comp_apply, Cart.owner, Cart.owner, sameUser, sameKey]
  refine ⟨?_, ?_⟩
  · rw [Database.OneLiveCart, sameOwners]
    exact sound.oneLive
  · intro row member ofGuest
    rw [rows_eq] at member
    obtain ⟨cart, cartMem, rfl⟩ := List.mem_map.mp member
    obtain ⟨sameUser, sameKey, _⟩ := keeps cart cartMem
    rw [sameKey]
    exact sound.keyed cart cartMem (sameUser ▸ ofGuest)

theorem OwnersSound.of_same (sound : OwnersSound db)
    (carts_eq : after.carts = db.carts) : OwnersSound after :=
  ⟨by rw [Database.OneLiveCart, carts_eq]; exact sound.oneLive,
    carts_eq ▸ sound.keyed⟩

/-- A cart is created only for an owner who has none. -/
theorem OwnersSound.gives (sound : OwnersSound db) {chosen : Cart → Bool}
    {owner : Owner} (isOwner : ∀ cart, chosen cart = true ↔ cart.owner = owner)
    {new cart : Cart} (ofNew : new.owner = owner)
    (keyed : new.user = none → new.sessionKey ≠ "") {carts : Table Cart}
    (gives : GivesCart db chosen new cart carts) :
    OwnersSound { db with carts } := by
  cases gives with
  | found => exact sound
  | created noneFound unused =>
      refine ⟨oneLiveCart_insertNew sound.oneLive rfl ?_, ?_⟩
      · intro _ other otherMem sameOwner
        have listed : other ∈ db.chosenCarts chosen :=
          List.mem_filter.mpr ⟨otherMem,
            (isOwner other).mpr (sameOwner.trans ofNew)⟩
        rw [noneFound] at listed
        cases listed
      · intro row member
        change row ∈ (db.carts.insertNew new).rows at member
        rw [Table.rows_insertNew unused, List.mem_append,
          List.mem_singleton] at member
        rcases member with old | rfl
        · exact sound.keyed row old
        · exact keyed

theorem OwnersSound.withDeletedCart (sound : OwnersSound db)
    (session : Session) (id : Uuid)
    (carts_eq : after.carts =
      Statements.withDeletedCart session db.carts id) : OwnersSound after := by
  refine ⟨oneLiveCart_withDeletedCart sound.oneLive carts_eq, ?_⟩
  intro row member
  rw [carts_eq] at member
  obtain ⟨cart, cartMem, rfl⟩ := List.mem_map.mp member
  split <;> exact sound.keyed cart cartMem

end Owners

section Calls

variable {db after : Database}

theorem GivesCart.mem {chosen : Cart → Bool} {new cart : Cart}
    {carts : Table Cart} (gives : GivesCart db chosen new cart carts) :
    cart ∈ carts.rows :=
  gives.hasCart.mem fun _ listed => mem_chosenCarts listed

/-- A call leaves the lines in their places, or puts them into new ones. -/
theorem CartEffect.places {command : CartCommand}
    (effect : CartEffect db command after) :
    PlacesKept db.cartItems after.cartItems fun cart variant =>
      cart ∈ after.carts.keys ∧ variant ∈ after.variants.keys := by
  cases effect with
  | unchanged => exact placesKept_refl _
  | created => exact placesKept_refl _
  | added adds hasCart =>
      obtain ⟨_, hasLine, _, ofLine, ⟨_, variant, rfl, active, rfl⟩, rfl⟩ :=
        adds
      obtain ⟨rfl, rfl⟩ := isLineOf_iff.mp ofLine
      refine PlacesKept.trans ?_ (placesKept_save hasLine.mem rfl rfl)
      cases hasLine with
      | found => exact placesKept_refl _
      | created =>
          apply placesKept_insertNew
          refine ⟨hasCart, ?_⟩
          rw [← active.id_eq]
          exact List.mem_map_of_mem (f := Keyed.key) active.member
  | updated updates =>
      rcases updates.after_eq with ⟨_, _, rfl⟩ | ⟨_, _, rfl⟩
      · exact placesKept_withDeleted _ _
      · exact placesKept_save updates.member rfl rfl
  | removed ids | cleared ids => exact placesKept_withDeleted _ ids
  | merged anonOnly hasCart perm merges =>
      intro row member
      refine (placesKept_mergesLines merges row member).imp_right ?_
      rintro ⟨inCart, hasVariant⟩
      have cartMem := hasCart.mem fun _ listed => mem_chosenCarts listed
      rw [inCart]
      exact ⟨keys_of_cartsKept (cartsKept_withDeletedCart _ _ _) _
        (List.mem_map_of_mem cartMem), hasVariant⟩
  | checkedOut member checkedOut =>
      rw [checkedOut.after_eq]
      exact placesKept_emptiedItems _ _

/-- Every call leaves units in the visible lines. -/
theorem linesPositive_step (positive : db.LinesPositive)
    (command : CartCommand) : (command.step db).LinesPositive := by
  cases command with
  | getOrCreateCart session user sessionKey =>
      refine effect_settle (fun _ _ => atomic_eq_error) positive ?_
      intro cart after returned
      obtain ⟨_, _, _, rfl⟩ := getOrCreateCart_eq_ok returned
      exact positive
  | addItem session cart variantId quantity =>
      refine effect_settle (fun _ _ => atomic_eq_error) positive ?_
      intro saved after returned
      obtain ⟨line, items, adds, _⟩ := addItem_eq_ok returned
      obtain ⟨isPositive, hasLine, _, _, ⟨_, variant, _, _, rfl⟩, rfl⟩ := adds
      apply hasLine.forall_save positive (by rfl)
      change 0 < line.quantity + quantity.toNat
      omega
  | updateItem session cart itemId quantity =>
      refine effect_settle (fun _ _ => atomic_eq_error) positive ?_
      intro saved after returned
      obtain ⟨found, updates⟩ := updateItem_eq_ok returned
      rcases updates.after_eq with ⟨_, _, rfl⟩ | ⟨isPositive, _, rfl⟩
      · exact forall_withDeleted positive session _
      · apply forall_save positive
        change 0 < quantity.toNat
        omega
  | removeItem session cart itemId =>
      refine effect_settle (fun _ _ => atomic_eq_error) positive ?_
      intro value after returned
      obtain ⟨ids, rfl⟩ := removeItem_eq_ok returned
      exact forall_withDeleted positive session ids
  | clearCart session cart =>
      refine effect_settle (fun _ _ => atomic_eq_error) positive ?_
      intro value after returned
      obtain ⟨ids, rfl⟩ := clearCart_eq_ok returned
      exact forall_withDeleted positive session ids
  | mergeAnonymousIntoUser session sessionKey user =>
      refine effect_settle (fun _ _ => atomic_eq_error) positive ?_
      intro result after returned
      cases mergesGuest_of_returned returned with
      | nothing => exact positive
      | merged _ _ _ absorbs =>
          refine absorbs.positive ?_ positive
          intro item listed
          have inCart := (session.scan_perm CartItem _).mem_iff.mp listed
          obtain ⟨member, isAlive, _⟩ := mem_itemsOf.mp inCart
          exact positive item member isAlive
  | createOrderFromCart session cart user payload =>
      have effect := cartEffect_step db
        (.createOrderFromCart session cart user payload)
      generalize CartCommand.step db _ = after at effect ⊢
      cases effect with
      | unchanged => exact positive
      | checkedOut _ checkedOut =>
          rw [checkedOut.after_eq]
          exact forall_emptiedItems positive session _

theorem LinesSound.step (sound : LinesSound db) (command : CartCommand) :
    LinesSound (command.step db) := by
  have effect := cartEffect_step db command
  exact sound.of_places (sound.unique.step effect) effect.places
    (keys_of_cartsKept effect.cartsKept) effect.catalog_eq.1
    (linesPositive_step sound.positive command)

theorem getOrCreateCart_gives {session : Session} {user : Option Uuid}
    {sessionKey : String} {cart : Cart}
    (returned : getOrCreateCart session user sessionKey db =
      .ok cart after) :
    ∃ chosen owner new carts,
      (∀ other, chosen other = true ↔ other.owner = owner) ∧
      new.owner = owner ∧ (new.user = none → new.sessionKey ≠ "") ∧
      (new.createdAt = session.now ∧ new.lastActiveAt = session.now) ∧
      GivesCart db chosen new cart carts ∧
      after = { db with carts := carts } := by
  have alone := atomic_eq_ok.mp returned
  unfold Statements.getOrCreateCart at alone
  cases user with
  | some user =>
      obtain ⟨carts, gives, after_eq⟩ := oneOrCreate_gives alone
      exact ⟨isCartOfUser user, .user user, _, carts,
        fun _ => isCartOfUser_iff, rfl, by simp, ⟨rfl, rfl⟩, gives, after_eq⟩
  | none =>
      by_cases noKey : sessionKey = ""
      · simp only [noKey, if_true] at alone
        exact (throw_eq_ok.mp alone).elim
      · simp only [noKey, if_false] at alone
        obtain ⟨carts, gives, after_eq⟩ := oneOrCreate_gives alone
        exact ⟨isCartOfSession sessionKey, .guest sessionKey, _, carts,
          fun _ => isCartOfSession_iff, rfl, fun _ => noKey, ⟨rfl, rfl⟩, gives,
          after_eq⟩

/-- Every call leaves at most one live cart per owner. -/
theorem OwnersSound.step (sound : OwnersSound db) (command : CartCommand) :
    OwnersSound (command.step db) := by
  cases command with
  | getOrCreateCart session user sessionKey =>
      refine effect_settle (fun _ _ => atomic_eq_error) sound ?_
      intro cart after returned
      obtain ⟨_, _, _, _, isOwner, ofNew, keyed, _, gives, rfl⟩ :=
        getOrCreateCart_gives returned
      exact sound.gives isOwner ofNew keyed gives
  | addItem session cart variantId quantity =>
      refine effect_settle (fun _ _ => atomic_eq_error) sound ?_
      intro saved after returned
      obtain ⟨line, items, adds, _⟩ := addItem_eq_ok returned
      exact sound.of_same (by rw [adds.after_eq])
  | updateItem session cart itemId quantity =>
      refine effect_settle (fun _ _ => atomic_eq_error) sound ?_
      intro saved after returned
      obtain ⟨found, updates⟩ := updateItem_eq_ok returned
      rcases updates.after_eq with ⟨_, _, rfl⟩ | ⟨_, _, rfl⟩ <;>
        exact sound.of_same rfl
  | removeItem session cart itemId =>
      refine effect_settle (fun _ _ => atomic_eq_error) sound ?_
      intro value after returned
      obtain ⟨ids, rfl⟩ := removeItem_eq_ok returned
      exact sound.of_same rfl
  | clearCart session cart =>
      refine effect_settle (fun _ _ => atomic_eq_error) sound ?_
      intro value after returned
      obtain ⟨ids, rfl⟩ := clearCart_eq_ok returned
      refine sound.of_rows (by rfl) ?_
      intro row _
      split <;> exact ⟨rfl, rfl, rfl⟩
  | mergeAnonymousIntoUser session sessionKey user =>
      refine effect_settle (fun _ _ => atomic_eq_error) sound ?_
      intro result after returned
      cases mergesGuest_of_returned returned with
      | nothing => exact sound
      | merged _ _ gives _ =>
          have given := sound.gives (fun _ => isCartOfUser_iff) (by rfl)
            (by simp [mergedCart]) gives
          exact given.withDeletedCart session _ rfl
  | createOrderFromCart session cart user payload =>
      have effect := cartEffect_step db
        (.createOrderFromCart session cart user payload)
      generalize CartCommand.step db _ = after at effect ⊢
      cases effect with
      | unchanged => exact sound
      | checkedOut _ checkedOut =>
          have conversion := exactConversion_of_checkedOut checkedOut
          refine sound.of_rows conversion.carts_eq ?_
          intro row _
          split <;> exact ⟨rfl, rfl, rfl⟩

theorem CartsSound.step (sound : CartsSound db) (command : CartCommand) :
    CartsSound (command.step db) :=
  ⟨sound.toLinesSound.step command, sound.toOwnersSound.step command⟩

/-- Every history keeps what the services rely on. -/
theorem CartsSound.history (sound : CartsSound db)
    (commands : List CartCommand) :
    CartsSound (exec CartCommand.step db commands) := by
  have kept : ∀ (state : Database) (command : CartCommand),
      CartsSound state → CartsSound (command.step state) :=
    fun _ command sound => sound.step command
  exact exec_invariant_of_steps kept sound commands

theorem LinesPositive.history (positive : db.LinesPositive)
    (commands : List CartCommand) :
    (exec CartCommand.step db commands).LinesPositive := by
  have kept : ∀ (state : Database) (command : CartCommand),
      state.LinesPositive → (command.step state).LinesPositive :=
    fun _ command positive => linesPositive_step positive command
  exact exec_invariant_of_steps kept positive commands

/-- The visible lines of a cart are for variants of their own. -/
theorem LinesUnique.variants_nodup (unique : LinesUnique db.cartItems)
    (cart : Uuid) : ((db.itemsOf cart).map CartItem.variant).Nodup := by
  have nodup : (db.itemsOf cart).Nodup :=
    (db.cartItems.nodup_rows.filter _).filter _
  apply (List.nodup_map_iff_inj_on nodup).mpr
  intro first firstMem second secondMem sameVariant
  obtain ⟨member, _, ofCart⟩ := mem_itemsOf.mp firstMem
  obtain ⟨otherMember, _, otherOfCart⟩ := mem_itemsOf.mp secondMem
  exact unique first member second otherMember
    (ofCart.trans otherOfCart.symm) sameVariant

/-- In the middle of an addition the new line has no units yet: the database
is sound again only once the line is saved, or the insertion rolled back. -/
theorem not_linesPositive_insertLine {line : CartItem}
    (unused : line.id ∉ db.cartItems.keys)
    (noLine : NoLine db.cartItems line.cart line.variant)
    (isAlive : alive line = true) (isEmpty : line.quantity = 0) :
    ∃ middle, (Statements.insertLine line).alone db = .ok true middle ∧
      ¬middle.LinesPositive := by
  refine ⟨_, alone_insertLine unused noLine, ?_⟩
  intro positive
  have hasUnits := positive line
    (by rw [Table.rows_insertNew unused]; simp) isAlive
  omega

/-- After every run of calls, with any quantities and whether they returned or
raised, the visible lines of a cart have at least one unit each, and no two of
them are for one variant. -/
theorem lines_stay_positive {start : Database}
    (unique : LinesUnique start.cartItems) (positive : start.LinesPositive)
    (commands : List CartCommand) (cart : Uuid) :
    let db := exec CartCommand.step start commands
    (∀ item ∈ db.itemsOf cart, 1 ≤ item.quantity) ∧
      ((db.itemsOf cart).map CartItem.variant).Nodup := by
  intro db
  refine ⟨?_, (unique.history commands).variants_nodup cart⟩
  intro item listed
  obtain ⟨member, isAlive, _⟩ := mem_itemsOf.mp listed
  exact LinesPositive.history positive commands item member isAlive

end Calls

/-- A line is added and updated, a later addition is refused for want of units,
and an update to a negative quantity removes the line. -/
theorem lines_stay_positive_twoCarts :
    let db := exec CartCommand.step (twoCarts 5)
      [.addItem { now := 1 } 10 7 2, .updateItem { now := 2 } 10 20 3,
        .addItem { now := 3 } 10 7 9, .addItem { now := 4 } 11 7 (-1),
        .updateItem { now := 5 } 11 21 (-4)]
    LinesUnique (twoCarts 5).cartItems ∧ (twoCarts 5).LinesPositive ∧
      (∀ item ∈ db.itemsOf 10, 1 ≤ item.quantity) ∧
        ((db.itemsOf 10).map CartItem.variant).Nodup := by
  have unique : LinesUnique (twoCarts 5).cartItems := by
    unfold LinesUnique
    decide
  have positive : (twoCarts 5).LinesPositive := by
    unfold Database.LinesPositive
    decide
  exact ⟨unique, positive, lines_stay_positive unique positive _ 10⟩

end NovaCommerce
