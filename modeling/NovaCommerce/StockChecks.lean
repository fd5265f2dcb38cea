import NovaCommerce.GuestMerges

/-!
# Increases of cart lines against the stock

The cart services promise to validate the stock when a cart is modified.  An
addition and an update check the quantity that the line gets; a merge adds the
units of two lines and checks nothing, so that it keeps the promise exactly if
every sum is available.
-/

namespace NovaCommerce

open AtomicCall GuardedRun LockingTransactions

/-- The units in a line; a line that is not there has none. -/
def Database.quantityOf (db : Database) (id : Uuid) : Nat :=
  ((db.cartItems.find? id).map CartItem.quantity).getD 0

/-- The call validates the stock: what it raises is available, and if only the
stock stops it, it says so and leaves everything as it was. -/
structure StockValidated {Value : Type} (call : Service Value) (db : Database) :
    Prop where
  within : ∀ value after, call db = .ok value after →
    ∀ line ∈ after.cartItems.rows, db.quantityOf line.id < line.quantity →
      line.quantity ≤ getAvailable db line.variant
  refused : ∀ raised after, call db = .error raised after → after = db ∧
    ((∃ stocks, Returns call { db with stocks }) →
      ∃ message, raised = .outOfStockError message)

section Edits

variable {db after : Database} {session : Session} {cart itemId : Uuid}
  {variantId : Uuid} {quantity : Int}

theorem quantityOf_of_mem {line : CartItem}
    (member : line ∈ db.cartItems.rows) :
    db.quantityOf line.id = line.quantity := by
  have found : db.cartItems.find? line.id = some line :=
    Table.find?_eq_some.mpr ⟨member, rfl⟩
  rw [Database.quantityOf, found]
  rfl

/-- A line that got more units is none of the old ones. -/
theorem notMem_of_raised {line : CartItem}
    (isRaised : db.quantityOf line.id < line.quantity) :
    line ∉ db.cartItems.rows := by
  intro member
  rw [quantityOf_of_mem member] at isRaised
  exact lt_irrefl _ isRaised

/-- An addition that asks for too much says that it is out of stock. -/
theorem addItem_refused (unique : LinesUnique db.cartItems)
    {variant : ProductVariant} (active : db.ActiveVariant variantId variant)
    (positive : 0 < quantity)
    (short : getAvailable db variantId <
      db.cartUnits cart variantId + quantity)
    (noneDeleted : NoneDeleted db.cartItems cart variantId) :
    ∃ message, addItem session cart variantId quantity db =
      .error (.outOfStockError message) db := by
  obtain rfl := active.id_eq
  let new := Statements.newLine session (FreshKey.fresh db.cartItems.keys)
    cart variant
  have unused : new.id ∉ db.cartItems.keys :=
    FreshKey.fresh_notMem db.cartItems.keys
  obtain ⟨item, items, got, units, _⟩ : ∃ item items,
      (Statements.getOrCreateLine session new).alone db =
        .ok item { db with cartItems := items } ∧
      (item.quantity : Int) = db.cartUnits new.cart new.variant ∧
      item.cart = new.cart :=
    getOrCreateLine_returns unique unused rfl noneDeleted
  have tooFew : getAvailable { db with cartItems := items } variant.id <
      item.quantity + quantity := by
    rw [units]
    exact short
  have raised : ∃ message, (Statements.addItem session
      (FreshKey.fresh db.cartItems.keys) cart variant.id quantity).alone db =
        .error (.outOfStockError message) { db with cartItems := items } := by
    rw [Statements.addItem, if_neg (not_le.mpr positive),
      Transaction.alone_bind, bind_of_eq_ok (alone_activeVariant active),
      Transaction.alone_bind, bind_of_eq_ok got, Transaction.alone_query_bind]
    dsimp only
    rw [if_pos tooFew]
    exact ⟨_, rfl⟩
  obtain ⟨message, raised⟩ := raised
  exact ⟨message, atomic_of_eq_error (bind_of_eq_error raised)⟩

theorem ActiveVariant.of_stocks {stocks : Table Stock}
    {variant : ProductVariant}
    (active : ({ db with stocks } : Database).ActiveVariant variantId
      variant) : db.ActiveVariant variantId variant :=
  ⟨active.member, active.isAlive, active.id_eq, active.isActive,
    active.hasProduct⟩

/-- Every addition validates the stock. -/
theorem addItem_validated (sound : LinesSound db) :
    StockValidated (addItem session cart variantId quantity) db := by
  constructor
  case within =>
    intro saved after returned row member isRaised
    obtain ⟨line, items, adds, _⟩ := addItem_eq_ok returned
    have isSaved : row = saved := by
      rw [adds.after_eq] at member
      obtain ⟨_, _, _, _, saved_eq⟩ := adds.saved_eq
      rcases Table.mem_save.mp member with ⟨kept, otherKey⟩ | ⟨same, _⟩
      · cases adds.hasLine with
        | found => exact absurd kept (notMem_of_raised isRaised)
        | created unused =>
            rw [Table.rows_insertNew unused, List.mem_append,
              List.mem_singleton] at kept
            rcases kept with old | rfl
            · exact absurd old (notMem_of_raised isRaised)
            · rw [saved_eq] at otherKey
              exact absurd rfl otherKey
      · exact same
    have units := (unitsAdded_of_returned sound.unique adds).quantity_eq
    have noneDeleted := noneDeleted_of_returned sound.unique adds
    obtain ⟨earlier, variant, same, active, saved_eq⟩ := adds.saved_eq
    obtain rfl : db = earlier := Eq.symm same
    have sameVariant : row.variant = variantId := by
      rw [isSaved, saved_eq]
      exact (isLineOf_iff.mp adds.ofLine).2
    rw [isSaved] at sameVariant ⊢
    rw [units, sameVariant]
    by_contra short
    obtain ⟨message, raised⟩ : ∃ message,
        addItem session cart variantId quantity db =
          .error (.outOfStockError message) db :=
      addItem_refused sound.unique active adds.positive (not_le.mp short)
        noneDeleted
    rw [returned] at raised
    cases raised
  case refused =>
    intro raised after failed
    refine ⟨atomic_eq_error failed, ?_⟩
    rintro ⟨stocks, saved, other, returned⟩
    generalize isStocked : ({ db with stocks } : Database) = stocked
      at returned
    have sameItems : stocked.cartItems = db.cartItems := by rw [← isStocked]
    obtain ⟨line, items, adds, hasCart⟩ := addItem_eq_ok returned
    have noneDeleted : NoneDeleted stocked.cartItems cart variantId :=
      noneDeleted_of_returned (sameItems ▸ sound.unique) adds
    rw [sameItems] at noneDeleted
    obtain ⟨earlier, variant, same, active, _⟩ := adds.saved_eq
    obtain rfl : stocked = earlier := Eq.symm same
    rw [← isStocked] at active hasCart
    have activeNow := ActiveVariant.of_stocks active
    by_cases short : getAvailable db variantId <
        db.cartUnits cart variantId + quantity
    · obtain ⟨message, refused⟩ : ∃ message,
          addItem session cart variantId quantity db =
            .error (.outOfStockError message) db :=
        addItem_refused sound.unique activeNow adds.positive short noneDeleted
      rw [failed] at refused
      obtain ⟨rfl, _⟩ := EStateM.Result.error.inj refused
      exact ⟨message, rfl⟩
    · obtain ⟨line, after, returnsNow⟩ : ∃ line after,
          addItem session cart variantId quantity db = .ok line after :=
        addItem_returns sound.unique activeNow hasCart adds.positive
          (not_lt.mp short) noneDeleted
      rw [failed] at returnsNow
      cases returnsNow

/-- The query for a line by its identifier. -/
theorem alone_lockLineById {line : CartItem}
    (member : line ∈ db.cartItems.rows) (isAlive : alive line = true) :
    (Statements.lockItems session fun item =>
      item.id = line.id && item.cart = line.cart).alone db =
        .ok [line] db := by
  have found : (db.chosenItems fun item =>
      item.id = line.id && item.cart = line.cart).Perm [line] := by
    apply (List.perm_ext_iff_of_nodup
      (List.Nodup.of_map Keyed.key (nodup_chosenItems db _))
      (List.nodup_singleton line)).mpr
    intro item
    rw [mem_chosenItems, List.mem_singleton]
    constructor
    · rintro ⟨itemMem, _, chosen⟩
      simp only [Bool.and_eq_true, decide_eq_true_eq] at chosen
      exact db.cartItems.eq_of_key_eq itemMem member chosen.1
    · rintro rfl
      exact ⟨member, isAlive, by simp⟩
  have perm := (session.scan_perm CartItem _).trans found
  rw [← List.perm_singleton.mp perm]
  apply alone_selectForUpdate
  intro item listed
  exact List.mem_filter.mp ((session.filter_perm _ _).mem_iff.mp listed)

/-- An update that asks for too much says that it is out of stock. -/
theorem updateItem_refused (sound : LinesSound db) {line : CartItem}
    (member : line ∈ db.cartItems.rows) (isAlive : alive line = true)
    (positive : 0 < quantity)
    (short : getAvailable db line.variant < quantity) :
    ∃ message, updateItem session line.cart line.id quantity db =
      .error (.outOfStockError message) db := by
  obtain ⟨variant, variantMem, variantKey⟩ :=
    List.mem_map.mp (sound.haveVariants line member)
  have found : db.variants.find? line.variant = some variant :=
    Table.find?_eq_some.mpr ⟨variantMem, variantKey⟩
  have raised : ∃ message, (Statements.updateItem session line.cart line.id
      quantity).alone db = .error (.outOfStockError message) db := by
    rw [Statements.updateItem, Transaction.alone_bind,
      bind_of_eq_ok (alone_lockLineById member isAlive)]
    dsimp only
    rw [if_neg (not_le.mpr positive), Transaction.alone_query_bind]
    rw [if_pos short, Transaction.alone_bind]
    have sku : (Statements.skuOf line).alone db = .ok variant.sku db := by
      rw [Statements.skuOf, Transaction.alone_query_bind, found]
      rfl
    rw [bind_of_eq_ok sku]
    exact ⟨_, rfl⟩
  obtain ⟨message, raised⟩ := raised
  refine ⟨message, ?_⟩
  rw [updateItem, Statements.service]
  apply atomic_of_eq_error
  rw [Transaction.alone_bind]
  exact bind_of_eq_error raised

/-- Every other update returns. -/
theorem updateItem_returns {line : CartItem}
    (member : line ∈ db.cartItems.rows) (isAlive : alive line = true)
    (fits : 0 < quantity → quantity ≤ getAvailable db line.variant) :
    Returns (updateItem session line.cart line.id quantity) db := by
  have looked : (Statements.lockItems session fun item =>
      item.id = line.id && item.cart = line.cart).alone db = .ok [line] db :=
    alone_lockLineById member isAlive
  have updated : ∃ saved after, (Statements.updateItem session line.cart
      line.id quantity).alone db = .ok (line, saved) after := by
    rw [Statements.updateItem, Transaction.alone_bind, bind_of_eq_ok looked]
    dsimp only
    by_cases nonpos : quantity ≤ 0
    · rw [if_pos nonpos]
      exact ⟨_, _, rfl⟩
    · rw [if_neg nonpos, Transaction.alone_query_bind,
        if_neg (not_lt.mpr (fits (not_le.mp nonpos)))]
      exact ⟨_, _, rfl⟩
  obtain ⟨saved, after, updated⟩ := updated
  refine ⟨saved, after, atomic_eq_ok.mpr ?_⟩
  rw [Transaction.alone_bind, bind_of_eq_ok updated]
  rfl

/-- Every update validates the stock. -/
theorem updateItem_validated (sound : LinesSound db) :
    StockValidated (updateItem session cart itemId quantity) db := by
  constructor
  case within =>
    intro result after returned row member isRaised
    obtain ⟨line, updates⟩ := updateItem_eq_ok returned
    obtain ⟨rfl, rfl⟩ := updates.ofCart
    rcases updates.after_eq with ⟨_, _, rfl⟩ | ⟨positive, _, rfl⟩
    · obtain ⟨old, oldMem, rfl⟩ := List.mem_map.mp member
      have units := quantityOf_of_mem oldMem
      split at isRaised
      · exact absurd (units.symm.trans_lt isRaised) (lt_irrefl _)
      · exact absurd (units.symm.trans_lt isRaised) (lt_irrefl _)
    · rcases Table.mem_save.mp member with ⟨kept, _⟩ | ⟨rfl, _⟩
      · exact absurd kept (notMem_of_raised isRaised)
      · by_contra short
        have tooMuch : getAvailable db line.variant < quantity := by
          have less := not_le.mp short
          change _ < ((quantity.toNat : Nat) : Int) at less
          rw [Int.toNat_of_nonneg positive.le] at less
          exact less
        obtain ⟨message, raised⟩ : ∃ message,
            updateItem session line.cart line.id quantity db =
              .error (.outOfStockError message) db :=
          updateItem_refused sound updates.member updates.isAlive positive
            tooMuch
        rw [returned] at raised
        cases raised
  case refused =>
    intro raised after failed
    refine ⟨atomic_eq_error failed, ?_⟩
    rintro ⟨stocks, saved, other, returned⟩
    obtain ⟨line, updates⟩ := updateItem_eq_ok returned
    obtain ⟨rfl, rfl⟩ := updates.ofCart
    have member : line ∈ db.cartItems.rows := updates.member
    by_cases fits : 0 < quantity → quantity ≤ getAvailable db line.variant
    · obtain ⟨result, after, returnsNow⟩ : Returns
          (updateItem session line.cart line.id quantity) db :=
        updateItem_returns member updates.isAlive fits
      rw [failed] at returnsNow
      cases returnsNow
    · obtain ⟨positive, short⟩ := Classical.not_imp.mp fits
      obtain ⟨message, refused⟩ : ∃ message,
          updateItem session line.cart line.id quantity db =
            .error (.outOfStockError message) db :=
        updateItem_refused sound member updates.isAlive positive
          (not_le.mp short)
      rw [failed] at refused
      obtain ⟨rfl, _⟩ := EStateM.Result.error.inj refused
      exact ⟨message, rfl⟩

end Edits

/-- Units of a variant in the live carts of a user. -/
def Database.userUnits (db : Database) (user variant : Uuid) : Int :=
  ((db.chosenCarts (isCartOfUser user)).map fun cart =>
    db.cartUnits cart.id variant).sum

/-- What the merge of a guest cart adds up is available. -/
def Database.MergeFits (db : Database) (sessionKey : String) (user : Uuid) :
    Prop :=
  ∀ anon ∈ db.chosenCarts (isCartOfSession sessionKey),
    db.Mergeable anon user → ∀ item ∈ db.itemsOf anon.id,
      db.userUnits user item.variant + item.quantity ≤
        getAvailable db item.variant

section Merges

variable {db after : Database} {session : Session} {sessionKey : String}
  {user : Uuid}

/-- The units of a variant are those of its only visible line. -/
theorem cartUnits_of_line (unique : LinesUnique db.cartItems)
    {line : CartItem} (member : line ∈ db.cartItems.rows)
    (isAlive : alive line = true) :
    db.cartUnits line.cart line.variant = line.quantity := by
  rw [cartUnits_eq_sum, chosenItems_eq_singleton unique member isAlive
    (isLineOf_iff.mpr ⟨rfl, rfl⟩)]
  simp

/-- A variant with units has a visible line. -/
theorem exists_line_of_cartUnits {cart variantId : Uuid}
    (units : 0 < db.cartUnits cart variantId) :
    ∃ line ∈ db.cartItems.rows, alive line = true ∧
      Statements.isLineOf cart variantId line = true := by
  rw [cartUnits_eq_sum] at units
  cases found : db.chosenItems (Statements.isLineOf cart variantId) with
  | nil =>
      rw [found] at units
      exact absurd units (by simp)
  | cons line others =>
      have listed : line ∈
          db.chosenItems (Statements.isLineOf cart variantId) := by
        rw [found]
        exact List.mem_cons_self
      obtain ⟨member, isAlive, ofLine⟩ := mem_chosenItems.mp listed
      exact ⟨line, member, isAlive, ofLine⟩

theorem userUnits_of_gives (sound : LinesSound db) {anon userCart : Cart}
    {carts : Table Cart}
    (gives : GivesCart db (isCartOfUser user)
      (mergedCart session db user anon.currency) userCart carts)
    (variant : Uuid) :
    db.userUnits user variant = db.cartUnits userCart.id variant := by
  rw [Database.userUnits]
  cases gives with
  | found only =>
      rw [only, List.map_singleton, List.sum_singleton]
  | created noneFound unused =>
      rw [noneFound]
      refine le_antisymm (unitsForCart_nonneg _ _ _) ?_
      by_contra units
      obtain ⟨line, member, _, ofLine⟩ :=
        exists_line_of_cartUnits (not_le.mp units)
      have hasCart := sound.haveCarts line member
      rw [(isLineOf_iff.mp ofLine).1] at hasCart
      exact unused hasCart

section Absorbed

variable {anon userCart : Cart} {carts : Table Cart} {items : Table CartItem}
  {draw : Uuid → Uuid} {item : CartItem}

/-- The units of a guest line are added to those of its variant. -/
theorem cartUnits_of_absorbs (sound : LinesSound db)
    (absorbs : AbsorbsAll session userCart.id draw db.variants
      (session.scan CartItem (db.itemsOf anon.id)) db.cartItems items)
    (listed : item ∈ db.itemsOf anon.id) :
    Database.cartUnits { db with cartItems := items } userCart.id
        item.variant =
      db.cartUnits userCart.id item.variant + item.quantity := by
  obtain ⟨itemMem, itemAlive, itemCart⟩ := mem_itemsOf.mp listed
  have guestUnits := cartUnits_of_line sound.unique itemMem itemAlive
  rw [itemCart] at guestUnits
  rw [cartUnits_eq_total _ userCart.id, cartUnits_eq_total _ userCart.id,
    absorbs.total_eq, if_pos rfl,
    unitsOfVariant_perm (session.scan_perm CartItem _),
    unitsOfVariant_itemsOf, guestUnits]

/-- The line that absorbed a guest line has the units of both. -/
theorem quantity_of_absorbs (sound : LinesSound db)
    (gives : GivesCart db (isCartOfUser user)
      (mergedCart session db user anon.currency) userCart carts)
    (absorbs : AbsorbsAll session userCart.id draw db.variants
      (session.scan CartItem (db.itemsOf anon.id)) db.cartItems items)
    {line : CartItem} (listed : item ∈ db.itemsOf anon.id)
    (member : line ∈ items.rows) (isAlive : alive line = true)
    (ofLine : Statements.isLineOf userCart.id item.variant line = true) :
    (line.quantity : Int) =
      db.userUnits user item.variant + item.quantity := by
  obtain ⟨lineCart, lineVariant⟩ := isLineOf_iff.mp ofLine
  have uniqueAfter := sound.unique.mergesLines absorbs.mergesLines
  have afterUnits : Database.cartUnits { db with cartItems := items } line.cart
      line.variant = line.quantity :=
    cartUnits_of_line uniqueAfter member isAlive
  rw [lineCart, lineVariant, cartUnits_of_absorbs sound absorbs listed]
    at afterUnits
  rw [userUnits_of_gives sound gives, afterUnits]

/-- A guest line is absorbed by a line with more units than before. -/
theorem exists_raised_line (sound : LinesSound db)
    (absorbs : AbsorbsAll session userCart.id draw db.variants
      (session.scan CartItem (db.itemsOf anon.id)) db.cartItems items)
    (listed : item ∈ db.itemsOf anon.id) :
    ∃ line ∈ items.rows, alive line = true ∧
      Statements.isLineOf userCart.id item.variant line = true ∧
      db.quantityOf line.id < line.quantity := by
  have units := cartUnits_of_absorbs sound absorbs listed
  obtain ⟨itemMem, itemAlive, _⟩ := mem_itemsOf.mp listed
  have hasUnits := sound.positive item itemMem itemAlive
  have nonneg : 0 ≤ db.cartUnits userCart.id item.variant :=
    unitsForCart_nonneg _ _ _
  have positive : 0 < Database.cartUnits { db with cartItems := items }
      userCart.id item.variant := by
    omega
  obtain ⟨line, member, isAlive, ofLine⟩ := exists_line_of_cartUnits positive
  refine ⟨line, member, isAlive, ofLine, ?_⟩
  obtain ⟨lineCart, lineVariant⟩ := isLineOf_iff.mp ofLine
  have uniqueAfter := sound.unique.mergesLines absorbs.mergesLines
  have lineUnits : Database.cartUnits { db with cartItems := items } line.cart
      line.variant = line.quantity :=
    cartUnits_of_line uniqueAfter member isAlive
  rw [lineCart, lineVariant] at lineUnits
  cases found : db.cartItems.find? line.id with
  | none =>
      rw [Database.quantityOf, found]
      change 0 < line.quantity
      omega
  | some old =>
      -- The line was there, with the units that the cart had.
      obtain ⟨oldMem, oldId⟩ := Table.find?_eq_some.mp found
      obtain ⟨sameCart, sameVariant, sameAlive⟩ :=
        absorbs.same_place oldMem member oldId
      have oldUnits := cartUnits_of_line sound.unique oldMem
        (sameAlive.trans isAlive)
      rw [sameCart, sameVariant, lineCart, lineVariant] at oldUnits
      rw [Database.quantityOf, found]
      change old.quantity < line.quantity
      omega

end Absorbed

theorem GivesCart.of_stocks {stocks : Table Stock} {chosen : Cart → Bool}
    {new cart : Cart} {carts : Table Cart}
    (gives : GivesCart { db with stocks } chosen new cart carts) :
    GivesCart db chosen new cart carts := by
  cases gives with
  | found only => exact .found only
  | created noneFound unused => exact .created noneFound unused

/-- A merge does not read the stocks. -/
theorem MergesGuest.of_stocks {stocks : Table Stock} {result : Option Cart}
    (merges : MergesGuest session sessionKey user { db with stocks } result
      after) : ∃ now, MergesGuest session sessionKey user db result now := by
  cases merges with
  | nothing noGuest => exact ⟨db, .nothing noGuest⟩
  | merged hasKey anonOnly gives absorbs =>
      exact ⟨_, .merged hasKey anonOnly gives.of_stocks absorbs⟩

theorem guest_of_listed {anon : Cart}
    (listed : anon ∈ db.chosenCarts (isCartOfSession sessionKey)) :
    anon ∈ objects db.carts ∧ anon.user = none ∧
      anon.sessionKey = sessionKey := by
  obtain ⟨live, isGuest⟩ := List.mem_filter.mp listed
  simp only [isCartOfSession, Bool.and_eq_true, decide_eq_true_eq] at isGuest
  exact ⟨live, isGuest.2, isGuest.1⟩

/-- A merge validates the stock exactly if what it adds up is available. -/
theorem merge_validated_iff (sound : CartsSound db) :
    StockValidated (mergeAnonymousIntoUser session sessionKey user) db ↔
      db.MergeFits sessionKey user := by
  constructor
  · intro validated anon anonListed mergeable item listed
    obtain ⟨live, isGuest, rfl⟩ := guest_of_listed anonListed
    obtain ⟨userCart, carts, items, gives, absorbs, returned⟩ :=
      exists_mergesGuest sound live isGuest session mergeable
    obtain ⟨line, member, isAlive, ofLine, isRaised⟩ :=
      exists_raised_line sound.toLinesSound absorbs listed
    have quantity := quantity_of_absorbs sound.toLinesSound gives absorbs
      listed member isAlive ofLine
    have fits := validated.within _ _ returned line member isRaised
    rw [(isLineOf_iff.mp ofLine).2] at fits
    omega
  · intro fits
    constructor
    case within =>
      intro result after returned line member isRaised
      have unraised := notMem_of_raised isRaised
      cases mergesGuest_of_returned returned with
      | nothing => exact absurd member unraised
      | @merged anon userCart carts items hasKey anonOnly gives absorbs =>
          have anonListed : anon ∈
              db.chosenCarts (isCartOfSession sessionKey) := by
            rw [anonOnly]
            exact List.mem_singleton_self anon
          obtain ⟨live, isGuest, rfl⟩ := guest_of_listed anonListed
          have mergeable := mergeable_of_merges sound live isGuest
            (mergesGuest_of_returned returned)
          rcases absorbs.mem_cases member with old | new
          · exact absurd old unraised
          · obtain ⟨isAlive, item, scanned, ofLine⟩ := new
            have listed := (session.scan_perm CartItem _).mem_iff.mp scanned
            rw [quantity_of_absorbs sound.toLinesSound gives absorbs listed
              member isAlive ofLine, (isLineOf_iff.mp ofLine).2]
            exact fits anon anonListed mergeable item listed
    case refused =>
      intro raised after failed
      refine ⟨atomic_eq_error failed, ?_⟩
      rintro ⟨stocks, result, other, returned⟩
      obtain ⟨now, merges⟩ := (mergesGuest_of_returned returned).of_stocks
      have returnsNow :=
        (mergeAnonymousIntoUser_returns_iff sound.unique).mpr merges
      rw [failed] at returnsNow
      cases returnsNow

end Merges

/-- A call of a cart service, or a change of the stocks by others. -/
inductive ShopStep where
  | call (command : CartCommand)
  | restock (stocks : Table Stock)

namespace ShopStep

def step (db : Database) : ShopStep → Database
  | call command => command.step db
  | restock stocks => { db with stocks }

/-- A call that can raise the quantity of a line validates the stock. -/
def Validated (db : Database) : ShopStep → Prop
  | call (.addItem session cart variantId quantity) =>
      StockValidated (addItem session cart variantId quantity) db
  | call (.updateItem session cart itemId quantity) =>
      StockValidated (updateItem session cart itemId quantity) db
  | call (.mergeAnonymousIntoUser session sessionKey user) =>
      StockValidated (mergeAnonymousIntoUser session sessionKey user) db
  | _ => True

/-- A merge adds up no more than is available. -/
def Fits (db : Database) : ShopStep → Prop
  | call (.mergeAnonymousIntoUser _ sessionKey user) =>
      db.MergeFits sessionKey user
  | _ => True

end ShopStep

theorem CartsSound.shopStep {db : Database} (sound : CartsSound db)
    (label : ShopStep) : CartsSound (ShopStep.step db label) := by
  cases label with
  | call command => exact sound.step command
  | restock =>
      exact ⟨⟨sound.unique, sound.haveCarts, sound.haveVariants,
        sound.positive⟩, ⟨sound.oneLive, sound.keyed⟩⟩

theorem validated_iff_fits {db : Database} (sound : CartsSound db)
    (label : ShopStep) :
    ShopStep.Validated db label ↔ ShopStep.Fits db label := by
  cases label with
  | restock => exact Iff.rfl
  | call command =>
      cases command with
      | addItem =>
          exact iff_of_true (addItem_validated sound.toLinesSound) trivial
      | updateItem =>
          exact iff_of_true (updateItem_validated sound.toLinesSound) trivial
      | mergeAnonymousIntoUser => exact merge_validated_iff sound
      | getOrCreateCart => exact Iff.rfl
      | removeItem => exact Iff.rfl
      | clearCart => exact Iff.rfl
      | createOrderFromCart => exact Iff.rfl

/-- In a run of the cart services every addition, update and merge validates
the stock exactly if every merge adds up no more than is available. -/
theorem increases_validated_iff {db : Database} (sound : CartsSound db)
    (steps : List ShopStep) :
    Guarded ShopStep.step ShopStep.Validated db steps ↔
      Guarded ShopStep.step ShopStep.Fits db steps :=
  guarded_congr (fun _ label sound _ => sound.shopStep label)
    (fun _ label sound => validated_iff_fits sound label) sound

/-- The user and the guest both take three of the five units. -/
def threeEach : List ShopStep :=
  [.call (.updateItem { now := 1 } 10 20 3),
    .call (.updateItem { now := 2 } 11 21 3)]

/-- The guest logs in. -/
def loginMerge : ShopStep :=
  .call (.mergeAnonymousIntoUser { now := 3 } "guest" 3)

/-- The merge of one unit each is validated. -/
theorem increases_validated_login :
    Guarded ShopStep.step ShopStep.Validated guestShop [loginMerge] := by
  refine (increases_validated_iff cartsSound_guestShop _).mpr ⟨?_, trivial⟩
  unfold ShopStep.Fits loginMerge Database.MergeFits
  intro anon listed mergeable
  clear mergeable
  revert anon
  decide +kernel

/-- After two updates that are in stock, the merge leaves a line of six units
of which five are available. -/
theorem merge_exceeds_stock :
    let db := exec ShopStep.step guestShop threeEach
    let merge := mergeAnonymousIntoUser { now := 3 } "guest" 3
    CartsSound guestShop ∧ Returns merge db ∧
      ∃ line ∈ (settle merge db).cartItems.rows,
        db.quantityOf line.id < line.quantity ∧
          getAvailable db line.variant < line.quantity := by
  refine ⟨cartsSound_guestShop, ?_, ?_⟩
  · decide +kernel
  · decide +kernel

end NovaCommerce
