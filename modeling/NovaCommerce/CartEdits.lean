import NovaCommerce.CartTransactions
import NovaCommerce.ConcurrentCheckouts

/-!
# What cart edits have done by their commits

Next to checkouts and other edits an edit finds its line under a lock, so that
the line at the commit is the line that it has read.  Each edit is described by
the lines that it found and by the table that it leaves, and from that by the
units that it puts into a cart or takes out of it.
-/

namespace NovaCommerce

open LockingTransactions

/-- Units of a variant in the lines of a cart. -/
def unitsForCart (items : List CartItem) (cart variant : Uuid) : Int :=
  (items.map fun item =>
    if Statements.isLineOf cart variant item then (item.quantity : Int)
    else 0).sum

/-- Units of a variant in the visible lines of a cart. -/
def Database.cartUnits (db : Database) (cart variant : Uuid) : Int :=
  unitsForCart (objects db.cartItems) cart variant

/-- What a line counts for. -/
def lineUnits (cart variant : Uuid) (item : CartItem) : Int :=
  if alive item && Statements.isLineOf cart variant item then item.quantity
  else 0

theorem lineUnits_of_alive {item : CartItem} (isAlive : alive item = true)
    (cart variant : Uuid) :
    lineUnits cart variant item =
      if item.cart = cart ∧ item.variant = variant then (item.quantity : Int)
      else 0 := by
  simp [lineUnits, isAlive, Statements.isLineOf]

theorem cartUnits_eq_total (db : Database) (cart variant : Uuid) :
    db.cartUnits cart variant =
      db.cartItems.total (lineUnits cart variant) := by
  rw [Database.cartUnits, unitsForCart, objects, Table.total]
  induction db.cartItems.rows with
  | nil => rfl
  | cons item items ih =>
      by_cases isAlive : alive item = true
      · simp [lineUnits, isAlive, ih]
      · simp [lineUnits, isAlive, ih]

theorem unitsForCart_eq_sum {items : List CartItem}
    (areAlive : ∀ item ∈ items, alive item = true) (cart variant : Uuid) :
    unitsForCart items cart variant =
      (items.map (lineUnits cart variant)).sum := by
  rw [unitsForCart]
  apply congrArg List.sum
  apply List.map_congr_left
  intro item member
  rw [lineUnits, areAlive item member, Bool.true_and]

theorem unitsForCart_nonneg (items : List CartItem) (cart variant : Uuid) :
    0 ≤ unitsForCart items cart variant := by
  apply List.sum_nonneg
  intro units unitsMem
  obtain ⟨item, _, rfl⟩ := List.mem_map.mp unitsMem
  split
  · exact Int.natCast_nonneg _
  · exact le_refl 0

/-- Rows of a table that are listed once are its rows with a listed key. -/
theorem perm_filter_keys {table : Table CartItem} {items : List CartItem}
    (members : ∀ item ∈ items, item ∈ table.rows)
    (nodup : (items.map Keyed.key).Nodup) :
    (table.rows.filter fun row =>
      (items.map Keyed.key).contains row.id).Perm items := by
  apply (List.perm_ext_iff_of_nodup (table.nodup_rows.filter _)
    (List.Nodup.of_map _ nodup)).mpr
  intro row
  rw [List.mem_filter, List.contains_iff_mem]
  constructor
  · rintro ⟨member, listed⟩
    obtain ⟨item, itemMem, sameKey⟩ := List.mem_map.mp listed
    exact table.eq_of_key_eq (members item itemMem) member sameKey ▸ itemMem
  · intro listed
    exact ⟨members row listed, List.mem_map_of_mem listed⟩

theorem total_withDeleted {session : Session} {table : Table CartItem}
    {items : List CartItem} (members : ∀ item ∈ items, item ∈ table.rows)
    (nodup : (items.map Keyed.key).Nodup) (cart variant : Uuid) :
    (Statements.withDeleted session (items.map Keyed.key) table).total
        (lineUnits cart variant) =
      table.total (lineUnits cart variant) -
        (items.map (lineUnits cart variant)).sum := by
  have removed : table.total (fun row =>
      if (items.map Keyed.key).contains row.id = true then
        lineUnits cart variant row else 0) =
      (items.map (lineUnits cart variant)).sum := by
    rw [Table.total_ite]
    simp only [Bool.decide_eq_true]
    exact ((perm_filter_keys members nodup).map _).sum_eq
  have split : table.total (lineUnits cart variant) =
      (Statements.withDeleted session (items.map Keyed.key) table).total
          (lineUnits cart variant) +
        table.total (fun row =>
          if (items.map Keyed.key).contains row.id = true then
            lineUnits cart variant row else 0) := by
    rw [Statements.withDeleted, Table.total_alter, ← Table.total_add]
    apply Table.total_congr
    intro row _
    rw [Function.comp_apply]
    split
    · simp [lineUnits, alive, IsModel.base]
    · rw [add_zero]
  omega

/-- The table has no line of the cart for the variant, be it visible or
deleted. -/
def NoLine (items : Table CartItem) (cart variant : Uuid) : Prop :=
  ∀ item ∈ items.rows, Statements.isLineOf cart variant item = false

/-- What others may do to the cart items: they spare the locked ones, and put
nothing under a locked entry of the unique index. -/
structure ItemsKept (held : Set RowKey) (before after : Table CartItem) :
    Prop where
  same : LockedSame .cartItem held before after
  noLine : ∀ cart variant, .cartLine cart variant ∈ held →
    NoLine before cart variant → NoLine after cart variant

/-- What others may do while a cart is edited or checked out. -/
structure LinesKept (held : Set RowKey) (before after : Database) : Prop where
  goods : GoodsKept held before after
  items : ItemsKept held before.cartItems after.cartItems

def cartRely : Rely RowKey Database where
  allows := LinesKept
  refl _ db := ⟨.refl db, fun _ _ => rfl, fun _ _ _ => id⟩
  trans _ _ _ _ first second :=
    ⟨first.goods.trans second.goods, first.items.same.trans second.items.same,
      fun cart variant holds noLine => second.items.noLine cart variant holds
        (first.items.noLine cart variant holds noLine)⟩
  anti _ _ _ _ subset kept :=
    ⟨kept.goods.anti subset, kept.items.same.anti subset,
      fun cart variant holds => kept.items.noLine cart variant (subset holds)⟩

theorem linesKept_of_allows {now : Database} (held : Set RowKey)
    (earlier : Database) (allowed : cartRely.allows held earlier now) :
    LinesKept held earlier now :=
  allowed

/-- A write to the cart items that spares what is not locked. -/
theorem linesKept_of_items {held : Set RowKey} {before : Database}
    {items : Table CartItem} (kept : ItemsKept held before.cartItems items) :
    LinesKept held before { before with cartItems := items } :=
  ⟨.of_frame rfl rfl rfl rfl, kept⟩

/-- Lines that keep their places leave the free entries of the index free. -/
theorem noLine_alter {items : Table CartItem} {change : CartItem → CartItem}
    {keepsKey : ∀ item, Keyed.key (change item) = Keyed.key item}
    {cart variant : Uuid}
    (keepsPlace : ∀ item ∈ items.rows, (change item).cart = item.cart ∧
      (change item).variant = item.variant)
    (noLine : NoLine items cart variant) :
    NoLine (items.alter change keepsKey) cart variant := by
  intro row member
  obtain ⟨item, itemMem, rfl⟩ := List.mem_map.mp member
  obtain ⟨sameCart, sameVariant⟩ := keepsPlace item itemMem
  rw [Statements.isLineOf, sameCart, sameVariant]
  exact noLine item itemMem

/-- The cart items once the line is there that units are added to. -/
inductive HasLine (items : Table CartItem) (line : CartItem) :
    Table CartItem → Prop
  | found (member : line ∈ items.rows) : HasLine items line items
  | created (unused : line.id ∉ items.keys) (isEmpty : line.quantity = 0)
      (noLine : NoLine items line.cart line.variant) :
      HasLine items line (items.insertNew line)

theorem HasLine.mem {items lines : Table CartItem} {line : CartItem}
    (hasLine : HasLine items line lines) : line ∈ lines.rows := by
  cases hasLine with
  | found member => exact member
  | created unused =>
      rw [Table.rows_insertNew unused]
      exact List.mem_append_right _ (List.mem_singleton_self line)

section Found

variable {rely : Rely RowKey Database} {now : Database}
  {before after : Progress RowKey Database} {session : Session}
  (relies : ∀ held earlier, rely.allows held earlier now →
    LinesKept held earlier now)

include relies

/-- Locked lines are lines at the commit. -/
theorem FoundItems.mem_now {chosen : CartItem → Bool} {locks : Set RowKey}
    {items : List CartItem}
    (found : FoundItems rely now chosen locks items) {item : CartItem}
    (member : item ∈ items) : item ∈ now.chosenItems chosen := by
  obtain ⟨held, earlier, holds, allowed, selected⟩ := found.found item member
  obtain ⟨inTable, isChosen⟩ := mem_chosenItems.mp selected
  exact mem_chosenItems.mpr
    ⟨(relies _ _ allowed).items.same.mem holds inTable, isChosen⟩

theorem leads_lockLine {cart variant : Uuid} {line : Option CartItem}
    (noWrites : before.own = id)
    (leads : Leads rely now (Statements.lockLine session cart variant)
      before line after) :
    after.own = id ∧ ∀ item ∈ line,
      item ∈ now.chosenItems (Statements.isLineOf cart variant) ∧
        .cartItem item.id ∈ after.held := by
  obtain ⟨items, locked, locking, rest⟩ := leads_bind.mp leads
  obtain ⟨sameOwn, found⟩ := leads_lockItems (fun db => by rw [noWrites]; rfl)
    locking
  cases items with
  | nil =>
      obtain ⟨rfl, rfl⟩ := leads_pure.mp rest
      exact ⟨sameOwn.trans noWrites, nofun⟩
  | cons first others =>
      cases others with
      | cons second others => exact rest.elim
      | nil =>
          obtain ⟨rfl, rfl⟩ := leads_pure.mp rest
          refine ⟨sameOwn.trans noWrites, ?_⟩
          rintro item ⟨⟩
          exact ⟨found.mem_now relies List.mem_cons_self,
            found.locked first List.mem_cons_self⟩

theorem leads_insertLine {line : CartItem} {inserted : Bool}
    (noWrites : before.own = id)
    (leads : Leads rely now (Statements.insertLine line) before inserted
      after) :
    .cartItem line.id ∈ after.held ∧
      (inserted = false ∧ after.own = id ∨
        inserted = true ∧ line.id ∉ now.cartItems.keys ∧
          NoLine now.cartItems line.cart line.variant ∧
          .cartLine line.cart line.variant ∈ after.held ∧
          ∀ db, after.own db = { db with
            cartItems := db.cartItems.insertNew line }) := by
  obtain ⟨_, _, ⟨_, _, _, rfl⟩, rest⟩ := leads_bind.mp leads
  obtain ⟨_, _, ⟨earlier, allowed, rfl, rfl⟩, rest⟩ := leads_bind.mp rest
  have locked : RowKey.cartItem line.id ∈
      ((before.lock (.cartItem line.id)).lock
        (.cartLine line.cart line.variant)).held := Or.inr (Or.inl rfl)
  rw [Progress.own_lock, noWrites] at rest
  split at rest
  · obtain ⟨rfl, rfl⟩ := leads_pure.mp rest
    exact ⟨locked, Or.inl ⟨rfl, noWrites⟩⟩
  · next unused =>
    split at rest
    · obtain ⟨rfl, rfl⟩ := leads_pure.mp rest
      exact ⟨locked, Or.inl ⟨rfl, noWrites⟩⟩
    · next noLine =>
      obtain ⟨_, _, writing, finished⟩ := leads_bind.mp rest
      have written := leads_execute.mp writing
      subst written
      obtain ⟨rfl, rfl⟩ := leads_pure.mp finished
      refine ⟨locked, Or.inr ⟨rfl, ?_, ?_, Or.inl rfl, ?_⟩⟩
      · exact (relies _ _ allowed).items.same.notMem (Or.inr (Or.inl rfl))
          unused
      · apply (relies _ _ allowed).items.noLine _ _ (Or.inl rfl)
        intro item member
        rw [Bool.not_eq_true, List.any_eq_false] at noLine
        exact Bool.eq_false_iff.mpr (noLine item member)
      · intro db
        rw [Progress.own_write, Progress.own_lock, Progress.own_lock, noWrites]
        rfl

theorem leads_getOrCreateLine {line item : CartItem}
    (noWrites : before.own = id) (isAlive : alive line = true)
    (isEmpty : line.quantity = 0)
    (leads : Leads rely now (Statements.getOrCreateLine session line)
      before item after) :
    ∃ items, HasLine now.cartItems item items ∧
      after.own now = { now with cartItems := items } ∧
      .cartItem item.id ∈ after.held ∧
      (items = now.cartItems ∨
        .cartLine item.cart item.variant ∈ after.held) ∧
      alive item = true ∧
      Statements.isLineOf line.cart line.variant item = true := by
  obtain ⟨found, looked, looking, rest⟩ := leads_bind.mp leads
  obtain ⟨lookedOwn, isFound⟩ := leads_lockLine relies noWrites looking
  cases found with
  | some existing =>
      obtain ⟨rfl, rfl⟩ := leads_pure.mp rest
      obtain ⟨member, locked⟩ := isFound item rfl
      obtain ⟨inTable, isAlive, ofLine⟩ := mem_chosenItems.mp member
      exact ⟨_, .found inTable, congrFun lookedOwn now, locked, Or.inl rfl,
        isAlive, ofLine⟩
  | none =>
      obtain ⟨inserted, tried, trying, rest⟩ := leads_bind.mp rest
      obtain ⟨locked, result⟩ := leads_insertLine relies lookedOwn trying
      rcases result with
        ⟨rfl, triedOwn⟩ | ⟨rfl, unused, noLine, indexed, written⟩
      · obtain ⟨again, _, lookingAgain, rest⟩ := leads_bind.mp rest
        obtain ⟨againOwn, isFound⟩ :=
          leads_lockLine relies triedOwn lookingAgain
        cases again with
        | none => exact rest.elim
        | some existing =>
            obtain ⟨rfl, rfl⟩ := leads_pure.mp rest
            obtain ⟨member, locked⟩ := isFound item rfl
            obtain ⟨inTable, isAlive, ofLine⟩ := mem_chosenItems.mp member
            exact ⟨_, .found inTable, congrFun againOwn now, locked,
              Or.inl rfl, isAlive, ofLine⟩
      · obtain ⟨rfl, rfl⟩ := leads_pure.mp rest
        exact ⟨_, .created unused isEmpty noLine, written now, locked,
          Or.inr indexed, isAlive, by simp [Statements.isLineOf]⟩

end Found

/-- An active variant of a product. -/
structure Database.ActiveVariant (db : Database) (id : Uuid)
    (variant : ProductVariant) : Prop where
  member : variant ∈ db.variants.rows
  isAlive : alive variant = true
  id_eq : variant.id = id
  isActive : variant.isActive = true
  hasProduct : (db.products.find? variant.product).isSome = true

/-- What an addition has done by its commit. -/
structure AddsTo (rely : Rely RowKey Database) (cart variantId : Uuid)
    (quantity : Int) (before after : Database) (line saved : CartItem)
    (items : Table CartItem) : Prop where
  positive : 0 < quantity
  hasLine : HasLine before.cartItems line items
  isAlive : alive line = true
  ofLine : Statements.isLineOf cart variantId line = true
  saved_eq : ∃ earlier variant, rely.allows ∅ earlier before ∧
    earlier.ActiveVariant variantId variant ∧
    saved = Statements.addedTo line quantity variant
  after_eq : after = { before with cartItems := items.save saved }

/-- What an update has done by its commit. -/
structure Updates (session : Session) (cart itemId : Uuid) (quantity : Int)
    (before after : Database) (found : CartItem) (saved : Option CartItem) :
    Prop where
  member : found ∈ before.cartItems.rows
  isAlive : alive found = true
  ofCart : found.id = itemId ∧ found.cart = cart
  after_eq :
    quantity ≤ 0 ∧ saved = none ∧ after = { before with
      cartItems := Statements.withDeleted session [found.id]
        before.cartItems } ∨
    0 < quantity ∧ saved = some { found with quantity := quantity.toNat } ∧
      after = { before with
        cartItems := before.cartItems.save
          { found with quantity := quantity.toNat } }

section Edits

variable {rely : Rely RowKey Database} {now : Database}
  {after : Progress RowKey Database} {session : Session}
  {itemId cart variantId : Uuid} {quantity : Int}
  (relies : ∀ held earlier, rely.allows held earlier now →
    LinesKept held earlier now)

theorem leads_activeVariant {before : Progress RowKey Database}
    {variant : ProductVariant}
    (leads : Leads rely now (Statements.activeVariant variantId) before variant
      after) :
    after.own = before.own ∧ ∃ earlier, rely.allows before.held earlier now ∧
      (before.own earlier).ActiveVariant variantId variant := by
  obtain ⟨_, _, ⟨earlier, allowed, rfl, same⟩, rest⟩ := leads_bind.mp leads
  rw [same] at rest
  cases found : (objects (before.own earlier).variants).find? fun variant =>
      variant.id = variantId && variant.isActive &&
        ((before.own earlier).products.find? variant.product).isSome with
  | none =>
      simp only [found] at rest
      exact rest.elim
  | some row =>
      simp only [found] at rest
      obtain ⟨rfl, rfl⟩ := leads_pure.mp rest
      have selected := List.find?_some found
      simp only [Bool.and_eq_true, decide_eq_true_eq] at selected
      obtain ⟨inTable, isAlive⟩ :=
        List.mem_filter.mp (List.mem_of_find?_eq_some found)
      exact ⟨rfl, earlier, allowed, inTable, isAlive, selected.1.1,
        selected.1.2, selected.2⟩

/-- A locked line is the only one that an addition changes. -/
theorem HasLine.kept {before items : Table CartItem} {line saved : CartItem}
    {locks : Set RowKey} (hasLine : HasLine before line items)
    (samePlace : saved.id = line.id ∧ saved.cart = line.cart ∧
      saved.variant = line.variant)
    (locked : .cartItem line.id ∈ locks)
    (indexed : items = before ∨ .cartLine line.cart line.variant ∈ locks) :
    ItemsKept locksᶜ before (items.save saved) := by
  constructor
  case same =>
    intro id notHeld
    have idNe : Keyed.key line ≠ id := by
      rintro rfl
      exact notHeld locked
    have savedNe : Keyed.key saved ≠ id := by
      intro same
      exact idNe (samePlace.1.symm.trans same)
    rw [Table.find?_save_of_ne savedNe]
    cases hasLine with
    | found => rfl
    | created => exact Table.find?_insertNew_of_ne idNe
  case noLine =>
    intro cart variant notHeld noLine
    have noneYet : NoLine items cart variant := by
      rcases indexed with same | holds
      · exact same ▸ noLine
      · cases hasLine with
        | found => exact noLine
        | created unused isEmpty _ =>
            intro item member
            rw [Table.rows_insertNew unused] at member
            rcases List.mem_append.mp member with earlier | new
            · exact noLine item earlier
            · rw [List.mem_singleton] at new
              subst new
              apply Bool.eq_false_iff.mpr
              intro ofLine
              simp only [Statements.isLineOf, Bool.and_eq_true,
                decide_eq_true_eq] at ofLine
              exact notHeld (ofLine.1 ▸ ofLine.2 ▸ holds)
    apply noLine_alter _ noneYet
    intro item member
    split
    · next sameKey =>
      have sameItem : item = line := items.eq_of_key_eq member hasLine.mem
        (sameKey.trans samePlace.1)
      rw [sameItem]
      exact samePlace.2
    · exact ⟨rfl, rfl⟩

theorem leads_saveLine {before : Progress RowKey Database} {item : CartItem}
    {value : Unit}
    (leads : Leads rely now (Statements.saveLine item) before value after) :
    (∀ db, after.own db = { before.own db with
        cartItems := (before.own db).cartItems.save item }) ∧
      .cartItem item.id ∈ after.held := by
  obtain ⟨_, _, ⟨_, _, _, rfl⟩, writing⟩ := leads_bind.mp leads
  have written := leads_execute.mp writing
  subst written
  exact ⟨fun _ => rfl, Or.inl rfl⟩

include relies in
theorem leads_addItem {saved : CartItem}
    (leads : Leads rely now (Statements.addItem session itemId cart
      variantId quantity) .start saved after) :
    ∃ line items, AddsTo rely cart variantId quantity now (after.own now) line
        saved items ∧ LinesKept after.heldᶜ now (after.own now) := by
  rw [Statements.addItem] at leads
  by_cases nonpos : quantity ≤ 0
  · rw [if_pos nonpos] at leads
    exact leads.elim
  rw [if_neg nonpos] at leads
  obtain ⟨variant, selected, selecting, rest⟩ := leads_bind.mp leads
  obtain ⟨selectedOwn, earlier, allowed, isActive⟩ :=
    leads_activeVariant selecting
  obtain rfl := isActive.id_eq
  obtain ⟨line, got, getting, rest⟩ := leads_bind.mp rest
  obtain ⟨items, hasLine, gotOwn, locked, indexed, isAlive, ofLine⟩ :=
    leads_getOrCreateLine relies selectedOwn rfl rfl getting
  obtain ⟨_, _, ⟨_, _, rfl, same⟩, rest⟩ := leads_bind.mp rest
  rw [same] at rest
  dsimp only at rest
  split at rest
  · exact rest.elim
  · obtain ⟨_, _, saving, finished⟩ := leads_bind.mp rest
    obtain ⟨rfl, rfl⟩ := leads_pure.mp finished
    obtain ⟨written, isLocked⟩ := leads_saveLine saving
    have stillIndexed : items = now.cartItems ∨
        .cartLine line.cart line.variant ∈ after.held :=
      indexed.imp_right fun holds => saving.held_subset holds
    have after_eq : after.own now = { now with
        cartItems :=
          items.save (Statements.addedTo line quantity variant) } := by
      rw [written, gotOwn]
    refine ⟨line, items, ⟨not_le.mp nonpos, hasLine, isAlive, ofLine,
      ⟨earlier, variant, allowed, isActive, rfl⟩, after_eq⟩, ?_⟩
    rw [after_eq]
    exact linesKept_of_items
      (hasLine.kept ⟨rfl, rfl, rfl⟩ isLocked stillIndexed)

theorem find?_withDeleted_of_notMem {items : Table CartItem} {ids : List Uuid}
    {id : Uuid} (notListed : id ∉ ids) :
    (Statements.withDeleted session ids items).find? id = items.find? id := by
  refine Table.find?_alter_of_same items
    (by
      intro row
      split <;> rfl) ?_
  rintro row rfl
  exact if_neg fun listed => notListed (List.contains_iff_mem.mp listed)

/-- Deleted lines keep their places. -/
theorem itemsKept_withDeleted {items : Table CartItem} {ids : List Uuid}
    {locks : Set RowKey} (locked : ∀ id ∈ ids, .cartItem id ∈ locks) :
    ItemsKept locksᶜ items (Statements.withDeleted session ids items) where
  same id notHeld :=
    find?_withDeleted_of_notMem fun listed => notHeld (locked id listed)
  noLine cart variant _ noLine := by
    apply noLine_alter _ noLine
    intro item _
    split <;> exact ⟨rfl, rfl⟩

theorem withQuantity_eq_save {items : Table CartItem} {item : CartItem}
    (member : item ∈ items.rows) (quantity : Nat) :
    Statements.withQuantity items item.id quantity =
      items.save { item with quantity } := by
  refine Eq.trans (Table.alter_eq_save _ member fun other otherNe =>
    if_neg otherNe) ?_
  rw [if_pos rfl]

include relies in
theorem leads_updateItem {found : CartItem} {saved : Option CartItem}
    (leads : Leads rely now (Statements.updateItem session cart itemId
      quantity) .start (found, saved) after) :
    Updates session cart itemId quantity now (after.own now) found saved ∧
      LinesKept after.heldᶜ now (after.own now) := by
  obtain ⟨items, locked, locking, rest⟩ := leads_bind.mp leads
  obtain ⟨lockedOwn, areFound⟩ := leads_lockItems (fun _ => rfl) locking
  cases items with
  | nil => exact rest.elim
  | cons item others =>
      have atHead : item ∈ item :: others := List.mem_cons_self
      obtain ⟨member, isAlive, chosen⟩ :=
        mem_chosenItems.mp (areFound.mem_now relies atHead)
      simp only [Bool.and_eq_true, decide_eq_true_eq] at chosen
      have isLocked := areFound.locked item atHead
      dsimp only at rest
      by_cases nonpos : quantity ≤ 0
      · rw [if_pos nonpos] at rest
        obtain ⟨_, _, writing, finished⟩ := leads_bind.mp rest
        have written := leads_execute.mp writing
        subst written
        obtain ⟨⟨⟩, rfl⟩ := leads_pure.mp finished
        rw [Progress.own_write, lockedOwn]
        refine ⟨⟨member, isAlive, chosen, Or.inl ⟨nonpos, rfl, rfl⟩⟩, ?_⟩
        apply linesKept_of_items
        apply itemsKept_withDeleted
        intro id listed
        rw [List.mem_singleton] at listed
        exact listed ▸ isLocked
      · rw [if_neg nonpos] at rest
        obtain ⟨_, _, ⟨_, _, rfl, same⟩, rest⟩ := leads_bind.mp rest
        rw [same] at rest
        split at rest
        · obtain ⟨_, _, _, failed⟩ := leads_bind.mp rest
          exact failed.elim
        · obtain ⟨_, _, writing, finished⟩ := leads_bind.mp rest
          have written := leads_execute.mp writing
          subst written
          obtain ⟨⟨⟩, rfl⟩ := leads_pure.mp finished
          rw [Progress.own_write, lockedOwn]
          have after_eq : Statements.withQuantity now.cartItems found.id
              quantity.toNat = now.cartItems.save
                { found with quantity := quantity.toNat } :=
            withQuantity_eq_save member _
          refine ⟨⟨member, isAlive, chosen, Or.inr ⟨not_le.mp nonpos, rfl, ?_⟩⟩,
            ?_⟩
          · exact congrArg (fun items => { now with cartItems := items })
              after_eq
          · apply linesKept_of_items
            change ItemsKept _ _
              (Statements.withQuantity now.cartItems found.id _)
            rw [after_eq]
            exact (HasLine.found member).kept ⟨rfl, rfl, rfl⟩ isLocked
              (Or.inl rfl)

theorem leads_removeItem {items : List CartItem}
    (leads : Leads rely now (Statements.removeItem session cart itemId)
      .start items after) :
    FoundItems rely now (fun item => item.id = itemId && item.cart = cart)
        after.held items ∧
      after.own now = { now with
        cartItems := Statements.withDeleted session (items.map Keyed.key)
          now.cartItems } ∧
      LinesKept after.heldᶜ now (after.own now) := by
  obtain ⟨found, written⟩ := leads_softDelete (fun _ => rfl) leads
  refine ⟨found, written now, ?_⟩
  rw [written]
  apply linesKept_of_items
  apply itemsKept_withDeleted
  intro id listed
  obtain ⟨item, member, rfl⟩ := List.mem_map.mp listed
  exact found.locked item member

end Edits

section Units

variable {session : Session} {cart itemId variantId : Uuid} {quantity : Int}
  {before after : Database}

/-- Deleted lines do not count any more. -/
theorem cartUnits_of_deleted {items : List CartItem}
    (members : ∀ item ∈ items,
      item ∈ before.cartItems.rows ∧ alive item = true)
    (nodup : (items.map Keyed.key).Nodup)
    (cartItems_eq : after.cartItems = Statements.withDeleted session
      (items.map Keyed.key) before.cartItems) (ofCart variant : Uuid) :
    after.cartUnits ofCart variant =
      before.cartUnits ofCart variant -
        unitsForCart items ofCart variant := by
  rw [cartUnits_eq_total, cartUnits_eq_total, cartItems_eq,
    total_withDeleted (fun item member => (members item member).1) nodup,
    unitsForCart_eq_sum fun item member => (members item member).2]

/-- The lines count for as much as before once the line is there. -/
theorem HasLine.total_eq {items : Table CartItem} {line : CartItem}
    (hasLine : HasLine before.cartItems line items) (ofCart variant : Uuid) :
    items.total (lineUnits ofCart variant) =
      before.cartUnits ofCart variant := by
  rw [cartUnits_eq_total]
  cases hasLine with
  | found => rfl
  | created unused isEmpty _ =>
      have nothing : lineUnits ofCart variant line = 0 := by
        simp [lineUnits, isEmpty]
      rw [Table.total, Table.rows_insertNew unused, List.map_append,
        List.sum_append]
      simp [nothing, Table.total]

theorem AddsTo.cartUnits {rely : Rely RowKey Database}
    {line saved : CartItem} {items : Table CartItem}
    (adds : AddsTo rely cart variantId quantity before after line saved items)
    (ofCart variant : Uuid) :
    after.cartUnits ofCart variant = before.cartUnits ofCart variant +
      if cart = ofCart ∧ variantId = variant then quantity else 0 := by
  obtain ⟨positive, hasLine, isAlive, ofLine, ⟨_, row, _, _, rfl⟩, rfl⟩ := adds
  rw [Statements.isLineOf, Bool.and_eq_true, decide_eq_true_eq,
    decide_eq_true_eq] at ofLine
  obtain ⟨rfl, rfl⟩ := ofLine
  have savedAlive : alive (Statements.addedTo line quantity row) = true :=
    isAlive
  have more : lineUnits ofCart variant
      (Statements.addedTo line quantity row) =
      lineUnits ofCart variant line +
        if line.cart = ofCart ∧ line.variant = variant then quantity
        else 0 := by
    rw [lineUnits_of_alive savedAlive, lineUnits_of_alive isAlive]
    change (if line.cart = ofCart ∧ line.variant = variant then
      ((line.quantity + quantity.toNat : Nat) : Int) else 0) = _
    split
    · push_cast
      omega
    · rw [add_zero]
  have sameKey : Keyed.key (Statements.addedTo line quantity row) =
      Keyed.key line := rfl
  rw [cartUnits_eq_total, ← hasLine.total_eq]
  change (items.save (Statements.addedTo line quantity row)).total _ = _
  rw [Table.total_save hasLine.mem sameKey, more]
  omega

theorem Updates.cartUnits {found : CartItem} {saved : Option CartItem}
    (updates : Updates session cart itemId quantity before after found saved)
    (ofCart variant : Uuid) :
    after.cartUnits ofCart variant = before.cartUnits ofCart variant -
      (unitsForCart [found] ofCart variant -
        unitsForCart saved.toList ofCart variant) := by
  obtain ⟨member, isAlive, _, result⟩ := updates
  rcases result with ⟨_, rfl, after_eq⟩ | ⟨_, rfl, after_eq⟩
  · have listed : ∀ item ∈ [found],
        item ∈ before.cartItems.rows ∧ alive item = true := by
      intro item listed
      rw [List.mem_singleton] at listed
      exact listed ▸ ⟨member, isAlive⟩
    rw [cartUnits_of_deleted listed (List.nodup_singleton _)
      (congrArg Database.cartItems after_eq)]
    simp [unitsForCart]
  · have savedAlive : alive { found with quantity := quantity.toNat } = true :=
      isAlive
    rw [cartUnits_eq_total, cartUnits_eq_total, after_eq,
      Option.toList_some, unitsForCart_eq_sum (by simpa using isAlive),
      unitsForCart_eq_sum (by simpa using savedAlive)]
    have sameKey : Keyed.key { found with quantity := quantity.toNat } =
        Keyed.key found := rfl
    change (before.cartItems.save _).total _ = _
    rw [Table.total_save member sameKey]
    simp only [List.map_cons, List.map_nil, List.sum_singleton]
    omega

end Units

end NovaCommerce
