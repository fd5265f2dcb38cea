import NovaCommerce.CartHistories
import NovaCommerce.OrderCurrency

/-!
# What a merge does to the lines

A guest line is absorbed by the line that the user's cart has for its variant,
or by a new line.  The insert of a new line fails if the user's cart has a
deleted line for the variant.  So a guest cart can be absorbed exactly if no
deleted line of the user's cart stands in the way of one of its lines; the
units of every variant then add up, and every line that was touched has the
current price of its variant.
-/

namespace NovaCommerce

open AtomicCall LockingTransactions

/-- No line of the cart for the variant is deleted. -/
def NoneDeleted (items : Table CartItem) (cart variant : Uuid) : Prop :=
  ∀ line ∈ items.rows, Statements.isLineOf cart variant line = true →
    alive line = true

section Line

variable {session : Session} {userCart lineId : Uuid} {item : CartItem}
  {variant : ProductVariant} {items lines : Table CartItem}

variable (session variant) in
/-- A line is absorbed exactly if no deleted line stands in the way. -/
theorem exists_absorbs_iff (unique : LinesUnique items)
    (unused : lineId ∉ items.keys) :
    (∃ lines, Absorbs session userCart lineId item variant items lines) ↔
      NoneDeleted items userCart item.variant := by
  constructor
  · rintro ⟨lines, absorbs⟩ old oldMem ofOld
    cases absorbs with
    | existing member isAlive ofLine =>
        rw [isLineOf_iff] at ofOld ofLine
        rw [unique old oldMem _ member (ofOld.1.trans ofLine.1.symm)
          (ofOld.2.trans ofLine.2.symm)]
        exact isAlive
    | created _ noLine =>
        rw [noLine old oldMem] at ofOld
        cases ofOld
  · intro noneDeleted
    by_cases hasLine : ∃ line ∈ items.rows,
        Statements.isLineOf userCart item.variant line = true
    · obtain ⟨line, member, ofLine⟩ := hasLine
      exact ⟨_, .existing member (noneDeleted line member ofLine) ofLine⟩
    · refine ⟨_, .created unused ?_⟩
      intro line member
      rw [← Bool.not_eq_true]
      exact fun ofLine => hasLine ⟨line, member, ofLine⟩

/-- The rows of the user's cart that were there stay in their places, and are
deleted if they were. -/
theorem Absorbs.mem_deleted
    (absorbs : Absorbs session userCart lineId item variant items lines)
    {old : CartItem} (deleted : alive old = false) :
    old ∈ lines.rows ↔ old ∈ items.rows := by
  cases absorbs with
  | existing member isAlive ofLine =>
      rw [Table.mem_save]
      constructor
      · rintro (⟨oldMem, _⟩ | ⟨rfl, _⟩)
        · exact oldMem
        · exact absurd (isAlive.symm.trans deleted) (by decide)
      · intro oldMem
        refine Or.inl ⟨oldMem, ?_⟩
        intro sameKey
        rw [items.eq_of_key_eq oldMem member sameKey, isAlive] at deleted
        cases deleted
  | created unused _ =>
      rw [Table.rows_insertNew unused, List.mem_append, List.mem_singleton]
      constructor
      · rintro (oldMem | rfl)
        · exact oldMem
        · cases deleted
      · exact Or.inl

theorem Absorbs.noneDeleted_iff
    (absorbs : Absorbs session userCart lineId item variant items lines)
    {cart variantId : Uuid} :
    NoneDeleted lines cart variantId ↔ NoneDeleted items cart variantId := by
  constructor
  · intro noneDeleted old oldMem ofOld
    by_contra deleted
    rw [Bool.not_eq_true] at deleted
    have stays := noneDeleted old ((absorbs.mem_deleted deleted).mpr oldMem)
      ofOld
    rw [deleted] at stays
    cases stays
  · intro noneDeleted old oldMem ofOld
    by_contra deleted
    rw [Bool.not_eq_true] at deleted
    have was := noneDeleted old ((absorbs.mem_deleted deleted).mp oldMem) ofOld
    rw [deleted] at was
    cases was

/-- Lines of other carts are not touched. -/
theorem Absorbs.mem_other
    (absorbs : Absorbs session userCart lineId item variant items lines)
    {old : CartItem} (other : old.cart ≠ userCart) :
    old ∈ lines.rows ↔ old ∈ items.rows := by
  cases absorbs with
  | existing member _ ofLine =>
      have inCart := (isLineOf_iff.mp ofLine).1
      rw [Table.mem_save]
      constructor
      · rintro (⟨oldMem, _⟩ | ⟨rfl, _⟩)
        · exact oldMem
        · exact absurd inCart other
      · intro oldMem
        refine Or.inl ⟨oldMem, ?_⟩
        intro sameKey
        rw [items.eq_of_key_eq oldMem member sameKey] at other
        exact other inCart
  | created unused _ =>
      rw [Table.rows_insertNew unused, List.mem_append, List.mem_singleton]
      constructor
      · rintro (oldMem | rfl)
        · exact oldMem
        · exact absurd rfl other
      · exact Or.inl

theorem Absorbs.keys_subset
    (absorbs : Absorbs session userCart lineId item variant items lines)
    {id : Uuid} (used : id ∈ lines.keys) : id ∈ items.keys ∨ id = lineId := by
  cases absorbs with
  | existing =>
      rw [Table.keys_save] at used
      exact Or.inl used
  | created unused _ =>
      rw [Table.keys, Table.rows_insertNew unused, List.map_append,
        List.mem_append, List.map_singleton, List.mem_singleton] at used
      exact used

theorem Absorbs.keys_of_mem
    (absorbs : Absorbs session userCart lineId item variant items lines)
    {id : Uuid} (member : id ∈ items.keys) : id ∈ lines.keys := by
  cases absorbs with
  | existing =>
      rw [Table.keys_save]
      exact member
  | created unused _ =>
      rw [Table.keys, Table.rows_insertNew unused, List.map_append]
      exact List.mem_append_left _ member

/-- A row is an old one, or a visible line that absorbed the guest line. -/
theorem Absorbs.mem_cases (variantKey : variant.id = item.variant)
    (absorbs : Absorbs session userCart lineId item variant items lines)
    {row : CartItem} (member : row ∈ lines.rows) :
    row ∈ items.rows ∨ alive row = true ∧
      Statements.isLineOf userCart item.variant row = true := by
  cases absorbs with
  | existing _ isAlive ofLine =>
      rcases Table.mem_save.mp member with ⟨old, _⟩ | ⟨rfl, _⟩
      · exact Or.inl old
      · exact Or.inr ⟨isAlive, ofLine⟩
  | created unused _ =>
      rw [Table.rows_insertNew unused, List.mem_append, List.mem_singleton]
        at member
      rcases member with old | rfl
      · exact Or.inl old
      · exact Or.inr ⟨rfl, isLineOf_iff.mpr ⟨rfl, variantKey⟩⟩

/-- A row stays in its place, and visible if it was. -/
theorem Absorbs.same_place
    (absorbs : Absorbs session userCart lineId item variant items lines)
    {old row : CartItem} (oldMem : old ∈ items.rows) (member : row ∈ lines.rows)
    (sameId : old.id = row.id) :
    old.cart = row.cart ∧ old.variant = row.variant ∧
      alive old = alive row := by
  cases absorbs with
  | existing lineMem _ _ =>
      rcases Table.mem_save.mp member with ⟨stays, _⟩ | ⟨rfl, _⟩
      · rw [items.eq_of_key_eq oldMem stays sameId]
        exact ⟨rfl, rfl, rfl⟩
      · rw [items.eq_of_key_eq oldMem lineMem sameId]
        exact ⟨rfl, rfl, rfl⟩
  | created unused _ =>
      rw [Table.rows_insertNew unused, List.mem_append, List.mem_singleton]
        at member
      rcases member with stays | rfl
      · rw [items.eq_of_key_eq oldMem stays sameId]
        exact ⟨rfl, rfl, rfl⟩
      · have used : old.id ∈ items.keys := List.mem_map_of_mem oldMem
        rw [sameId] at used
        exact absurd used unused

/-- The units of the guest line are added to those of its variant. -/
theorem Absorbs.total_eq (variantKey : variant.id = item.variant)
    (absorbs : Absorbs session userCart lineId item variant items lines)
    (cart variantId : Uuid) :
    lines.total (lineUnits cart variantId) =
      items.total (lineUnits cart variantId) +
        if userCart = cart ∧ item.variant = variantId then
          (item.quantity : Int) else 0 := by
  cases absorbs with
  | @existing line member isAlive ofLine =>
      obtain ⟨rfl, sameVariant⟩ := isLineOf_iff.mp ofLine
      have addedAlive :
          alive (Statements.addedTo line item.quantity variant) = true :=
        isAlive
      have more : lineUnits cart variantId
          (Statements.addedTo line item.quantity variant) =
          lineUnits cart variantId line +
            if line.cart = cart ∧ item.variant = variantId then
              (item.quantity : Int) else 0 := by
        rw [lineUnits_of_alive addedAlive, lineUnits_of_alive isAlive,
          ← sameVariant]
        change (if line.cart = cart ∧ line.variant = variantId then
          ((line.quantity + item.quantity : Nat) : Int) else 0) = _
        split
        · push_cast
          rfl
        · rfl
      have sameKey : Keyed.key (Statements.addedTo line item.quantity variant) =
          Keyed.key line := rfl
      rw [Table.total_save member sameKey, more]
      omega
  | created unused _ =>
      rw [Table.total, Table.rows_insertNew unused, List.map_append,
        List.sum_append, List.map_singleton, List.sum_singleton,
        lineUnits_of_alive rfl, ← variantKey]
      change _ + (if userCart = cart ∧ variant.id = variantId then
        ((0 + item.quantity : Nat) : Int) else 0) = _
      rw [Nat.zero_add]
      rfl

/-- The line that absorbed the guest line has the price of the variant. -/
theorem Absorbs.priced (variantKey : variant.id = item.variant)
    (unique : LinesUnique items)
    (absorbs : Absorbs session userCart lineId item variant items lines) :
    ∀ line ∈ lines.rows,
      Statements.isLineOf userCart item.variant line = true →
        line.unitPrice = variant.price := by
  have uniqueAfter := unique.mergesInto (absorbs.mergesInto variantKey)
  intro line member ofLine
  rw [isLineOf_iff] at ofLine
  cases absorbs with
  | @existing old oldMem _ ofOld =>
      rw [isLineOf_iff] at ofOld
      have hasKey : old.id ∈ items.keys := List.mem_map_of_mem oldMem
      have saved : Statements.addedTo old item.quantity variant ∈
          (items.save (Statements.addedTo old item.quantity variant)).rows :=
        Table.mem_save.mpr (Or.inr ⟨rfl, hasKey⟩)
      rw [uniqueAfter line member _ saved (ofLine.1.trans ofOld.1.symm)
        (ofLine.2.trans ofOld.2.symm)]
      rfl
  | created unused noLine =>
      rw [Table.rows_insertNew unused, List.mem_append, List.mem_singleton]
        at member
      rcases member with oldMem | rfl
      · have ofOld := noLine line oldMem
        rw [isLineOf_iff.mpr ofLine] at ofOld
        cases ofOld
      · rfl

end Line

/-- Units of a variant in a list of lines. -/
def unitsOfVariant (items : List CartItem) (variant : Uuid) : Int :=
  (items.map fun item =>
    if item.variant = variant then (item.quantity : Int) else 0).sum

section Lines

variable {session : Session} {userCart : Uuid} {draw : Uuid → Uuid}
  {variants : Table ProductVariant} {guestLines : List CartItem}
  {items lines : Table CartItem}

/-- The lines can be absorbed exactly if their variants exist and no deleted
line stands in the way of one of them. -/
theorem exists_absorbsAll_iff (unique : LinesUnique items)
    (injective : Function.Injective draw)
    (distinct : (guestLines.map Keyed.key).Nodup)
    (unused : ∀ item ∈ guestLines, draw item.id ∉ items.keys) :
    (∃ lines, AbsorbsAll session userCart draw variants guestLines items
        lines) ↔
      ∀ item ∈ guestLines, item.variant ∈ variants.keys ∧
        NoneDeleted items userCart item.variant := by
  induction guestLines generalizing items with
  | nil => simpa using ⟨items, AbsorbsAll.nil items⟩
  | cons item guestLines ih =>
      rw [List.map_cons, List.nodup_cons] at distinct
      obtain ⟨notListed, distinct⟩ := distinct
      have unusedFirst := unused item List.mem_cons_self
      have stillUnused {middle : Table CartItem} {variant : ProductVariant}
          (first : Absorbs session userCart (draw item.id) item variant items
            middle) :
          ∀ other ∈ guestLines, draw other.id ∉ middle.keys := by
        intro other listed used
        rcases first.keys_subset used with old | same
        · exact unused other (List.mem_cons_of_mem _ listed) old
        · have sameId := injective same
          have otherListed : other.id ∈ guestLines.map Keyed.key :=
            List.mem_map_of_mem listed
          rw [sameId] at otherListed
          exact notListed otherListed
      constructor
      · rintro ⟨lines, absorbs⟩
        cases absorbs with
        | cons found first others =>
            have variantKey := (Table.find?_eq_some.mp found).2
            have uniqueMiddle :=
              unique.mergesInto (first.mergesInto variantKey)
            have later := (ih uniqueMiddle distinct (stillUnused first)).mp
              ⟨lines, others⟩
            intro other listed
            rcases List.mem_cons.mp listed with rfl | listed
            · exact ⟨variantKey ▸ List.mem_map_of_mem
                (Table.find?_eq_some.mp found).1,
                (exists_absorbs_iff _ _ unique unusedFirst).mp ⟨_, first⟩⟩
            · exact ⟨(later other listed).1,
                first.noneDeleted_iff.mp (later other listed).2⟩
      · intro free
        obtain ⟨hasVariant, noneDeleted⟩ := free item List.mem_cons_self
        obtain ⟨variant, variantMem, variantKey⟩ := List.mem_map.mp hasVariant
        obtain ⟨middle, first⟩ := (exists_absorbs_iff session variant unique
          unusedFirst).mpr noneDeleted
        have uniqueMiddle := unique.mergesInto (first.mergesInto variantKey)
        obtain ⟨lines, others⟩ := (ih uniqueMiddle distinct
          (stillUnused first)).mpr fun other listed =>
            ⟨(free other (List.mem_cons_of_mem _ listed)).1,
              first.noneDeleted_iff.mpr
                (free other (List.mem_cons_of_mem _ listed)).2⟩
        exact ⟨lines, .cons (Table.find?_eq_some.mpr ⟨variantMem, variantKey⟩)
          first others⟩

theorem AbsorbsAll.mem_other
    (absorbs : AbsorbsAll session userCart draw variants guestLines items
      lines) {old : CartItem} (other : old.cart ≠ userCart) :
    old ∈ lines.rows ↔ old ∈ items.rows := by
  induction absorbs with
  | nil => exact Iff.rfl
  | cons _ first _ ih => exact ih.trans (first.mem_other other)

theorem AbsorbsAll.mem_cases
    (absorbs : AbsorbsAll session userCart draw variants guestLines items
      lines) {row : CartItem} (member : row ∈ lines.rows) :
    row ∈ items.rows ∨ alive row = true ∧ ∃ item ∈ guestLines,
      Statements.isLineOf userCart item.variant row = true := by
  induction absorbs with
  | nil => exact Or.inl member
  | cons found first _ ih =>
      rcases ih member with middle | ⟨isAlive, item, listed, ofLine⟩
      · refine (first.mem_cases (Table.find?_eq_some.mp found).2
          middle).imp_right ?_
        rintro ⟨isAlive, ofLine⟩
        exact ⟨isAlive, _, List.mem_cons_self, ofLine⟩
      · exact Or.inr ⟨isAlive, item, List.mem_cons_of_mem _ listed, ofLine⟩

theorem AbsorbsAll.same_place
    (absorbs : AbsorbsAll session userCart draw variants guestLines items
      lines) {old row : CartItem} (oldMem : old ∈ items.rows)
    (member : row ∈ lines.rows) (sameId : old.id = row.id) :
    old.cart = row.cart ∧ old.variant = row.variant ∧
      alive old = alive row := by
  induction absorbs generalizing old with
  | nil items =>
      rw [items.eq_of_key_eq oldMem member sameId]
      exact ⟨rfl, rfl, rfl⟩
  | cons _ first _ ih =>
      obtain ⟨middle, middleMem, middleId⟩ := List.mem_map.mp
        (first.keys_of_mem (List.mem_map_of_mem oldMem))
      obtain ⟨oldCart, oldVariant, oldAlive⟩ :=
        first.same_place oldMem middleMem middleId.symm
      obtain ⟨sameCart, sameVariant, sameAlive⟩ :=
        ih middleMem member (middleId.trans sameId)
      exact ⟨oldCart.trans sameCart, oldVariant.trans sameVariant,
        oldAlive.trans sameAlive⟩

/-- The units of the guest lines are added to those of their variants. -/
theorem AbsorbsAll.total_eq
    (absorbs : AbsorbsAll session userCart draw variants guestLines items
      lines) (cart variantId : Uuid) :
    lines.total (lineUnits cart variantId) =
      items.total (lineUnits cart variantId) +
        if userCart = cart then unitsOfVariant guestLines variantId else 0 := by
  induction absorbs with
  | nil => simp [unitsOfVariant]
  | cons found first _ ih =>
      rw [ih, first.total_eq (Table.find?_eq_some.mp found).2, unitsOfVariant,
        unitsOfVariant, List.map_cons, List.sum_cons, add_assoc]
      congr 1
      by_cases same : userCart = cart
      · simp [same]
      · simp [same]

/-- The lines that absorbed a guest line have the price of its variant. -/
def Priced (variants : Table ProductVariant) (cart variantId : Uuid)
    (items : Table CartItem) : Prop :=
  ∀ line ∈ items.rows, Statements.isLineOf cart variantId line = true →
    ∀ variant ∈ variants.find? variantId, line.unitPrice = variant.price

theorem Absorbs.priced_of_priced {lineId : Uuid} {item : CartItem}
    {variant : ProductVariant} (unique : LinesUnique items)
    (found : variants.find? item.variant = some variant)
    (absorbs : Absorbs session userCart lineId item variant items lines)
    {variantId : Uuid} (priced : Priced variants userCart variantId items) :
    Priced variants userCart variantId lines := by
  have variantKey := (Table.find?_eq_some.mp found).2
  intro line member ofLine row isRow
  by_cases same : item.variant = variantId
  · subst same
    rw [found] at isRow
    obtain rfl := Option.some.inj isRow
    exact absorbs.priced variantKey unique line member ofLine
  · cases absorbs with
    | existing _ _ ofOld =>
        rcases Table.mem_save.mp member with ⟨oldMem, _⟩ | ⟨rfl, _⟩
        · exact priced line oldMem ofLine row isRow
        · exact absurd ((isLineOf_iff.mp ofOld).2.symm.trans
            (isLineOf_iff.mp ofLine).2) same
    | created unused _ =>
        rw [Table.rows_insertNew unused, List.mem_append, List.mem_singleton]
          at member
        rcases member with oldMem | rfl
        · exact priced line oldMem ofLine row isRow
        · exact absurd (variantKey.symm.trans (isLineOf_iff.mp ofLine).2) same

theorem AbsorbsAll.priced_of_priced (unique : LinesUnique items)
    (absorbs : AbsorbsAll session userCart draw variants guestLines items
      lines)
    {variantId : Uuid} (priced : Priced variants userCart variantId items) :
    Priced variants userCart variantId lines := by
  induction absorbs with
  | nil => exact priced
  | cons found first _ ih =>
      have variantKey := (Table.find?_eq_some.mp found).2
      exact ih (unique.mergesInto (first.mergesInto variantKey))
        (first.priced_of_priced unique found priced)

/-- Every line for the variant of a guest line has the variant's price. -/
theorem AbsorbsAll.priced (unique : LinesUnique items)
    (absorbs : AbsorbsAll session userCart draw variants guestLines items
      lines) :
    ∀ item ∈ guestLines, Priced variants userCart item.variant lines := by
  induction absorbs with
  | nil => simp
  | cons found first others ih =>
      have variantKey := (Table.find?_eq_some.mp found).2
      have uniqueMiddle := unique.mergesInto (first.mergesInto variantKey)
      intro item listed
      rcases List.mem_cons.mp listed with rfl | listed
      · apply others.priced_of_priced uniqueMiddle
        intro line member ofLine variant isVariant
        rw [found] at isVariant
        obtain rfl := Option.some.inj isVariant
        exact first.priced variantKey unique line member ofLine
      · exact ih uniqueMiddle item listed

end Lines

section Alone

open Transaction

variable {db after : Database} {session : Session} {userCart : Uuid}

/-- The query for the line of a variant returns the only one there is. -/
theorem alone_firstLine {variantId : Uuid} (line : Option CartItem)
    (found : db.chosenItems (Statements.isLineOf userCart variantId) =
      line.toList) :
    (Statements.firstLine session userCart variantId).alone db =
      .ok line db := by
  have perm : (session.orderBy db.cartItems
      (Statements.isLineOf userCart variantId)
      (fun first second => first.id ≤ second.id)).Perm line.toList :=
    (List.perm_insertionSort _ _).trans (found ▸ session.scan_perm CartItem _)
  rw [Statements.firstLine, alone_query_bind]
  cases line with
  | none =>
      rw [List.perm_nil.mp perm]
      rfl
  | some line =>
      rw [List.perm_singleton.mp perm]
      rfl

theorem alone_variantOf {item : CartItem} {variant : ProductVariant}
    (found : db.variants.find? item.variant = some variant) :
    (Statements.variantOf item).alone db = .ok variant db := by
  rw [Statements.variantOf, alone_query_bind, found]
  rfl

/-- A guest line that can be absorbed is merged. -/
theorem mergeItem_returns (unique : LinesUnique db.cartItems) {lineId : Uuid}
    {item : CartItem} {variant : ProductVariant} {items : Table CartItem}
    (found : db.variants.find? item.variant = some variant)
    (absorbs : Absorbs session userCart lineId item variant db.cartItems
      items) :
    (Statements.mergeItem session userCart lineId item).alone db =
      .ok () { db with cartItems := items } := by
  have variantKey := (Table.find?_eq_some.mp found).2
  rw [Statements.mergeItem, alone_bind, bind_of_eq_ok (alone_variantOf found),
    alone_bind]
  cases absorbs with
  | @existing line member isAlive ofLine =>
      have only := chosenItems_eq_singleton unique member isAlive ofLine
      rw [bind_of_eq_ok (alone_firstLine (some line) only)]
      rfl
  | created unused noLine =>
      have noneFound := chosenItems_eq_nil noLine
      rw [bind_of_eq_ok (alone_firstLine none noneFound)]
      have noPlace : NoLine db.cartItems userCart variant.id := by
        rw [show variant.id = item.variant from variantKey]
        exact noLine
      have inserted : (Statements.insertLine (Statements.addedTo
          (Statements.newLine session lineId userCart variant) item.quantity
          variant)).alone db = _ := alone_insertLine unused noPlace
      dsimp only
      rw [alone_bind, bind_of_eq_ok inserted]
      rfl

theorem mergeItems_returns (session : Session)
    (unique : LinesUnique db.cartItems) {draw : Uuid → Uuid}
    {guestLines : List CartItem} {items : Table CartItem}
    (absorbs : AbsorbsAll session userCart draw db.variants guestLines
      db.cartItems items) :
    (Statements.mergeItems session userCart draw guestLines).alone db =
      .ok () { db with cartItems := items } := by
  induction guestLines generalizing db with
  | nil =>
      cases absorbs
      rfl
  | cons item guestLines ih =>
      cases absorbs with
      | cons found first others =>
          have variantKey := (Table.find?_eq_some.mp found).2
          rw [Statements.mergeItems, alone_bind,
            bind_of_eq_ok (mergeItem_returns unique found first)]
          have uniqueMiddle := unique.mergesInto (first.mergesInto variantKey)
          exact ih uniqueMiddle others

/-- The carts that a query finds, in any order, if they are at most one. -/
theorem filter_eq_of_chosenCarts (session : Session) {chosen : Cart → Bool}
    (found : Option Cart) (only : db.chosenCarts chosen = found.toList) :
    session.filter db.carts chosen = found.toList := by
  have perm : (session.filter db.carts chosen).Perm found.toList :=
    only ▸ session.scan_perm Cart _
  cases found with
  | none => exact List.perm_nil.mp perm
  | some cart => exact List.perm_singleton.mp perm

theorem oneOrCreate_returns (session : Session) {chosen : Cart → Bool}
    {new cart : Cart} {carts : Table Cart}
    (gives : GivesCart db chosen new cart carts) :
    (Statements.oneOrCreate (session.filter db.carts chosen) new).alone db =
      .ok cart { db with carts := carts } := by
  cases gives with
  | found only =>
      rw [filter_eq_of_chosenCarts session (some cart) only]
      rfl
  | created noneFound unused =>
      rw [filter_eq_of_chosenCarts session none noneFound]
      change (Transaction.bind (if new.id ∈ db.carts.keys then _ else _)
        _ : Statements Cart).alone db = _
      rw [if_neg unused]
      rfl

/-- A merge returns exactly if the guest lines can be absorbed. -/
theorem mergeAnonymousIntoUser_returns_iff (unique : LinesUnique db.cartItems)
    {sessionKey : String} {user : Uuid} {result : Option Cart} :
    mergeAnonymousIntoUser session sessionKey user db = .ok result after ↔
      MergesGuest session sessionKey user db result after := by
  constructor
  · exact mergesGuest_of_returned
  · intro merges
    apply atomic_eq_ok.mpr
    rw [Statements.mergeAnonymousIntoUser]
    cases merges with
    | nothing noGuest =>
        by_cases noKey : sessionKey = ""
        · rw [if_pos noKey]
          rfl
        · have noGuests : session.filter db.carts (fun cart =>
              cart.sessionKey = sessionKey && cart.user = none) = [] :=
            filter_eq_of_chosenCarts session none (noGuest.resolve_left noKey)
          rw [if_neg noKey, alone_bind, bind_of_eq_ok (alone_lockCarts _),
            noGuests]
          rfl
    | @merged anon userCart carts items hasKey anonOnly gives absorbs =>
        have guests : session.filter db.carts (fun cart =>
            cart.sessionKey = sessionKey && cart.user = none) = [anon] :=
          filter_eq_of_chosenCarts session (some anon) anonOnly
        rw [if_neg hasKey, alone_bind, bind_of_eq_ok (alone_lockCarts _),
          guests]
        dsimp only
        have given := oneOrCreate_returns session gives
        have uniqueStill : LinesUnique
            ({ db with carts := carts } : Database).cartItems := unique
        have merged := mergeItems_returns session uniqueStill absorbs
        rw [alone_bind, bind_of_eq_ok (alone_lockCarts _), alone_bind]
        change ((Statements.oneOrCreate (session.filter db.carts
          (isCartOfUser user)) (mergedCart session db user anon.currency)).alone
            >>= _) db = _
        rw [bind_of_eq_ok given, alone_query_bind, alone_bind]
        change ((Statements.mergeItems session userCart.id
          (fun item => FreshKey.fresh db.cartItems.keys + item)
          (session.scan CartItem (db.itemsOf anon.id))).alone >>= _) _ = _
        rw [bind_of_eq_ok merged]
        rfl

end Alone

end NovaCommerce
