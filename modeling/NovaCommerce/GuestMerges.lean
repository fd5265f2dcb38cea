import NovaCommerce.SoundCarts

/-!
# Merging a guest cart into the cart of a user

After any history of the carts a guest cart is merged into the user's cart with
all its units and at the current prices, and is gone, unless a deleted line of
the user's cart stands in the way of a guest line: then the merge fails.
-/

namespace NovaCommerce

open AtomicCall GuardedRun LockingTransactions

/-- The guest cart was merged into the cart of the user, and nothing was lost
or invented. -/
structure GuestMerged (db after : Database) (sessionKey : String) (user : Uuid)
    (anon userCart : Cart) : Prop where
  ofUser : userCart ∈ objects after.carts ∧ userCart.user = some user
  units : ∀ variant, after.cartUnits userCart.id variant =
    db.cartUnits userCart.id variant + db.cartUnits anon.id variant
  priced : ∀ item ∈ db.itemsOf anon.id, ∀ line ∈ after.itemsOf userCart.id,
    line.variant = item.variant →
      ∀ variant ∈ db.variants.find? item.variant,
        line.unitPrice = variant.price
  oneLine : ∀ first ∈ after.itemsOf userCart.id,
    ∀ second ∈ after.itemsOf userCart.id, first.variant = second.variant →
      first = second
  guestGone : after.chosenCarts (isCartOfSession sessionKey) = []
  again : ∀ session other,
    mergeAnonymousIntoUser session sessionKey other after = .ok none after
  otherCarts : ∀ id, id ≠ userCart.id → id ≠ anon.id →
    after.carts.find? id = db.carts.find? id
  otherLines : ∀ line, line.cart ≠ userCart.id →
    (line ∈ after.cartItems.rows ↔ line ∈ db.cartItems.rows)
  frame : after = { db with
    cartItems := after.cartItems
    carts := after.carts }

/-- No deleted line of the user's cart stands in the way of a line of the
guest cart. -/
def Database.Mergeable (db : Database) (anon : Cart) (user : Uuid) : Prop :=
  ∀ userCart ∈ objects db.carts, userCart.user = some user →
    ∀ item ∈ db.itemsOf anon.id,
      NoneDeleted db.cartItems userCart.id item.variant

section Carts

variable {db : Database}

/-- A live cart is the only one that is found for its owner. -/
theorem chosenCarts_eq_singleton (oneLive : db.OneLiveCart)
    {chosen : Cart → Bool} {owner : Owner}
    (isOwner : ∀ cart, chosen cart = true ↔ cart.owner = owner) {cart : Cart}
    (live : cart ∈ objects db.carts) (ofOwner : cart.owner = owner) :
    db.chosenCarts chosen = [cart] := by
  have listed : cart ∈ db.chosenCarts chosen :=
    List.mem_filter.mpr ⟨live, (isOwner cart).mpr ofOwner⟩
  have few : (db.chosenCarts chosen).length ≤ 1 :=
    length_filter_le_one oneLive { now := 0 } fun cart => (isOwner cart).mp
  cases found : db.chosenCarts chosen with
  | nil =>
      rw [found] at listed
      cases listed
  | cons first others =>
      rw [found] at listed few
      obtain rfl : others = [] := by
        cases others with
        | nil => rfl
        | cons => simp at few
      rw [List.mem_singleton.mp listed]

/-- The user has a cart, or one is created. -/
theorem exists_givesCart (oneLive : db.OneLiveCart) {chosen : Cart → Bool}
    {owner : Owner} (isOwner : ∀ cart, chosen cart = true ↔ cart.owner = owner)
    {new : Cart} (unused : new.id ∉ db.carts.keys) :
    ∃ cart carts, GivesCart db chosen new cart carts := by
  cases found : db.chosenCarts chosen with
  | nil => exact ⟨new, _, .created found unused⟩
  | cons cart others =>
      have listed : cart ∈ db.chosenCarts chosen := by
        rw [found]
        exact List.mem_cons_self
      obtain ⟨live, chosenCart⟩ := List.mem_filter.mp listed
      exact ⟨cart, _, .found (chosenCarts_eq_singleton oneLive isOwner live
        ((isOwner cart).mp chosenCart))⟩

end Carts

section Merge

variable {db : Database} {session : Session} {sessionKey : String}
  {user : Uuid}

theorem unitsOfVariant_itemsOf (db : Database) (cart variant : Uuid) :
    unitsOfVariant (db.itemsOf cart) variant = db.cartUnits cart variant := by
  rw [unitsOfVariant, Database.itemsOf, Database.cartUnits, unitsForCart]
  induction objects db.cartItems with
  | nil => rfl
  | cons item items ih =>
      by_cases inCart : item.cart = cart
      · simp [inCart, Statements.isLineOf, ih]
      · simp [inCart, Statements.isLineOf, ih]

theorem unitsOfVariant_perm {first second : List CartItem}
    (perm : first.Perm second) (variant : Uuid) :
    unitsOfVariant first variant = unitsOfVariant second variant :=
  (perm.map _).sum_eq

/-- The user's cart is live, and is not the guest cart. -/
theorem GivesCart.live {anon userCart : Cart} {carts : Table Cart}
    (anonOnly : db.chosenCarts (isCartOfSession sessionKey) = [anon])
    (gives : GivesCart db (isCartOfUser user)
      (mergedCart session db user anon.currency) userCart carts) :
    alive userCart = true ∧ userCart.user = some user ∧
      userCart.id ≠ anon.id := by
  have anonListed : anon ∈ db.chosenCarts (isCartOfSession sessionKey) := by
    rw [anonOnly]
    exact List.mem_singleton_self anon
  have anonMem := mem_chosenCarts anonListed
  have isGuest := (List.mem_filter.mp anonListed).2
  cases gives with
  | found only =>
      have listed : userCart ∈ db.chosenCarts (isCartOfUser user) := by
        rw [only]
        exact List.mem_singleton_self userCart
      obtain ⟨live, ofUser⟩ := List.mem_filter.mp listed
      refine ⟨(List.mem_filter.mp live).2, of_decide_eq_true ofUser, ?_⟩
      intro sameId
      rw [db.carts.eq_of_key_eq (mem_chosenCarts listed) anonMem sameId]
        at ofUser
      simp only [isCartOfSession, isCartOfUser, Bool.and_eq_true,
        decide_eq_true_eq] at isGuest ofUser
      rw [isGuest.2] at ofUser
      cases ofUser
  | created _ unused =>
      refine ⟨rfl, rfl, ?_⟩
      intro sameId
      apply unused
      rw [sameId]
      exact List.mem_map_of_mem anonMem

/-- The guest cart is not found any more. -/
theorem guestGone_of_gives {anon userCart : Cart} {carts : Table Cart}
    {after : Database}
    (anonOnly : db.chosenCarts (isCartOfSession sessionKey) = [anon])
    (gives : GivesCart db (isCartOfUser user)
      (mergedCart session db user anon.currency) userCart carts)
    (carts_eq : after.carts =
      Statements.withDeletedCart session carts anon.id) :
    after.chosenCarts (isCartOfSession sessionKey) = [] := by
  apply List.eq_nil_iff_forall_not_mem.mpr
  intro row listed
  obtain ⟨live, ofSession⟩ := List.mem_filter.mp listed
  rw [carts_eq] at live
  obtain ⟨rowMem, isAlive⟩ := List.mem_filter.mp live
  obtain ⟨cart, cartMem, rfl⟩ := List.mem_map.mp rowMem
  split at isAlive
  · cases isAlive
  · next otherId =>
    rw [if_neg otherId] at ofSession
    have wasThere : cart ∈ db.carts.rows := by
      cases gives with
      | found => exact cartMem
      | created _ unused =>
          rw [Table.rows_insertNew unused, List.mem_append,
            List.mem_singleton] at cartMem
          rcases cartMem with old | rfl
          · exact old
          · simp [isCartOfSession, mergedCart] at ofSession
    have found : cart ∈ db.chosenCarts (isCartOfSession sessionKey) :=
      List.mem_filter.mpr ⟨List.mem_filter.mpr ⟨wasThere, isAlive⟩, ofSession⟩
    rw [anonOnly] at found
    exact otherId (congrArg (fun row => row.id) (List.mem_singleton.mp found))

/-- What a merge that absorbed the guest lines has done. -/
theorem guestMerged_of_absorbs (unique : LinesUnique db.cartItems)
    {anon userCart : Cart} {carts : Table Cart} {items : Table CartItem}
    (anonOnly : db.chosenCarts (isCartOfSession sessionKey) = [anon])
    (gives : GivesCart db (isCartOfUser user)
      (mergedCart session db user anon.currency) userCart carts)
    {draw : Uuid → Uuid}
    (absorbs : AbsorbsAll session userCart.id draw db.variants
      (session.scan CartItem (db.itemsOf anon.id)) db.cartItems items) :
    GuestMerged db { db with
      cartItems := items
      carts := Statements.withDeletedCart session carts anon.id } sessionKey
      user anon userCart := by
  obtain ⟨isAlive, ofUser, notAnon⟩ := gives.live anonOnly
  have uniqueAfter := unique.mergesLines absorbs.mergesLines
  have listed (item : CartItem) :
      item ∈ session.scan CartItem (db.itemsOf anon.id) ↔
        item ∈ db.itemsOf anon.id :=
    (session.scan_perm CartItem _).mem_iff
  have gone : Database.chosenCarts { db with
      cartItems := items
      carts := Statements.withDeletedCart session carts anon.id }
      (isCartOfSession sessionKey) = [] :=
    guestGone_of_gives anonOnly gives rfl
  constructor
  case ofUser =>
    refine ⟨List.mem_filter.mpr ⟨?_, isAlive⟩, ofUser⟩
    exact List.mem_map.mpr ⟨userCart, gives.mem, if_neg notAnon⟩
  case units =>
    intro variant
    rw [cartUnits_eq_total, cartUnits_eq_total, absorbs.total_eq, if_pos rfl,
      unitsOfVariant_perm (session.scan_perm CartItem _),
      unitsOfVariant_itemsOf]
  case priced =>
    intro item itemMem line lineMem sameVariant variant isVariant
    obtain ⟨inTable, _, inCart⟩ := mem_itemsOf.mp lineMem
    exact absorbs.priced unique item ((listed item).mpr itemMem) line inTable
      (isLineOf_iff.mpr ⟨inCart, sameVariant⟩) variant isVariant
  case oneLine =>
    intro first firstMem second secondMem sameVariant
    obtain ⟨firstIn, _, firstCart⟩ := mem_itemsOf.mp firstMem
    obtain ⟨secondIn, _, secondCart⟩ := mem_itemsOf.mp secondMem
    exact uniqueAfter first firstIn second secondIn
      (firstCart.trans secondCart.symm) sameVariant
  case guestGone => exact gone
  case again =>
    intro session other
    exact (mergeAnonymousIntoUser_returns_iff uniqueAfter).mpr
      (.nothing (Or.inr gone))
  case otherCarts =>
    intro id notUser notGuest
    have kept : (Statements.withDeletedCart session carts anon.id).find? id =
        carts.find? id := by
      apply Table.find?_alter_of_same
      rintro row rfl
      exact if_neg notGuest
    refine kept.trans ?_
    cases gives with
    | found => rfl
    | created => exact Table.find?_insertNew_of_ne notUser.symm
  case otherLines => exact fun line => absorbs.mem_other
  case frame => rfl

/-- Guest lines can be absorbed exactly if no deleted line stands in the
way. -/
theorem exists_merged_iff (session : Session) (sound : CartsSound db)
    (anon userCart : Cart) :
    (∃ items, AbsorbsAll session userCart.id
        (fun item => FreshKey.fresh db.cartItems.keys + item) db.variants
        (session.scan CartItem (db.itemsOf anon.id)) db.cartItems items) ↔
      ∀ item ∈ db.itemsOf anon.id,
        NoneDeleted db.cartItems userCart.id item.variant := by
  have perm := session.scan_perm CartItem (db.itemsOf anon.id)
  have distinct : ((session.scan CartItem (db.itemsOf anon.id)).map
      Keyed.key).Nodup :=
    (perm.map Keyed.key).nodup_iff.mpr (nodup_chosenItems db _)
  have unused : ∀ item ∈ session.scan CartItem (db.itemsOf anon.id),
      FreshKey.fresh db.cartItems.keys + item.id ∉ db.cartItems.keys := by
    intro item _ used
    have := lt_fresh used
    omega
  refine (exists_absorbsAll_iff sound.unique
    (fun first second => Nat.add_left_cancel) distinct unused).trans ?_
  constructor
  · intro free item listed
    exact (free item (perm.mem_iff.mpr listed)).2
  · intro noneDeleted item listed
    have inCart := perm.mem_iff.mp listed
    exact ⟨sound.haveVariants item (mem_itemsOf.mp inCart).1,
      noneDeleted item inCart⟩

end Merge

section Reached

variable {db : Database} (sound : CartsSound db) {anon : Cart}
  (live : anon ∈ objects db.carts) (isGuest : anon.user = none)

include sound live isGuest

theorem chosenCarts_of_guest :
    db.chosenCarts (isCartOfSession anon.sessionKey) = [anon] := by
  have ofSession : anon.owner = .guest anon.sessionKey := by
    rw [Cart.owner, isGuest]
  exact chosenCarts_eq_singleton sound.oneLive (fun _ => isCartOfSession_iff)
    live ofSession

/-- A guest cart whose merge returned was mergeable. -/
theorem mergeable_of_merges {session : Session} {user : Uuid}
    {userCart : Cart} {after : Database}
    (merges : MergesGuest session anon.sessionKey user db (some userCart)
      after) : db.Mergeable anon user := by
  have anonOnly := chosenCarts_of_guest sound live isGuest
  intro cart cartLive cartUser item listed
  have ofUser : isCartOfUser user cart = true := decide_eq_true cartUser
  have only : db.chosenCarts (isCartOfUser user) = [cart] :=
    chosenCarts_eq_singleton sound.oneLive (fun _ => isCartOfUser_iff)
      cartLive (isCartOfUser_iff.mp ofUser)
  cases merges with
  | @merged guest _ carts items _ guestOnly gives absorbs =>
      obtain rfl : anon = guest :=
        (List.cons.inj (anonOnly.symm.trans guestOnly)).1
      have noneDeleted := (exists_merged_iff session sound anon _).mp
        ⟨items, absorbs⟩ item listed
      cases gives with
      | found isFound =>
          rw [only] at isFound
          rw [(List.cons.inj isFound).1]
          exact noneDeleted
      | created noneFound =>
          rw [only] at noneFound
          cases noneFound

/-- A mergeable guest cart is merged. -/
theorem exists_mergesGuest (session : Session) {user : Uuid}
    (mergeable : db.Mergeable anon user) :
    ∃ userCart carts items,
      GivesCart db (isCartOfUser user)
        (mergedCart session db user anon.currency) userCart carts ∧
      AbsorbsAll session userCart.id
        (fun item => FreshKey.fresh db.cartItems.keys + item) db.variants
        (session.scan CartItem (db.itemsOf anon.id)) db.cartItems items ∧
      mergeAnonymousIntoUser session anon.sessionKey user db =
        .ok (some userCart) { db with
          cartItems := items
          carts := Statements.withDeletedCart session carts anon.id } := by
  have anonOnly := chosenCarts_of_guest sound live isGuest
  have hasKey := sound.keyed anon (List.mem_filter.mp live).1 isGuest
  have unused := FreshKey.fresh_notMem db.carts.keys
  obtain ⟨userCart, carts, gives⟩ : ∃ userCart carts,
      GivesCart db (isCartOfUser user)
        (mergedCart session db user anon.currency) userCart carts :=
    exists_givesCart sound.oneLive (fun _ => isCartOfUser_iff) unused
  have free : ∀ item ∈ db.itemsOf anon.id,
      NoneDeleted db.cartItems userCart.id item.variant := by
    intro item listed
    cases gives with
    | found only =>
        have isUser : userCart ∈ db.chosenCarts (isCartOfUser user) := by
          rw [only]
          exact List.mem_singleton_self userCart
        obtain ⟨userLive, isOfUser⟩ := List.mem_filter.mp isUser
        exact mergeable userCart userLive (of_decide_eq_true isOfUser) item
          listed
    | created =>
        -- No line is in a cart that is not there yet.
        intro line member ofLine
        have hasCart := sound.haveCarts line member
        rw [(isLineOf_iff.mp ofLine).1] at hasCart
        exact absurd hasCart unused
  obtain ⟨items, absorbs⟩ := (exists_merged_iff session sound anon _).mpr free
  exact ⟨userCart, carts, items, gives, absorbs,
    (mergeAnonymousIntoUser_returns_iff sound.unique).mpr
      (.merged hasKey anonOnly gives absorbs)⟩

end Reached

/-- After any history of the carts a guest cart can be merged into the cart of
a user, with nothing lost and nothing invented, exactly if the user's cart has
no deleted line for a variant of the guest cart. -/
theorem guestMerged_iff {initial db : Database} {history : List CartCommand}
    (sound : CartsSound initial)
    (reached : exec CartCommand.step initial history = db)
    (session : Session) (user : Uuid) {anon : Cart}
    (live : anon ∈ objects db.carts) (isGuest : anon.user = none) :
    (∃ userCart after,
        mergeAnonymousIntoUser session anon.sessionKey user db =
            .ok (some userCart) after ∧
          GuestMerged db after anon.sessionKey user anon userCart) ↔
      db.Mergeable anon user := by
  have soundNow : CartsSound db := reached ▸ sound.history history
  constructor
  · rintro ⟨userCart, after, returned, _⟩
    exact mergeable_of_merges soundNow live isGuest
      (mergesGuest_of_returned returned)
  · intro mergeable
    obtain ⟨userCart, carts, items, gives, absorbs, returned⟩ :=
      exists_mergesGuest soundNow live isGuest session mergeable
    exact ⟨userCart, _, returned, guestMerged_of_absorbs soundNow.unique
      (chosenCarts_of_guest soundNow live isGuest) gives absorbs⟩

def guestCart : Cart :=
  { id := 11, createdAt := 0, sessionKey := "guest" }

/-- The cart of the user 3 and a guest cart, with a unit of one variant in
each. -/
def guestShop : Database :=
  { twoCarts 5 with
    carts := ⟨[{ id := 10, createdAt := 0, user := some 3 }, guestCart],
      by decide⟩ }

theorem cartsSound_guestShop : CartsSound guestShop := by
  refine ⟨⟨?_, ?_, ?_, ?_⟩, ⟨?_, ?_⟩⟩
  · unfold LinesUnique
    decide
  · unfold Database.LinesHaveCarts
    decide
  · unfold Database.LinesHaveVariants
    decide
  · unfold Database.LinesPositive
    decide
  · decide
  · decide

/-- The user's line was updated before. -/
def updatedShop : Database :=
  exec CartCommand.step guestShop [.updateItem { now := 1 } 10 20 2]

theorem guestMerged_updated :
    ∃ userCart after,
      mergeAnonymousIntoUser { now := 2 } "guest" 3 updatedShop =
          .ok (some userCart) after ∧
        GuestMerged updatedShop after "guest" 3 guestCart userCart := by
  have live : guestCart ∈ objects updatedShop.carts := by decide +kernel
  refine (guestMerged_iff cartsSound_guestShop rfl { now := 2 } 3 live
    rfl).mpr ?_
  unfold Database.Mergeable NoneDeleted
  decide +kernel

/-- The user's line was removed before, and the merge at the login fails. -/
theorem merge_fails_after_removal :
    let db := exec CartCommand.step guestShop [.removeItem { now := 1 } 10 20]
    CartsSound guestShop ∧ guestCart ∈ objects db.carts ∧
      (∃ userCart ∈ objects db.carts, userCart.user = some 3) ∧
      ¬Returns (mergeAnonymousIntoUser { now := 2 } "guest" 3) db := by
  refine ⟨cartsSound_guestShop, ?_, ?_, ?_⟩
  · decide +kernel
  · decide +kernel
  · decide +kernel

end NovaCommerce
