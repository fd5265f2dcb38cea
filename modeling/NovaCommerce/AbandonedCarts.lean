import NovaCommerce.SoundCarts

/-!
# Abandoned carts

The report of abandoned carts goes by the time stamp of a cart and by the lines
that a join sees.  No operation on a cart refreshes the time stamp, so that it
stays the moment of the cart's creation; and the join sees deleted lines too.
-/

namespace NovaCommerce

open AtomicCall GuardedRun

/-- An entry of the report. -/
structure AbandonedCart where
  cartId : Uuid
  user : Option String
  lastActiveAt : Time
  itemCount : Nat
  subtotal : Cents
  deriving DecidableEq, Repr

/-- The lines of a cart that a join over `items` sees: deleted ones too. -/
def Database.joinedItems (db : Database) (cart : Uuid) : List CartItem :=
  db.cartItems.rows.filter fun item => item.cart = cart

/-- The conditions of the query: `last_active_at__lt`, `items__isnull=False`
and `item_count__gt=0`. -/
def Database.isIdle (db : Database) (cutoff : Time) (cart : Cart) : Bool :=
  cart.lastActiveAt < cutoff && !(db.joinedItems cart.id).isEmpty &&
    0 < (db.joinedItems cart.id).length

/-- The carts of the query, the last active ones first. -/
def idleCarts (session : Session) (db : Database) (cutoff : Time) :
    List Cart :=
  session.orderBy db.carts (db.isIdle cutoff)
    fun first second => second.lastActiveAt ≤ first.lastActiveAt

/-- The entry of a cart; `subtotal()` goes over the visible lines. -/
def Database.abandonedCart (db : Database) (emails : Uuid → String)
    (cart : Cart) : AbandonedCart where
  cartId := cart.id
  user := cart.user.map emails
  lastActiveAt := cart.lastActiveAt
  itemCount := (db.joinedItems cart.id).length
  subtotal := db.cartSubtotal cart.id

/-- `timezone.now() - timedelta(minutes=idle_minutes)`. -/
def Session.minutesAgo (session : Session) (minute idleMinutes : Int) : Time :=
  session.now - idleMinutes * minute

def abandonedCarts (session : Session) (db : Database)
    (emails : Uuid → String) (minute : Int) (idleMinutes : Int := 60)
    (limit : Nat := 100) : List AbandonedCart :=
  ((idleCarts session db (session.minutesAgo minute idleMinutes)).take
    limit).map (db.abandonedCart emails)

namespace CartCommand

def session : CartCommand → Session
  | getOrCreateCart session _ _ => session
  | addItem session _ _ _ => session
  | updateItem session _ _ _ => session
  | removeItem session _ _ => session
  | clearCart session _ => session
  | mergeAnonymousIntoUser session _ _ => session
  | createOrderFromCart session _ _ _ => session

/-- The cart that a call has operated on, if it returned. -/
def operatedCart (db : Database) : CartCommand → Option Uuid
  | getOrCreateCart _ _ _ => none
  | addItem session cart variantId quantity =>
      if Returns (NovaCommerce.addItem session cart variantId quantity) db then
        some cart
      else none
  | updateItem session cart itemId quantity =>
      if Returns (NovaCommerce.updateItem session cart itemId quantity) db then
        some cart
      else none
  | removeItem session cart itemId =>
      if Returns (NovaCommerce.removeItem session cart itemId) db then
        some cart
      else none
  | clearCart session cart =>
      if Returns (NovaCommerce.clearCart session cart) db then some cart
      else none
  | mergeAnonymousIntoUser session sessionKey user =>
      match NovaCommerce.mergeAnonymousIntoUser session sessionKey user db with
      | .ok merged _ => merged.map fun cart => cart.id
      | .error _ _ => none
  | createOrderFromCart session cart user payload =>
      if (db.carts.find? cart).any fun row =>
          Returns (NovaCommerce.createOrderFromCart session row user payload) db
      then some cart
      else none

end CartCommand

/-- The database with the history that no table keeps: the carts that calls
have operated on, and when. -/
structure CartLog where
  db : Database
  operations : List (Uuid × Time) := []

namespace CartLog

def step (log : CartLog) (command : CartCommand) : CartLog where
  db := command.step log.db
  operations := log.operations ++
    ((command.operatedCart log.db).map fun cart =>
      (cart, command.session.now)).toList

/-- When there were operations on a cart. -/
def operationsOn (log : CartLog) (cart : Uuid) : List Time :=
  (log.operations.filter fun operation => operation.1 = cart).map Prod.snd

/-- The cart has a line left, and all operations on it are older. -/
def isAbandoned (log : CartLog) (cutoff : Time) (cart : Cart) : Bool :=
  !(log.db.itemsOf cart.id).isEmpty &&
    (log.operationsOn cart.id).all fun time => time < cutoff

/-- A report has an entry for each abandoned cart, with the number of its
lines, and no other ones. -/
def Reports (log : CartLog) (cutoff : Time) (report : List AbandonedCart) :
    Prop :=
  (report.map fun entry => (entry.cartId, entry.itemCount)).Perm
    (((objects log.db.carts).filter (log.isAbandoned cutoff)).map fun cart =>
      (cart.id, (log.db.itemsOf cart.id).length))

end CartLog

/-- Every cart was there before with the same time stamps, or was created at the
given moment. -/
def Stamped (now : Time) (before after : Database) : Prop :=
  ∀ cart ∈ after.carts.rows,
    (∃ old ∈ before.carts.rows, old.id = cart.id ∧
      old.createdAt = cart.createdAt ∧ old.lastActiveAt = cart.lastActiveAt) ∨
    (cart.id ∉ before.carts.keys ∧ cart.createdAt = now ∧
      cart.lastActiveAt = now)

section Stamps

variable {now : Time} {db after : Database}

theorem stamped_of_same (sameCarts : after.carts = db.carts) :
    Stamped now db after := by
  intro cart member
  rw [sameCarts] at member
  exact Or.inl ⟨cart, member, rfl, rfl, rfl⟩

/-- A save of other columns keeps the time stamps. -/
theorem Stamped.of_rows {middle : Database} (stamped : Stamped now db middle)
    {change : Cart → Cart}
    (rows_eq : after.carts.rows = middle.carts.rows.map change)
    (keeps : ∀ cart ∈ middle.carts.rows, (change cart).id = cart.id ∧
      (change cart).createdAt = cart.createdAt ∧
        (change cart).lastActiveAt = cart.lastActiveAt) :
    Stamped now db after := by
  intro cart member
  rw [rows_eq] at member
  obtain ⟨old, oldMem, rfl⟩ := List.mem_map.mp member
  obtain ⟨sameId, sameCreated, sameActive⟩ := keeps old oldMem
  rw [sameId, sameCreated, sameActive]
  exact stamped old oldMem

theorem GivesCart.stamped {chosen : Cart → Bool} {new cart : Cart}
    {carts : Table Cart} (created : new.createdAt = now)
    (active : new.lastActiveAt = now)
    (gives : GivesCart db chosen new cart carts) :
    Stamped now db { db with carts := carts } := by
  cases gives with
  | found => exact stamped_of_same rfl
  | created noneFound unused =>
      intro row member
      rw [Table.rows_insertNew unused, List.mem_append, List.mem_singleton]
        at member
      rcases member with old | rfl
      · exact stamped_of_same rfl row old
      · exact Or.inr ⟨unused, created, active⟩

/-- A call creates carts at its own time, and refreshes no time stamp. -/
theorem stamped_step (db : Database) (command : CartCommand) :
    Stamped command.session.now db (command.step db) := by
  cases command with
  | getOrCreateCart session user sessionKey =>
      refine effect_settle (fun _ _ => atomic_eq_error)
        (stamped_of_same rfl) ?_
      intro cart after returned
      obtain ⟨_, _, _, _, _, _, _, ⟨created, active⟩, gives, rfl⟩ :=
        getOrCreateCart_gives returned
      exact gives.stamped created active
  | addItem session cart variantId quantity =>
      refine effect_settle (fun _ _ => atomic_eq_error)
        (stamped_of_same rfl) ?_
      intro saved after returned
      obtain ⟨line, items, adds, _⟩ := addItem_eq_ok returned
      exact stamped_of_same (by rw [adds.after_eq])
  | updateItem session cart itemId quantity =>
      refine effect_settle (fun _ _ => atomic_eq_error)
        (stamped_of_same rfl) ?_
      intro saved after returned
      obtain ⟨found, updates⟩ := updateItem_eq_ok returned
      rcases updates.after_eq with ⟨_, _, rfl⟩ | ⟨_, _, rfl⟩ <;>
        exact stamped_of_same rfl
  | removeItem session cart itemId =>
      refine effect_settle (fun _ _ => atomic_eq_error)
        (stamped_of_same rfl) ?_
      intro value after returned
      obtain ⟨ids, rfl⟩ := removeItem_eq_ok returned
      exact stamped_of_same rfl
  | clearCart session cart =>
      refine effect_settle (fun _ _ => atomic_eq_error)
        (stamped_of_same rfl) ?_
      intro value after returned
      obtain ⟨ids, rfl⟩ := clearCart_eq_ok returned
      refine Stamped.of_rows (stamped_of_same rfl) (by rfl) ?_
      intro row _
      split <;> exact ⟨rfl, rfl, rfl⟩
  | mergeAnonymousIntoUser session sessionKey user =>
      refine effect_settle (fun _ _ => atomic_eq_error)
        (stamped_of_same rfl) ?_
      intro result after returned
      cases mergesGuest_of_returned returned with
      | nothing => exact stamped_of_same rfl
      | merged _ _ gives _ =>
          have stamped : Stamped session.now db _ := gives.stamped rfl rfl
          refine stamped.of_rows (by rfl) ?_
          intro row _
          split <;> exact ⟨rfl, rfl, rfl⟩
  | createOrderFromCart session cart user payload =>
      have effect := cartEffect_step db
        (.createOrderFromCart session cart user payload)
      generalize CartCommand.step db _ = after at effect ⊢
      cases effect with
      | unchanged => exact stamped_of_same rfl
      | checkedOut _ checkedOut =>
          have conversion := exactConversion_of_checkedOut checkedOut
          refine Stamped.of_rows (stamped_of_same rfl) conversion.carts_eq ?_
          intro row _
          split <;> exact ⟨rfl, rfl, rfl⟩

end Stamps

/-- No cart was saved as a whole after its creation. -/
def Database.NeverRefreshed (db : Database) : Prop :=
  ∀ cart ∈ db.carts.rows, cart.lastActiveAt = cart.createdAt

theorem neverRefreshed_step {db : Database} (fresh : db.NeverRefreshed)
    (command : CartCommand) : (command.step db).NeverRefreshed := by
  intro cart member
  rcases stamped_step db command cart member with
    ⟨old, oldMem, _, sameCreated, sameActive⟩ | ⟨_, created, active⟩
  · rw [← sameCreated, ← sameActive]
    exact fresh old oldMem
  · exact active.trans created.symm

/-- A call puts new lines into no cart but the one on which it operates. -/
theorem linesOfOperated_step (db : Database) (command : CartCommand) :
    PlacesKept db.cartItems (command.step db).cartItems fun cart _ =>
      command.operatedCart db = some cart := by
  have effect := cartEffect_step db command
  cases command with
  | getOrCreateCart session user sessionKey =>
      generalize CartCommand.step db _ = after at effect ⊢
      cases effect with
      | unchanged | created => exact placesKept_refl _
  | addItem session cart variantId quantity =>
      rcases settle_cases (addItem session cart variantId quantity)
        (fun _ _ => atomic_eq_error) with ⟨saved, called⟩ | same
      · have operated : CartCommand.operatedCart db
            (.addItem session cart variantId quantity) = some cart :=
          if_pos ⟨_, _, called⟩
        obtain ⟨line, items, adds, _⟩ := addItem_eq_ok called
        obtain ⟨_, hasLine, _, ofLine, ⟨_, _, _, _, rfl⟩, after_eq⟩ := adds
        rw [CartCommand.step, after_eq]
        refine PlacesKept.trans ?_ (placesKept_save hasLine.mem rfl rfl)
        cases hasLine with
        | found => exact placesKept_refl _
        | created =>
            apply placesKept_insertNew
            rw [operated, (isLineOf_iff.mp ofLine).1]
      · rw [CartCommand.step, same]
        exact placesKept_refl _
  | updateItem session cart itemId quantity =>
      generalize CartCommand.step db _ = after at effect ⊢
      cases effect with
      | unchanged => exact placesKept_refl _
      | updated updates =>
          rcases updates.after_eq with ⟨_, _, rfl⟩ | ⟨_, _, rfl⟩
          · exact placesKept_withDeleted _ _
          · exact placesKept_save updates.member rfl rfl
  | removeItem session cart itemId =>
      generalize CartCommand.step db _ = after at effect ⊢
      cases effect with
      | unchanged => exact placesKept_refl _
      | removed ids => exact placesKept_withDeleted _ ids
  | clearCart session cart =>
      generalize CartCommand.step db _ = after at effect ⊢
      cases effect with
      | unchanged => exact placesKept_refl _
      | cleared ids => exact placesKept_withDeleted _ ids
  | mergeAnonymousIntoUser session sessionKey user =>
      rcases settle_cases (mergeAnonymousIntoUser session sessionKey user)
        (fun _ _ => atomic_eq_error) with ⟨merged, called⟩ | same
      · have operated : CartCommand.operatedCart db
            (.mergeAnonymousIntoUser session sessionKey user) =
              merged.map fun cart => cart.id := by
          rw [CartCommand.operatedCart, called]
        have merges := mergesGuest_of_returned called
        rw [operated, CartCommand.step]
        generalize settle _ db = after at merges ⊢
        cases merges with
        | nothing => exact placesKept_refl _
        | merged _ _ _ absorbs =>
            intro row member
            refine (placesKept_mergesLines absorbs.mergesLines row
              member).imp_right ?_
            rintro ⟨inCart, _⟩
            rw [inCart]
            rfl
      · rw [CartCommand.step, same]
        exact placesKept_refl _
  | createOrderFromCart session cart user payload =>
      generalize CartCommand.step db _ = after at effect ⊢
      cases effect with
      | unchanged => exact placesKept_refl _
      | checkedOut _ checkedOut =>
          rw [checkedOut.after_eq]
          exact placesKept_emptiedItems _ _

/-- A cart that was created before the cutoff has visible lines only and no
operation since; one that was created later and has a line left has an
operation since. -/
def CartLog.ShowsActivity (log : CartLog) (cutoff : Time) (cart : Cart) :
    Prop :=
  if cart.createdAt < cutoff then
    (∀ item ∈ log.db.joinedItems cart.id, alive item = true) ∧
      ∀ time ∈ log.operationsOn cart.id, time < cutoff
  else log.db.itemsOf cart.id ≠ [] →
    ∃ time ∈ log.operationsOn cart.id, cutoff ≤ time

section Report

variable {log : CartLog} {cutoff : Time} {cart : Cart}

theorem itemsOf_eq_joined (db : Database) (cart : Uuid) :
    db.itemsOf cart = (db.joinedItems cart).filter alive := by
  rw [Database.itemsOf, Database.joinedItems, objects, List.filter_filter,
    List.filter_filter]
  apply List.filter_congr
  intro item _
  exact Bool.and_comm _ _

theorem length_joined_iff (db : Database) (cart : Uuid) :
    (db.joinedItems cart).length = (db.itemsOf cart).length ↔
      ∀ item ∈ db.joinedItems cart, alive item = true := by
  rw [itemsOf_eq_joined, eq_comm, List.length_filter_eq_length_iff]

theorem isIdle_iff {db : Database} :
    db.isIdle cutoff cart = true ↔
      cart.lastActiveAt < cutoff ∧ db.joinedItems cart.id ≠ [] := by
  simp [Database.isIdle, List.length_pos_iff]

theorem isAbandoned_iff :
    log.isAbandoned cutoff cart = true ↔ log.db.itemsOf cart.id ≠ [] ∧
      ∀ time ∈ log.operationsOn cart.id, time < cutoff := by
  simp [CartLog.isAbandoned]

/-- The report is right about a cart without lines, and about any other one
exactly if its activity shows. -/
theorem right_about_iff (unchanged : cart.lastActiveAt = cart.createdAt) :
    ((log.db.isIdle cutoff cart = true ↔ log.isAbandoned cutoff cart = true) ∧
        (log.db.isIdle cutoff cart = true →
          (log.db.joinedItems cart.id).length =
            (log.db.itemsOf cart.id).length)) ↔
      (log.db.joinedItems cart.id ≠ [] → log.ShowsActivity cutoff cart) := by
  rw [isIdle_iff, isAbandoned_iff, length_joined_iff, unchanged,
    CartLog.ShowsActivity]
  by_cases noLines : log.db.joinedItems cart.id = []
  · have noneLeft : log.db.itemsOf cart.id = [] := by
      rw [itemsOf_eq_joined, noLines, List.filter_nil]
    simp [noLines, noneLeft]
  by_cases before : cart.createdAt < cutoff
  · simp only [before, noLines, true_and, if_true, ne_eq, not_false_eq_true,
      true_implies, true_iff]
    constructor
    · rintro ⟨⟨_, older⟩, allAlive⟩
      exact ⟨allAlive, older⟩
    · rintro ⟨allAlive, older⟩
      refine ⟨⟨?_, older⟩, allAlive⟩
      rw [itemsOf_eq_joined, List.filter_eq_self.mpr allAlive]
      exact noLines
  · simp only [before, noLines, if_false, ne_eq, not_false_eq_true,
      true_implies, false_iff, false_implies, and_true]
    rw [not_and]
    exact imp_congr_right fun _ => by push Not; rfl

end Report

/-- Along a history of the carts, the report has the right entries exactly if
the activity of every cart with lines shows: no cart that was created before
the cutoff has a deleted line or an operation since, and a cart that was created
later and has a line left has an operation since. -/
theorem abandoned_carts_reported_iff {db : Database}
    (noCarts : db.carts.rows = []) (history : List CartCommand)
    (session : Session) (emails : Uuid → String) (minute idleMinutes : Int)
    {limit : Nat}
    (unlimited : (idleCarts session (exec CartLog.step { db } history).db
      (session.minutesAgo minute idleMinutes)).length ≤ limit) :
    let log := exec CartLog.step { db } history
    let cutoff := session.minutesAgo minute idleMinutes
    log.Reports cutoff (abandonedCarts session log.db emails minute idleMinutes
        limit) ↔
      ∀ cart ∈ objects log.db.carts, log.db.joinedItems cart.id ≠ [] →
        log.ShowsActivity cutoff cart := by
  intro log cutoff
  have noneYet : db.NeverRefreshed := by
    intro cart member
    rw [noCarts] at member
    cases member
  have kept : ∀ (log : CartLog) (command : CartCommand),
      log.db.NeverRefreshed → (log.step command).db.NeverRefreshed :=
    fun _ command fresh => neverRefreshed_step fresh command
  have unchanged : log.db.NeverRefreshed :=
    exec_invariant_of_steps kept noneYet history
  have nodup : ((objects log.db.carts).map fun cart => cart.id).Nodup :=
    log.db.carts.keys_nodup.sublist (List.filter_sublist.map _)
  have found : (idleCarts session log.db cutoff).Perm
      ((objects log.db.carts).filter (log.db.isIdle cutoff)) :=
    (List.perm_insertionSort _ _).trans (session.scan_perm Cart _)
  have entries : (abandonedCarts session log.db emails minute idleMinutes
      limit).map (fun entry => (entry.cartId, entry.itemCount)) =
      (idleCarts session log.db cutoff).map fun cart =>
        (cart.id, (log.db.joinedItems cart.id).length) := by
    rw [abandonedCarts, List.take_of_length_le unlimited, List.map_map]
    rfl
  rw [CartLog.Reports, entries, (found.map _).congr_left,
    perm_map_filter_iff nodup]
  refine forall₂_congr fun cart live => ?_
  exact right_about_iff (unchanged cart (List.mem_filter.mp live).1)

/-- A shop with five units of a variant and no carts. -/
def stockedShop : Database :=
  { twoCarts 5 with carts := ∅, cartItems := ∅ }

/-- The user 3 gets a cart, and adds a unit to it at the given moment. -/
def addsUnit (now : Time) : List CartCommand :=
  [.getOrCreateCart { now := 0 } (some 3) "", .addItem { now } 1 7 1]

/-- The cart is left alone for two hours. -/
theorem abandoned_carts_reported_idle :
    let log := exec CartLog.step { db := stockedShop } (addsUnit 0)
    log.Reports 3600 (abandonedCarts { now := 7200 } log.db
      (fun _ => "buyer@example.com") 60) := by
  refine (abandoned_carts_reported_iff rfl (addsUnit 0) { now := 7200 } _ 60
    60 (by decide +kernel)).mpr ?_
  unfold CartLog.ShowsActivity
  decide +kernel

/-- A cart that was emptied is reported with a line, and a cart that was used a
minute ago is reported as abandoned. -/
theorem abandoned_carts_misreported :
    let emptied := addsUnit 0 ++ [.removeItem { now := 0 } 1 1]
    let inUse := addsUnit 7140
    let after := exec CartLog.step { db := stockedShop }
    let report (log : CartLog) := abandonedCarts { now := 7200 } log.db
      (fun _ => "buyer@example.com") 60
    ([emptied, inUse].map fun history => (report (after history)).map
        fun entry => (entry.cartId, entry.itemCount)) = [[(1, 1)], [(1, 1)]] ∧
      ((after emptied).db.itemsOf 1).length = 0 ∧
      (after inUse).operationsOn 1 = [7140] ∧
      ∀ history ∈ [emptied, inUse],
        ¬(after history).Reports 3600 (report (after history)) := by
  intro emptied inUse after report
  refine ⟨by decide +kernel, by decide +kernel, by decide +kernel, ?_⟩
  unfold CartLog.Reports
  decide +kernel

/-- Every cart with lines had an operation since its creation, which was at the
given moment at the latest. -/
structure CartLog.InOrder (log : CartLog) (latest : Time) : Prop where
  created : ∀ cart ∈ log.db.carts.rows, cart.createdAt ≤ latest
  haveCarts : log.db.LinesHaveCarts
  operated : ∀ item ∈ log.db.cartItems.rows, ∀ cart ∈ log.db.carts.rows,
    cart.id = item.cart →
      ∃ time ∈ log.operationsOn cart.id, cart.createdAt ≤ time

section InOrder

variable {log : CartLog} {latest : Time}

theorem mem_operationsOn {cart : Uuid} {time : Time} :
    time ∈ log.operationsOn cart ↔ (cart, time) ∈ log.operations := by
  simp [CartLog.operationsOn]

theorem linesHaveCarts_cartStep {db : Database} (lines : db.LinesHaveCarts)
    (command : CartCommand) : (command.step db).LinesHaveCarts := by
  have effect := cartEffect_step db command
  intro item member
  rcases effect.places item member with ⟨old, oldMem, sameCart, _⟩ | placed
  · rw [← sameCart]
    exact keys_of_cartsKept effect.cartsKept _ (lines old oldMem)
  · exact placed.1

theorem CartLog.InOrder.step (inOrder : log.InOrder latest)
    {command : CartCommand} (later : latest ≤ command.session.now) :
    (log.step command).InOrder command.session.now := by
  have stamped := stamped_step log.db command
  have places := linesOfOperated_step log.db command
  have created : ∀ cart ∈ (log.step command).db.carts.rows,
      cart.createdAt ≤ command.session.now := by
    intro cart member
    rcases stamped cart member with ⟨old, oldMem, _, same, _⟩ | ⟨_, isNow, _⟩
    · rw [← same]
      exact (inOrder.created old oldMem).trans later
    · exact isNow.le
  refine ⟨created, linesHaveCarts_cartStep inOrder.haveCarts command, ?_⟩
  intro item itemMem cart cartMem isCart
  rcases places item itemMem with ⟨old, oldMem, sameCart, _⟩ | operated
  · rcases stamped cart cartMem with
      ⟨row, rowMem, sameId, same, _⟩ | ⟨isNew, _, _⟩
    · obtain ⟨time, listed, since⟩ := inOrder.operated old oldMem row rowMem
        (sameId.trans (isCart.trans sameCart.symm))
      rw [sameId, mem_operationsOn] at listed
      exact ⟨time, mem_operationsOn.mpr (List.mem_append_left _ listed),
        same ▸ since⟩
    · rw [isCart, ← sameCart] at isNew
      exact absurd (inOrder.haveCarts old oldMem) isNew
  · refine ⟨command.session.now, mem_operationsOn.mpr ?_,
      created cart cartMem⟩
    apply List.mem_append_right
    rw [operated, isCart]
    exact List.mem_singleton_self _

theorem CartLog.InOrder.history {history : List CartCommand}
    (inOrder : log.InOrder latest)
    (ordered : (history.map fun command => command.session.now).Pairwise
      (· ≤ ·))
    (later : ∀ command ∈ history, latest ≤ command.session.now) :
    ∃ latest, (exec CartLog.step log history).InOrder latest := by
  induction history generalizing log latest with
  | nil => exact ⟨latest, inOrder⟩
  | cons command commands ih =>
      obtain ⟨first, others⟩ := List.pairwise_cons.mp ordered
      refine ih (inOrder.step (later command List.mem_cons_self)) others ?_
      intro next nextMem
      exact first _ (List.mem_map_of_mem nextMem)

end InOrder

/-- Unless the clock runs backwards, a cart with lines has an operation since
its creation, so that the report leaves out no cart that it should show. -/
theorem operated_since_creation {db : Database} (noCarts : db.carts.rows = [])
    (noLines : db.cartItems.rows = []) {history : List CartCommand}
    (ordered : (history.map fun command => command.session.now).Pairwise
      (· ≤ ·)) :
    let log := exec CartLog.step { db } history
    ∀ cart ∈ log.db.carts.rows, log.db.joinedItems cart.id ≠ [] →
      ∃ time ∈ log.operationsOn cart.id, cart.createdAt ≤ time := by
  intro log cart cartMem hasLines
  obtain ⟨item, joined⟩ := List.exists_mem_of_ne_nil _ hasLines
  obtain ⟨itemMem, ofCart⟩ := List.mem_filter.mp joined
  have atStart : ∀ latest, CartLog.InOrder { db } latest := by
    intro latest
    refine ⟨?_, ?_, ?_⟩
    · simp [noCarts]
    · intro item member
      simp [noLines] at member
    · simp [noLines]
  have inOrder : ∃ latest, log.InOrder latest := by
    cases history with
    | nil => exact ⟨0, atStart 0⟩
    | cons command commands =>
        refine (atStart command.session.now).history ordered ?_
        intro next nextMem
        rcases List.mem_cons.mp nextMem with rfl | later
        · exact le_refl _
        · exact (List.pairwise_cons.mp ordered).1 _ (List.mem_map_of_mem later)
  obtain ⟨latest, inOrder⟩ := inOrder
  exact inOrder.operated item itemMem cart cartMem
    (of_decide_eq_true ofCart).symm

end NovaCommerce
