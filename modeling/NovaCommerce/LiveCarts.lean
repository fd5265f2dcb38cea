import NovaCommerce.AvoidedErrors
import NovaCommerce.CartTransactions

/-!
# One live cart per owner

A request that finds no cart of a user, or of a guest session, inserts one.
Nothing is locked by a look-up that finds nothing, and no index makes the owner
of a cart unique, so two requests may both insert.  As long as every inserted
cart is committed into a state that has no live cart of its owner, there is at
most one live cart per owner, and no look-up finds several.
-/

namespace NovaCommerce

open AtomicCall GuardedRun LockingTransactions

inductive Owner where
  | user (id : Uuid)
  | guest (sessionKey : String)
  deriving DecidableEq

def Cart.owner (cart : Cart) : Owner :=
  match cart.user with
  | some user => .user user
  | none => .guest cart.sessionKey

theorem owner_of_user {user : Uuid} (cart : Cart)
    (ofUser : decide (cart.user = some user) = true) :
    cart.owner = .user user := by
  rw [Cart.owner, of_decide_eq_true ofUser]

theorem owner_of_session {sessionKey : String} (cart : Cart)
    (ofSession : (decide (cart.sessionKey = sessionKey) &&
      decide (cart.user = none)) = true) :
    cart.owner = .guest sessionKey := by
  rw [Bool.and_eq_true, decide_eq_true_eq, decide_eq_true_eq] at ofSession
  rw [Cart.owner, ofSession.2, ofSession.1]

/-- No two live carts have the same owner. -/
def Database.OneLiveCart (db : Database) : Prop :=
  ((objects db.carts).map Cart.owner).Nodup

instance (db : Database) : Decidable db.OneLiveCart :=
  inferInstanceAs (Decidable (List.Nodup _))

inductive LiveCartRequest where
  | getOrCreateCart (session : Session) (cartId : Uuid) (user : Option Uuid)
      (sessionKey : String)
  | mergeAnonymousIntoUser (session : Session) (cartId : Uuid)
      (draw : Uuid → Uuid) (sessionKey : String) (user : Uuid)

def LiveCartRequest.program : LiveCartRequest → Statements (Option Cart)
  | getOrCreateCart session cartId user sessionKey => do
      let cart ← Statements.getOrCreateCart session cartId user sessionKey
      pure (some cart)
  | mergeAnonymousIntoUser session cartId draw sessionKey user =>
      Statements.mergeAnonymousIntoUser session cartId draw sessionKey user

abbrev LiveCartCommit := Commit LiveCartRequest Database (Option Cart)

/-- Whose cart a request looks for. -/
def LiveCartRequest.owner : LiveCartRequest → Owner
  | getOrCreateCart _ _ (some user) _ => .user user
  | getOrCreateCart _ _ none sessionKey => .guest sessionKey
  | mergeAnonymousIntoUser _ _ _ _ user => .user user

/-- The identifier that a request draws for a cart, which it inserts if it finds
none. -/
def LiveCartRequest.cartId : LiveCartRequest → Uuid
  | getOrCreateCart _ cartId _ _ => cartId
  | mergeAnonymousIntoUser _ cartId _ _ _ => cartId

/-- The commit inserts the cart of its request. -/
def InsertsCart (commit : LiveCartCommit) : Prop :=
  commit.request.cartId ∉ commit.before.carts.keys ∧
    commit.request.cartId ∈ commit.after.carts.keys

/-- A cart is inserted only while its owner has no live one. -/
def FirstOfOwner (commit : LiveCartCommit) : Prop :=
  InsertsCart commit →
    ∀ other ∈ objects commit.before.carts, other.owner ≠ commit.request.owner

instance : DecidablePred InsertsCart := fun commit =>
  inferInstanceAs (Decidable (commit.request.cartId ∉ _ ∧ _))

instance : DecidablePred FirstOfOwner := fun commit =>
  inferInstanceAs (Decidable (InsertsCart commit →
    ∀ other ∈ objects commit.before.carts,
      other.owner ≠ commit.request.owner))

section Commits

open Statements

/-- The cart is inserted into carts of other owners only. -/
theorem oneLiveCart_insertNew {db next : Database} {cart : Cart}
    (oneLive : db.OneLiveCart)
    (carts_eq : next.carts = db.carts.insertNew cart)
    (first : cart.id ∉ db.carts.keys →
      ∀ other ∈ objects db.carts, other.owner ≠ cart.owner) :
    next.OneLiveCart := by
  unfold Database.OneLiveCart
  rw [carts_eq]
  by_cases used : cart.id ∈ db.carts.keys
  · have unchanged : db.carts.insertNew cart = db.carts :=
      dif_neg (not_not.mpr used)
    rw [unchanged]
    exact oneLive
  · have owners_eq : (objects (db.carts.insertNew cart)).map Cart.owner =
        (objects db.carts).map Cart.owner ++
          (([cart] : List Cart).filter alive).map Cart.owner := by
      rw [objects, Table.rows_insertNew used, List.filter_append,
        List.map_append]
      rfl
    rw [owners_eq]
    refine List.nodup_append.mpr ⟨oneLive, ?_, ?_⟩
    · exact (List.nodup_singleton cart.owner).sublist
        (List.filter_sublist.map Cart.owner)
    · intro owner among other isNew
      obtain ⟨found, foundMem, rfl⟩ := List.mem_map.mp among
      obtain ⟨inserted, insertedMem, rfl⟩ := List.mem_map.mp isNew
      rw [List.mem_singleton.mp (List.mem_of_mem_filter insertedMem)]
      exact first used found foundMem

theorem oneLiveCart_withDeletedCart {db next : Database} {session : Session}
    {id : Uuid} (oneLive : db.OneLiveCart)
    (carts_eq : next.carts = withDeletedCart session db.carts id) :
    next.OneLiveCart := by
  unfold Database.OneLiveCart at oneLive ⊢
  rw [carts_eq]
  refine oneLive.sublist ?_
  rw [objects, withDeletedCart, Table.rows_alter, objects]
  induction db.carts.rows with
  | nil => exact List.Sublist.refl []
  | cons row rows ih =>
      rw [List.map_cons, List.filter_cons, List.filter_cons]
      by_cases isRow : row.id = id
      · rw [if_pos isRow]
        split
        · next isAlive => simp [alive] at isAlive
        · split
          · exact ih.cons row.owner
          · exact ih
      · rw [if_neg isRow]
        split
        · exact ih.cons_cons row.owner
        · exact ih

variable {now : Database} {before after : Progress RowKey Database}
  {session : Session}

theorem own_lockCarts {chosen : Cart → Bool} {found : List Cart}
    (leads : Leads unrestricted now (lockCarts session chosen) before found
      after) : after.own = before.own :=
  leads.own_of_reads fun _ => writes_lockRows _ _ _ _

/-- The new cart is inserted, or nothing is written. -/
theorem leads_oneOrCreate {found : List Cart} {new cart : Cart}
    (leads : Leads unrestricted now (oneOrCreate found new) before cart
      after) :
    after.own = before.own ∨ ∀ db,
      (after.own db).carts = (before.own db).carts.insertNew new := by
  match found with
  | [] =>
      obtain ⟨_, _, inserting, _, rfl⟩ := leads_bind.mp leads
      obtain ⟨_, _, ⟨earlier, _, rfl, rfl⟩, inserting⟩ :=
        leads_bind.mp inserting
      right
      split at inserting
      · exact inserting.elim
      · rw [leads_execute.mp inserting]
        exact fun _ => rfl
  | [_] => exact Or.inl (congrArg Progress.own leads.2)
  | _ :: _ :: _ => exact leads.elim

/-- A write to other tables. -/
def KeepsCarts (change : Database → Database) : Prop :=
  ∀ db, (change db).carts = db.carts

theorem writes_insertLine (line : CartItem) :
    (insertLine line).Writes KeepsCarts := by
  intro _ db
  change Transaction.Writes _ (if _ then _ else if _ then _ else _)
  split
  · trivial
  · split
    · trivial
    · exact ⟨fun _ => rfl, trivial⟩

/-- Merging lines writes lines only. -/
theorem writes_mergeItem (session : Session) (userCart lineId : Uuid)
    (item : CartItem) :
    (mergeItem session userCart lineId item).Writes KeepsCarts := by
  refine Transaction.writes_bind ?_ fun variant => ?_
  · apply Transaction.writes_query_bind
    intro db
    split <;> trivial
  refine Transaction.writes_bind (fun _ => trivial) fun existing => ?_
  cases existing with
  | some existing => exact fun _ => ⟨fun _ => rfl, trivial⟩
  | none =>
      refine Transaction.writes_bind (writes_insertLine _) fun inserted => ?_
      split <;> trivial

theorem writes_mergeItems (session : Session) (userCart : Uuid)
    (draw : Uuid → Uuid) (items : List CartItem) :
    (mergeItems session userCart draw items).Writes KeepsCarts := by
  induction items with
  | nil => trivial
  | cons item items ih =>
      exact Transaction.writes_bind (writes_mergeItem _ _ _ _) fun _ => ih

/-- A row for the cart of a request. -/
def LiveCartRequest.IsNew (request : LiveCartRequest) (new : Cart) : Prop :=
  new.id = request.cartId ∧ new.owner = request.owner

/-- A request looks up one cart, which is inserted if there is none. -/
theorem leads_getOrCreateCart {cartId : Uuid} {user : Option Uuid}
    {sessionKey : String} {cart : Cart}
    (leads : Leads unrestricted now
      (getOrCreateCart session cartId user sessionKey) .start cart after) :
    after.own = id ∨ ∃ new,
      LiveCartRequest.IsNew (.getOrCreateCart session cartId user sessionKey)
        new ∧
      ∀ db, (after.own db).carts = db.carts.insertNew new := by
  unfold getOrCreateCart at leads
  split at leads
  · obtain ⟨_, _, ⟨_, _, rfl, rfl⟩, found⟩ := leads_bind.mp leads
    exact (leads_oneOrCreate found).imp_right fun inserted =>
      ⟨_, ⟨rfl, rfl⟩, inserted⟩
  · split at leads
    · exact leads.elim
    · obtain ⟨_, _, ⟨_, _, rfl, rfl⟩, found⟩ := leads_bind.mp leads
      exact (leads_oneOrCreate found).imp_right fun inserted =>
        ⟨_, ⟨rfl, rfl⟩, inserted⟩

/-- A merge does nothing, or it looks up the cart of the user, which is
inserted if there is none, and deletes a cart. -/
theorem leads_mergeAnonymousIntoUser {cartId : Uuid} {draw : Uuid → Uuid}
    {sessionKey : String} {user : Uuid} {result : Option Cart}
    (leads : Leads unrestricted now
      (mergeAnonymousIntoUser session cartId draw sessionKey user) .start
      result after) :
    after.own = id ∨ ∃ new id,
      LiveCartRequest.IsNew
        (.mergeAnonymousIntoUser session cartId draw sessionKey user) new ∧
      ((∀ db, (after.own db).carts = withDeletedCart session db.carts id) ∨
        ∀ db, (after.own db).carts =
          withDeletedCart session (db.carts.insertNew new) id) := by
  unfold mergeAnonymousIntoUser at leads
  split at leads
  · exact Or.inl (congrArg Progress.own leads.2)
  obtain ⟨anonymous, _, locking, leads⟩ := leads_bind.mp leads
  have untouched := own_lockCarts locking
  match anonymous with
  | [] => exact Or.inl ((congrArg Progress.own leads.2).trans untouched)
  | _ :: _ :: _ => exact leads.elim
  | [anon] =>
      obtain ⟨found, _, locking, leads⟩ := leads_bind.mp leads
      have stillUntouched := (own_lockCarts locking).trans untouched
      obtain ⟨cart, middle, looking, leads⟩ := leads_bind.mp leads
      obtain ⟨_, _, ⟨_, _, _, same⟩, leads⟩ := leads_bind.mp leads
      obtain ⟨_, last, merging, leads⟩ := leads_bind.mp leads
      obtain ⟨_, _, deleting, _, rfl⟩ := leads_bind.mp leads
      rw [same] at merging
      have merged : ∀ db, (last.own db).carts = (middle.own db).carts :=
        merging.own_keeps (writes_mergeItems _ _ _ _)
      let new : Cart :=
        { id := cartId, createdAt := session.now, user := some user,
          currency := anon.currency }
      refine Or.inr ⟨new, anon.id, ⟨rfl, rfl⟩, ?_⟩
      rw [leads_execute.mp deleting]
      rcases leads_oneOrCreate looking with isFound | inserted
      · left
        intro db
        simp [merged, isFound, stillUntouched, Progress.start]
      · right
        intro db
        simp [merged, inserted, stillUntouched, Progress.start, new]

/-- The row that is inserted is in the table. -/
theorem mem_keys_insertNew (carts : Table Cart) (new : Cart) :
    new.id ∈ (carts.insertNew new).keys := by
  by_cases used : new.id ∈ carts.keys
  · have unchanged : carts.insertNew new = carts :=
      dif_neg (not_not.mpr used)
    rw [unchanged]
    exact used
  · rw [Table.keys, Table.rows_insertNew used, List.map_append]
    exact List.mem_append_right _ List.mem_cons_self

/-- A commit whose cart is the first of its owner leaves at most one live cart
per owner. -/
theorem oneLiveCart_commit {commit : LiveCartCommit}
    (isOf : commit.IsOf unrestricted LiveCartRequest.program)
    (first : FirstOfOwner commit) (oneLive : commit.before.OneLiveCart) :
    commit.after.OneLiveCart := by
  obtain ⟨request, value, db, next⟩ := commit
  obtain ⟨progress, leads, after_eq⟩ := isOf
  dsimp only at leads after_eq oneLive ⊢
  subst after_eq
  cases request with
  | getOrCreateCart session cartId user sessionKey =>
      obtain ⟨cart, _, leads, rfl, rfl⟩ := leads_bind.mp leads
      rcases leads_getOrCreateCart leads with
        untouched | ⟨new, ⟨id_eq, owner_eq⟩, inserted⟩
      · rw [untouched]
        exact oneLive
      · refine oneLiveCart_insertNew oneLive (inserted _) fun unused => ?_
        rw [owner_eq]
        refine first ⟨id_eq ▸ unused, ?_⟩
        rw [← id_eq, inserted]
        exact mem_keys_insertNew _ _
  | mergeAnonymousIntoUser session cartId draw sessionKey user =>
      rcases leads_mergeAnonymousIntoUser leads with
        untouched | ⟨new, anon, ⟨id_eq, owner_eq⟩, deleted | inserted⟩
      · rw [untouched]
        exact oneLive
      · exact oneLiveCart_withDeletedCart oneLive (deleted _)
      · have grown : Database.OneLiveCart
            { db with carts := db.carts.insertNew new } := by
          refine oneLiveCart_insertNew oneLive rfl fun unused => ?_
          rw [owner_eq]
          refine first ⟨id_eq ▸ unused, ?_⟩
          rw [← id_eq, inserted, withDeletedCart, Table.keys_alter]
          exact mem_keys_insertNew _ _
        exact oneLiveCart_withDeletedCart grown (inserted _)

end Commits

section LookUps

open Statements

/-- The error of a look-up that finds several carts. -/
def FindsSeveral (error : Exception) : Prop :=
  error = .multipleObjectsReturned "Cart"

/-- Carts of one owner are at most one. -/
theorem length_filter_le_one {db : Database} (oneLive : db.OneLiveCart)
    (session : Session) {chosen : Cart → Bool} {owner : Owner}
    (owned : ∀ cart, chosen cart = true → cart.owner = owner) :
    (session.filter db.carts chosen).length ≤ 1 := by
  rw [Session.filter, (session.scan_perm Cart _).length_eq,
    ← List.length_map Cart.owner]
  have distinct : (((objects db.carts).filter chosen).map Cart.owner).Nodup :=
    oneLive.sublist (List.filter_sublist.map Cart.owner)
  have same : ∀ found ∈ ((objects db.carts).filter chosen).map Cart.owner,
      found = owner := by
    intro found foundMem
    obtain ⟨cart, cartMem, rfl⟩ := List.mem_map.mp foundMem
    exact owned cart (List.mem_filter.mp cartMem).2
  generalize ((objects db.carts).filter chosen).map Cart.owner = owners
    at distinct same
  match owners with
  | [] => exact Nat.zero_le 1
  | [_] => exact Nat.le_refl 1
  | first :: second :: _ =>
      rw [List.nodup_cons] at distinct
      refine absurd ?_ distinct.1
      rw [same first (by simp), same second (by simp)]
      exact List.mem_cons_self

theorem avoids_lockRows {bad : Exception → Prop} {sees : Database → Prop}
    {key : Uuid → RowKey} {current : Database → Uuid → Option Cart}
    {ids : List Uuid} :
    Avoids bad sees (lockRows key (fun _ => []) current ids) fun after rows =>
      after = sees ∧ rows.length ≤ ids.length := by
  induction ids with
  | nil => exact ⟨rfl, Nat.le_refl 0⟩
  | cons id ids ih =>
      rw [lockRows, avoids_bind]
      intro db _
      rw [Avoids]
      split
      · rw [avoids_bind]
        refine ih.mono ?_
        rintro _ rows ⟨rfl, shorter⟩
        exact ⟨rfl, Nat.succ_le_succ shorter⟩
      · refine ih.mono ?_
        rintro _ rows ⟨rfl, shorter⟩
        exact ⟨rfl, shorter.trans (Nat.le_succ ids.length)⟩

/-- Locking the carts of one owner finds at most one. -/
theorem avoids_lockCarts {session : Session} {chosen : Cart → Bool}
    {owner : Owner}
    (owned : ∀ cart, chosen cart = true → cart.owner = owner) :
    Avoids FindsSeveral Database.OneLiveCart (lockCarts session chosen)
      fun after rows => after = Database.OneLiveCart ∧ rows.length ≤ 1 := by
  intro db oneLive
  refine Avoids.mono avoids_lockRows ?_
  rintro _ rows ⟨rfl, shorter⟩
  refine ⟨rfl, shorter.trans ?_⟩
  rw [List.length_map]
  exact length_filter_le_one oneLive session owned

theorem avoids_oneOrCreate {sees : Database → Prop} {found : List Cart}
    (few : found.length ≤ 1) (new : Cart) :
    Avoids FindsSeveral sees (oneOrCreate found new) fun _ _ => True := by
  match found with
  | [] =>
      intro db _
      change Avoids FindsSeveral sees (Transaction.bind
        (if new.id ∈ db.carts.keys then _ else _) _) _
      split
      · exact nofun
      · trivial
  | [_] => trivial
  | _ :: _ :: _ => exact absurd few (by simp)

theorem avoids_mergeItem {sees : Database → Prop} (session : Session)
    (userCart lineId : Uuid) (item : CartItem) :
    Avoids FindsSeveral sees (mergeItem session userCart lineId item)
      fun _ _ => True := by
  rw [mergeItem, avoids_bind, variantOf, avoids_query_bind]
  intro db _
  split
  · rw [avoids_pure, avoids_bind]
    have looked : Avoids FindsSeveral sees
        (firstLine session userCart item.variant) fun _ _ => True :=
      fun _ _ => trivial
    refine looked.mono ?_
    intro sees existing _
    cases existing with
    | some existing => exact fun _ _ => trivial
    | none =>
        intro _ _ db _
        change Avoids _ _ (Transaction.bind
          (if _ then _ else if _ then _ else _) _) _
        split
        · intro impossible
          cases impossible
        · split
          · intro impossible
            cases impossible
          · trivial
  · intro impossible
    cases impossible

theorem avoids_mergeItems {sees : Database → Prop} (session : Session)
    (userCart : Uuid) (draw : Uuid → Uuid) (items : List CartItem) :
    Avoids FindsSeveral sees (mergeItems session userCart draw items)
      fun _ _ => True := by
  induction items generalizing sees with
  | nil => trivial
  | cons item items ih =>
      rw [mergeItems, avoids_bind]
      exact (avoids_mergeItem _ _ _ _).mono fun _ _ _ => ih

theorem avoids_getOrCreateCart (session : Session) (cartId : Uuid)
    (user : Option Uuid) (sessionKey : String) :
    Avoids FindsSeveral Database.OneLiveCart
      (getOrCreateCart session cartId user sessionKey) fun _ _ => True := by
  unfold getOrCreateCart
  split
  · intro db oneLive
    apply avoids_oneOrCreate
    exact length_filter_le_one oneLive session owner_of_user
  · split
    · exact nofun
    · intro db oneLive
      apply avoids_oneOrCreate
      exact length_filter_le_one oneLive session owner_of_session

theorem avoids_mergeAnonymousIntoUser (session : Session) (cartId : Uuid)
    (draw : Uuid → Uuid) (sessionKey : String) (user : Uuid) :
    Avoids FindsSeveral Database.OneLiveCart
      (mergeAnonymousIntoUser session cartId draw sessionKey user)
      fun _ _ => True := by
  unfold mergeAnonymousIntoUser
  split
  · trivial
  rw [avoids_bind]
  refine Avoids.mono (avoids_lockCarts owner_of_session) ?_
  rintro _ anonymous ⟨rfl, few⟩
  match anonymous with
  | [] => trivial
  | _ :: _ :: _ => exact absurd few (by simp)
  | [anon] =>
      rw [avoids_bind]
      refine Avoids.mono (avoids_lockCarts owner_of_user) ?_
      rintro _ found ⟨rfl, few⟩
      rw [avoids_bind]
      refine Avoids.mono (avoids_oneOrCreate few _) ?_
      intro sees cart _
      rw [avoids_bind]
      intro db _
      rw [avoids_done, avoids_bind]
      exact (avoids_mergeItems _ _ _ _).mono fun _ _ _ => trivial

theorem avoids_program (request : LiveCartRequest) :
    Avoids FindsSeveral Database.OneLiveCart request.program
      fun _ _ => True := by
  cases request with
  | getOrCreateCart session cartId user sessionKey =>
      rw [LiveCartRequest.program, avoids_bind]
      exact avoids_getOrCreateCart session cartId user sessionKey
  | mergeAnonymousIntoUser session cartId draw sessionKey user =>
      exact avoids_mergeAnonymousIntoUser session cartId draw sessionKey user

end LookUps

/-- As long as every cart that a transaction has inserted is committed while no
live cart of its owner is, there is at most one live cart per owner and no
look-up finds several. -/
theorem one_live_cart_per_owner {Client : Type} [DecidableEq Client]
    {initial : Database} (oneLive : initial.OneLiveCart)
    (actions : List (Action Client LiveCartRequest))
    (first : Guarded (System.step LiveCartRequest.program)
      (fun system => System.CommitsMeet FirstOfOwner system)
      { committed := initial } actions) :
    let reached := exec (System.step LiveCartRequest.program)
      { committed := initial } actions
    reached.committed.OneLiveCart ∧
      ∀ client flight, reached.flights client = some flight →
        flight.rest ≠ .fail (.multipleObjectsReturned "Cart") := by
  obtain ⟨reachedOneLive, avoids⟩ := exec_avoids avoids_program
    (fun commit isOf => oneLiveCart_commit isOf) oneLive first
  exact ⟨reachedOneLive, fun client flight flies =>
    (avoids client flight flies).rest_ne_fail rfl⟩

/-- The look-up of the cart of a user, for a request that draws an identifier
for a new one. -/
def cartOfUser (cartId : Uuid) : LiveCartRequest :=
  .getOrCreateCart { now := 1 } cartId (some 7) ""

/-- A client makes a request up to its commit. -/
def afterAnother (cartId : Uuid) : List (Action Nat LiveCartRequest) :=
  .start 0 (cartOfUser cartId) :: List.replicate 4 (.advance 0)

/-- Two clients look for the cart of one user before either inserts one, and a
third looks for it after both have. -/
def sideBySideFirst : List (Action Nat LiveCartRequest) :=
  [.start 0 (cartOfUser 1), .start 1 (cartOfUser 2), .advance 0, .advance 1] ++
    List.replicate 3 (.advance 0) ++ List.replicate 3 (.advance 1) ++
    [.start 2 (cartOfUser 3), .advance 2]

theorem one_live_cart_afterAnother :
    let reached := exec (System.step LiveCartRequest.program)
      { committed := {} } (afterAnother 1 ++ afterAnother 2)
    reached.committed.OneLiveCart ∧
      ∀ client flight, reached.flights client = some flight →
        flight.rest ≠ .fail (.multipleObjectsReturned "Cart") :=
  one_live_cart_per_owner (by decide) _ (by decide +kernel)

/-- Two first requests of one user at the same time give two live carts, and
the next look-up fails. -/
theorem two_live_carts :
    let reached := exec (System.step LiveCartRequest.program)
      { committed := {} } sideBySideFirst
    ({} : Database).OneLiveCart ∧ ¬reached.committed.OneLiveCart ∧
      ∃ flight, reached.flights 2 = some flight ∧
        flight.rest = .fail (.multipleObjectsReturned "Cart") :=
  ⟨by decide, by decide +kernel, _, rfl, rfl⟩

end NovaCommerce
