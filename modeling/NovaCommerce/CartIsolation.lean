import NovaCommerce.CartViews
import NovaCommerce.SoundCarts

/-!
# Everyone has a cart of their own

Users and guests send requests to the cart endpoints in any order.  What a
visitor is shown is always the visitor's own cart, as it is in the database
after the request, and no request of others changes a cart of the visitor or a
line of one.
-/

namespace NovaCommerce

open AtomicCall GuardedRun LockingTransactions

/-- Whose cart the visitor gets. -/
def Visitor.owner (visitor : Visitor) : Owner :=
  match visitor.user with
  | some user => .user user
  | none => .guest visitor.key

namespace Database

def cartsOf (db : Database) (owner : Owner) : List Cart :=
  db.carts.rows.filter fun cart => cart.owner = owner

/-- The lines of the carts of an owner. -/
def ownLines (db : Database) (owner : Owner) : List CartItem :=
  db.cartItems.rows.filter fun line =>
    (db.cartsOf owner).any fun cart => cart.id = line.cart

end Database

theorem mem_cartsOf {db : Database} {owner : Owner} {cart : Cart} :
    cart ∈ db.cartsOf owner ↔ cart ∈ db.carts.rows ∧ cart.owner = owner := by
  rw [Database.cartsOf, List.mem_filter, decide_eq_true_eq]

/-- The carts of other owners and their lines are as they were. -/
structure SparesOthers (owner : Owner) (before after : Database) : Prop where
  carts : ∀ other, other ≠ owner → after.cartsOf other = before.cartsOf other
  lines : ∀ other, other ≠ owner → after.ownLines other = before.ownLines other

namespace SparesOthers

variable {owner : Owner} {before middle after : Database}

theorem refl (db : Database) : SparesOthers owner db db :=
  ⟨fun _ _ => rfl, fun _ _ => rfl⟩

theorem trans (first : SparesOthers owner before middle)
    (second : SparesOthers owner middle after) :
    SparesOthers owner before after where
  carts other ne := (second.carts other ne).trans (first.carts other ne)
  lines other ne := (second.lines other ne).trans (first.lines other ne)

/-- Writes to the lines of a cart of the owner. -/
theorem of_lines {cart : Cart} (member : cart ∈ before.carts.rows)
    (owns : cart.owner = owner)
    (carts : ∀ other, other ≠ owner →
      after.cartsOf other = before.cartsOf other)
    (lines : ∀ keep : CartItem → Bool,
      (∀ line, line.cart = cart.id → keep line = false) →
      after.cartItems.rows.filter keep = before.cartItems.rows.filter keep) :
    SparesOthers owner before after where
  carts := carts
  lines other ne := by
    rw [Database.ownLines, Database.ownLines, carts other ne]
    apply lines
    intro line ofCart
    rw [Bool.eq_false_iff]
    intro isOther
    obtain ⟨found, listed, sameId⟩ := List.any_eq_true.mp isOther
    obtain ⟨foundMem, foundOwner⟩ := mem_cartsOf.mp listed
    have sameCart : found = cart := before.carts.eq_of_key_eq foundMem member
      ((of_decide_eq_true sameId).trans ofCart)
    exact ne (foundOwner.symm.trans (sameCart ▸ owns))

end SparesOthers

section Services

variable {db after : Database} {session : Session}

/-- The cart that a request resolves is one of the visitor's, and stands in
the table. -/
theorem resolveCart_eq_ok {visitor : Visitor} {cart : Cart}
    (returned : CartViewSet.resolveCart session visitor db =
      .ok cart after) :
    cart ∈ after.carts.rows ∧ cart.owner = visitor.owner ∧
      SparesOthers visitor.owner db after := by
  have alone := atomic_eq_ok.mp returned
  have gives : ∃ chosen new carts,
      (∀ other, chosen other = true ↔ other.owner = visitor.owner) ∧
        new.owner = visitor.owner ∧ GivesCart db chosen new cart carts ∧
        after = { db with carts := carts } := by
    unfold Statements.getOrCreateCart at alone
    cases isUser : visitor.user with
    | some user =>
        simp only [isUser] at alone
        obtain ⟨carts, gives, after_eq⟩ := oneOrCreate_gives alone
        have sameOwner : visitor.owner = .user user := by
          rw [Visitor.owner, isUser]
        exact ⟨isCartOfUser user, _, carts,
          fun _ => sameOwner ▸ isCartOfUser_iff, sameOwner ▸ rfl, gives,
          after_eq⟩
    | none =>
        simp only [isUser] at alone
        have sameOwner : visitor.owner = .guest visitor.key := by
          rw [Visitor.owner, isUser]
        by_cases noKey : visitor.key = ""
        · simp only [noKey, if_true] at alone
          exact (throw_eq_ok.mp alone).elim
        · simp only [noKey, if_false] at alone
          obtain ⟨carts, gives, after_eq⟩ := oneOrCreate_gives alone
          exact ⟨isCartOfSession visitor.key, _, carts,
            fun _ => sameOwner ▸ isCartOfSession_iff, sameOwner ▸ rfl, gives,
            after_eq⟩
  obtain ⟨chosen, new, carts, isOwner, ofNew, gives, rfl⟩ := gives
  refine ⟨gives.mem, ?_, ?_⟩
  · cases gives with
    | found only =>
        have listed : cart ∈ db.chosenCarts chosen := only ▸ List.mem_cons_self
        exact (isOwner cart).mp (List.mem_filter.mp listed).2
    | created => exact ofNew
  · have sameCarts : ∀ other, other ≠ visitor.owner →
        ({ db with carts := carts } : Database).cartsOf other =
          db.cartsOf other := by
      intro other ne
      cases gives with
      | found => rfl
      | created noneFound unused =>
          have notOther : decide (cart.owner = other) = false :=
            decide_eq_false fun same => ne (same.symm.trans ofNew)
          rw [Database.cartsOf, Table.rows_insertNew unused,
            List.filter_append, List.filter_singleton, notOther]
          exact List.append_nil _
    refine ⟨sameCarts, fun other ne => ?_⟩
    rw [Database.ownLines, Database.ownLines, sameCarts other ne]

/-- What a call of a service with a cart does to the rest. -/
structure CallsWithCart (cart : Cart) (before after : Database) : Prop where
  spares : SparesOthers cart.owner before after
  carts_eq : after.carts = before.carts

theorem addItem_withCart {cart : Cart} (member : cart ∈ db.carts.rows)
    {variantId : Uuid} {quantity : Int} {saved : CartItem}
    (returned : addItem session cart.id variantId quantity db =
      .ok saved after) :
    CallsWithCart cart db after := by
  obtain ⟨line, items, adds, _⟩ := addItem_eq_ok returned
  obtain ⟨ofCart, _⟩ := isLineOf_iff.mp adds.ofLine
  obtain ⟨_, variant, _, _, saved_eq⟩ := adds.saved_eq
  rw [adds.after_eq]
  refine ⟨.of_lines member rfl (fun _ _ => rfl) ?_, rfl⟩
  intro keep skips
  have notSaved : keep saved = false := skips saved (saved_eq ▸ ofCart)
  have sameKey : Keyed.key saved = Keyed.key line := by
    rw [saved_eq]
    rfl
  refine (Table.filter_save adds.hasLine.mem sameKey (skips line ofCart)
    notSaved).trans ?_
  cases adds.hasLine with
  | found => rfl
  | created unused =>
      rw [Table.rows_insertNew unused, List.filter_append,
        List.filter_singleton, skips line ofCart]
      exact List.append_nil _

/-- Deleting lines of the cart only. -/
theorem filter_withDeleted {items : Table CartItem} (lines : List CartItem)
    {keep : CartItem → Bool} (members : ∀ line ∈ lines, line ∈ items.rows)
    (deletes : ∀ line ∈ lines, keep line = false ∧
      keep { line with deletedAt := some session.now } = false) :
    (Statements.withDeleted session (lines.map Keyed.key)
      items).rows.filter keep = items.rows.filter keep := by
  have inList : ∀ row ∈ items.rows,
      (lines.map Keyed.key).contains row.id = true → row ∈ lines := by
    intro row rowMem listed
    obtain ⟨line, lineMem, sameKey⟩ :=
      List.mem_map.mp (List.contains_iff_mem.mp listed)
    obtain rfl := items.eq_of_key_eq (members line lineMem) rowMem sameKey
    exact lineMem
  apply Table.filter_alter
  · intro row rowMem kept
    apply if_neg
    intro listed
    have skipped := (deletes row (inList row rowMem listed)).1
    rw [kept] at skipped
    cases skipped
  · intro row rowMem skipped
    split
    · next listed => exact (deletes row (inList row rowMem listed)).2
    · exact skipped

theorem updateItem_withCart {cart : Cart} (member : cart ∈ db.carts.rows)
    {itemId : Uuid} {quantity : Int} {saved : Option CartItem}
    (returned : updateItem session cart.id itemId quantity db =
      .ok saved after) :
    CallsWithCart cart db after := by
  obtain ⟨found, updates⟩ := updateItem_eq_ok returned
  rcases updates.after_eq with ⟨_, _, rfl⟩ | ⟨_, _, rfl⟩
  · refine ⟨.of_lines member rfl (fun _ _ => rfl) ?_, rfl⟩
    intro keep skips
    exact filter_withDeleted [found]
      (by simpa using updates.member)
      (by
        intro line listed
        rw [List.mem_singleton.mp listed]
        exact ⟨skips found updates.ofCart.2, skips _ updates.ofCart.2⟩)
  · refine ⟨.of_lines member rfl (fun _ _ => rfl) ?_, rfl⟩
    intro keep skips
    have skipsSaved : keep { found with quantity := quantity.toNat } = false :=
      skips _ updates.ofCart.2
    have sameKey : Keyed.key ({ found with
        quantity := quantity.toNat } : CartItem) = Keyed.key found := rfl
    exact Table.filter_save updates.member sameKey
      (skips found updates.ofCart.2) skipsSaved

/-- The lines that an update deletes are lines of the cart. -/
theorem filter_softDelete {cart : Uuid} {chosen : CartItem → Bool}
    (ofCart : ∀ line, chosen line = true → line.cart = cart)
    {lines : List CartItem} {locks : Set RowKey}
    (found : FoundItems exclusive db chosen locks lines)
    {keep : CartItem → Bool}
    (skips : ∀ line : CartItem, line.cart = cart → keep line = false) :
    (Statements.withDeleted session (lines.map Keyed.key)
      db.cartItems).rows.filter keep = db.cartItems.rows.filter keep := by
  have chosenLines : ∀ line ∈ lines, line ∈ db.chosenItems chosen := by
    intro line listed
    obtain ⟨_, earlier, _, same, isChosen⟩ := found.found line listed
    obtain rfl : earlier = db := same
    exact isChosen
  apply filter_withDeleted
  · exact fun line listed => (mem_chosenItems.mp (chosenLines line listed)).1
  · intro line listed
    have inCart :=
      ofCart line (mem_chosenItems.mp (chosenLines line listed)).2.2
    exact ⟨skips line inCart, skips _ inCart⟩

theorem removeItem_withCart {cart : Cart} (member : cart ∈ db.carts.rows)
    {itemId : Uuid} {value : Unit}
    (returned : removeItem session cart.id itemId db = .ok value after) :
    CallsWithCart cart db after := by
  obtain ⟨progress, leads, rfl⟩ := service_eq_ok returned
  obtain ⟨items, _, removed, finished⟩ := leads_bind.mp leads
  obtain ⟨_, rfl⟩ := leads_pure.mp finished
  obtain ⟨found, after_eq, _⟩ := leads_removeItem removed
  rw [after_eq]
  refine ⟨.of_lines member rfl (fun _ _ => rfl) ?_, rfl⟩
  intro keep skips
  refine filter_softDelete ?_ found skips
  intro line isChosen
  exact of_decide_eq_true ((Bool.and_eq_true _ _).mp isChosen).2

/-- Clearing the cart also takes its coupon off. -/
theorem clearCart_withCart {cart : Cart} (member : cart ∈ db.carts.rows)
    {value : Unit}
    (returned : clearCart session cart.id db = .ok value after) :
    SparesOthers cart.owner db after ∧
      { cart with coupon := none } ∈ after.carts.rows := by
  have alone := atomic_eq_ok.mp returned
  rw [Statements.clearCart, Transaction.alone_bind] at alone
  obtain ⟨items, _, deleted, saved⟩ := bind_eq_ok.mp alone
  obtain ⟨progress, leads, rfl⟩ := leads_of_alone_start exclusive deleted
  obtain ⟨found, written⟩ := leads_softDelete (fun _ => rfl) leads
  rw [written] at saved
  obtain rfl := saveCartCoupon_eq_ok saved
  refine ⟨.of_lines member rfl ?_ ?_, ?_⟩
  · intro other ne
    change (Statements.withoutCoupon db.carts cart.id).rows.filter _ = _
    unfold Statements.withoutCoupon
    apply Table.filter_alter
    · intro row rowMem isOther
      apply if_neg
      intro sameId
      have sameCart : row = cart :=
        db.carts.eq_of_key_eq rowMem member sameId
      exact ne ((of_decide_eq_true isOther).symm.trans (sameCart ▸ rfl))
    · intro row _ notOther
      split
      · exact notOther
      · exact notOther
  · intro keep skips
    exact filter_softDelete (fun _ isChosen => of_decide_eq_true isChosen)
      found skips
  · refine List.mem_map.mpr ⟨cart, member, if_pos rfl⟩

end Services

/-- What a call does in a state: it spares the carts of others, and if it
answers with a cart, then with the owner's, as it is in the database. -/
structure Confines (owner : Owner) (session : Session)
    (call : Service CartAnswer) (db : Database) : Prop where
  raises : ∀ raised after, call db = .error raised after →
    SparesOthers owner db after
  returns : ∀ answer after, call db = .ok answer after →
    SparesOthers owner db after
  shows : ∀ status data after, call db = .ok (.cart status data) after →
    ∃ cart ∈ after.carts.rows, cart.owner = owner ∧
      data = cart.data session after

section Views

variable {owner : Owner} {session : Session} {db : Database}

theorem confines_refused {response : Response} :
    Confines owner session (pure (.refused response)) db where
  raises _ _ raised := by cases raised
  returns _ _ returned := by
    obtain ⟨_, rfl⟩ := pure_eq_ok.mp returned
    exact .refl db
  shows _ _ _ returned := by
    obtain ⟨impossible, _⟩ := pure_eq_ok.mp returned
    cases impossible

theorem confines_answer {cart : Cart} (member : cart ∈ db.carts.rows)
    (owns : cart.owner = owner) (status : Nat) :
    Confines owner session (CartViewSet.answer session cart status) db where
  raises _ _ raised := by cases raised
  returns _ _ returned := by
    obtain ⟨_, rfl⟩ := pure_eq_ok.mp returned
    exact .refl db
  shows _ _ _ returned := by
    obtain ⟨shown, rfl⟩ := pure_eq_ok.mp returned
    cases shown
    exact ⟨cart, member, owns, rfl⟩

/-- A call that goes on as another one in a later state. -/
theorem Confines.after {call next : Service CartAnswer} {middle : Database}
    (spares : SparesOthers owner db middle) (same : call db = next middle)
    (goesOn : Confines owner session next middle) :
    Confines owner session call db where
  raises raised after result :=
    spares.trans (goesOn.raises raised after (same ▸ result))
  returns answer after result :=
    spares.trans (goesOn.returns answer after (same ▸ result))
  shows status data after result :=
    goesOn.shows status data after (same ▸ result)

/-- A call that raises. -/
theorem confines_of_raised {call : Service CartAnswer} {raised : Exception}
    {middle : Database} (spares : SparesOthers owner db middle)
    (called : call db = .error raised middle) :
    Confines owner session call db where
  raises other after result := by
    rw [called] at result
    cases result
    exact spares
  returns answer after result := by
    rw [called] at result
    cases result
  shows status data after result := by
    rw [called] at result
    cases result

theorem confines_bind {Value : Type} {call : Service Value}
    {next : Value → Service CartAnswer}
    (raises : ∀ raised after, call db = .error raised after →
      SparesOthers owner db after)
    (returns : ∀ value after, call db = .ok value after →
      SparesOthers owner db after ∧ Confines owner session (next value) after) :
    Confines owner session (call >>= next) db := by
  cases called : call db with
  | ok value middle =>
      obtain ⟨spares, goesOn⟩ := returns value middle called
      exact .after spares (bind_of_eq_ok called) goesOn
  | error raised middle =>
      exact confines_of_raised (raises raised middle called)
        (bind_of_eq_error called)

theorem confines_exceptOutOfStock {Value : Type} {call : Service Value}
    {next : Service CartAnswer}
    (raises : ∀ raised after, call db = .error raised after → after = db)
    (returns : ∀ value after, call db = .ok value after →
      SparesOthers owner db after ∧ Confines owner session next after) :
    Confines owner session (exceptOutOfStock call next) db := by
  cases called : call db with
  | ok value middle =>
      obtain ⟨spares, goesOn⟩ := returns value middle called
      refine .after spares ?_ goesOn
      rw [exceptOutOfStock, called]
  | error raised middle =>
      obtain rfl := raises raised middle called
      cases raised with
      | outOfStockError message =>
          have refused : exceptOutOfStock call next middle =
              (pure (.refused (.error 409 "out_of_stock" message none)) :
                Service CartAnswer) middle := by
            rw [exceptOutOfStock, called]
            rfl
          exact .after (.refl _) refused confines_refused
      | _ =>
          obtain ⟨raised, reraised⟩ : ∃ raised,
              exceptOutOfStock call next middle = .error raised middle :=
            ⟨_, by rw [exceptOutOfStock, called]⟩
          exact confines_of_raised (.refl _) reraised

/-- A view resolves the visitor's cart first. -/
theorem confines_resolveCart {visitor : Visitor}
    {next : Cart → Service CartAnswer}
    (goesOn : ∀ (cart : Cart) (state : Database), cart ∈ state.carts.rows →
      cart.owner = visitor.owner →
      Confines visitor.owner session (next cart) state) :
    Confines visitor.owner session
      (CartViewSet.resolveCart session visitor >>= next) db := by
  refine confines_bind ?_ ?_
  · intro raised after called
    obtain rfl := atomic_eq_error called
    exact .refl _
  · intro cart after called
    obtain ⟨member, owns, spares⟩ := resolveCart_eq_ok called
    exact ⟨spares, goesOn cart after member owns⟩

/-- A service call with the cart, and then the answer. -/
theorem CallsWithCart.confines {cart : Cart} {after : Database}
    (calls : CallsWithCart cart db after) (member : cart ∈ db.carts.rows)
    (status : Nat) :
    SparesOthers cart.owner db after ∧
      Confines cart.owner session (CartViewSet.answer session cart status)
        after :=
  ⟨calls.spares, confines_answer (calls.carts_eq ▸ member) rfl status⟩

theorem primaryKeyOf_cases (reader : UuidReader) (text : String)
    (db : Database) :
    (∃ id, primaryKeyOf reader text db = .ok id db) ∨
      ∃ raised, primaryKeyOf reader text db = .error raised db := by
  rw [primaryKeyOf]
  cases reader.read text with
  | none => exact Or.inr ⟨_, rfl⟩
  | some id => exact Or.inl ⟨id, rfl⟩

end Views

theorem confines_view (reader : UuidReader) (visit : CartVisit)
    (db : Database) :
    Confines visit.visitor.owner visit.session (visit.view reader) db := by
  obtain ⟨session, visitor, request⟩ := visit
  cases request with
  | list =>
      exact confines_resolveCart fun cart state member owns =>
        confines_answer member owns 200
  | add data =>
      refine confines_resolveCart fun cart state member owns => ?_
      rw [← owns]
      refine .after (.refl _) get_bind ?_
      cases validateAddItem state data with
      | error details => exact confines_refused
      | ok accepted =>
          refine confines_exceptOutOfStock (fun _ _ => atomic_eq_error) ?_
          intro saved after called
          exact (addItem_withCart member called).confines member 201
  | update itemId data =>
      refine confines_resolveCart fun cart state member owns => ?_
      rw [← owns]
      cases data with
      | error details => exact confines_refused
      | ok quantity =>
          rcases primaryKeyOf_cases reader itemId state with
            ⟨id, read⟩ | ⟨raised, refused⟩
          · refine confines_exceptOutOfStock ?_ ?_
            · intro raised after called
              rw [bind_of_eq_ok read] at called
              exact atomic_eq_error called
            · intro saved after called
              rw [bind_of_eq_ok read] at called
              exact (updateItem_withCart member called).confines member 200
          · refine confines_exceptOutOfStock ?_ ?_
            · intro other after called
              rw [bind_of_eq_error refused] at called
              cases called
              rfl
            · intro saved after called
              rw [bind_of_eq_error refused] at called
              cases called
  | remove itemId =>
      refine confines_resolveCart fun cart state member owns => ?_
      rw [← owns]
      rcases primaryKeyOf_cases reader itemId state with
        ⟨id, read⟩ | ⟨raised, refused⟩
      · refine .after (.refl _) (bind_of_eq_ok read) ?_
        refine confines_bind ?_ ?_
        · intro raised after called
          obtain rfl := atomic_eq_error called
          exact .refl _
        · intro value after called
          exact (removeItem_withCart member called).confines member 200
      · exact confines_of_raised (.refl _) (bind_of_eq_error refused)
  | clear =>
      refine confines_resolveCart fun cart state member owns => ?_
      rw [← owns]
      refine confines_bind ?_ ?_
      · intro raised after called
        obtain rfl := atomic_eq_error called
        exact .refl _
      · intro value after called
        obtain ⟨spares, cleared⟩ := clearCart_withCart member called
        exact ⟨spares, confines_answer cleared rfl 200⟩

theorem sparesOthers_step (reader : UuidReader) (db : Database)
    (visit : CartVisit) :
    SparesOthers visit.visitor.owner db (visit.step reader db) := by
  have confines := confines_view reader visit db
  rw [CartVisit.step, CartVisit.respond]
  cases answered : visit.view reader db with
  | ok answer after => exact confines.returns answer after answered
  | error raised after => exact confines.raises raised after answered

/-- The answer is a cart of the owner, as it is in the database. -/
def CartAnswer.ShowsOwn (owner : Owner) (session : Session) (db : Database)
    (answer : CartAnswer) : Prop :=
  ∀ status data, answer = .cart status data →
    ∃ cart ∈ db.carts.rows, cart.owner = owner ∧ data = cart.data session db

theorem showsOwn_respond (reader : UuidReader) (db : Database)
    (visit : CartVisit) :
    (visit.respond reader db).1.ShowsOwn visit.visitor.owner visit.session
      (visit.respond reader db).2 := by
  have confines := confines_view reader visit db
  intro status data shown
  rw [CartVisit.respond] at shown ⊢
  cases answered : visit.view reader db with
  | ok answer after =>
      rw [answered] at shown
      exact confines.shows status data after (answered.trans (by rw [← shown]))
  | error raised after =>
      rw [answered] at shown
      cases shown

/-- Everyone has a cart of their own: after any requests of any users and
guests, an answer that shows a cart shows one of the visitor who asked, as it
is then, with no lines but its own; and requests of others leave the carts of
an owner and their lines exactly as they were. -/
theorem carts_isolated (reader : UuidReader) (db : Database)
    (visits : List CartVisit) :
    let reached := exec (CartVisit.step reader) db visits
    (∀ visit : CartVisit,
      (visit.respond reader reached).1.ShowsOwn visit.visitor.owner
        visit.session (visit.respond reader reached).2) ∧
      ∀ owner, (∀ visit ∈ visits, visit.visitor.owner ≠ owner) →
        reached.cartsOf owner = db.cartsOf owner ∧
          reached.ownLines owner = db.ownLines owner := by
  intro reached
  refine ⟨showsOwn_respond reader reached, ?_⟩
  intro owner others
  induction visits generalizing db with
  | nil => exact ⟨rfl, rfl⟩
  | cons visit visits ih =>
      have spares := sparesOthers_step reader db visit
      have isOther : owner ≠ visit.visitor.owner :=
        (others visit List.mem_cons_self).symm
      obtain ⟨carts, lines⟩ := ih (visit.step reader db)
        fun other listed => others other (List.mem_cons_of_mem _ listed)
      exact ⟨carts.trans (spares.carts owner isOther),
        lines.trans (spares.lines owner isOther)⟩

end NovaCommerce
