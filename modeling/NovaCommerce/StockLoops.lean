import NovaCommerce.ReservationLaws

/-!
# The loops of releases and sales

`release_reservation` and `commit_sale` draw on the rows that hold reserved
units of a variant, and both stop once nothing remains to be drawn.  They are
exact for any visiting order: the rows give together what was asked for, as
far as they have it, and the totals do not tell in which order they were
visited.
-/

namespace NovaCommerce

open AtomicCall GreedyAllocation

/-- `release_reservation` with its locked rows in another order. -/
def releaseReservationIn (order : List Stock → List Stock)
    (session : Session) (variantId : Uuid) (quantity : Int)
    (reference : String := "") : Service Unit :=
  atomic do
    let db ← get
    let _ ← drawRows session Stock.reserved Stock.release
      (fun giveBack => giveBack) .reservationRelease reference
      (order (reservedRows session db variantId)) quantity
    pure ()

/-- `commit_sale` with its locked rows in another order. -/
def commitSaleIn (order : List Stock → List Stock) (session : Session)
    (variantId : Uuid) (quantity : Int) (reference : String) :
    Service Unit :=
  atomic do
    let db ← get
    let remaining ← drawRows session
      Stock.sellable Stock.sell (fun take => -take) .sale reference
      (order (reservedRows session db variantId)) quantity
    if 0 < remaining then
      throw (.outOfStockError
        s!"could not commit {quantity} for variant {variantId} (short by {remaining})")
    else
      pure ()

theorem releaseReservationIn_id :
    releaseReservationIn id = releaseReservation :=
  rfl

theorem commitSaleIn_id : commitSaleIn id = commitSale :=
  rfl

/-- The visible rows of a variant count no negative units. -/
def Database.CountsUnits (db : Database) (variantId : Uuid) : Prop :=
  ∀ stock ∈ objects db.stocks, stock.variant = variantId →
    0 ≤ stock.reserved ∧ 0 ≤ stock.onHand

instance (db : Database) (variantId : Uuid) :
    Decidable (db.CountsUnits variantId) :=
  inferInstanceAs (Decidable
    (∀ stock ∈ objects db.stocks, stock.variant = variantId →
      0 ≤ stock.reserved ∧ 0 ≤ stock.onHand))

/-- The visible rows that hold reserved units of a variant. -/
def holdsReserved (variantId : Uuid) (stock : Stock) : Bool :=
  alive stock && (stock.variant = variantId && 0 < stock.reserved)

theorem holdsReserved_iff {variantId : Uuid} {stock : Stock} :
    holdsReserved variantId stock = true ↔
      alive stock = true ∧ stock.variant = variantId ∧ 0 < stock.reserved := by
  simp [holdsReserved]

section Ordered

variable {order : List Stock → List Stock}
  (permutes : ∀ rows, (order rows).Perm rows) (session : Session)
  {variantId : Uuid} {quantity : Int} (reference : String)
  {db after : Database}

include permutes

theorem ordered_perm (variantId : Uuid) (db : Database) :
    (order (reservedRows session db variantId)).Perm
      (db.stocks.rows.filter (holdsReserved variantId)) :=
  (permutes _).trans (reservedRows_perm session variantId db)

theorem mem_ordered {stock : Stock}
    (visited : stock ∈ order (reservedRows session db variantId)) :
    stock ∈ objects db.stocks ∧ stock.variant = variantId ∧
      0 < stock.reserved := by
  rw [(ordered_perm permutes session variantId db).mem_iff, List.mem_filter,
    holdsReserved_iff] at visited
  exact ⟨List.mem_filter.mpr ⟨visited.1, visited.2.1⟩, visited.2.2⟩

theorem visitable_ordered :
    Visitable db.stocks (order (reservedRows session db variantId)) where
  subset _ visited :=
    (List.mem_filter.mp (mem_ordered permutes session visited).1).1
  ids_nodup := ids_nodup_of_perm (ordered_perm permutes session variantId db)

/-- In every order the visited rows have together what all rows of the variant
have, if rows without reserved units have nothing to give. -/
theorem sum_ordered (capacity : Stock → Int)
    (skips : ∀ stock ∈ objects db.stocks, stock.variant = variantId →
      stock.reserved ≤ 0 → capacity stock = 0) :
    ((order (reservedRows session db variantId)).map capacity).sum =
      db.sumOf variantId capacity := by
  have selected := Table.total_eq_sum_of_perm
    (ordered_perm permutes session variantId db)
    (fun stock => if stock.variant = variantId then
      if alive stock = true then capacity stock else 0 else 0)
    (by
      intro stock member skipped
      by_cases ofVariant : stock.variant = variantId
      · by_cases isAlive : alive stock = true
        · rw [if_pos ofVariant, if_pos isAlive]
          apply skips stock (List.mem_filter.mpr ⟨member, isAlive⟩) ofVariant
          by_contra holds
          rw [holdsReserved_iff.mpr ⟨isAlive, ofVariant, not_le.mp holds⟩]
            at skipped
          cases skipped
        · rw [if_pos ofVariant, if_neg isAlive]
      · exact if_neg ofVariant)
  rw [sumOf_eq_total, selected]
  apply congrArg List.sum
  apply List.map_congr_left
  intro stock visited
  obtain ⟨visible, ofVariant, _⟩ := mem_ordered permutes session visited
  rw [if_pos ofVariant, if_pos (List.mem_filter.mp visible).2]

end Ordered

section Exact

variable {variantId : Uuid} {quantity : Int} {db after : Database}

theorem Database.CountsUnits.sellable_nonneg
    (counts : db.CountsUnits variantId) :
    ∀ stock ∈ objects db.stocks, stock.variant = variantId →
      0 < stock.reserved → 0 ≤ stock.sellable := by
  intro stock visible ofVariant holds
  exact le_min holds.le (counts stock visible ofVariant).2

theorem Database.CountsUnits.sellable_eq_zero
    (counts : db.CountsUnits variantId) :
    ∀ stock ∈ objects db.stocks, stock.variant = variantId →
      stock.reserved ≤ 0 → stock.sellable = 0 := by
  intro stock visible ofVariant none
  have := counts stock visible ofVariant
  unfold Stock.sellable
  omega

/-- Drawings keep the units of the rows from being negative if a drawing
within the capacity of a row does. -/
theorem Draws.countsUnits {drawing : Drawing} {selected : Stock → Bool}
    {amount wanted : Uuid → Int}
    (draws : Draws drawing selected db.stocks after.stocks amount wanted)
    (keeps : ∀ stock taken, 0 ≤ stock.reserved → 0 ≤ stock.onHand →
      taken ≤ drawing.capacity stock →
        0 ≤ (drawing.draw stock taken).reserved ∧
          0 ≤ (drawing.draw stock taken).onHand)
    (counts : db.CountsUnits variantId) : after.CountsUnits variantId := by
  intro row visible ofVariant
  obtain ⟨rowMem, isAlive⟩ := List.mem_filter.mp visible
  obtain ⟨stock, member, taken, rfl, bounds⟩ := draws.exists_row rowMem
  rw [drawing.alive_draw] at isAlive
  rw [drawing.draw_variant] at ofVariant
  obtain ⟨reserved, onHand⟩ :=
    counts stock (List.mem_filter.mpr ⟨member, isAlive⟩) ofVariant
  rcases bounds with rfl | ⟨_, _, atMost⟩
  · rw [drawing.draw_zero]
    exact ⟨reserved, onHand⟩
  · exact keeps stock taken reserved onHand atMost

/-- A column that drawings do not touch is the same on every row. -/
theorem Draws.map_column {drawing : Drawing} {selected : Stock → Bool}
    {amount wanted : Uuid → Int}
    (draws : Draws drawing selected db.stocks after.stocks amount wanted)
    (column : Stock → Int)
    (same : ∀ stock taken, column (drawing.draw stock taken) = column stock) :
    after.stocks.rows.map column = db.stocks.rows.map column := by
  rw [draws.after_eq, Drawing.apply, Table.rows_alter, List.map_map]
  apply List.map_congr_left
  intro stock _
  exact same stock _

/-- A sale took `quantity` units of a variant: from rows that hold reserved
units, from both columns of a row alike, and no more than the row has. -/
structure SoldExactly (variantId : Uuid) (quantity : Int)
    (db after : Database) : Prop where
  taken : ∃ amount, Draws .sell (holdsReserved variantId) db.stocks
    after.stocks amount
    (fun variant => if variant = variantId then quantity else 0)
  reserved_eq : after.sumOf variantId Stock.reserved =
    db.sumOf variantId Stock.reserved - quantity
  onHand_eq : after.sumOf variantId Stock.onHand =
    db.sumOf variantId Stock.onHand - quantity
  available_eq : after.stocks.rows.map Stock.available =
    db.stocks.rows.map Stock.available
  counts : after.CountsUnits variantId

/-- A release gave `quantity` reserved units of a variant back. -/
structure ReleasedExactly (variantId : Uuid) (quantity : Int)
    (db after : Database) : Prop where
  given : ∃ amount, Draws .release (holdsReserved variantId) db.stocks
    after.stocks amount
    (fun variant => if variant = variantId then quantity else 0)
  reserved_eq : after.sumOf variantId Stock.reserved =
    db.sumOf variantId Stock.reserved - quantity
  onHand_eq : after.stocks.rows.map Stock.onHand =
    db.stocks.rows.map Stock.onHand
  counts : after.CountsUnits variantId

theorem holdsReserved_alive (stock : Stock)
    (holds : holdsReserved variantId stock = true) : alive stock = true :=
  (holdsReserved_iff.mp holds).1

theorem soldExactly_of_draws {amount : Uuid → Int}
    (counts : db.CountsUnits variantId)
    (draws : Draws .sell (holdsReserved variantId) db.stocks after.stocks
      amount (fun variant => if variant = variantId then quantity else 0)) :
    SoldExactly variantId quantity db after where
  taken := ⟨amount, draws⟩
  reserved_eq := by
    have sum := draws.sumOf holdsReserved_alive variantId Stock.reserved (-1)
      fun stock _ _ _ taken _ _ => by
        simp [Drawing.sell, Stock.sell, sub_eq_add_neg]
    simpa [sub_eq_add_neg] using sum
  onHand_eq := by
    have sum := draws.sumOf holdsReserved_alive variantId Stock.onHand (-1)
      fun stock _ _ _ taken _ _ => by
        simp [Drawing.sell, Stock.sell, sub_eq_add_neg]
    simpa [sub_eq_add_neg] using sum
  available_eq := by
    apply draws.map_column
    intro stock taken
    simp only [Drawing.sell, Stock.sell, Stock.available]
    omega
  counts := by
    refine draws.countsUnits ?_ counts
    intro stock taken reserved onHand atMost
    simp only [Drawing.sell, Stock.sell, Stock.sellable] at atMost ⊢
    omega

theorem releasedExactly_of_draws {amount : Uuid → Int}
    (counts : db.CountsUnits variantId)
    (draws : Draws .release (holdsReserved variantId) db.stocks after.stocks
      amount (fun variant => if variant = variantId then quantity else 0)) :
    ReleasedExactly variantId quantity db after where
  given := ⟨amount, draws⟩
  reserved_eq := by
    have sum := draws.sumOf holdsReserved_alive variantId Stock.reserved (-1)
      fun stock _ _ _ taken _ _ => by
        simp [Drawing.release, Stock.release, sub_eq_add_neg]
    simpa [sub_eq_add_neg] using sum
  onHand_eq := draws.map_column Stock.onHand fun _ _ => rfl
  counts := by
    refine draws.countsUnits ?_ counts
    intro stock taken reserved onHand atMost
    simp only [Drawing.release, Stock.release] at atMost ⊢
    omega

variable {order : List Stock → List Stock}
  (permutes : ∀ rows, (order rows).Perm rows) (session : Session)
  (reference : String)

include permutes

/-- In every order a pass draws what was asked for, as far as the rows of the
variant have it. -/
theorem draws_ordered (drawing : Drawing) (signed : Int → Int)
    (reason : MovementReason)
    (capacityNonneg : ∀ stock ∈ objects db.stocks,
      stock.variant = variantId → 0 < stock.reserved →
        0 ≤ drawing.capacity stock)
    (skips : ∀ stock ∈ objects db.stocks, stock.variant = variantId →
      stock.reserved ≤ 0 → drawing.capacity stock = 0)
    (nonneg : 0 ≤ quantity) :
    ∃ amount, Draws drawing (holdsReserved variantId) db.stocks
      (db.afterPass session drawing signed reason reference
        (order (reservedRows session db variantId)) quantity).stocks amount
      (fun variant => if variant = variantId then
        min quantity (db.sumOf variantId drawing.capacity) else 0) := by
  have visitedNonneg :
      ∀ stock ∈ order (reservedRows session db variantId),
        0 ≤ drawing.capacity stock := by
    intro stock visited
    obtain ⟨visible, ofVariant, holds⟩ := mem_ordered permutes session visited
    exact capacityNonneg stock visible ofVariant holds
  have met : quantity - unmet drawing.capacity
        (order (reservedRows session db variantId)) quantity =
      min quantity (db.sumOf variantId drawing.capacity) := by
    rw [unmet_eq_max visitedNonneg nonneg,
      sum_ordered permutes session drawing.capacity skips]
    omega
  rw [← met]
  exact ⟨_, Draws.pass (ordered_perm permutes session variantId db)
    visitedNonneg
    (fun stock visited => (mem_ordered permutes session visited).2.1)
    (fun _ kept => kept) quantity⟩

/-- In every order a sale returns exactly if the rows have its quantity to
sell, and then it has taken just that; a sale that fails has taken nothing. -/
theorem commitSaleIn_cases (counts : db.CountsUnits variantId)
    (nonneg : 0 ≤ quantity) :
    (∃ after, commitSaleIn order session variantId quantity reference db =
        .ok () after ∧ quantity ≤ db.sumOf variantId Stock.sellable ∧
          SoldExactly variantId quantity db after) ∨
      ∃ error, commitSaleIn order session variantId quantity reference db =
        .error error db ∧ db.sumOf variantId Stock.sellable < quantity := by
  have called : commitSaleIn order session variantId quantity reference db =
      _ :=
    commitRows_eq session variantId quantity reference
      (visitable_ordered permutes session)
  have skips := counts.sellable_eq_zero
  have visitedNonneg :
      ∀ stock ∈ order (reservedRows session db variantId),
        0 ≤ stock.sellable := by
    intro stock visited
    obtain ⟨visible, ofVariant, holds⟩ := mem_ordered permutes session visited
    exact counts.sellable_nonneg stock visible ofVariant holds
  have met := unmet_nonpos_iff visitedNonneg nonneg
  rw [sum_ordered permutes session Stock.sellable skips] at met
  obtain ⟨amount, draws⟩ := draws_ordered permutes session reference .sell
    (fun take => -take) .sale counts.sellable_nonneg skips nonneg
  by_cases short : 0 < unmet Stock.sellable
      (order (reservedRows session db variantId)) quantity
  · right
    rw [if_pos short] at called
    exact ⟨_, called, not_le.mp fun enough => absurd short
      (not_lt.mpr (met.mpr enough))⟩
  · left
    rw [if_neg short] at called
    have enough := met.mp (not_lt.mp short)
    rw [show db.sumOf variantId Drawing.sell.capacity =
      db.sumOf variantId Stock.sellable from rfl, min_eq_left enough] at draws
    exact ⟨_, called, enough, soldExactly_of_draws counts draws⟩

/-- In every order a release gives back what was asked for, as far as it is
reserved. -/
theorem releaseReservationIn_returns (counts : db.CountsUnits variantId)
    (nonneg : 0 ≤ quantity) :
    ∃ after,
      releaseReservationIn order session variantId quantity reference db =
          .ok () after ∧
        ReleasedExactly variantId
          (min quantity (db.sumOf variantId Stock.reserved)) db after := by
  have called : releaseReservationIn order session variantId quantity
      reference db = .ok () (db.afterPass session .release
        (fun giveBack => giveBack) .reservationRelease reference
        (order (reservedRows session db variantId)) quantity) := by
    unfold releaseReservationIn atomic
    rw [get_bind, releaseRows_eq session quantity reference
      (visitable_ordered permutes session)]
  obtain ⟨amount, draws⟩ := draws_ordered permutes session reference
    .release (fun giveBack => giveBack) .reservationRelease
    (fun stock _ _ holds => holds.le)
    (fun stock visible ofVariant none =>
      le_antisymm none (counts stock visible ofVariant).1) nonneg
  exact ⟨_, called, releasedExactly_of_draws counts draws⟩

end Exact

/-- The totals of a variant are the same in two databases. -/
def SameTotals (variantId : Uuid) (first second : Database) : Prop :=
  first.sumOf variantId Stock.reserved =
      second.sumOf variantId Stock.reserved ∧
    first.sumOf variantId Stock.onHand = second.sumOf variantId Stock.onHand

theorem SoldExactly.sameTotals {variantId : Uuid} {quantity : Int}
    {db first second : Database}
    (one : SoldExactly variantId quantity db first)
    (other : SoldExactly variantId quantity db second) :
    SameTotals variantId first second :=
  ⟨one.reserved_eq.trans other.reserved_eq.symm,
    one.onHand_eq.trans other.onHand_eq.symm⟩

theorem ReleasedExactly.sumOf_onHand {variantId : Uuid} {quantity : Int}
    {db after : Database}
    (released : ReleasedExactly variantId quantity db after) :
    after.sumOf variantId Stock.onHand = db.sumOf variantId Stock.onHand := by
  obtain ⟨amount, draws⟩ := released.given
  have sum := draws.sumOf holdsReserved_alive variantId Stock.onHand 0
    fun stock _ _ _ taken _ _ => by simp [Drawing.release, Stock.release]
  simpa using sum

theorem ReleasedExactly.sameTotals {variantId : Uuid} {quantity : Int}
    {db first second : Database}
    (one : ReleasedExactly variantId quantity db first)
    (other : ReleasedExactly variantId quantity db second) :
    SameTotals variantId first second :=
  ⟨one.reserved_eq.trans other.reserved_eq.symm,
    one.sumOf_onHand.trans other.sumOf_onHand.symm⟩

section Totals

variable {order other : List Stock → List Stock}
  (permutes : ∀ rows, (order rows).Perm rows)
  (otherPermutes : ∀ rows, (other rows).Perm rows)
  (session later : Session) (reference name : String) {variantId : Uuid}
  {quantity : Int} {db : Database} (counts : db.CountsUnits variantId)
  (nonneg : 0 ≤ quantity)

include permutes otherPermutes counts nonneg

theorem commitSaleIn_sameTotals :
    SameTotals variantId
      (settle (commitSaleIn order session variantId quantity reference) db)
      (settle (commitSaleIn other later variantId quantity name) db) := by
  rcases commitSaleIn_cases permutes session reference counts nonneg with
      ⟨sold, sells, enough, exactly⟩ | ⟨_, fails, short⟩ <;>
    rcases commitSaleIn_cases otherPermutes later name counts nonneg with
      ⟨otherSold, otherSells, otherEnough, otherExactly⟩ |
        ⟨_, otherFails, otherShort⟩
  · rw [settle_of_eq_ok sells, settle_of_eq_ok otherSells]
    exact exactly.sameTotals otherExactly
  · exact absurd enough (not_le.mpr otherShort)
  · exact absurd otherEnough (not_le.mpr short)
  · rw [settle_of_eq_error fails, settle_of_eq_error otherFails]
    exact ⟨rfl, rfl⟩

theorem releaseReservationIn_sameTotals :
    SameTotals variantId
      (settle (releaseReservationIn order session variantId quantity
        reference) db)
      (settle (releaseReservationIn other later variantId quantity name)
        db) := by
  obtain ⟨after, called, exactly⟩ :=
    releaseReservationIn_returns permutes session reference counts nonneg
  obtain ⟨otherAfter, otherCalled, otherExactly⟩ :=
    releaseReservationIn_returns otherPermutes later name counts nonneg
  rw [settle_of_eq_ok called, settle_of_eq_ok otherCalled]
  exact exactly.sameTotals otherExactly

end Totals

/-- The loops of sales and releases are exact in every visiting order.  A sale
returns exactly if the rows of its variant have the quantity to sell, each row
the smaller one of its columns; it takes the quantity from both columns of the
rows alike, so that their availability stays, and changes nothing if it fails.
A release gives back the quantity as far as it is reserved.  Neither makes a
column negative, and another order leads to the same totals. -/
theorem stock_loops_exact {order : List Stock → List Stock}
    (permutes : ∀ rows, (order rows).Perm rows) {variantId : Uuid}
    {quantity : Int} {db : Database} (counts : db.CountsUnits variantId)
    (nonneg : 0 ≤ quantity) (session : Session) (reference : String) :
    let sale := commitSaleIn order session variantId quantity reference
    let release :=
      releaseReservationIn order session variantId quantity reference
    (Returns sale db ↔ quantity ≤ db.sumOf variantId Stock.sellable) ∧
      (∀ after, sale db = .ok () after →
        SoldExactly variantId quantity db after) ∧
      (∀ error after, sale db = .error error after → after = db) ∧
      (∃ after, release db = .ok () after ∧
        ReleasedExactly variantId
          (min quantity (db.sumOf variantId Stock.reserved)) db after) ∧
      ∀ (other : List Stock → List Stock) (later : Session) (name : String),
        (∀ rows, (other rows).Perm rows) →
          SameTotals variantId (settle sale db)
              (settle (commitSaleIn other later variantId quantity name)
                db) ∧
            SameTotals variantId (settle release db)
              (settle (releaseReservationIn other later variantId quantity
                name) db) := by
  intro sale release
  have released :=
    releaseReservationIn_returns permutes session reference counts nonneg
  have cases := commitSaleIn_cases permutes session reference counts nonneg
  refine ⟨?_, ?_, ?_, released, ?_⟩
  · rcases cases with ⟨after, called, enough, _⟩ | ⟨error, called, short⟩
    · exact iff_of_true ⟨_, after, called⟩ enough
    · refine iff_of_false ?_ (not_le.mpr short)
      rintro ⟨_, after, returned⟩
      cases called.symm.trans returned
  · intro after returned
    rcases cases with ⟨sold, called, _, exactly⟩ | ⟨error, called, _⟩
    · cases called.symm.trans returned
      exact exactly
    · cases called.symm.trans returned
  · intro error after raised
    exact atomic_eq_error raised
  · intro other later name otherPermutes
    exact ⟨commitSaleIn_sameTotals permutes otherPermutes session later
        reference name counts nonneg,
      releaseReservationIn_sameTotals permutes otherPermutes session later
        reference name counts nonneg⟩

/-- Two shelves that hold five reserved units of which three can be sold. -/
def heldShelves : Database :=
  { threeShelves with
    stocks := ⟨[
      { id := 5, createdAt := 0, variant := 7, warehouse := 3, onHand := 4,
        reserved := 2 },
      { id := 6, createdAt := 0, variant := 7, warehouse := 2, onHand := 1,
        reserved := 3 }], by decide⟩ }

/-- The near shelf, which the sale comes to first, has one unit only. -/
example :
    (settle (commitSale { now := 1 } 7 3 "order")
      heldShelves).stocks.rows.map Stock.reserved = [0, 2] := by
  decide +kernel

theorem stock_loops_exact_reversed :
    heldShelves.CountsUnits 7 ∧ (0 : Int) ≤ 3 ∧
      Returns (commitSaleIn List.reverse { now := 1 } 7 3 "order")
        heldShelves ∧
      ∃ after,
        releaseReservationIn List.reverse { now := 1 } 7 3 "order"
            heldShelves = .ok () after ∧
          ReleasedExactly 7 3 heldShelves after := by
  have counts : heldShelves.CountsUnits 7 := by decide
  have nonneg : (0 : Int) ≤ 3 := by decide
  obtain ⟨returns, _, _, released, _⟩ :=
    stock_loops_exact List.reverse_perm counts nonneg { now := 1 } "order"
  exact ⟨counts, nonneg, returns.mpr (by decide), released⟩

end NovaCommerce
