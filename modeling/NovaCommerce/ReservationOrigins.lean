import NovaCommerce.AuditTrail

/-!
# Where reserved units come from and go to

Each reference first reserves units of a variant, and later releases or sells
the same number of units once.  Releases and sales draw from the rows that hold
most reserved units, whoever reserved them.  In total a reference never gets
back more than it reserved; row by row this holds as long as every release and
sale finds one row with reserved units only, or only units of its own.
-/

namespace NovaCommerce

open AtomicCall GreedyAllocation GuardedRun

/-- What a movement adds to the units that its reference holds. -/
def StockMovement.holding (movement : StockMovement) : Int :=
  match movement.reason with
  | .reservation | .reservationRelease => -movement.quantity
  | .sale => movement.quantity
  | _ => 0

namespace StockLedger

/-- The quantities of the movements with a reason, under some references. -/
def quantityUnder (ledger : StockLedger) (reason : MovementReason)
    (under : String → Bool) : Int :=
  ((ledger.movements.filter fun movement =>
    movement.reason = reason && under movement.reference).map
      StockMovement.quantity).sum

/-- Units of the row that were reserved under a reference. -/
def reservedUnder (ledger : StockLedger) (reference : String) : Int :=
  -ledger.quantityUnder .reservation fun other => other = reference

/-- Units of the row that were given back under a reference. -/
def releasedUnder (ledger : StockLedger) (reference : String) : Int :=
  ledger.quantityUnder .reservationRelease fun other => other = reference

/-- Units of the row that were sold under a reference. -/
def soldUnder (ledger : StockLedger) (reference : String) : Int :=
  -ledger.quantityUnder .sale fun other => other = reference

/-- Units that were reserved under some references and are neither given back
nor sold under them. -/
def held (ledger : StockLedger) (under : String → Bool) : Int :=
  -ledger.quantityUnder .reservation under -
    ledger.quantityUnder .reservationRelease under +
    ledger.quantityUnder .sale under

theorem held_eq (ledger : StockLedger) (reference : String) :
    ledger.held (fun other => other = reference) =
      ledger.reservedUnder reference - ledger.releasedUnder reference -
        ledger.soldUnder reference := by
  unfold held reservedUnder releasedUnder soldUnder
  ring

theorem quantityUnder_post (ledger : StockLedger) (movement : StockMovement)
    (reason : MovementReason) (under : String → Bool) :
    (ledger.post movement).quantityUnder reason under =
      ledger.quantityUnder reason under +
        if movement.reason = reason ∧ under movement.reference = true then
          movement.quantity
        else 0 := by
  unfold quantityUnder post
  rw [List.filter_append, List.map_append, List.sum_append]
  by_cases ofReason : movement.reason = reason <;>
    cases isUnder : under movement.reference <;> simp [ofReason, isUnder]

/-- A movement is for or against the references that it names. -/
theorem held_post (ledger : StockLedger) (movement : StockMovement)
    (under : String → Bool) :
    (ledger.post movement).held under =
      ledger.held under +
        if under movement.reference then movement.holding else 0 := by
  unfold held StockMovement.holding
  rw [quantityUnder_post, quantityUnder_post, quantityUnder_post]
  cases under movement.reference <;> cases movement.reason <;> simp <;> ring

/-- What two kinds of references hold together. -/
theorem held_split (ledger : StockLedger) (under of : String → Bool) :
    ledger.held under =
      ledger.held (fun reference => under reference && of reference) +
        ledger.held (fun reference => under reference && !of reference) := by
  have split : ∀ reason, ledger.quantityUnder reason under =
      ledger.quantityUnder reason
          (fun reference => under reference && of reference) +
        ledger.quantityUnder reason
          (fun reference => under reference && !of reference) := by
    intro reason
    unfold quantityUnder
    induction ledger.movements with
    | nil => rfl
    | cons movement movements ih =>
        by_cases ofReason : movement.reason = reason <;>
          cases isUnder : under movement.reference <;>
          cases isOf : of movement.reference <;>
          simp_all <;> ring
  unfold held
  rw [split, split, split]
  ring

theorem held_of_unnamed {ledger : StockLedger} {under : String → Bool}
    (unnamed : ∀ movement ∈ ledger.movements,
      under movement.reference = false) : ledger.held under = 0 := by
  have none : ∀ reason, ledger.quantityUnder reason under = 0 := by
    intro reason
    unfold quantityUnder
    rw [List.filter_eq_nil_iff.mpr]
    · rfl
    · intro movement movementMem
      simp [unnamed movement movementMem]
  simp [held, none]

end StockLedger

/-- Where a reference stands with its units of a variant. -/
inductive Standing where
  | unused
  | reserved (quantity : Int)
  | settled
  deriving DecidableEq

structure ReferencedStock where
  db : Database
  standing : String → Uuid → Standing

namespace InventoryCall

def Returned (db : Database) : InventoryCall → Prop
  | reserveStock session variantId quantity reference =>
      Returns (NovaCommerce.reserveStock session variantId quantity reference)
        db
  | releaseReservation session variantId quantity reference =>
      Returns (NovaCommerce.releaseReservation session variantId quantity
        reference) db
  | commitSale session variantId quantity reference =>
      Returns (NovaCommerce.commitSale session variantId quantity reference)
        db
  | adjustStock session variantId warehouseCode delta note =>
      Returns (NovaCommerce.adjustStock session variantId warehouseCode delta
        note) db

instance (db : Database) : ∀ call : InventoryCall, Decidable (Returned db call)
  | reserveStock .. | releaseReservation .. | commitSale .. | adjustStock .. =>
      inferInstanceAs (Decidable (Returns _ _))

/-- The variant that a call is about. -/
def variantId : InventoryCall → Uuid
  | reserveStock _ variantId _ _ => variantId
  | releaseReservation _ variantId _ _ => variantId
  | commitSale _ variantId _ _ => variantId
  | adjustStock _ variantId _ _ _ => variantId

/-- Where the reference of a call stands with the variant when the call has
returned. -/
def outcome : InventoryCall → Standing
  | reserveStock _ _ quantity _ => .reserved quantity
  | releaseReservation .. | commitSale .. => .settled
  | adjustStock .. => .unused

/-- Where the reference of a call must stand with the variant: it reserves
once, and settles what it reserved once. -/
def prior : InventoryCall → Standing
  | reserveStock .. | adjustStock .. => .unused
  | releaseReservation _ _ quantity _ => .reserved quantity
  | commitSale _ _ quantity _ => .reserved quantity

def isAdjustment : InventoryCall → Bool
  | adjustStock .. => true
  | _ => false

end InventoryCall

namespace ReferencedStock

/-- A state in which no reference has reserved anything yet. -/
def start (db : Database) : ReferencedStock :=
  ⟨db, fun _ _ => .unused⟩

def step (state : ReferencedStock) (call : InventoryCall) :
    ReferencedStock where
  db := call.step state.db
  standing reference variant :=
    if call.Returned state.db ∧ reference = call.reference ∧
        variant = call.variantId then call.outcome
    else state.standing reference variant

/-- Each reference first reserves and later releases or sells the same
quantity once. -/
def InTurn (state : ReferencedStock) (call : InventoryCall) : Prop :=
  call.isAdjustment = false ∧
    state.standing call.reference call.variantId = call.prior

instance (state : ReferencedStock) (call : InventoryCall) :
    Decidable (state.InTurn call) :=
  inferInstanceAs (Decidable (_ ∧ _))

/-- A release or a sale finds one row of the variant with reserved units only,
or no reserved units but those of its reference. -/
def FindsOwn (state : ReferencedStock) (call : InventoryCall) : Prop :=
  match call with
  | .releaseReservation _ variantId quantity _
  | .commitSale _ variantId quantity _ =>
      (∀ stock ∈ objects state.db.stocks, ∀ other ∈ objects state.db.stocks,
        stock.variant = variantId ∧ 0 < stock.reserved →
          other.variant = variantId ∧ 0 < other.reserved →
            stock.id = other.id) ∨
        state.db.visibleReservedOf variantId = quantity
  | _ => True

instance (state : ReferencedStock) :
    ∀ call : InventoryCall, Decidable (state.FindsOwn call)
  | .releaseReservation .. | .commitSale .. =>
      inferInstanceAs (Decidable (_ ∨ _))
  | .reserveStock .. | .adjustStock .. => inferInstanceAs (Decidable True)

end ReferencedStock

/-- The call took `taken id` units from each row, `units` in all, and its
reference holds so many more for a `rate` of one, or less for minus one. -/
structure Moves (call : InventoryCall) (before after : Database) (rate : Int)
    (taken : Uuid → Int) (units : Int) : Prop where
  rows_eq : ∃ drawing : Drawing,
    after.stocks = drawing.apply before.stocks taken ∧
      ∀ stock amount, (drawing.draw stock amount).reserved =
        stock.reserved + rate * amount
  held_eq : ∀ id under, (after.ledgerOf id).held under =
    (before.ledgerOf id).held under +
      if under call.reference then rate * taken id else 0
  total_eq : ∀ variant, (before.stocks.total fun stock =>
      if stock.variant = variant then taken stock.id else 0) =
    if variant = call.variantId then units else 0

section Pass

variable {session : Session} {drawing : Drawing} {signed : Int → Int}
  {reason : MovementReason} {rate : Int} {db : Database}
  {keep : Stock → Bool} {rows : List Stock}

theorem moves_afterPass (call : InventoryCall)
    (draw_reserved : ∀ stock amount, (drawing.draw stock amount).reserved =
      stock.reserved + rate * amount)
    (rated : ∀ movement : StockMovement, movement.reason = reason →
      ∀ amount, movement.quantity = signed amount →
        movement.holding = rate * amount)
    (perm : rows.Perm (db.stocks.rows.filter keep))
    (visitable : Visitable db.stocks rows)
    (ofVariant : ∀ stock ∈ rows, stock.variant = call.variantId)
    (demand : Int) :
    Moves call db (db.afterPass session drawing signed reason call.reference
        rows demand) rate (takenFrom drawing.capacity rows demand)
      (demand - unmet drawing.capacity rows demand) where
  rows_eq := ⟨drawing, rfl, draw_reserved⟩
  held_eq id under := by
    rcases ledgerOf_afterPass session drawing signed reason call.reference
        visitable demand id with
      ⟨none, same⟩ | ⟨stock, _, movement, _, _, _, _, reason_eq,
        reference_eq, quantity_eq, after⟩
    · rw [same, none]
      simp
    · have posted : ((db.afterPass session drawing signed reason
          call.reference rows demand).ledgerOf id).held under =
          ((db.ledgerOf id).post movement).held under := by
        rw [after]
        rfl
      rw [posted, StockLedger.held_post, reference_eq,
        rated movement reason_eq _ quantity_eq]
  total_eq := total_takenFrom perm demand ofVariant

end Pass

/-- A reservation that returned credits its reference with all it asked
for. -/
theorem moves_reserveStock {session : Session} {variantId : Uuid}
    {quantity : Int} {reference : String} {db : Database}
    (returned : InventoryCall.Returned db
      (.reserveStock session variantId quantity reference)) :
    0 < quantity ∧
      Moves (.reserveStock session variantId quantity reference) db
        (InventoryCall.step db
          (.reserveStock session variantId quantity reference)) 1
        (takenFrom Stock.available (reservableRows session db variantId)
          quantity) quantity := by
  have returned : Returns (reserveStock session variantId quantity reference)
      db := returned
  rw [Returns, reserveStock_eq] at returned
  by_cases nonpos : quantity ≤ 0
  · simp [nonpos] at returned
  by_cases short : 0 < unmet Stock.available
      (reservableRows session db variantId) quantity
  · simp [nonpos, short] at returned
  have met := unmet_eq_zero (not_le.mp nonpos).le short
  have moves := @moves_afterPass session .reserve (fun take => -take)
    .reservation 1 db _ _
    (.reserveStock session variantId quantity reference)
    (by simp [Drawing.reserve, Stock.reserve])
    (by
      intro movement ofReason amount quantity_eq
      simp [StockMovement.holding, ofReason, quantity_eq])
    (reservableRows_perm session variantId db)
    (visitable_reservableRows session variantId db)
    (fun stock visited =>
      ((mem_reservableRows session variantId).mp visited).2.2.1) quantity
  refine ⟨not_le.mp nonpos, ?_⟩
  have after : InventoryCall.step db
      (.reserveStock session variantId quantity reference) =
      db.afterReserve session variantId quantity reference := by
    rw [InventoryCall.step, settle, reserveStock_eq]
    simp only [nonpos, short, if_false]
  rw [after]
  rw [show unmet Drawing.reserve.capacity _ quantity = 0 from met, sub_zero]
    at moves
  exact moves

/-- A release debits its reference with what it gives back. -/
theorem moves_releaseReservation (session : Session) (variantId : Uuid)
    (quantity : Int) (reference : String) (db : Database) :
    Moves (.releaseReservation session variantId quantity reference) db
      (InventoryCall.step db
        (.releaseReservation session variantId quantity reference)) (-1)
      (takenFrom Stock.reserved (reservedRows session db variantId) quantity)
      (quantity - unmet Stock.reserved (reservedRows session db variantId)
        quantity) := by
  rw [InventoryCall.step, settle, releaseReservation_eq]
  exact @moves_afterPass session .release (fun giveBack => giveBack)
    .reservationRelease (-1) db _ _
    (.releaseReservation session variantId quantity reference)
    (by
      intro stock amount
      simp only [Drawing.release, Stock.release]
      omega)
    (by
      intro movement ofReason amount quantity_eq
      simp [StockMovement.holding, ofReason, quantity_eq])
    (reservedRows_perm session variantId db)
    (visitable_reservedRows session variantId db)
    (fun stock visited =>
      ((mem_reservedRows session variantId).mp visited).2.2.1) quantity

/-- A sale that returned debits its reference with all that it asked for. -/
theorem moves_commitSale {session : Session} {variantId : Uuid}
    {quantity : Int} {reference : String} {db : Database}
    (returned : InventoryCall.Returned db
      (.commitSale session variantId quantity reference)) :
    Moves (.commitSale session variantId quantity reference) db
      (InventoryCall.step db
        (.commitSale session variantId quantity reference)) (-1)
      (takenFrom Stock.sellable (reservedRows session db variantId) quantity)
      (quantity - unmet Stock.sellable (reservedRows session db variantId)
        quantity) := by
  have returned : Returns (commitSale session variantId quantity reference)
      db := returned
  rw [Returns, commitSale_eq] at returned
  by_cases short : 0 < unmet Stock.sellable
      (reservedRows session db variantId) quantity
  · simp [short] at returned
  have after : InventoryCall.step db
      (.commitSale session variantId quantity reference) =
      db.afterCommit session variantId quantity reference := by
    rw [InventoryCall.step, settle, commitSale_eq]
    simp only [short, if_false]
  rw [after]
  exact @moves_afterPass session .sell (fun take => -take) .sale (-1) db _ _
    (.commitSale session variantId quantity reference)
    (by
      intro stock amount
      simp only [Drawing.sell, Stock.sell]
      omega)
    (by
      intro movement ofReason amount quantity_eq
      simp [StockMovement.holding, ofReason, quantity_eq])
    (reservedRows_perm session variantId db)
    (visitable_reservedRows session variantId db)
    (fun stock visited =>
      ((mem_reservedRows session variantId).mp visited).2.2.1) quantity

/-- A call that raised changes nothing. -/
theorem step_of_not_returned {call : InventoryCall} {db : Database}
    (raised : ¬call.Returned db) : call.step db = db := by
  cases call with
  | reserveStock session variantId quantity reference =>
      rcases settle_atomic _ db with ⟨_, returned⟩ | unchanged
      · exact absurd ⟨_, _, atomic_eq_ok.mpr returned⟩ raised
      · exact unchanged
  | releaseReservation session variantId quantity reference =>
      rcases settle_atomic _ db with ⟨_, returned⟩ | unchanged
      · exact absurd ⟨_, _, atomic_eq_ok.mpr returned⟩ raised
      · exact unchanged
  | commitSale session variantId quantity reference =>
      rcases settle_atomic _ db with ⟨_, returned⟩ | unchanged
      · exact absurd ⟨_, _, atomic_eq_ok.mpr returned⟩ raised
      · exact unchanged
  | adjustStock session variantId warehouseCode delta note =>
      rcases settle_atomic _ db with ⟨_, returned⟩ | unchanged
      · exact absurd ⟨_, _, atomic_eq_ok.mpr returned⟩ raised
      · exact unchanged

/-- What some references hold of a row since the start. -/
def heldSince (start db : Database) (under : String → Bool) (id : Uuid) :
    Int :=
  (db.ledgerOf id).held under - (start.ledgerOf id).held under

/-- What a reference holds of a variant since the start. -/
def heldOf (start db : Database) (reference : String) (variant : Uuid) : Int :=
  db.stocks.total fun stock =>
    if stock.variant = variant then
      heldSince start db (fun other => other = reference) stock.id
    else 0

/-- A reference that has reserved holds what it reserved; one that has settled
holds something or nothing, but owes nothing. -/
def Standing.Allows (held : Int) : Standing → Prop
  | unused => held = 0
  | reserved quantity => held = quantity ∧ 0 < quantity
  | settled => 0 ≤ held

/-- Every reference holds of every variant what its standing says. -/
def Balanced (start : Database) (state : ReferencedStock) : Prop :=
  ∀ reference variant, (state.standing reference variant).Allows
    (heldOf start state.db reference variant)

section Moves

variable {start before after : Database} {call : InventoryCall} {rate : Int}
  {taken : Uuid → Int} {units : Int}

theorem heldSince_moves (moves : Moves call before after rate taken units)
    (under : String → Bool) (id : Uuid) :
    heldSince start after under id =
      heldSince start before under id +
        if under call.reference then rate * taken id else 0 := by
  unfold heldSince
  rw [moves.held_eq]
  ring

theorem heldOf_moves (moves : Moves call before after rate taken units)
    (reference : String) (variant : Uuid) :
    heldOf start after reference variant =
      heldOf start before reference variant +
        if reference = call.reference ∧ variant = call.variantId then
          rate * units
        else 0 := by
  obtain ⟨drawing, stocks_eq, _⟩ := moves.rows_eq
  have added : heldOf start after reference variant =
      before.stocks.total fun stock =>
        (if stock.variant = variant then
          heldSince start before (fun other => other = reference) stock.id
        else 0) +
        (if reference = call.reference then rate else 0) *
          (if stock.variant = variant then taken stock.id else 0) := by
    rw [heldOf, stocks_eq, Drawing.apply, Table.total_alter]
    apply Table.total_congr
    intro stock _
    simp only [Function.comp_apply, drawing.draw_variant, drawing.draw_id]
    rw [heldSince_moves moves]
    by_cases ofVariant : stock.variant = variant <;>
      by_cases ofCall : reference = call.reference <;>
      simp [ofVariant, ofCall, Ne.symm, eq_comm]
  rw [added, Table.total_add, ← Table.mul_total, moves.total_eq]
  by_cases ofCall : reference = call.reference <;>
    by_cases ofVariant : variant = call.variantId <;>
    simp [ofCall, ofVariant, heldOf]

/-- A call that moves units leaves everything balanced, if it leaves its own
reference so. -/
theorem Balanced.of_moves {state : ReferencedStock}
    (balanced : Balanced start state) (returned : call.Returned state.db)
    (moves : Moves call state.db (call.step state.db) rate taken units)
    (own : call.outcome.Allows
      (heldOf start state.db call.reference call.variantId + rate * units)) :
    Balanced start (state.step call) := by
  intro reference variant
  have changed := @heldOf_moves start _ _ _ _ _ _ moves reference variant
  change Standing.Allows (heldOf start (call.step state.db) reference variant)
    (if _ then _ else _)
  by_cases ofCall : reference = call.reference ∧ variant = call.variantId
  · rw [if_pos ⟨returned, ofCall⟩, changed, if_pos ofCall, ofCall.1, ofCall.2]
    exact own
  · rw [if_neg (fun holds => ofCall holds.2), changed, if_neg ofCall,
      add_zero]
    exact balanced reference variant

end Moves

/-- A settlement leaves its reference with what could not be drawn. -/
theorem allows_settled {held quantity remaining : Int}
    (reserved : (Standing.reserved quantity).Allows held)
    (nonneg : 0 ≤ quantity → 0 ≤ remaining) :
    Standing.settled.Allows (held + -1 * (quantity - remaining)) := by
  obtain ⟨rfl, positive⟩ := reserved
  have := nonneg positive.le
  simp only [Standing.Allows]
  omega

theorem balanced_step {start : Database} {state : ReferencedStock}
    {call : InventoryCall} (balanced : Balanced start state)
    (inTurn : state.InTurn call) : Balanced start (state.step call) := by
  by_cases returned : call.Returned state.db
  · have prior := balanced call.reference call.variantId
    rw [inTurn.2] at prior
    cases call with
    | reserveStock session variantId quantity reference =>
        obtain ⟨positive, moves⟩ := moves_reserveStock returned
        refine balanced.of_moves returned moves ?_
        have none : heldOf start state.db reference variantId = 0 := prior
        exact ⟨by simp [InventoryCall.reference, InventoryCall.variantId,
          none], positive⟩
    | releaseReservation session variantId quantity reference =>
        exact balanced.of_moves returned
          (moves_releaseReservation session variantId quantity reference _)
          (allows_settled prior unmet_nonneg)
    | commitSale session variantId quantity reference =>
        exact balanced.of_moves returned (moves_commitSale returned)
          (allows_settled prior unmet_nonneg)
    | adjustStock => cases inTurn.1
  · intro reference variant
    have same : (state.step call).standing reference variant =
        state.standing reference variant :=
      if_neg fun holds => returned holds.1
    have sameDb : (state.step call).db = state.db :=
      step_of_not_returned returned
    rw [same, sameDb]
    exact balanced reference variant

/-- On every row, no references owe anything, and all references together hold
no more than is reserved there; of deleted rows they hold nothing. -/
structure Custody (start db : Database) : Prop where
  counts : ∀ id, 0 ≤ (db.ledgerOf id).onHand ∧ 0 ≤ (db.ledgerOf id).reserved
  held_nonneg : ∀ under, ∀ stock ∈ db.stocks.rows,
    0 ≤ heldSince start db under stock.id
  held_le : ∀ stock ∈ db.stocks.rows,
    heldSince start db (fun _ => true) stock.id ≤
      if alive stock then stock.reserved else 0

section Custody

variable {start db : Database} {call : InventoryCall}

theorem Custody.of_start
    (counts : ∀ stock ∈ start.stocks.rows,
      0 ≤ stock.onHand ∧ 0 ≤ stock.reserved) : Custody start start where
  counts id := by
    cases found : start.stocks.find? id with
    | none => simp [Database.ledgerOf, found]
    | some stock =>
        rw [Database.ledgerOf_of_find found]
        exact counts stock (Table.find?_eq_some.mp found).1
  held_nonneg under stock _ := (sub_self _).ge
  held_le stock stockMem := by
    rw [heldSince, sub_self]
    split
    · exact (counts stock stockMem).2
    · exact le_refl _

theorem Custody.row_counts (custody : Custody start db) {stock : Stock}
    (stockMem : stock ∈ db.stocks.rows) :
    0 ≤ stock.onHand ∧ 0 ≤ stock.reserved := by
  have found : db.stocks.find? stock.id = some stock :=
    Table.find?_eq_some.mpr ⟨stockMem, rfl⟩
  have counts := custody.counts stock.id
  rwa [Database.ledgerOf_of_find found] at counts

/-- What a reference holds of a row is part of what is reserved there. -/
theorem Custody.held_le_reserved (custody : Custody start db)
    (under : String → Bool) {stock : Stock}
    (stockMem : stock ∈ db.stocks.rows) :
    heldSince start db under stock.id ≤
      if alive stock then stock.reserved else 0 := by
  have others := custody.held_nonneg (fun reference => !under reference) stock
    stockMem
  have all := custody.held_le stock stockMem
  have now := (db.ledgerOf stock.id).held_split (fun _ => true) under
  have before := (start.ledgerOf stock.id).held_split (fun _ => true) under
  simp only [Bool.true_and] at now before
  change _ = (db.ledgerOf stock.id).held under + _ at now
  change _ = (start.ledgerOf stock.id).held under + _ at before
  unfold heldSince at others all ⊢
  omega

theorem counts_step (call : InventoryCall)
    (counts : ∀ id, 0 ≤ (db.ledgerOf id).onHand ∧
      0 ≤ (db.ledgerOf id).reserved) (id : Uuid) :
    0 ≤ ((call.step db).ledgerOf id).onHand ∧
      0 ≤ ((call.step db).ledgerOf id).reserved := by
  have steps := ledgerOf_step call db id
  generalize (call.step db).ledgerOf id = after at steps ⊢
  generalize before_eq : db.ledgerOf id = before at steps
  have nonneg := counts id
  rw [before_eq] at nonneg
  cases steps with
  | kept => exact nonneg
  | posted _ _ allowed => exact StockLedger.post_nonneg allowed nonneg

/-- A call that moves units of visible rows, and takes nothing from its
reference that it does not hold there, keeps the custody. -/
theorem Custody.of_moves (custody : Custody start db) {rate : Int}
    {taken : Uuid → Int} {units : Int}
    (moves : Moves call db (call.step db) rate taken units)
    (visible : ∀ stock ∈ db.stocks.rows,
      taken stock.id = 0 ∨ alive stock = true)
    (holds : ∀ stock ∈ db.stocks.rows,
      0 ≤ heldSince start db (fun other => other = call.reference) stock.id +
        rate * taken stock.id) : Custody start (call.step db) where
  counts := counts_step call custody.counts
  held_nonneg under row rowMem := by
    obtain ⟨drawing, stocks_eq, _⟩ := moves.rows_eq
    rw [stocks_eq] at rowMem
    obtain ⟨stock, stockMem, rfl⟩ := List.mem_map.mp rowMem
    rw [drawing.draw_id, heldSince_moves moves]
    have nonneg := custody.held_nonneg under stock stockMem
    cases isUnder : under call.reference with
    | false => simpa using nonneg
    | true =>
        -- the units of the call's own reference apart from those of others
        have others := custody.held_nonneg
          (fun reference => under reference &&
            !decide (reference = call.reference)) stock stockMem
        have own := holds stock stockMem
        have only : (fun reference => under reference &&
            decide (reference = call.reference)) =
            fun reference => decide (reference = call.reference) := by
          funext reference
          by_cases ofCall : reference = call.reference <;>
            simp [ofCall, isUnder]
        have now := (db.ledgerOf stock.id).held_split under
          fun reference => reference = call.reference
        have before := (start.ledgerOf stock.id).held_split under
          fun reference => reference = call.reference
        rw [only] at now before
        unfold heldSince at others own ⊢
        simp only [if_true]
        omega
  held_le row rowMem := by
    obtain ⟨drawing, stocks_eq, draw_reserved⟩ := moves.rows_eq
    rw [stocks_eq] at rowMem
    obtain ⟨stock, stockMem, rfl⟩ := List.mem_map.mp rowMem
    have atMost := custody.held_le stock stockMem
    rw [drawing.draw_id, drawing.alive_draw, heldSince_moves moves,
      draw_reserved]
    simp only [if_true]
    cases isAlive : alive stock with
    | true =>
        simp only [isAlive, if_true] at atMost ⊢
        omega
    | false =>
        rcases visible stock stockMem with none | isVisible
        · simpa [none, isAlive] using atMost
        · simp [isAlive] at isVisible

/-- When one row only holds reserved units, or all of them are units of the
reference, the reference holds of every row what is drawn from it. -/
theorem Custody.holds_drawn (custody : Custody start db) {reference : String}
    {variantId : Uuid} {quantity : Int}
    (balance : heldOf start db reference variantId = quantity)
    (findsOwn : (∀ stock ∈ objects db.stocks, ∀ other ∈ objects db.stocks,
        stock.variant = variantId ∧ 0 < stock.reserved →
          other.variant = variantId ∧ 0 < other.reserved →
            stock.id = other.id) ∨
      db.visibleReservedOf variantId = quantity)
    {stock : Stock} (stockMem : stock ∈ db.stocks.rows)
    (isAlive : alive stock = true) (ofVariant : stock.variant = variantId)
    (holds : 0 < stock.reserved) :
    quantity ≤ heldSince start db (fun other => other = reference) stock.id ∨
      stock.reserved ≤
        heldSince start db (fun other => other = reference) stock.id := by
  let held := fun row : Stock =>
    heldSince start db (fun other => other = reference) row.id
  have bounded : ∀ row ∈ db.stocks.rows,
      held row ≤ if alive row then row.reserved else 0 :=
    fun row rowMem => custody.held_le_reserved _ rowMem
  rcases findsOwn with oneRow | allOwn
  · left
    -- the other rows hold nothing, so the row holds all
    have others : ∀ row ∈ db.stocks.rows,
        (if row.variant = variantId then held row else 0) ≤
          if row.id = stock.id then held stock else 0 := by
      intro row rowMem
      by_cases sameRow : row.id = stock.id
      · have rowEq := db.stocks.eq_of_key_eq rowMem stockMem sameRow
        simp [rowEq, ofVariant]
      · by_cases sameVariant : row.variant = variantId
        · have atMost := bounded row rowMem
          rw [if_pos sameVariant, if_neg sameRow]
          by_contra positive
          have rowAlive : alive row = true := by
            by_contra dead
            simp only [dead, if_false] at atMost
            omega
          simp only [rowAlive, if_true] at atMost
          exact sameRow (oneRow row (List.mem_filter.mpr ⟨rowMem, rowAlive⟩)
            stock (List.mem_filter.mpr ⟨stockMem, isAlive⟩)
            ⟨sameVariant, by omega⟩ ⟨ofVariant, holds⟩)
        · rw [if_neg sameVariant, if_neg sameRow]
    have total_le : heldOf start db reference variantId ≤
        db.stocks.total fun row =>
          if row.id = stock.id then held stock else 0 :=
      List.sum_le_sum others
    rw [balance, show (db.stocks.total fun row =>
      if row.id = stock.id then held stock else 0) = held stock from
        Table.total_single stockMem _] at total_le
    exact total_le
  · right
    -- nothing is reserved of the variant that the reference does not hold
    let spare := fun row : Stock =>
      if row.variant = variantId then
        (if alive row then row.reserved else 0) - held row
      else 0
    have split : db.visibleReservedOf variantId =
        db.stocks.total spare + heldOf start db reference variantId := by
      rw [Database.visibleReservedOf, heldOf, ← Table.total_add]
      apply Table.total_congr
      intro row _
      by_cases sameVariant : row.variant = variantId <;>
        cases visible : alive row <;>
        simp [sameVariant, spare, held, visible]
    have spareNonneg : ∀ units ∈ db.stocks.rows.map spare, 0 ≤ units := by
      intro units unitsMem
      obtain ⟨row, rowMem, rfl⟩ := List.mem_map.mp unitsMem
      have := bounded row rowMem
      simp only [spare]
      split <;> omega
    have noSpare : (db.stocks.rows.map spare).sum = 0 := by
      change db.stocks.total spare = 0
      omega
    have atStock : spare stock = 0 :=
      List.all_zero_of_le_zero_le_of_sum_eq_zero spareNonneg noSpare
        (List.mem_map_of_mem stockMem)
    simp only [spare, ofVariant, isAlive, if_true] at atStock
    exact (sub_eq_zero.mp atStock).le

/-- A settlement that finds its own units keeps the custody. -/
theorem Custody.of_settlement (custody : Custody start db)
    {taken : Uuid → Int} {quantity units : Int}
    (moves : Moves call db (call.step db) (-1) taken units)
    (balance : heldOf start db call.reference call.variantId = quantity)
    (findsOwn : (∀ stock ∈ objects db.stocks, ∀ other ∈ objects db.stocks,
        stock.variant = call.variantId ∧ 0 < stock.reserved →
          other.variant = call.variantId ∧ 0 < other.reserved →
            stock.id = other.id) ∨
      db.visibleReservedOf call.variantId = quantity)
    (drawn : ∀ stock ∈ db.stocks.rows, taken stock.id = 0 ∨
      (alive stock = true ∧ stock.variant = call.variantId ∧
        0 < stock.reserved) ∧ taken stock.id ≤ stock.reserved ∧
          taken stock.id ≤ quantity) :
    Custody start (call.step db) := by
  apply custody.of_moves moves
  · intro stock stockMem
    rcases drawn stock stockMem with none | ⟨selected, _⟩
    · exact Or.inl none
    · exact Or.inr selected.1
  · intro stock stockMem
    have nonneg := custody.held_nonneg
      (fun other => other = call.reference) stock stockMem
    rcases drawn stock stockMem with none | ⟨selected, within, atMost⟩
    · rw [none]
      omega
    · obtain ⟨isAlive, ofVariant, holds⟩ := selected
      rcases custody.holds_drawn balance findsOwn stockMem isAlive ofVariant
        holds with holdsAll | holdsRow <;> omega

end Custody

theorem custody_step {start : Database} {state : ReferencedStock}
    {call : InventoryCall} (custody : Custody start state.db)
    (balanced : Balanced start state) (inTurn : state.InTurn call)
    (findsOwn : state.FindsOwn call) :
    Custody start (state.step call).db := by
  change Custody start (call.step state.db)
  by_cases returned : call.Returned state.db
  · have prior := balanced call.reference call.variantId
    rw [inTurn.2] at prior
    cases call with
    | reserveStock session variantId quantity reference =>
        obtain ⟨_, moves⟩ := moves_reserveStock returned
        have bounds := fun (stock : Stock)
            (stockMem : stock ∈ state.db.stocks.rows) =>
          takenFrom_bounds (reservableRows_perm session variantId state.db)
            (fun stock _ => available_nonneg stock) quantity stockMem
        apply custody.of_moves moves
        · intro stock stockMem
          rcases bounds stock stockMem with none | ⟨kept, _⟩
          · exact Or.inl none
          · simp only [Bool.and_eq_true] at kept
            exact Or.inr kept.1
        · intro stock stockMem
          have nonneg := custody.held_nonneg (fun other => other = reference)
            stock stockMem
          change 0 ≤ heldSince start state.db (fun other => other = reference)
            stock.id + 1 * _
          rcases bounds stock stockMem with none | ⟨_, taken, _⟩ <;> omega
    | releaseReservation session variantId quantity reference =>
        have nonneg : ∀ stock ∈ reservedRows session state.db variantId,
            0 ≤ stock.reserved := fun stock visited =>
          ((mem_reservedRows session variantId).mp visited).2.2.2.le
        refine custody.of_settlement
          (moves_releaseReservation session variantId quantity reference _)
          prior.1 findsOwn ?_
        intro stock stockMem
        rcases takenFrom_bounds (reservedRows_perm session variantId state.db)
          nonneg quantity stockMem with none | ⟨kept, _, within⟩
        · exact Or.inl none
        · simp only [Bool.and_eq_true, decide_eq_true_eq] at kept
          exact Or.inr ⟨kept, within,
            taken_le_demand nonneg prior.2.le stock.id⟩
    | commitSale session variantId quantity reference =>
        have nonneg : ∀ stock ∈ reservedRows session state.db variantId,
            0 ≤ stock.sellable := by
          intro stock visited
          have stockMem := ((mem_reservedRows session variantId).mp visited).1
          exact le_min (custody.row_counts stockMem).2
            (custody.row_counts stockMem).1
        refine custody.of_settlement (moves_commitSale returned) prior.1
          findsOwn ?_
        intro stock stockMem
        rcases takenFrom_bounds (reservedRows_perm session variantId state.db)
          nonneg quantity stockMem with none | ⟨kept, _, within⟩
        · exact Or.inl none
        · simp only [Bool.and_eq_true, decide_eq_true_eq] at kept
          exact Or.inr ⟨kept, within.trans (min_le_left _ _),
            taken_le_demand nonneg prior.2.le stock.id⟩
    | adjustStock => cases inTurn.1
  · rw [step_of_not_returned returned]
    exact custody

/-- Units of a variant, as the ledgers of its rows tell them. -/
def Database.unitsUnder (db : Database) (units : StockLedger → Int)
    (variant : Uuid) : Int :=
  db.stocks.total fun stock =>
    if stock.variant = variant then units (db.ledgerOf stock.id) else 0

section Runs

variable {start : Database} {calls : List InventoryCall}

theorem balanced_start (start : Database) :
    Balanced start (.start start) := by
  intro reference variant
  change heldOf start start reference variant = 0
  simp [heldOf, heldSince, Table.total]

theorem balanced_run
    (inTurn : Guarded ReferencedStock.step ReferencedStock.InTurn
      (.start start) calls) :
    Balanced start (exec ReferencedStock.step (.start start) calls) :=
  exec_invariant (fun _ _ balanced inTurn => balanced_step balanced inTurn)
    (balanced_start start) inTurn

theorem custody_run
    (counts : ∀ stock ∈ start.stocks.rows,
      0 ≤ stock.onHand ∧ 0 ≤ stock.reserved)
    (inTurn : Guarded ReferencedStock.step ReferencedStock.InTurn
      (.start start) calls)
    (findsOwn : Guarded ReferencedStock.step ReferencedStock.FindsOwn
      (.start start) calls) :
    Custody start (exec ReferencedStock.step (.start start) calls).db := by
  let sound := fun state : ReferencedStock =>
    Balanced start state ∧ Custody start state.db
  have kept : ∀ (state : ReferencedStock) (call : InventoryCall),
      sound state → state.InTurn call ∧ state.FindsOwn call →
        sound (state.step call) := by
    rintro state call ⟨balanced, custody⟩ ⟨inTurn, findsOwn⟩
    exact ⟨balanced_step balanced inTurn,
      custody_step custody balanced inTurn findsOwn⟩
  exact (exec_invariant kept
    ⟨balanced_start start, Custody.of_start counts⟩
    (guarded_and.mpr ⟨inTurn, findsOwn⟩)).2

theorem Standing.Allows.nonneg {held : Int} {standing : Standing}
    (allows : standing.Allows held) : 0 ≤ held := by
  cases standing with
  | unused => exact allows.ge
  | reserved quantity => exact allows.1 ▸ allows.2.le
  | settled => exact allows

/-- A reference without movements at the start holds what its movements
say. -/
theorem heldSince_of_unused {reference : String}
    (unused : ∀ movement ∈ start.movements.rows,
      movement.reference ≠ reference) (db : Database) (id : Uuid) :
    heldSince start db (fun other => other = reference) id =
      (db.ledgerOf id).reservedUnder reference -
        (db.ledgerOf id).releasedUnder reference -
        (db.ledgerOf id).soldUnder reference := by
  have none : (start.ledgerOf id).held (fun other => other = reference) =
      0 := by
    apply StockLedger.held_of_unnamed
    intro movement movementMem
    simpa using unused movement (List.mem_of_mem_filter movementMem)
  rw [heldSince, none, sub_zero, StockLedger.held_eq]

end Runs

/-- Units go back to, and leave from, what was reserved: of a variant, under
each reference; from a row, under all references together; and from a row
under each reference, if every release and sale finds one row with reserved
units only, or only units of its own reference. -/
theorem settled_within_reserved {start : Database}
    {calls : List InventoryCall} {reference : String}
    (inTurn : Guarded ReferencedStock.step ReferencedStock.InTurn
      (.start start) calls)
    (unused : ∀ movement ∈ start.movements.rows,
      movement.reference ≠ reference) :
    let after := (exec ReferencedStock.step (.start start) calls).db
    (∀ variant,
      after.unitsUnder (fun ledger => ledger.releasedUnder reference +
          ledger.soldUnder reference) variant ≤
        after.unitsUnder (fun ledger => ledger.reservedUnder reference)
          variant) ∧
    (∀ id, start.movementsOf id = [] → 0 ≤ (start.ledgerOf id).onHand →
      0 ≤ (start.ledgerOf id).reserved →
      (after.ledgerOf id).quantity .reservationRelease -
          (after.ledgerOf id).quantity .sale ≤
        (start.ledgerOf id).reserved -
          (after.ledgerOf id).quantity .reservation) ∧
    ((∀ stock ∈ start.stocks.rows, 0 ≤ stock.onHand ∧ 0 ≤ stock.reserved) →
      Guarded ReferencedStock.step ReferencedStock.FindsOwn (.start start)
        calls →
      ∀ stock ∈ after.stocks.rows,
        (after.ledgerOf stock.id).releasedUnder reference +
            (after.ledgerOf stock.id).soldUnder reference ≤
          (after.ledgerOf stock.id).reservedUnder reference) := by
  intro after
  refine ⟨?_, ?_, ?_⟩
  · intro variant
    have holds : 0 ≤ heldOf start after reference variant :=
      (balanced_run inTurn reference variant).nonneg
    have added : after.unitsUnder
        (fun ledger => ledger.reservedUnder reference) variant =
        heldOf start after reference variant +
          after.unitsUnder (fun ledger => ledger.releasedUnder reference +
            ledger.soldUnder reference) variant := by
      unfold heldOf Database.unitsUnder
      rw [← Table.total_add]
      apply Table.total_congr
      intro stock _
      by_cases ofVariant : stock.variant = variant
      · simp only [ofVariant, if_true, heldSince_of_unused unused]
        ring
      · simp [ofVariant]
    omega
  · intro id untouched onHand reserved
    have kept : ∀ (state : ReferencedStock) (call : InventoryCall),
        (state.db.ledgerOf id).Reconciled (start.ledgerOf id).reserved →
          ((state.step call).db.ledgerOf id).Reconciled
            (start.ledgerOf id).reserved :=
      fun state call reconciled =>
        reconciled.step (ledgerOf_step call state.db id)
    have reconciled : (after.ledgerOf id).Reconciled
        (start.ledgerOf id).reserved := exec_invariant_of_steps kept
      (StockLedger.Reconciled.of_untouched untouched onHand reserved) calls
    have := reconciled.reserved_eq
    have := reconciled.reserved_nonneg
    omega
  · intro counts findsOwn stock stockMem
    have custody : Custody start after :=
      custody_run counts inTurn findsOwn
    have holds := custody.held_nonneg (fun other => other = reference) stock
      stockMem
    rw [heldSince_of_unused unused] at holds
    omega

/-- One variant that is kept in two warehouses. -/
def twoShelves : Database where
  warehouses := ⟨[
      { id := 1, createdAt := 0, code := "main", priority := 1 },
      { id := 3, createdAt := 0, code := "spare", priority := 2 }],
    by decide⟩
  stocks := ⟨[
      { id := 2, createdAt := 0, variant := 7, warehouse := 1, onHand := 5 },
      { id := 4, createdAt := 0, variant := 7, warehouse := 3, onHand := 8 }],
    by decide⟩

/-- One reference after the other, each settled before the next reserves. -/
def inSequence : List InventoryCall :=
  [.reserveStock { now := 1 } 7 6 "first",
    .commitSale { now := 2 } 7 6 "first",
    .reserveStock { now := 3 } 7 2 "second",
    .releaseReservation { now := 4 } 7 2 "second"]

theorem settled_within_reserved_twoShelves :
    let after := (exec ReferencedStock.step (.start twoShelves) inSequence).db
    after.unitsUnder (fun ledger => ledger.releasedUnder "first" +
        ledger.soldUnder "first") 7 ≤
      after.unitsUnder (fun ledger => ledger.reservedUnder "first") 7 ∧
    ∀ stock ∈ after.stocks.rows,
      (after.ledgerOf stock.id).releasedUnder "first" +
          (after.ledgerOf stock.id).soldUnder "first" ≤
        (after.ledgerOf stock.id).reservedUnder "first" :=
  have settled := settled_within_reserved
    (show Guarded ReferencedStock.step ReferencedStock.InTurn
      (.start twoShelves) inSequence by decide +kernel) (by decide)
  ⟨settled.1 7, settled.2.2 (by decide) (by decide +kernel)⟩

/-- The first reference fills the main warehouse, the second one the spare
one, and the first one releases. -/
def crossing : List InventoryCall :=
  [.reserveStock { now := 1 } 7 5 "first",
    .reserveStock { now := 2 } 7 8 "second",
    .releaseReservation { now := 3 } 7 5 "first"]

/-- The release gives the units of the main warehouse back to the spare one,
which holds more reserved units. -/
theorem released_elsewhere :
    Guarded ReferencedStock.step ReferencedStock.InTurn (.start twoShelves)
        crossing ∧
      twoShelves.movements.rows = [] ∧
      ¬∀ stock ∈ (exec ReferencedStock.step (.start twoShelves)
          crossing).db.stocks.rows, ∀ reference ∈ ["first", "second"],
        (((exec ReferencedStock.step (.start twoShelves)
            crossing).db.ledgerOf stock.id).releasedUnder reference +
          ((exec ReferencedStock.step (.start twoShelves)
            crossing).db.ledgerOf stock.id).soldUnder reference) ≤
          ((exec ReferencedStock.step (.start twoShelves)
            crossing).db.ledgerOf stock.id).reservedUnder reference := by
  decide +kernel

end NovaCommerce
