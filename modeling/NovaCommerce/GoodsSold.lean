import NovaCommerce.ConcurrentFulfilment

/-!
# Goods are sold once, when an order is paid for

Providers deliver their webhooks more than once, several attempts may be paid
for, and staff move the same order at the same time.  However the calls
interleave, an order is moved to `paid` at most once, and what has been sold
under its reference is what its items ask for if it has been paid for, and
nothing otherwise.
-/

namespace NovaCommerce

open AtomicCall GuardedRun LockingTransactions

/-- What was sold for an order is what its items ask for, if an event says that
it was paid for. -/
def Database.SellsWhenPaid (db : Database) (order : Uuid) : Prop :=
  db.soldUnder (toString order) =
    if statusCode .paid ∈ db.statusCodes order then db.orderedUnits order
    else 0

/-- What was sold under an identifier is what the items of its order ask for,
if there is such an order and it has been paid for. -/
structure Database.SalesAccounted (db : Database) (order : Uuid) : Prop where
  placed : ∀ row ∈ db.orders.rows, row.id = order →
    db.soldUnder (toString order) =
      if row.paidAt.isSome then db.orderedUnits order else 0
  unused : order ∉ db.orders.keys → db.soldUnder (toString order) = 0

section Accounts

variable {db : Database} {order : Uuid}

theorem Database.TellsHistories.paidAt_iff (tells : db.TellsHistories)
    {row : Order} (member : row ∈ db.orders.rows) :
    statusCode .paid ∈ db.statusCodes row.id ↔ row.paidAt.isSome := by
  obtain ⟨path, codes_eq, taken⟩ := tells.histories row member
  rw [codes_eq, taken.paid, List.mem_map_of_injective statusCode_injective]

/-- The events and the moments of the orders tell the same. -/
theorem salesAccounted_iff (tells : db.TellsHistories) :
    db.SalesAccounted order ↔ db.SellsWhenPaid order := by
  constructor
  · intro accounted
    by_cases used : order ∈ db.orders.keys
    · obtain ⟨row, member, rfl⟩ := List.mem_map.mp used
      rw [Database.SellsWhenPaid, accounted.placed row member rfl]
      exact if_congr (tells.paidAt_iff member).symm rfl rfl
    · rw [Database.SellsWhenPaid, accounted.unused used,
        statusCodes_of_unused tells used, if_neg List.not_mem_nil]
  · intro sells
    constructor
    · rintro row member rfl
      rw [sells]
      exact if_congr (tells.paidAt_iff member) rfl rfl
    · intro unused
      rw [sells, statusCodes_of_unused tells unused, if_neg List.not_mem_nil]

/-- A commit that sells nothing directly under the reference of the order keeps
its account. -/
theorem FulfilmentCommit.Fulfilled.sellsWhenPaid {commit : FulfilmentCommit}
    (fulfilled : commit.Fulfilled) (tells : commit.before.TellsHistories)
    (indirect : commit.request.direct ≠ some (toString order))
    (sells : commit.before.SellsWhenPaid order) :
    commit.after.SellsWhenPaid order := by
  have onceOnly := (fulfilled.logs.tellsHistories tells).nodup order
  obtain ⟨moves, _, _, stepped⟩ := fulfilled.steps
  rw [stepped.codes] at onceOnly
  rw [Database.SellsWhenPaid, stepped.sold order indirect, sells,
    stepped.codes]
  by_cases used : order ∈ commit.before.orders.keys
  · have sameUnits : commit.after.orderedUnits order =
        commit.before.orderedUnits order := by
      rw [Database.orderedUnits, stepped.items.items_eq order used]
      rfl
    rw [sameUnits]
    by_cases pays : .paid ∈ moves order
    · have isNew : statusCode .paid ∉ commit.before.statusCodes order := by
        intro paidBefore
        exact List.disjoint_of_nodup_append onceOnly paidBefore
          (List.mem_map_of_mem pays)
      have isPaid : statusCode .paid ∈ commit.before.statusCodes order ++
          (moves order).map statusCode :=
        List.mem_append_right _ (List.mem_map_of_mem pays)
      rw [if_neg isNew, if_pos pays, if_pos isPaid, zero_add]
    · have same : statusCode .paid ∈ commit.before.statusCodes order ++
          (moves order).map statusCode ↔
            statusCode .paid ∈ commit.before.statusCodes order := by
        rw [List.mem_append, List.mem_map_of_injective statusCode_injective]
        exact or_iff_left pays
      rw [if_neg pays, add_zero]
      exact if_congr same.symm rfl rfl
  · have stays : moves order = [] := by
      by_contra moved
      exact used (stepped.known order moved)
    have noCodes := statusCodes_of_unused tells used
    simp [stays, noCodes]

end Accounts

section Runs

variable {Client : Type} [DecidableEq Client]

/-- However checkouts, charge attempts, webhooks and transitions interleave,
what was sold for an order is what its items ask for once it has been paid for,
and nothing before: no delivery that is repeated or raced sells its goods
again.  Only sales that name its reference directly are not accounted for. -/
theorem goods_sold_when_paid (initial : Database)
    (tells : initial.TellsHistories)
    (actions : List (Action Client FulfilmentRequest)) (order : Uuid)
    (accounted : initial.SalesAccounted order)
    (indirect : ∀ client session variantId quantity,
      .start client (.commitSale session variantId quantity (toString order)) ∉
        actions) :
    (fulfil initial actions).committed.SalesAccounted order := by
  obtain ⟨chained, fulfilled⟩ := chained_fulfil initial actions
  have requested : Requested
      (fun request : FulfilmentRequest =>
        request.direct ≠ some (toString order)) (fulfil initial actions) := by
    refine requested_exec ⟨?_, ?_⟩ ?_
    · intro client flight flies
      cases flies
    · intro commit listed
      cases listed
    · intro client request started isDirect
      cases request <;> cases isDirect
      exact indirect _ _ _ _ started
  let isSound (db : Database) := db.TellsHistories ∧ db.SellsWhenPaid order
  have reached : isSound (fulfil initial actions).committed := by
    refine chained.invariant
      ⟨tells, (salesAccounted_iff tells).mp accounted⟩ ?_
    rintro commit listed ⟨tellsBefore, sellsBefore⟩
    exact ⟨(fulfilled commit listed).logs.tellsHistories tellsBefore,
      (fulfilled commit listed).sellsWhenPaid tellsBefore
        (requested.log commit listed) sellsBefore⟩
  exact (salesAccounted_iff reached.1).mpr reached.2

end Runs

/-- The goods are sold by one of two deliveries that race. -/
theorem goods_sold_when_paid_raced :
    (fulfil (twoCarts 5) racedDeliveries).committed.SalesAccounted 1 ∧
      (fulfil (twoCarts 5) racedDeliveries).committed.soldUnder "1" = 1 := by
  have accounted : (twoCarts 5).SalesAccounted 1 :=
    ⟨by simp [twoCarts, oneShelf], fun _ => by decide⟩
  have indirect : ∀ client session variantId quantity,
      .start client (.commitSale session variantId quantity
        (toString (1 : Uuid))) ∉ racedDeliveries := by
    simp [racedDeliveries, chargedCheckout, approvalAt, List.replicate]
  exact ⟨goods_sold_when_paid (twoCarts 5)
      ⟨by simp [twoCarts, oneShelf], by simp [twoCarts, oneShelf]⟩
      racedDeliveries 1 accounted indirect,
    by decide +kernel⟩

end NovaCommerce
