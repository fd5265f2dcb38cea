import NovaCommerce.FulfilmentSteps

/-!
# Concurrent fulfilment

Any number of clients check carts out, move orders along their statuses, ask
providers for charges, deliver webhooks, and reserve, release and sell stock,
statement by statement and in any interleaving.  Every commit posts to the
stock ledgers and takes its steps of the order log from the store that it
finds: the movements explain the counts of every row, the safety buffers stay
covered, and the events of every order spell the path that its status has
taken.
-/

namespace NovaCommerce

open AtomicCall GuardedRun LockingTransactions

/-- A call of a client; `orderId` of a checkout and `paymentId` of a charge
attempt are the identifiers that their rows draw. -/
inductive FulfilmentRequest where
  | createOrderFromCart (session : Session) (orderId : Uuid) (cart : Cart)
      (user : Option Uuid) (payload : CheckoutInput)
  | transitionStatus (session : Session) (orderId : Uuid)
      (newStatus : OrderStatus) (actor : Option Uuid) (message : String)
  | createPayment (session : Session) (gateway : Gateway) (order : Order)
      (paymentId : Uuid) (providerCode successUrl cancelUrl : String)
  | handleWebhook (session : Session) (gateway : Gateway)
      (providerCode : String) (headers : Headers) (body : TextDecoding.Bytes)
  | reserveStock (session : Session) (variantId : Uuid) (quantity : Int)
      (reference : String)
  | releaseReservation (session : Session) (variantId : Uuid) (quantity : Int)
      (reference : String)
  | commitSale (session : Session) (variantId : Uuid) (quantity : Int)
      (reference : String)

namespace FulfilmentRequest

/-- The statements of a call; what it returns is left out. -/
def program : FulfilmentRequest → Statements Unit
  | createOrderFromCart session orderId cart user payload => do
      let _ ← Statements.createOrderFromCart session orderId cart user payload
      pure ()
  | transitionStatus session orderId newStatus actor message => do
      let _ ← Statements.transitionStatus session orderId newStatus actor
        message
      pure ()
  | createPayment session gateway order paymentId providerCode successUrl
      cancelUrl => do
      let _ ← Statements.createPayment session gateway order paymentId
        providerCode successUrl cancelUrl
      pure ()
  | handleWebhook session gateway providerCode headers body => do
      let _ ← Statements.handleWebhook session gateway providerCode headers
        body
      pure ()
  | reserveStock session variantId quantity reference => do
      let _ ← Statements.reserveStock session variantId quantity reference
      pure ()
  | releaseReservation session variantId quantity reference =>
      Statements.releaseReservation session variantId quantity reference
  | commitSale session variantId quantity reference =>
      Statements.commitSale session variantId quantity reference

/-- The status that the call is to move an order to, if any. -/
def asks : FulfilmentRequest → Option OrderStatus
  | transitionStatus _ _ newStatus _ _ => some newStatus
  | handleWebhook _ gateway providerCode headers body =>
      askedByWebhook gateway providerCode headers body
  | _ => none

/-- The order that a transition moves, and where to. -/
def transition : FulfilmentRequest → Option (Uuid × OrderStatus)
  | transitionStatus _ orderId newStatus _ _ => some (orderId, newStatus)
  | _ => none

/-- The reference that units are sold under without a transition. -/
def direct : FulfilmentRequest → Option String
  | commitSale _ _ _ reference => some reference
  | _ => none

end FulfilmentRequest

/-- The moves of a call: those that it asks for, and all of a transition. -/
structure MovesOf (request : FulfilmentRequest)
    (moves : Uuid → List OrderStatus) : Prop where
  asked : MovesAsAsked request.asks moves
  transition : ∀ order status, request.transition = some (order, status) →
    moves order = [status]

section Commits

variable {now : Database} {after : Progress RowKey Database}

theorem program_moves (request : FulfilmentRequest) :
    Achieves storeRely StockEffect request.program := by
  cases request with
  | createOrderFromCart =>
      exact bind_moves (createOrderFromCart_moves _ _ _ _ _)
        fun _ => pure_moves
  | transitionStatus =>
      exact bind_moves (transitionStatus_moves _ _ _ _ _) fun _ => pure_moves
  | createPayment =>
      exact bind_moves (createPayment_moves _ _ _ _ _ _ _) fun _ => pure_moves
  | handleWebhook =>
      exact bind_moves (handleWebhook_moves _ _ _ _ _) fun _ => pure_moves
  | reserveStock =>
      exact bind_moves (reserveStock_moves _ _ _ _) fun _ => pure_moves
  | releaseReservation => exact releaseReservation_moves _ _ _ _
  | commitSale => exact commitSale_moves _ _ _ _

theorem movesOf_none {request : FulfilmentRequest}
    (noTransition : request.transition = none) :
    MovesOf request fun _ => [] where
  asked := .inl fun _ => rfl
  transition order status isTransition := by
    rw [noTransition] at isTransition
    cases isTransition

theorem program_steps {request : FulfilmentRequest} {value : Unit}
    (leads : Leads storeRely now request.program .start value after) :
    ∃ moves, MovesOf request moves ∧
      OrdersStepped moves request.direct now (after.own now) after.held := by
  cases request with
  | createOrderFromCart =>
      obtain ⟨_, _, leads, finished⟩ := leads_bind.mp leads
      obtain ⟨_, rfl⟩ := leads_pure.mp finished
      exact ⟨_, movesOf_none rfl, ordersStepped_createOrderFromCart leads⟩
  | transitionStatus session orderId newStatus actor message =>
      obtain ⟨_, _, leads, finished⟩ := leads_bind.mp leads
      obtain ⟨_, rfl⟩ := leads_pure.mp finished
      refine ⟨_, ⟨.inr ⟨orderId, newStatus, rfl, fun _ => rfl⟩, ?_⟩,
        ordersStepped_transitionStatus leavesOrders_start leads⟩
      rintro order status ⟨rfl, rfl⟩
      exact if_pos rfl
  | createPayment =>
      obtain ⟨_, _, leads, finished⟩ := leads_bind.mp leads
      obtain ⟨_, rfl⟩ := leads_pure.mp finished
      exact ⟨_, movesOf_none rfl, ordersStepped_createPayment leads⟩
  | handleWebhook =>
      obtain ⟨_, _, leads, finished⟩ := leads_bind.mp leads
      obtain ⟨_, rfl⟩ := leads_pure.mp finished
      obtain ⟨moves, asAsked, stepped⟩ := ordersStepped_handleWebhook leads
      refine ⟨moves, ⟨asAsked, ?_⟩, stepped⟩
      intro _ _ never
      cases never
  | reserveStock =>
      obtain ⟨_, _, leads, finished⟩ := leads_bind.mp leads
      obtain ⟨_, rfl⟩ := leads_pure.mp finished
      exact ⟨_, movesOf_none rfl, ordersStepped_of_spares leads
        (sparesOrders_reserveStock _ _ _ _) fun _ _ =>
          congrFun (soldUnder_of_sparesSales leads
            (sparesSales_reserveStock _ _)) _⟩
  | releaseReservation =>
      exact ⟨_, movesOf_none rfl, ordersStepped_of_spares leads
        (sparesOrders_releaseReservation _ _ _ _) fun _ _ =>
          congrFun (soldUnder_of_sparesSales leads
            (sparesSales_releaseReservation _ _)) _⟩
  | commitSale session variantId quantity reference =>
      refine ⟨_, movesOf_none rfl, ordersStepped_of_spares leads
        (sparesOrders_commitSale _ _ _ _) fun order notDirect => ?_⟩
      obtain ⟨sold, _, sells⟩ := soldUnder_commitSale leads
      have otherReference : reference ≠ toString order :=
        fun same => notDirect (congrArg some same)
      rw [sells, if_neg otherReference, add_zero]
      rfl

theorem guarantees_fulfilment :
    Guarantees storeRely FulfilmentRequest.program (fun _ => True) := by
  intro request before value progress leads _
  have moved := program_moves request before _ value progress leads rowByRow_id
  obtain ⟨_, _, stepped⟩ := program_steps leads
  exact ⟨moved.rowByRow.warehouses_eq before, moved.kept, stepped.kept,
    stepped.items⟩

end Commits

abbrev FulfilmentCommit := Commit FulfilmentRequest Database Unit

/-- What a commit did to the stock and to the orders. -/
structure FulfilmentCommit.Fulfilled (commit : FulfilmentCommit) : Prop where
  posts : ∀ id,
    (commit.before.ledgerOf id).Posts (commit.after.ledgerOf id)
  covers : commit.before.CoversBuffers → commit.after.CoversBuffers
  steps : ∃ moves held, MovesOf commit.request moves ∧
    OrdersStepped moves commit.request.direct commit.before commit.after held

theorem fulfilled_of_isOf {commit : FulfilmentCommit}
    (isOf : commit.IsOf storeRely FulfilmentRequest.program) :
    commit.Fulfilled := by
  obtain ⟨progress, leads, after_eq⟩ := isOf
  have moved := program_moves commit.request commit.before _ _ progress leads
    rowByRow_id
  obtain ⟨moves, movesOf, stepped⟩ := program_steps leads
  rw [← after_eq] at stepped
  exact ⟨after_eq ▸ moved.posts, after_eq ▸ moved.covers,
    ⟨moves, _, movesOf, stepped⟩⟩

theorem FulfilmentCommit.Fulfilled.logs {commit : FulfilmentCommit}
    (fulfilled : commit.Fulfilled) : Logs commit.before commit.after := by
  obtain ⟨_, _, _, stepped⟩ := fulfilled.steps
  exact stepped.logs

section Runs

variable {Client : Type} [DecidableEq Client]

/-- The committed store and the log of a run of the clients. -/
abbrev fulfil (initial : Database)
    (actions : List (Action Client FulfilmentRequest)) :
    System Client FulfilmentRequest RowKey Database Exception Unit :=
  exec (System.step FulfilmentRequest.program) { committed := initial } actions

theorem chained_fulfil (initial : Database)
    (actions : List (Action Client FulfilmentRequest)) :
    Chained initial (fulfil initial actions).log
        (fulfil initial actions).committed ∧
      ∀ commit ∈ (fulfil initial actions).log,
        FulfilmentCommit.Fulfilled commit := by
  have tracked : Tracked storeRely FulfilmentRequest.program (fun _ => True)
      initial (fulfil initial actions) :=
    exec_tracked guarantees_fulfilment (commitsMeet_true _ _)
  exact ⟨tracked.chained, fun commit member =>
    fulfilled_of_isOf (tracked.commits commit member).1⟩

/-- The movements explain the stock under concurrency: in any interleaving of
checkouts, transitions, charge attempts, webhooks, reservations, releases and
sales, of which any may be rolled back at any statement, the counts of every
row are the initial ones with the movements that were recorded since, and
safety buffers that were covered at first stay covered. -/
theorem concurrent_movements_explain_stock (initial : Database)
    (actions : List (Action Client FulfilmentRequest)) :
    let final := (fulfil initial actions).committed
    (∀ id, ∃ movements,
      (initial.ledgerOf id).Explains movements (final.ledgerOf id)) ∧
      (initial.CoversBuffers → final.CoversBuffers) := by
  intro final
  obtain ⟨chained, fulfilled⟩ := chained_fulfil initial actions
  constructor
  · intro id
    have posts : (initial.ledgerOf id).Posts (final.ledgerOf id) :=
      chained.related
        (fun before after => (before.ledgerOf id).Posts (after.ledgerOf id))
        (fun _ => .refl) (fun _ _ _ first second => first.trans second)
        fun commit member => (fulfilled commit member).posts id
    exact posts.explains
  · intro covered
    exact chained.invariant covered fun commit member =>
      (fulfilled commit member).covers

/-- The status events of an order that the commit appended. -/
def FulfilmentCommit.newCodes (commit : FulfilmentCommit) (order : Uuid) :
    List String :=
  (commit.after.statusCodes order).drop
    (commit.before.statusCodes order).length

/-- The commit moved the order as its request asks for: a transition always,
a webhook once or not at all, any other call never. -/
structure FulfilmentCommit.MovesAsRequested (commit : FulfilmentCommit)
    (order : Uuid) : Prop where
  asked : commit.newCodes order = [] ∨ ∃ status ∈ commit.request.asks,
    commit.newCodes order = [statusCode status]
  transition : ∀ status, commit.request.transition = some (order, status) →
    commit.newCodes order = [statusCode status]

namespace FulfilmentCommit.Fulfilled

variable {commit : FulfilmentCommit} (fulfilled : commit.Fulfilled)
  (order : Uuid)

include fulfilled

theorem codes_eq : commit.after.statusCodes order =
    commit.before.statusCodes order ++ commit.newCodes order := by
  obtain ⟨moves, _, _, stepped⟩ := fulfilled.steps
  rw [newCodes, stepped.codes, List.drop_left]

theorem movesAsRequested : commit.MovesAsRequested order := by
  obtain ⟨moves, _, movesOf, stepped⟩ := fulfilled.steps
  have codes_eq : commit.newCodes order = (moves order).map statusCode := by
    rw [newCodes, stepped.codes, List.drop_left]
  constructor
  · rcases movesOf.asked with stays | ⟨moved, status, asked, moves_eq⟩
    · left
      rw [codes_eq, stays]
      rfl
    · by_cases same : moved = order
      · right
        exact ⟨status, asked, by rw [codes_eq, moves_eq, if_pos same]; rfl⟩
      · left
        rw [codes_eq, moves_eq, if_neg same]
        rfl
  · intro status isTransition
    rw [codes_eq, movesOf.transition order status isTransition]
    rfl

end FulfilmentCommit.Fulfilled

/-- The status events of an order that the commits appended. -/
def codesOf (commits : List FulfilmentCommit) (order : Uuid) : List String :=
  commits.flatMap fun commit => commit.newCodes order

theorem statusCodes_of_chained {initial final : Database}
    {commits : List FulfilmentCommit}
    (chained : Chained initial commits final)
    (fulfilled : ∀ commit ∈ commits, FulfilmentCommit.Fulfilled commit)
    (order : Uuid) :
    final.statusCodes order =
      initial.statusCodes order ++ codesOf commits order := by
  induction commits generalizing initial with
  | nil =>
      subst chained
      exact (List.append_nil _).symm
  | cons commit commits ih =>
      obtain ⟨rfl, chained⟩ := chained
      rw [ih chained fun other otherMem =>
          fulfilled other (List.mem_cons_of_mem _ otherMem),
        (fulfilled commit List.mem_cons_self).codes_eq order,
        List.append_assoc]
      rfl

theorem statusCode_injective : Function.Injective statusCode := by
  intro first second same
  cases first <;> cases second <;> first | rfl | exact absurd same (by decide)

/-- Every status has a rank that grows along the allowed transitions. -/
def OrderStatus.rank : OrderStatus → Nat
  | .pending => 0
  | .paid => 1
  | .packed => 2
  | .shipped => 3
  | .delivered => 4
  | .cancelled | .refunded => 5

theorem OrderStatus.rank_lt {old new : OrderStatus}
    (allowed : new ∈ old.allowedTransitions) : old.rank < new.rank := by
  revert allowed
  cases old <;> cases new <;> decide

/-- A path of allowed transitions enters no status twice. -/
theorem Order.HasTaken.nodup {order : Order} {path : List OrderStatus}
    (taken : order.HasTaken path) : path.Nodup := by
  have ranks : ((OrderStatus.pending :: path).map OrderStatus.rank).IsChain
      (· < ·) :=
    (List.isChain_map OrderStatus.rank).mpr
      (taken.allowed.imp fun _ _ => OrderStatus.rank_lt)
  have increasing := (List.isChain_iff_pairwise.mp ranks).tail
  exact List.Nodup.of_map OrderStatus.rank
    (increasing.imp fun less => less.ne)

/-- No order has two events of one status. -/
theorem Database.TellsHistories.nodup {db : Database}
    (tells : db.TellsHistories) (order : Uuid) :
    (db.statusCodes order).Nodup := by
  by_cases used : order ∈ db.orders.keys
  · obtain ⟨row, member, rfl⟩ := List.mem_map.mp used
    obtain ⟨path, codes_eq, taken⟩ := tells.histories row member
    have sameKey : Keyed.key row = row.id := rfl
    rw [sameKey, codes_eq]
    exact taken.nodup.map statusCode_injective
  · rw [statusCodes_of_unused tells used]
    exact .nil

/-- No move of an order is lost or made twice under concurrency: in any
interleaving the status events of an order are those of the commits, in the
order of the commits, every commit moves an order as it is asked to and never
to a status that it has been in, the events spell an allowed path from
`pending` to the status, and orders that have ended stay as they are. -/
theorem concurrent_transitions_tell_histories (initial : Database)
    (tells : initial.TellsHistories)
    (actions : List (Action Client FulfilmentRequest)) :
    let final := fulfil initial actions
    final.committed.TellsHistories ∧ initial.KeepsEnded final.committed ∧
      ∀ order, final.committed.statusCodes order =
          initial.statusCodes order ++ codesOf final.log order ∧
        (final.committed.statusCodes order).Nodup ∧
        ∀ commit ∈ final.log,
          FulfilmentCommit.MovesAsRequested commit order := by
  intro final
  obtain ⟨chained, fulfilled⟩ := chained_fulfil initial actions
  have tellsFinal : final.committed.TellsHistories :=
    chained.invariant tells fun commit member =>
      (fulfilled commit member).logs.tellsHistories
  refine ⟨tellsFinal, ?_, fun order => ⟨?_, tellsFinal.nodup order, ?_⟩⟩
  · exact chained.related Database.KeepsEnded .refl (fun _ _ _ => .trans)
      fun commit member => (fulfilled commit member).logs.keepsEnded
  · exact statusCodes_of_chained chained fulfilled order
  · exact fun commit member => (fulfilled commit member).movesAsRequested order

end Runs

/-- A checkout, and a charge of its order through PayPal. -/
def chargedCheckout : List (Action Nat FulfilmentRequest) :=
  .start 0 (.createOrderFromCart { now := 1, orderNumber := "N1" } 1
      { id := 10, createdAt := 0 } none
      { email := "buyer@example.com", phone := "", shippingAddress := .obj [] })
    :: List.replicate 20 (.advance 0) ++
  .start 0 (.createPayment { now := 4 } (deployment accepted)
      { id := 1, createdAt := 1, number := "N1", user := none,
        emailSnapshot := "buyer@example.com", phoneSnapshot := "" } 1 "paypal"
      "" "")
    :: List.replicate 8 (.advance 0)

/-- PayPal says that the charge was approved. -/
def approvalAt (now : Time) : FulfilmentRequest :=
  .handleWebhook { now } (deployment accepted) "paypal" []
    (eventBody "CHECKOUT.ORDER.APPROVED")

/-- Two deliveries of the approval race with each other and with a
cancellation. -/
def racedDeliveries : List (Action Nat FulfilmentRequest) :=
  chargedCheckout ++
  [.start 0 (approvalAt 5), .start 1 (approvalAt 6),
    .start 2 (.transitionStatus { now := 6 } 1 .cancelled none "")] ++
  (List.replicate 16 [.advance 0, .advance 1, .advance 2]).flatten ++
  List.replicate 16 (.advance 1) ++ List.replicate 16 (.advance 2)

theorem concurrent_transitions_tell_histories_raced :
    (fulfil (twoCarts 5) racedDeliveries).committed.TellsHistories ∧
      codesOf (fulfil (twoCarts 5) racedDeliveries).log 1 =
        ["status:paid", "status:cancelled"] :=
  ⟨(concurrent_transitions_tell_histories (twoCarts 5)
      ⟨by simp [twoCarts, oneShelf], by simp [twoCarts, oneShelf]⟩
      racedDeliveries).1,
    by decide +kernel⟩

end NovaCommerce
