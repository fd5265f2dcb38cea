import NovaCommerce.PaymentAmounts
import NovaCommerce.SortedHeads

/-!
# The references of charge attempts

Every attempt to charge an order is stored with the reference that its provider
gave, but a webhook without an order identifier is looked up by the reference
on the order, which every later attempt overwrites.  The order is found by the
reference of an attempt exactly if the last attempt has the same reference and
no newer order carries it.
-/

namespace NovaCommerce

open AtomicCall GuardedRun TextDecoding RequestText

/-- A call of `create_payment` on an order. -/
structure Attempt where
  session : Session
  gateway : Gateway
  providerCode : String
  successUrl : String := ""
  cancelUrl : String := ""

namespace Attempt

def command (attempt : Attempt) (orderId : Uuid) : StoreCommand :=
  .createPayment attempt.session attempt.gateway orderId attempt.providerCode
    attempt.successUrl attempt.cancelUrl

/-- The provider reference of the payment, if the attempt is successful. -/
def reference (attempt : Attempt) (orderId : Uuid) (db : Database) :
    Option String :=
  match (objects db.orders).find? fun order => order.id = orderId with
  | none => none
  | some order =>
      match createPayment attempt.session attempt.gateway order
          attempt.providerCode attempt.successUrl attempt.cancelUrl db with
      | .ok payment _ =>
          if payment.status = .pending then some payment.providerReference
          else none
      | .error _ _ => none

end Attempt

/-- The database after a sequence of attempts on an order. -/
def afterAttempts (orderId : Uuid) (db : Database) (attempts : List Attempt) :
    Database :=
  exec StoreCommand.step db (attempts.map fun attempt =>
    attempt.command orderId)

/-- The references of the successful attempts of a sequence. -/
def references (orderId : Uuid) : Database → List Attempt → List String
  | _, [] => []
  | db, attempt :: attempts =>
      (attempt.reference orderId db).toList ++
        references orderId ((attempt.command orderId).step db) attempts

/-- The order after a successful attempt. -/
def Order.withReference (order : Order) (provider reference : String) :
    Order :=
  { order with
    paymentProvider := provider
    paymentReference := reference }

section Attempts

variable {db : Database} {order : Order}

theorem references_append (orderId : Uuid) (db : Database)
    (first second : List Attempt) :
    references orderId db (first ++ second) =
      references orderId db first ++
        references orderId (afterAttempts orderId db first) second := by
  induction first generalizing db with
  | nil => rfl
  | cons attempt first ih =>
      rw [List.cons_append, references, references, ih, List.append_assoc]
      rfl

/-- A visible order is the one that the view finds. -/
theorem find?_objects_orders (member : order ∈ db.orders.rows)
    (isAlive : alive order = true) :
    (objects db.orders).find? (fun other => other.id = order.id) =
      some order :=
  find?_objects_eq_some.mpr ⟨List.mem_filter.mpr ⟨member, isAlive⟩, rfl⟩

/-- A successful attempt writes its provider and its reference to the order; any
other attempt leaves the orders unchanged. -/
theorem Attempt.step_orders (attempt : Attempt)
    (member : order ∈ db.orders.rows) (isAlive : alive order = true) :
    (attempt.reference order.id db = none ∧
        ((attempt.command order.id).step db).orders = db.orders) ∨
      ∃ reference, attempt.reference order.id db = some reference ∧
        ((attempt.command order.id).step db).orders = db.orders.save
          (order.withReference attempt.providerCode reference) := by
  have found := find?_objects_orders member isAlive
  simp only [Attempt.reference, Attempt.command, StoreCommand.step, found]
  cases called : createPayment attempt.session attempt.gateway order
      attempt.providerCode attempt.successUrl attempt.cancelUrl db with
  | error raised after =>
      have kept : after = db := by
        rw [createPayment] at called
        exact atomic_eq_error called
      rw [settle_of_eq_error called]
      exact Or.inl ⟨rfl, congrArg Database.orders kept⟩
  | ok payment after =>
      rw [settle_of_eq_ok called]
      obtain ⟨_, _, _, failed | ⟨pending, row, isRow, saved⟩⟩ :=
        createPayment_charges called
      · refine Or.inl ⟨?_, failed.2⟩
        simp [failed.1]
      · have rowKey := Table.find?_eq_some.mp isRow
        obtain rfl := db.orders.eq_of_key_eq rowKey.1 member rowKey.2
        refine Or.inr ⟨payment.providerReference, ?_, saved⟩
        simp [pending]

/-- A sequence of attempts saves the order with its last reference. -/
theorem orders_afterAttempts (member : order ∈ db.orders.rows)
    (isAlive : alive order = true) (attempts : List Attempt) :
    ∃ provider, (afterAttempts order.id db attempts).orders =
      db.orders.save (order.withReference provider
        ((references order.id db attempts).getLast?.getD
          order.paymentReference)) := by
  induction attempts generalizing db order with
  | nil =>
      refine ⟨order.paymentProvider, ?_⟩
      exact (db.orders.save_self member).symm
  | cons attempt attempts ih =>
      rcases attempt.step_orders member isAlive with
        ⟨failed, kept⟩ | ⟨reference, succeeded, saved⟩
      · rw [← kept] at member
        obtain ⟨provider, later⟩ := ih member isAlive
        refine ⟨provider, ?_⟩
        rw [references, failed, ← kept]
        exact later
      · have rowMem : order.withReference attempt.providerCode reference ∈
            ((attempt.command order.id).step db).orders.rows := by
          have hasKey : order.id ∈ db.orders.keys :=
            List.mem_map_of_mem member
          rw [saved]
          exact Table.mem_save.mpr (Or.inr ⟨rfl, hasKey⟩)
        obtain ⟨provider, later⟩ := ih rowMem isAlive
        refine ⟨provider, later.trans ?_⟩
        rw [saved]
        refine (Table.save_save _ (by rfl)).trans ?_
        rw [references, succeeded, Option.toList_some, List.singleton_append,
          List.getLast?_cons]
        rfl

end Attempts

/-- Every other visible order with the reference is older. -/
def Order.IsNewest (order : Order) (orders : Table Order)
    (reference : String) : Prop :=
  ∀ other ∈ orders.rows, other.id ≠ order.id → alive other = true →
    other.paymentReference = reference → other.createdAt < order.createdAt

/-- A session that scans the tables from the end. -/
def backward : Session where
  now := 0
  scan := fun _ rows => rows.reverse
  scan_perm := fun _ rows => rows.reverse_perm

/-- Whatever order the database scans its rows in, an order is looked up by a
reference exactly if it carries it and is the newest one that does. -/
theorem orderByReference_eq_iff (gateway : Gateway) (reference : String)
    {db : Database} {order : Order} (member : order ∈ db.orders.rows)
    (isAlive : alive order = true) :
    (∀ session, ∃ found, orderByReference session gateway db
        (.str reference) = some found ∧ found.id = order.id) ↔
      reference ≠ "" ∧ order.paymentReference = reference ∧
        order.IsNewest db.orders reference := by
  let carriers := (objects db.orders).filter fun other =>
    other.paymentReference = reference
  have mem_carriers (other : Order) : other ∈ carriers ↔
      (other ∈ db.orders.rows ∧ alive other = true) ∧
        other.paymentReference = reference := by
    simp [carriers, objects, and_right_comm, and_assoc]
  have looked (session : Session) (named : reference ≠ "") :
      orderByReference session gateway db (.str reference) =
        ((session.scan Order carriers).insertionSort fun first second =>
          second.createdAt ≤ first.createdAt).head? := by
    rw [orderByReference, if_pos (by simpa [Json.truthy] using named)]
    rfl
  constructor
  · intro found
    have named : reference ≠ "" := by
      rintro rfl
      obtain ⟨other, isFound, _⟩ := found { now := 0 }
      cases isFound
    have atHead (session : Session) :
        ((session.scan Order carriers).insertionSort fun first second =>
          second.createdAt ≤ first.createdAt).head? = some order := by
      obtain ⟨other, isFound, sameId⟩ := found session
      rw [looked session named] at isFound
      have otherMem := List.mem_of_head? isFound
      rw [(List.perm_insertionSort _ _).mem_iff,
        (session.scan_perm Order carriers).mem_iff, mem_carriers] at otherMem
      rw [isFound, db.orders.eq_of_key_eq otherMem.1.1 member sameId]
    have orderMem := List.mem_of_head? (atHead { now := 0 })
    rw [(List.perm_insertionSort _ _).mem_iff,
      (Session.scan_perm _ _ _).mem_iff, mem_carriers] at orderMem
    refine ⟨named, orderMem.2, ?_⟩
    -- The forward and the backward scan find the same order.
    have largest := SortedHeads.largest_of_heads
      (db.orders.nodup_rows.filter _ |>.filter _) (atHead { now := 0 })
      (atHead backward)
    intro other otherRow otherId otherAlive otherCarries
    apply largest other
      ((mem_carriers other).mpr ⟨⟨otherRow, otherAlive⟩, otherCarries⟩)
    rintro rfl
    exact otherId rfl
  · rintro ⟨named, carries, newest⟩ session
    refine ⟨order, ?_, rfl⟩
    rw [looked session named]
    apply SortedHeads.head_of_largest (session.scan_perm Order carriers)
      ((mem_carriers order).mpr ⟨⟨member, isAlive⟩, carries⟩)
    intro other otherMem differs
    obtain ⟨⟨otherRow, otherAlive⟩, otherCarries⟩ :=
      (mem_carriers other).mp otherMem
    have otherId : other.id ≠ order.id := by
      intro sameId
      exact differs (db.orders.eq_of_key_eq otherRow member sameId)
    exact newest other otherRow otherId otherAlive otherCarries

/-- Saving another reference of an order does not touch the other orders. -/
theorem Order.isNewest_save_iff {order : Order} {orders : Table Order}
    {provider last reference : String} :
    (order.withReference provider last).IsNewest
        (orders.save (order.withReference provider last)) reference ↔
      order.IsNewest orders reference := by
  constructor
  · intro newest other otherMem otherId
    exact newest other (Table.mem_save.mpr (Or.inl ⟨otherMem, otherId⟩)) otherId
  · intro newest other otherMem otherId
    rcases Table.mem_save.mp otherMem with ⟨unchanged, _⟩ | ⟨rfl, _⟩
    · exact newest other unchanged otherId
    · exact absurd rfl otherId

theorem requestEvent_of_noKey {gateway : Gateway} {providerCode : String}
    {headers : Headers} {body : Bytes} {provider : PaymentProvider}
    {parsed : WebhookResult} (registered : getProvider providerCode =
      .ok provider)
    (isParsed : provider.parseWebhook gateway headers body = .ok parsed)
    (accepted : parsed.accepted = true) (noKey : parsed.orderId.truthy = false)
    (queried : queryable gateway parsed.paymentReference = .ok ())
    (session : Session) (db : Database) :
    requestEvent db session gateway providerCode headers body =
      (orderByReference session gateway db parsed.paymentReference).map
        fun order => { provider, parsed, order } := by
  simp only [requestEvent, registered, isParsed,
    matchOrder_of_noKey noKey queried, accepted, if_true]
  cases orderByReference session gateway db parsed.paymentReference <;> rfl

/-- The reference of a successful attempt was stored, so that it can be looked
up. -/
theorem queryable_of_succeeded {orderId : Uuid} {db : Database}
    {attempt : Attempt} {reference : String} (gateway : Gateway)
    (succeeded : attempt.reference orderId db = some reference) :
    queryable gateway (.str reference) = .ok () := by
  unfold Attempt.reference at succeeded
  split at succeeded
  · cases succeeded
  split at succeeded
  · next payment _ returned =>
    split at succeeded
    · obtain rfl := Option.some.inj succeeded
      have fits := fitsColumns_of_createPayment returned
      simp only [Payment.fitsColumns, fitsColumn, Bool.and_eq_true] at fits
      have isSendable := fits.1.1.1.1.1.2
      have sameText : gateway.text (.str payment.providerReference) =
          payment.providerReference := rfl
      rw [queryable, sameText, isSendable, Bool.not_true, Bool.and_false]
      rfl
    · cases succeeded
  · cases succeeded

/-- A webhook that names a successful attempt by its reference alone finds the
order of the attempt exactly if the last successful attempt has the same
reference, which is not empty, and no newer order carries it.  Its handling
then answers with that order, if it returns. -/
theorem attempt_found_iff {start : Database} {order : Order}
    (member : order ∈ start.orders.rows) (isAlive : alive order = true)
    (earlier later : List Attempt) (attempt : Attempt) {reference : String}
    (succeeded : attempt.reference order.id
      (afterAttempts order.id start earlier) = some reference)
    {gateway : Gateway} {headers : Headers} {body : Bytes}
    {provider : PaymentProvider} {parsed : WebhookResult}
    (registered : getProvider attempt.providerCode = .ok provider)
    (isParsed : provider.parseWebhook gateway headers body = .ok parsed)
    (accepted : parsed.accepted = true) (noKey : parsed.orderId.truthy = false)
    (named : parsed.paymentReference = .str reference) :
    (∀ session, ∃ event,
        requestEvent
            (afterAttempts order.id start (earlier ++ attempt :: later))
            session gateway attempt.providerCode headers body = some event ∧
          event.order.id = order.id ∧
          ∀ outcome after,
            handleWebhook session gateway attempt.providerCode headers body
                (afterAttempts order.id start (earlier ++ attempt :: later)) =
              .ok outcome after → outcome = .matched event.order.number) ↔
      reference ≠ "" ∧
        (references order.id start (earlier ++ attempt :: later)).getLast? =
          some reference ∧
        order.IsNewest start.orders reference := by
  obtain ⟨last, isLast⟩ : ∃ last, (references order.id start
      (earlier ++ attempt :: later)).getLast? = some last := by
    rw [references_append, references, succeeded, Option.toList_some,
      List.singleton_append, List.getLast?_append_cons]
    exact ⟨_, List.getLast?_cons⟩
  obtain ⟨code, saved⟩ := orders_afterAttempts member isAlive
    (earlier ++ attempt :: later)
  rw [isLast, Option.getD_some] at saved
  have hasKey : order.id ∈ start.orders.keys := List.mem_map_of_mem member
  have rowMem : order.withReference code last ∈ (afterAttempts order.id start
      (earlier ++ attempt :: later)).orders.rows := by
    rw [saved]
    exact Table.mem_save.mpr (Or.inr ⟨rfl, hasKey⟩)
  have found := orderByReference_eq_iff gateway reference rowMem isAlive
  rw [saved, Order.isNewest_save_iff] at found
  rw [isLast, Option.some_inj]
  refine Iff.trans (forall_congr' fun session => ?_) found
  have looked := requestEvent_of_noKey registered isParsed accepted noKey
    (named ▸ queryable_of_succeeded gateway succeeded) session
    (afterAttempts order.id start (earlier ++ attempt :: later))
  rw [named] at looked
  constructor
  · rintro ⟨event, isEvent, sameId, _⟩
    rw [looked] at isEvent
    obtain ⟨other, isFound, rfl⟩ := Option.map_eq_some_iff.mp isEvent
    exact ⟨other, isFound, sameId⟩
  · rintro ⟨other, isFound, sameId⟩
    rw [isFound] at looked
    exact ⟨_, looked, sameId, fun _ _ returned =>
      outcome_of_event looked returned⟩

/-- The order `N1` before anything was charged. -/
def freshOrder : Database :=
  exec StoreCommand.step (twoCarts 5) [checkoutOf 10 "N1"]

def clickAttempt : Attempt :=
  { session := { now := 4 }, gateway := clickDeployment,
    providerCode := "click" }

def manualAttempt : Attempt :=
  { clickAttempt with providerCode := "manual" }

/-- The callback of `clickAttempt`. -/
def paidBody : WebhookResult :=
  ClickProvider.acceptedResult
    (clickParams "29.98" "3deb58063b7143b7151602b6b5a0a128") 1

theorem parseWebhook_fullBody :
    ClickProvider.parseWebhook clickDeployment [] fullBody = .ok paidBody := by
  have isAction : intOf (ClickProvider.field (ClickProvider.bodyParams fullBody)
      "action" "0") = some 1 := by
    rw [bodyParams_fullBody]
    change intOf "1" = some 1
    decide
  have signed : ClickProvider.signMatches clickDeployment
      (ClickProvider.bodyParams fullBody) 1 = true := by
    rw [bodyParams_fullBody]
    decide +kernel
  rw [ClickProvider.parseWebhook_of_signed isAction signed, bodyParams_fullBody,
    paidBody]

theorem attempt_found_iff_click :
    references 1 freshOrder [clickAttempt] = ["N1"] ∧
      ∀ session, ∃ event,
        requestEvent (afterAttempts 1 freshOrder [clickAttempt]) session
            clickDeployment "click" [] fullBody = some event ∧
          event.order.id = 1 ∧
          ∀ outcome after,
            handleWebhook session clickDeployment "click" [] fullBody
                (afterAttempts 1 freshOrder [clickAttempt]) =
              .ok outcome after → outcome = .matched event.order.number := by
  have ordered : ∃ order ∈ freshOrder.orders.rows,
      order.id = 1 ∧ alive order = true ∧
        order.IsNewest freshOrder.orders "N1" := by
    unfold Order.IsNewest
    decide +kernel
  obtain ⟨order, member, isOne, isAlive, newest⟩ := ordered
  have succeeded : clickAttempt.reference 1 (afterAttempts 1 freshOrder []) =
      some "N1" := by
    decide +kernel
  have only : references 1 freshOrder ([] ++ clickAttempt :: []) = ["N1"] := by
    decide +kernel
  rw [← isOne] at succeeded only ⊢
  have registered : getProvider clickAttempt.providerCode = .ok .click := rfl
  have isParsed : PaymentProvider.click.parseWebhook clickDeployment []
      fullBody = .ok paidBody := by
    rw [PaymentProvider.parseWebhook, parseWebhook_fullBody]
  have accepted : paidBody.accepted = true := rfl
  have noKey : paidBody.orderId.truthy = false := rfl
  have named : paidBody.paymentReference = .str "N1" := rfl
  have found := attempt_found_iff member isAlive [] [] clickAttempt succeeded
    registered isParsed accepted noKey named
  exact ⟨only, found.mpr ⟨by decide, congrArg List.getLast? only, newest⟩⟩

/-- A customer who asks for a Click charge and then for a manual one, and who
pays with Click: the callback names the order by the reference of the Click
attempt, and matches no order. -/
theorem click_unmatched_after_manual :
    let switched := afterAttempts 1 freshOrder [clickAttempt, manualAttempt]
    references 1 freshOrder [clickAttempt, manualAttempt] =
        ["N1", "manual:1"] ∧
      ClickProvider.parseWebhook clickDeployment [] fullBody =
        .ok paidBody ∧
      paidBody.accepted = true ∧ paidBody.orderId = .str "" ∧
      paidBody.paymentReference = .str "N1" ∧
      handleWebhook { now := 5 } clickDeployment "click" [] fullBody switched =
        .ok .unmatched switched := by
  intro switched
  refine ⟨by decide +kernel, parseWebhook_fullBody, rfl, rfl, rfl, ?_⟩
  have absent : (orderByReference { now := 5 } clickDeployment switched
      paidBody.paymentReference).isNone = true := by
    decide +kernel
  have unmatched : matchOrder { now := 5 } clickDeployment paidBody switched =
      .ok none switched := by
    rw [matchOrder_of_noKey rfl rfl, Option.isNone_iff_eq_none.mp absent]
  have accepted : paidBody.accepted = true := rfl
  rw [handleWebhook_click _ _ _ _ parseWebhook_fullBody, atomic_eq_ok,
    applyWebhook, if_pos accepted, bind_of_eq_ok unmatched]
  rfl

end NovaCommerce
