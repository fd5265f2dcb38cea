import NovaCommerce.OrderBroadcasts
import NovaCommerce.PaymentHistory

/-!
# Broadcasts of events that were undone

The handler of `post_save` broadcasts an event while its transaction is still
open.  If the transaction is undone later, clients have been told of an event
that is not in the table.  This happens to exactly one kind of call: a webhook
that is recorded and asks for a refund its order does not allow.
-/

namespace NovaCommerce

open AtomicCall GuardedRun TextDecoding

namespace StoreCommand

/-- The call is a webhook that is recorded and asks for a refund its order
does not allow. -/
def RefundsInVain (db : Database) : StoreCommand → Prop
  | .handleWebhook session gateway providerCode headers body =>
      (requestEvent db session gateway providerCode headers body).any
        (fun event => event.parsed.isRecordable gateway &&
          event.RefundsInVain) = true
  | _ => False

/-- Every event that the call broadcast is in the table when it has ended. -/
def TellsTruth (db : Database) (command : StoreCommand) : Prop :=
  ∀ saved ∈ (command.run db).saved,
    saved.event ∈ (command.step db).orderEvents.rows

instance (db : Database) :
    ∀ command : StoreCommand, Decidable (command.RefundsInVain db)
  | .handleWebhook .. => inferInstanceAs (Decidable (_ = true))
  | .createOrderFromCart .. | .createPayment .. | .transitionStatus ..
  | .adjustStock .. | .expirePendingPayments .. =>
      inferInstanceAs (Decidable False)

end StoreCommand

section Step

variable {db : Database}

theorem Database.LinesHaveCarts.congr {after : Database}
    (lines : db.LinesHaveCarts) (sameItems : after.cartItems = db.cartItems)
    (sameCarts : after.carts = db.carts) : after.LinesHaveCarts := by
  unfold Database.LinesHaveCarts
  rw [sameItems, sameCarts]
  exact lines

theorem Moved.carts_eq {session : Session} {order : Order}
    {status : Option PaymentStatus} {after : Database}
    (moved : Moved session order status db after) :
    after.cartItems = db.cartItems ∧ after.carts = db.carts := by
  cases moved with
  | paid transitioned | cancelled _ _ transitioned | refunded transitioned =>
      rw [transitioned.frame]
      exact ⟨rfl, rfl⟩
  | notPaid | notCancelled | stayed => exact ⟨rfl, rfl⟩

/-- No call takes a cart away from its lines. -/
theorem linesHaveCarts_step (lines : db.LinesHaveCarts)
    (command : StoreCommand) : (command.step db).LinesHaveCarts := by
  have effect := stepped db command
  generalize command.step db = after at effect
  cases effect with
  | unchanged => exact lines
  | checkedOut checkedOut =>
      intro item itemMem
      rw [checkedOut.after_eq] at itemMem ⊢
      obtain ⟨old, oldMem, rfl⟩ := List.mem_map.mp itemMem
      have sameCart : ∀ session cart,
          (softDeleteItemOf session cart old).cart = old.cart := by
        intro session cart
        unfold softDeleteItemOf
        split <;> rfl
      rw [sameCart]
      change old.cart ∈ (db.carts.save _).keys
      rw [Table.keys_save]
      exact lines old oldMem
  | charged _ charged =>
      exact lines.congr (by rw [charged.frame]) (by rw [charged.frame])
  | webhook _ _ matched =>
      obtain ⟨sameItems, sameCarts⟩ := matched.movedOrder.carts_eq
      rw [matched.recorded_eq] at sameItems sameCarts
      rw [matched.after_eq]
      exact lines.congr sameItems sameCarts
  | transitioned transitioned =>
      exact lines.congr (by rw [transitioned.frame])
        (by rw [transitioned.frame])
  | adjusted _ _ _ after_eq =>
      exact lines.congr (by rw [after_eq]) (by rw [after_eq])
  | expired cutoff => exact lines

/-- A call tells the truth, unless it refunds in vain. -/
theorem tellsTruth_iff (lines : db.LinesHaveCarts) (command : StoreCommand) :
    command.TellsTruth db ↔ ¬command.RefundsInVain db := by
  have quiet : ∀ {after : Signals}, after = { db } →
      ∀ saved ∈ after.saved, saved.event ∈ after.db.orderEvents.rows := by
    rintro _ rfl saved savedMem
    cases savedMem
  have told : ∀ {after : Signals} {events : List SavedEvent},
      Told { db } after events →
      ∀ saved ∈ after.saved, saved.event ∈ after.db.orderEvents.rows := by
    intro after events told saved savedMem
    rw [told.saved_eq] at savedMem
    rw [told.rows_eq]
    exact List.mem_append_right _ (List.mem_map_of_mem savedMem)
  unfold StoreCommand.TellsTruth
  rw [← command.run_db]
  cases command with
  | createOrderFromCart session cart user payload =>
      refine iff_of_true ?_ not_false
      rw [StoreCommand.run, settle]
      split
      · next returned =>
        obtain ⟨event, isTold⟩ :=
          Broadcasting.createOrderFromCart_eq_ok returned
        exact told isTold
      · next failed =>
        rcases Broadcasting.createOrderFromCart_eq_error failed with
          unchanged | ⟨nonempty, noCart, _⟩
        · exact quiet unchanged
        · obtain ⟨item, itemMem⟩ := List.exists_mem_of_ne_nil _ nonempty
          obtain ⟨visible, ofCart⟩ := List.mem_filter.mp itemMem
          have hasCart := lines item (List.mem_filter.mp visible).1
          rw [decide_eq_true_eq.mp ofCart] at hasCart
          exact absurd hasCart (Table.find?_eq_none.mp noCart)
  | handleWebhook session gateway providerCode headers body =>
      rw [StoreCommand.run]
      simp only [StoreCommand.RefundsInVain]
      cases isEvent : requestEvent db session gateway providerCode headers
          body with
      | none =>
          refine iff_of_true ?_ (by simp)
          exact quiet (Broadcasting.handleWebhook_of_noEvent isEvent)
      | some event =>
          have received : requestEvent ({ db } : Signals).db session gateway
              providerCode headers body = some event := isEvent
          by_cases records : event.parsed.isRecordable gateway = true
          swap
          · refine iff_of_true ?_ (by simp [records])
            exact quiet
              (Broadcasting.handleWebhook_of_unrecorded received records)
          obtain ⟨noted, _, isNew, saves⟩ :=
            Broadcasting.handleWebhook_saves received records
          split at saves
          · next inVain =>
            refine iff_of_false ?_ (by simp [records, inVain])
            rw [saves]
            intro truth
            have stored := truth noted (List.mem_singleton_self _)
            exact isNew (List.mem_map_of_mem stored)
          · next notInVain =>
            obtain ⟨after, events, returned, isTold⟩ := saves
            refine iff_of_true ?_ (by simp [notInVain])
            rw [settle_of_eq_ok returned]
            exact told isTold
  | transitionStatus session orderId newStatus actor message =>
      refine iff_of_true ?_ not_false
      rw [StoreCommand.run, settle]
      split
      · next returned =>
        obtain ⟨event, isTold⟩ := Broadcasting.transitionStatus_eq_ok returned
        exact told isTold
      · next failed =>
        exact quiet (Broadcasting.transitionStatus_eq_error failed)
  | createPayment | adjustStock | expirePendingPayments =>
      refine iff_of_true ?_ not_false
      intro saved savedMem
      cases savedMem

end Step

/-- No phantom broadcasts: in a run from any state whose lines have carts,
every event that was broadcast is in the table once its call has ended,
exactly if no call of the run is a webhook that is recorded and asks for a
refund its order does not allow. -/
theorem no_phantom_broadcasts_iff {start : Database}
    (lines : start.LinesHaveCarts) (commands : List StoreCommand) :
    Guarded StoreCommand.step (fun db command => command.TellsTruth db) start
        commands ↔
      Guarded StoreCommand.step
        (fun db command => ¬command.RefundsInVain db) start commands := by
  induction commands generalizing start with
  | nil => exact Iff.rfl
  | cons command commands ih =>
      exact and_congr (tellsTruth_iff lines command)
        (ih (linesHaveCarts_step lines command))

/-- An order is placed, paid through PayPal, and refunded. -/
def refundedOrderRun : List StoreCommand :=
  [checkoutOf 10 "N1", chargeOf accepted,
    paypalEvent "CHECKOUT.ORDER.APPROVED",
    paypalEvent "PAYMENT.CAPTURE.REFUNDED"]

theorem no_phantom_broadcasts_iff_refunded :
    Guarded StoreCommand.step (fun db command => command.TellsTruth db)
      (twoCarts 5) refundedOrderRun :=
  (no_phantom_broadcasts_iff (by unfold Database.LinesHaveCarts; decide)
    refundedOrderRun).mpr (by decide +kernel)

/-- The refund of an order that waits for its payment is undone, and clients
were told that it was received. -/
theorem phantom_after_refund :
    let db := exec StoreCommand.step (twoCarts 5)
      [checkoutOf 10 "N1", chargeOf accepted]
    let refund := paypalEvent "PAYMENT.CAPTURE.REFUNDED"
    ((refund.run db).saved.flatMap SavedEvent.broadcasts).map
        (fun sent => (sent.group, sent.payload.code)) =
          [("order.1", "webhook:PAYMENT.CAPTURE.REFUNDED")] ∧
      (refund.step db).orderEvents.rows.map OrderEvent.code = ["created"] ∧
      ¬refund.TellsTruth db := by
  intro db refund
  have lines : db.LinesHaveCarts := by
    unfold Database.LinesHaveCarts
    decide +kernel
  refine ⟨by decide +kernel, by decide +kernel, ?_⟩
  rw [tellsTruth_iff lines, not_not]
  decide +kernel

end NovaCommerce
