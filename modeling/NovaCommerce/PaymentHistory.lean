import NovaCommerce.GuardedRun
import NovaCommerce.PaymentRuns
import NovaCommerce.ReservationAccounting

/-!
# Payments do not go back

A captured payment may only be refunded, and a refunded one stays refunded.
The status of a payment is overwritten by every event that is matched to its
order and provider, so this holds along a run as long as no event arrives late
or says nothing about the status.
-/

namespace NovaCommerce

open AtomicCall GuardedRun TextDecoding

/-- The changes of status that do not take a capture or a refund back. -/
def PaymentStatus.GoesTo (old new : PaymentStatus) : Prop :=
  (old = .captured → new = .captured ∨ new = .refunded) ∧
    (old = .refunded → new = .refunded)

instance (old new : PaymentStatus) : Decidable (old.GoesTo new) :=
  inferInstanceAs (Decidable
    ((old = .captured → new = .captured ∨ new = .refunded) ∧
      (old = .refunded → new = .refunded)))

namespace PaymentStatus.GoesTo

theorem refl (status : PaymentStatus) : status.GoesTo status :=
  ⟨Or.inl, id⟩

theorem trans {first second third : PaymentStatus}
    (earlier : first.GoesTo second) (later : second.GoesTo third) :
    first.GoesTo third := by
  constructor
  · intro wasCaptured
    rcases earlier.1 wasCaptured with captured | refunded
    · exact later.1 captured
    · exact Or.inr (later.2 refunded)
  · intro wasRefunded
    exact later.2 (earlier.2 wasRefunded)

end PaymentStatus.GoesTo

/-- Every payment is still there, and its status did not go back. -/
def PaymentsGoTo (before after : Table Payment) : Prop :=
  ∀ payment ∈ before.rows, ∃ later ∈ after.rows, later.id = payment.id ∧
    payment.status.GoesTo later.status

instance (before after : Table Payment) :
    Decidable (PaymentsGoTo before after) :=
  inferInstanceAs (Decidable (∀ payment ∈ before.rows, ∃ later ∈ after.rows,
    later.id = payment.id ∧ payment.status.GoesTo later.status))

namespace PaymentsGoTo

theorem refl (payments : Table Payment) : PaymentsGoTo payments payments :=
  fun payment member => ⟨payment, member, rfl, .refl _⟩

theorem trans {first second third : Table Payment}
    (earlier : PaymentsGoTo first second) (later : PaymentsGoTo second third) :
    PaymentsGoTo first third := by
  intro payment member
  obtain ⟨middle, middleMem, middleId, goesTo⟩ := earlier payment member
  obtain ⟨last, lastMem, lastId, goesOn⟩ := later middle middleMem
  exact ⟨last, lastMem, lastId.trans middleId, goesTo.trans goesOn⟩

/-- A change of the rows that does not take a status back. -/
theorem alter {payments : Table Payment} {change : Payment → Payment}
    {keeps : ∀ payment, Keyed.key (change payment) = Keyed.key payment}
    (goesTo : ∀ payment ∈ payments.rows,
      payment.status.GoesTo (change payment).status) :
    PaymentsGoTo payments (payments.alter change keeps) := by
  intro payment member
  exact ⟨change payment, List.mem_map_of_mem member, keeps payment,
    goesTo payment member⟩

end PaymentsGoTo

/-- A matched event does not take the status of a payment back. -/
def StoreCommand.KeepsSettled (db : Database) (command : StoreCommand) :
    Prop :=
  ∀ event ∈ command.matchedEvent db, ∀ payment ∈ objects db.payments,
    event.concerns payment = true → payment.status.GoesTo event.status

instance (db : Database) (command : StoreCommand) :
    Decidable (command.KeepsSettled db) :=
  inferInstanceAs (Decidable (∀ event ∈ command.matchedEvent db,
    ∀ payment ∈ objects db.payments,
      event.concerns payment = true → payment.status.GoesTo event.status))

theorem paymentsGoTo_step {db : Database} {command : StoreCommand}
    (keeps : command.KeepsSettled db) :
    PaymentsGoTo db.payments (command.step db).payments := by
  have effect := paymentsStepped db command
  generalize (command.step db).payments = payments at effect
  cases effect with
  | same => exact .refl _
  | charged rows =>
      intro payment member
      refine ⟨payment, ?_, rfl, .refl _⟩
      rw [rows]
      exact List.mem_append_left _ member
  | updated matched =>
      apply PaymentsGoTo.alter
      intro payment member
      rw [status_updatedBy]
      split
      · rename_i concerned
        obtain ⟨isAlive, concerns⟩ := Bool.and_eq_true _ _ ▸ concerned
        exact keeps _ matched payment
          (List.mem_filter.mpr ⟨member, isAlive⟩) concerns
      · exact .refl _
  | expired cutoff =>
      apply PaymentsGoTo.alter
      intro payment _
      rcases status_expiredAt payment cutoff with same | ⟨wasPending, _⟩
      · rw [same]
        exact .refl _
      · simp [PaymentStatus.GoesTo, wasPending]

/-- A deployment with PayPal, where the service answers `response` to a
request for an order. -/
def deployment (response : Nat × Json) : Gateway where
  settings := {
    paypalClientId := some "client"
    paypalClientSecret := some "secret" }
  md5Hex := fun _ => ""
  stripe := none
  paypal := {
    token := fun _ _ => .ok "token"
    createOrder := fun _ _ => .ok response }
  strOf := fun _ => ""
  primaryKey := fun _ => none

/-- Ask PayPal for a charge of the first order. -/
def chargeOf (response : Nat × Json) : StoreCommand :=
  .createPayment { now := 4 } (deployment response) 1 "paypal" "" ""

/-- A charge that PayPal knows as `PAY-1`. -/
def accepted : Nat × Json :=
  (201, .obj [("id", .str "PAY-1")])

/-- The body of a PayPal event about `PAY-1`. -/
def eventBody (type : String) : Bytes :=
  ("\x7b\"event_type\":\"" ++ type ++
    "\",\"resource\":\x7b\"id\":\"PAY-1\"\x7d\x7d").toUTF8.toList

/-- A PayPal event about `PAY-1`. -/
def paypalEvent (type : String) : StoreCommand :=
  .handleWebhook { now := 5 } (deployment accepted) "paypal" []
    (eventBody type)

/-- Payment status never goes backwards: between any two states of a run whose
events do not take a status back, a captured payment stays captured or was
refunded, and a refunded payment stays refunded. -/
theorem payments_never_go_back {db : Database}
    {first second : List StoreCommand}
    (keeps : Guarded StoreCommand.step StoreCommand.KeepsSettled db
      (first ++ second)) :
    PaymentsGoTo (exec StoreCommand.step db first).payments
      (exec StoreCommand.step db (first ++ second)).payments := by
  rw [exec_append]
  exact exec_relation
    (fun before after : Database =>
      PaymentsGoTo before.payments after.payments)
    (fun _ => .refl _) (fun _ _ _ earlier later => earlier.trans later)
    (fun _ _ meets => paymentsGoTo_step meets) (guarded_append.mp keeps).2

/-- An order is paid and refunded through PayPal. -/
theorem payments_never_go_back_refunded :
    PaymentsGoTo
      (exec StoreCommand.step (twoCarts 5)
        [checkoutOf 10 "N1", chargeOf accepted,
          paypalEvent "CHECKOUT.ORDER.APPROVED"]).payments
      (exec StoreCommand.step (twoCarts 5)
        ([checkoutOf 10 "N1", chargeOf accepted,
          paypalEvent "CHECKOUT.ORDER.APPROVED"] ++
            [paypalEvent "PAYMENT.CAPTURE.REFUNDED"])).payments :=
  payments_never_go_back (by decide +kernel)

/-- An event that says nothing about the status takes a captured payment back
to pending, from where it expires. -/
theorem payment_goes_back_after_event :
    ¬PaymentsGoTo
      (exec StoreCommand.step (twoCarts 5)
        [checkoutOf 10 "N1", chargeOf accepted,
          paypalEvent "CHECKOUT.ORDER.APPROVED"]).payments
      (exec StoreCommand.step (twoCarts 5)
        [checkoutOf 10 "N1", chargeOf accepted,
          paypalEvent "CHECKOUT.ORDER.APPROVED",
          paypalEvent "CHECKOUT.ORDER.SAVED"]).payments ∧
      (exec StoreCommand.step (twoCarts 5)
        [checkoutOf 10 "N1", chargeOf accepted,
          paypalEvent "CHECKOUT.ORDER.APPROVED",
          paypalEvent "CHECKOUT.ORDER.SAVED",
          .expirePendingPayments { now := 61 * minute } 60]).payments.rows.map
            Payment.status = [.failed] := by
  decide +kernel

end NovaCommerce
