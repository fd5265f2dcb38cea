import NovaCommerce.CheckoutEffects
import NovaCommerce.PaymentEffects

/-!
# Runs of the store

The calls that reach the store from outside run one after another, each in its
own transaction, over any number of carts, orders, payments and stock rows.
Every call leaves the database as it was or has one of the effects listed
here, from which the invariants of runs are derived.
-/

namespace NovaCommerce

open AtomicCall TextDecoding

/-- A call from outside. -/
inductive StoreCommand where
  | createOrderFromCart (session : Session) (cart : Cart)
      (user : Option Uuid) (payload : CheckoutInput)
  | createPayment (session : Session) (gateway : Gateway) (orderId : Uuid)
      (providerCode successUrl cancelUrl : String)
  | handleWebhook (session : Session) (gateway : Gateway)
      (providerCode : String) (headers : Headers) (body : Bytes)
  | transitionStatus (session : Session) (orderId : Uuid)
      (newStatus : OrderStatus) (actor : Option Uuid) (message : String)
  | adjustStock (session : Session) (variantId : Uuid)
      (warehouseCode : String) (delta : Int) (note : String)
  | expirePendingPayments (session : Session) (olderThanMinutes : Int)

namespace StoreCommand

/-- The database after a call, whether it returned or raised. -/
def step (db : Database) : StoreCommand → Database
  | createOrderFromCart session cart user payload =>
      settle (NovaCommerce.createOrderFromCart session cart user payload) db
  | createPayment session gateway orderId providerCode successUrl
      cancelUrl =>
      -- `get_object_or_404(Order, pk=...)` in the view.
      match (objects db.orders).find? fun order => order.id = orderId with
      | none => db
      | some order =>
          settle (NovaCommerce.createPayment session gateway order
            providerCode successUrl cancelUrl) db
  | handleWebhook session gateway providerCode headers body =>
      settle (NovaCommerce.handleWebhook session gateway providerCode headers
        body) db
  | transitionStatus session orderId newStatus actor message =>
      settle (NovaCommerce.transitionStatus session orderId newStatus actor
        message) db
  | adjustStock session variantId warehouseCode delta note =>
      settle (NovaCommerce.adjustStock session variantId warehouseCode delta
        note) db
  | expirePendingPayments session olderThanMinutes =>
      settle (NovaCommerce.expirePendingPayments session olderThanMinutes) db

end StoreCommand

/-- What a call can do to the database. -/
inductive Stepped (db : Database) : StoreCommand → Database → Prop
  | unchanged (command : StoreCommand) : Stepped db command db
  | checkedOut {session : Session} {cart : Cart} {user : Option Uuid}
      {payload : CheckoutInput} {after middle : Database} {order : Order}
      {coupon : Option Coupon} {discount : Cents} {sold : List OrderItem}
      {amount : Uuid → Int} {row : Cart}
      (checkedOut : CheckedOut session cart user payload db after order
        coupon discount middle sold amount row) :
      Stepped db (.createOrderFromCart session cart user payload) after
  | charged {session : Session} {gateway : Gateway} {order : Order}
      {providerCode successUrl cancelUrl : String}
      {provider : PaymentProvider} {after : Database} {payment : Payment}
      (member : order ∈ db.orders.rows)
      (charged : Charged session order provider db after payment) :
      Stepped db (.createPayment session gateway order.id providerCode
        successUrl cancelUrl) after
  | webhook {session : Session} {gateway : Gateway} {providerCode : String}
      {headers : Headers} {body : Bytes} {provider : PaymentProvider}
      {parsed : WebhookResult} {order : Order}
      {recorded moved after : Database}
      (registered : getProvider providerCode = .ok provider)
      (isParsed : provider.parseWebhook gateway headers body = .ok parsed)
      (matched : WebhookMatched session gateway provider parsed order db
        recorded moved after) :
      Stepped db (.handleWebhook session gateway providerCode headers body)
        after
  | transitioned {session : Session} {order : Order}
      {newStatus : OrderStatus} {actor : Option Uuid} {message : String}
      {after : Database}
      (transitioned : Transitioned session order newStatus db after) :
      Stepped db (.transitionStatus session order.id newStatus actor message)
        after
  | adjusted {session : Session} {variantId : Uuid}
      {warehouseCode note : String} {delta : Int} {warehouse : Warehouse}
      {stocks : Table Stock} {stock : Stock} {after : Database}
      (returned : Returns (adjustStock session variantId warehouseCode delta
        note) db)
      (located : db.findWarehouse warehouseCode = some warehouse)
      (row : AdjustedRow session db variantId warehouse.id stocks stock)
      (after_eq : after = { db with
        stocks := stocks.save
          { stock with onHand := max (stock.onHand + delta) 0 }
        movements := after.movements }) :
      Stepped db (.adjustStock session variantId warehouseCode delta note)
        after
  | expired {session : Session} {olderThanMinutes : Int} (cutoff : Time) :
      Stepped db (.expirePendingPayments session olderThanMinutes)
        { db with payments := expiredPayments db.payments cutoff }

theorem stepped (db : Database) (command : StoreCommand) :
    Stepped db command (command.step db) := by
  cases command with
  | createOrderFromCart session cart user payload =>
      rw [StoreCommand.step]
      rcases settle_cases _ (fun _ _ raised =>
          createOrderFromCart_eq_error raised) with ⟨order, called⟩ | unchanged
      · obtain ⟨_, _, _, _, _, _, checkedOut⟩ :=
          createOrderFromCart_eq_ok called
        exact .checkedOut checkedOut
      · rw [unchanged]
        exact .unchanged _
  | createPayment session gateway orderId providerCode successUrl
      cancelUrl =>
      rw [StoreCommand.step]
      cases found : (objects db.orders).find?
          fun order => order.id = orderId with
      | none => exact .unchanged _
      | some order =>
          have member :=
            (List.mem_filter.mp (List.mem_of_find?_eq_some found)).1
          have hasId : order.id = orderId := by
            simpa using List.find?_some found
          subst hasId
          dsimp only
          rcases settle_cases (createPayment session gateway order
              providerCode successUrl cancelUrl)
              (fun _ _ raised => atomic_eq_error raised) with
            ⟨payment, called⟩ | unchanged
          · obtain ⟨_, _, charged⟩ := createPayment_eq_ok called
            exact .charged member charged
          · rw [unchanged]
            exact .unchanged _
  | handleWebhook session gateway providerCode headers body =>
      rw [StoreCommand.step]
      rcases settle_handleWebhook session gateway providerCode headers body
          db with
        unchanged | ⟨_, _, _, _, _, registered, isParsed, matched⟩
      · rw [unchanged]
        exact .unchanged _
      · exact .webhook registered isParsed matched
  | transitionStatus session orderId newStatus actor message =>
      rw [StoreCommand.step]
      rcases settle_cases (transitionStatus session orderId newStatus
          actor message) (fun _ _ raised => atomic_eq_error raised) with
        ⟨changed, called⟩ | unchanged
      · obtain ⟨order, rfl, _, transitioned⟩ := transitionStatus_eq_ok called
        exact .transitioned transitioned
      · rw [unchanged]
        exact .unchanged _
  | adjustStock session variantId warehouseCode delta note =>
      rw [StoreCommand.step]
      rcases settle_cases (adjustStock session variantId warehouseCode
          delta note) (fun _ _ raised => atomic_eq_error raised) with
        ⟨adjusted, called⟩ | unchanged
      · obtain ⟨warehouse, stocks, stock, located, row, rfl, after_eq⟩ :=
          adjustStock_eq_ok called
        refine .adjusted ⟨_, _, called⟩ located row ?_
        rw [after_eq]
      · rw [unchanged]
        exact .unchanged _
  | expirePendingPayments session olderThanMinutes => exact .expired _

end NovaCommerce
