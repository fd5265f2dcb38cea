import NovaCommerce.GreedyAllocation
import NovaCommerce.GuardedRun
import NovaCommerce.Database
import NovaCommerce.InventoryEffects
import NovaCommerce.StockInvariants
import NovaCommerce.InventoryRuns
import NovaCommerce.CheckoutServices
import NovaCommerce.CheckoutEffects
import NovaCommerce.CheckoutConversion
import NovaCommerce.OrderTransitions
import NovaCommerce.TransitionEffects
import NovaCommerce.JsonText
import NovaCommerce.RequestText
import NovaCommerce.PaymentProviders
import NovaCommerce.PaymentServices
import NovaCommerce.PaymentEffects
import NovaCommerce.StoreRuns
import NovaCommerce.OrderUnits
import NovaCommerce.ReservationAccounting
import NovaCommerce.CancellationLaw
import NovaCommerce.PaymentHistory
import NovaCommerce.CapturedAttempts
import NovaCommerce.StockCommitment
import NovaCommerce.OrderPaymentAgreement
import NovaCommerce.WebhookAuthenticity
import NovaCommerce.InventoryTransactions
import NovaCommerce.ConcurrentReservations
import NovaCommerce.CheckoutTransactions
import NovaCommerce.ConcurrentCheckouts
import NovaCommerce.CheckoutOnce
import NovaCommerce.CouponEdits
import NovaCommerce.CartTransactions
import NovaCommerce.CartEdits
import NovaCommerce.CartRaces
import NovaCommerce.CartServices
import NovaCommerce.CartHistories
import NovaCommerce.OrderCurrency
import NovaCommerce.CouponLimits
import NovaCommerce.OrderTransactions
import NovaCommerce.ReplicaReads
import NovaCommerce.OrderHistories
import NovaCommerce.WebhookRedelivery
import NovaCommerce.MirroredCall
import NovaCommerce.OrderBroadcasts
import NovaCommerce.PhantomBroadcasts
import NovaCommerce.OrderViews
import NovaCommerce.RedactedDatabase
import NovaCommerce.StockLedgers
import NovaCommerce.AuditTrail
import NovaCommerce.ReservationOrigins
import NovaCommerce.StockAvailability
import NovaCommerce.DeadlockFreedom
import NovaCommerce.AvoidedErrors
import NovaCommerce.LiveCarts
import NovaCommerce.Catalog
import NovaCommerce.CatalogPaging
import NovaCommerce.CatalogVisibility
import NovaCommerce.ConnectionManager
import NovaCommerce.BlindViews
import NovaCommerce.TenantIsolation
import NovaCommerce.ExactReservations
import NovaCommerce.CouponDiscounts
import NovaCommerce.OrderPricing
import NovaCommerce.StockViews
import NovaCommerce.PaymentAmounts
import NovaCommerce.AttemptReferences
import NovaCommerce.MergeEffects
import NovaCommerce.SoundCarts
import NovaCommerce.GuestMerges
import NovaCommerce.StockChecks
import NovaCommerce.CheckoutErrors
import NovaCommerce.Reviews
import NovaCommerce.ReviewModeration
import NovaCommerce.ReservationLaws
import NovaCommerce.CatalogCache
import NovaCommerce.CatalogPrices
import NovaCommerce.ReportedRevenue
import NovaCommerce.Addresses
import NovaCommerce.DefaultAddresses
import NovaCommerce.NotificationMails
import NovaCommerce.AbandonedCarts
import NovaCommerce.ReservationSnapshots
import NovaCommerce.StockLoops
import NovaCommerce.ClickSignatures
import NovaCommerce.JsonableValues
import NovaCommerce.WebhookParsing
import NovaCommerce.ConcurrentFulfilment
import NovaCommerce.GoodsSold
import NovaCommerce.CartViews
import NovaCommerce.CartIsolation
import NovaCommerce.SocketStreams
import NovaCommerce.PublishedMessages
import NovaCommerce.CategoryBrowsing
import NovaCommerce.AccountRuns
import NovaCommerce.GoodsRefinement
