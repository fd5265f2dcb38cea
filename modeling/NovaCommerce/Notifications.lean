import NovaCommerce.OrderViews
import NovaCommerce.PaymentProviders

/-!
# Notifications

The task that mails a notification, and the action with which its recipient
marks it as read.  One column holds both the outcome of the task and the mark
of the recipient.
-/

namespace NovaCommerce

inductive NotificationChannel where
  | email
  | sms
  | push
  | telegram
  | inApp
  deriving DecidableEq, Repr

inductive NotificationStatus where
  | pending
  | sent
  | failed
  | read
  deriving DecidableEq, Repr

structure Notification extends TimeStampedUUIDModel where
  user : Option Uuid
  channel : NotificationChannel
  templateCode : String := ""
  title : String := ""
  body : String := ""
  payload : Json := .obj []
  status : NotificationStatus := .pending
  sentAt : Option Time := none
  readAt : Option Time := none

instance : IsModel Notification := ⟨Notification.toTimeStampedUUIDModel⟩

/-- A mail that was handed over, with the notification it is about. -/
structure Mail where
  notification : Uuid
  subject : String
  message : String
  recipient : Json

/-- The notifications, and the mails that `send_mail` has sent, the newest
last. -/
structure Mailroom where
  notifications : Table Notification
  outbox : List Mail := []

namespace Mailroom

/-- `filter(pk=...).first()`. -/
def find? (room : Mailroom) (id : Uuid) : Option Notification :=
  (objects room.notifications).find? fun notification => notification.id = id

def withSaved (room : Mailroom) (notification : Notification) : Mailroom :=
  { room with notifications := room.notifications.save notification }

end Mailroom

/-- What a run of the task takes from outside: the clock, the addresses of the
users, and the mails that the server accepts at the moment. -/
structure Worker where
  now : Time
  emails : Uuid → String
  accepts : Mail → Bool

inductive TaskResult where
  | returned
  | raised (exception : Exception)
  | retry
  deriving DecidableEq, Repr

/-- Whom to mail to: the payload's `to`, or else the user. -/
def Notification.addressee (worker : Worker) (notification : Notification) :
    Raising Json := do
  let named ← (notification.payload.orElse (.obj [])).get "to"
  pure (named.orElse (match notification.user with
    | some user => .str (worker.emails user)
    | none => .null))

def Notification.mail (notification : Notification) (recipient : Json) :
    Mail where
  notification := notification.id
  subject :=
    if notification.title = "" then "Notification" else notification.title
  message := notification.body
  recipient

def sendEmailNotification (worker : Worker) (notificationId : Uuid)
    (room : Mailroom) : TaskResult × Mailroom :=
  match room.find? notificationId with
  | none => (.returned, room)
  | some notification =>
      if notification.status = .sent then (.returned, room)
      else
        match notification.addressee worker with
        -- A payload that is a list or a text has no `get`.
        | .error exception => (.raised exception, room)
        | .ok recipient =>
            let failed := room.withSaved { notification with status := .failed }
            if !recipient.truthy then (.returned, failed)
            else if worker.accepts (notification.mail recipient) then
              let sent := room.withSaved
                { notification with status := .sent, sentAt := some worker.now }
              (.returned,
                { sent with
                  outbox := room.outbox ++ [notification.mail recipient] })
            else (.retry, failed)

structure NotificationData where
  id : Uuid
  user : Option Uuid
  channel : NotificationChannel
  templateCode : String
  title : String
  body : String
  payload : Json
  status : NotificationStatus
  sentAt : Option Time
  readAt : Option Time
  createdAt : Time

def Notification.data (notification : Notification) : NotificationData :=
  { notification with }

inductive NotificationResponse where
  | notification (status : Nat) (data : NotificationData)
  | error (status : Nat) (code message : String) (details : Option Json)
  | detail (status : Nat) (text : String)

namespace NotificationViewSet

/-- `get_object`, from the user's own notifications. -/
def getObject (reader : UuidReader) (room : Mailroom) (user : User)
    (pk : String) : Except NotificationResponse Notification :=
  match reader.read pk with
  | none => .error (.detail 404 "Not found.")
  | some id =>
      match (objects room.notifications).find? fun notification =>
          notification.user = some user.id && notification.id = id with
      | none => .error (.detail 404 "No Notification matches the given query.")
      | some notification => .ok notification

def markRead (reader : UuidReader) (session : Session) (actor : Option User)
    (pk : String) (room : Mailroom) : NotificationResponse × Mailroom :=
  match actor with
  | none => (.error 401 "not_authenticated"
      "Authentication credentials were not provided." none, room)
  | some user =>
      match getObject reader room user pk with
      | .error refusal => (refusal, room)
      | .ok notification =>
          let saved := { notification with
            status := .read, readAt := some session.now }
          (.notification 200 saved.data, room.withSaved saved)

end NotificationViewSet

end NovaCommerce
