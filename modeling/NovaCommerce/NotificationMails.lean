import NovaCommerce.GuardedRun
import NovaCommerce.Notifications
import NovaCommerce.TenantIsolation

/-!
# Mails that are sent once

The task skips a notification that was sent, by its status alone.  Once the
recipient has marked it as read, another delivery of the task takes it for one
that was never sent.  A notification is mailed at most once, and stays read,
exactly in the runs in which it is not delivered while it is read.
-/

namespace NovaCommerce

open GuardedRun

/-- A delivery of the task, or a request of a recipient. -/
inductive MailroomEvent where
  | deliver (worker : Worker) (notificationId : Uuid)
  | markRead (session : Session) (actor : Option User) (pk : String)

namespace Mailroom

def step (reader : UuidReader) (room : Mailroom) : MailroomEvent → Mailroom
  | .deliver worker notificationId =>
      (sendEmailNotification worker notificationId room).2
  | .markRead session actor pk =>
      (NotificationViewSet.markRead reader session actor pk room).2

def statusOf (room : Mailroom) (id : Uuid) : Option NotificationStatus :=
  (room.find? id).map fun notification => notification.status

/-- The mails that were sent for a notification. -/
def mailsFor (room : Mailroom) (id : Uuid) : List Mail :=
  room.outbox.filter fun mail => mail.notification = id

end Mailroom

/-- The payload can be asked for an address. -/
def Notification.isMailable (notification : Notification) : Bool :=
  match notification.payload.orElse (.obj []) with
  | .obj _ => true
  | _ => false

/-- In a run that starts without mails, a notification is mailed at most once
and stays read once it is. -/
structure MailedOnce (reader : UuidReader) (notifications : Table Notification)
    (events : List MailroomEvent) (id : Uuid) : Prop where
  once : ((exec (Mailroom.step reader) { notifications } events).mailsFor
    id).length ≤ 1
  staysRead : ∀ earlier later, earlier ≤ later →
    (exec (Mailroom.step reader) { notifications }
      (events.take earlier)).statusOf id = some .read →
    (exec (Mailroom.step reader) { notifications }
      (events.take later)).statusOf id = some .read

/-- The notification is not delivered while it is read. -/
def MailroomEvent.Spares (id : Uuid) (room : Mailroom) :
    MailroomEvent → Prop
  | .deliver _ notificationId => notificationId = id → ∀ notification,
      room.find? id = some notification → notification.status = .read →
        notification.isMailable = false
  | .markRead _ _ _ => True

section Steps

variable {room : Mailroom} {id : Uuid} {notification saved : Notification}
  {worker : Worker} {reader : UuidReader}

theorem find?_withSaved (found : room.find? id = some notification)
    (sameBase : IsModel.base saved = IsModel.base notification) :
    (room.withSaved saved).find? id = some saved := by
  obtain ⟨live, hasId⟩ := find?_objects_eq_some.mp found
  obtain ⟨member, isAlive⟩ := List.mem_filter.mp live
  have sameId : saved.id = notification.id :=
    congrArg TimeStampedUUIDModel.id sameBase
  refine find?_objects_eq_some.mpr ⟨List.mem_filter.mpr ⟨?_, ?_⟩, ?_⟩
  · refine Table.mem_save.mpr (Or.inr ⟨rfl, ?_⟩)
    change saved.id ∈ _
    rw [sameId]
    exact List.mem_map_of_mem member
  · rw [alive, sameBase]
    exact isAlive
  · exact sameId.trans hasId

theorem find?_withSaved_of_ne (otherId : saved.id ≠ id) :
    (room.withSaved saved).find? id = room.find? id := by
  change (objects (room.notifications.save saved)).find?
    (fun row => decide ((IsModel.base row).id = id)) =
      (objects room.notifications).find?
        fun row => decide ((IsModel.base row).id = id)
  rw [find?_objects_id, find?_objects_id, Table.find?_save_of_ne otherId]

theorem statusOf_withSaved (found : room.find? id = some notification)
    (sameBase : IsModel.base saved = IsModel.base notification) :
    (room.withSaved saved).statusOf id = some saved.status := by
  rw [Mailroom.statusOf, find?_withSaved found sameBase, Option.map_some]

theorem statusOf_withSaved_of_ne (otherId : saved.id ≠ id) :
    (room.withSaved saved).statusOf id = room.statusOf id := by
  rw [Mailroom.statusOf, find?_withSaved_of_ne otherId, Mailroom.statusOf]

theorem addressee_of_mailable (worker : Worker)
    (mailable : notification.isMailable = true) :
    ∃ recipient, notification.addressee worker = .ok recipient := by
  unfold Notification.isMailable at mailable
  split at mailable
  · next fields isObject =>
      exact ⟨_, by rw [Notification.addressee, isObject]; rfl⟩
  · cases mailable

theorem addressee_of_not_mailable (worker : Worker)
    (notMailable : notification.isMailable = false) :
    ∃ exception, notification.addressee worker = .error exception := by
  unfold Notification.isMailable at notMailable
  split at notMailable
  · cases notMailable
  · next other =>
      refine ⟨.builtinError "AttributeError", ?_⟩
      rw [Notification.addressee]
      cases payload : notification.payload.orElse (.obj []) with
      | obj fields => exact absurd payload (other fields)
      | _ => rfl

/-- A notification that was sent, or that cannot be mailed, is left. -/
theorem deliver_of_idle
    (idle : ∀ notification, room.find? id = some notification →
      notification.status = .sent ∨ notification.isMailable = false) :
    (sendEmailNotification worker id room).2 = room := by
  unfold sendEmailNotification
  cases found : room.find? id with
  | none => rfl
  | some notification =>
      dsimp only
      split
      · rfl
      · next unsent =>
          obtain ⟨exception, raised⟩ := addressee_of_not_mailable
            worker ((idle notification found).resolve_left unsent)
          rw [raised]

/-- Any other notification is sent with one mail, or has failed with none. -/
theorem deliver_of_mailable (found : room.find? id = some notification)
    (unsent : notification.status ≠ .sent)
    (mailable : notification.isMailable = true) :
    let after := (sendEmailNotification worker id room).2
    (after.statusOf id = some .failed ∧
        after.mailsFor id = room.mailsFor id) ∨
      (after.statusOf id = some .sent ∧
        (after.mailsFor id).length = (room.mailsFor id).length + 1) := by
  obtain ⟨recipient, addressed⟩ := addressee_of_mailable worker mailable
  have hasId : notification.id = id := (find?_objects_eq_some.mp found).2
  let failed := { notification with status := .failed }
  let sent := { notification with
    status := .sent, sentAt := some worker.now }
  have failedStatus : (room.withSaved failed).statusOf id = some .failed :=
    statusOf_withSaved found rfl
  have sentStatus : (room.withSaved sent).statusOf id = some .sent :=
    statusOf_withSaved found rfl
  unfold sendEmailNotification
  simp only [found, unsent, if_false, addressed]
  split
  · exact Or.inl ⟨failedStatus, rfl⟩
  · split
    · refine Or.inr ⟨sentStatus, ?_⟩
      simp [Mailroom.mailsFor, Notification.mail, hasId]
    · exact Or.inl ⟨failedStatus, rfl⟩

/-- The task leaves all other notifications. -/
theorem deliver_of_ne {other : Uuid} (otherId : other ≠ id) :
    let after := (sendEmailNotification worker other room).2
    after.statusOf id = room.statusOf id ∧
      after.mailsFor id = room.mailsFor id := by
  unfold sendEmailNotification
  cases found : room.find? other with
  | none => exact ⟨rfl, rfl⟩
  | some notification =>
      have hasId : notification.id = other :=
        (find?_objects_eq_some.mp found).2
      have keepsStatus : ∀ saved : Notification, saved.id = notification.id →
          (room.withSaved saved).statusOf id = room.statusOf id := by
        intro saved sameId
        apply statusOf_withSaved_of_ne
        rw [sameId, hasId]
        exact otherId
      dsimp only
      split
      · exact ⟨rfl, rfl⟩
      · split
        · exact ⟨rfl, rfl⟩
        · split
          · exact ⟨keepsStatus _ rfl, rfl⟩
          · split
            · refine ⟨keepsStatus { notification with
                status := .sent, sentAt := some worker.now } rfl, ?_⟩
              simp [Mailroom.mailsFor, Notification.mail, hasId, otherId]
            · exact ⟨keepsStatus _ rfl, rfl⟩

theorem find?_of_getNotification {user : User} {pk : String}
    (found : NotificationViewSet.getObject reader room user pk =
      .ok notification) :
    room.find? notification.id = some notification := by
  unfold NotificationViewSet.getObject at found
  cases isRead : reader.read pk with
  | none => simp [isRead] at found
  | some id =>
      cases looked : (objects room.notifications).find? fun notification =>
          notification.user = some user.id && notification.id = id with
      | none => simp [isRead, looked] at found
      | some other =>
          simp only [isRead, looked, Except.ok.injEq] at found
          subst found
          exact find?_objects_eq_some.mpr
            ⟨List.mem_of_find?_eq_some looked, rfl⟩

/-- A request of a recipient sends nothing, and leaves a notification as it was
or read. -/
theorem markRead_effect (reader : UuidReader) (room : Mailroom) (id : Uuid)
    (session : Session) (actor : Option User) (pk : String) :
    let after := (NotificationViewSet.markRead reader session actor pk room).2
    after.outbox = room.outbox ∧ (after.statusOf id = room.statusOf id ∨
      after.statusOf id = some .read) := by
  unfold NotificationViewSet.markRead
  cases actor with
  | none => exact ⟨rfl, Or.inl rfl⟩
  | some user =>
      dsimp only
      split
      · exact ⟨rfl, Or.inl rfl⟩
      · next notification found =>
          refine ⟨rfl, ?_⟩
          by_cases hasId : notification.id = id
          · subst hasId
            exact Or.inr
              (statusOf_withSaved (find?_of_getNotification found) rfl)
          · exact Or.inl (statusOf_withSaved_of_ne hasId)

end Steps

/-- A notification that was mailed was mailed once and is marked as sent or
read. -/
def Mailroom.Accounted (id : Uuid) (room : Mailroom) : Prop :=
  room.mailsFor id = [] ∨ (room.mailsFor id).length = 1 ∧
    (room.statusOf id = some .sent ∨ room.statusOf id = some .read)

section Runs

variable {reader : UuidReader} {room : Mailroom} {id : Uuid}
  {event : MailroomEvent}

/-- A delivery does nothing to the notification, or it mails it or fails. -/
theorem deliver_cases (worker : Worker) (room : Mailroom) (id : Uuid) :
    (sendEmailNotification worker id room).2 = room ∨
      ∃ notification, room.find? id = some notification ∧
        notification.status ≠ .sent ∧ notification.isMailable = true := by
  by_cases idle : ∀ notification, room.find? id = some notification →
      notification.status = .sent ∨ notification.isMailable = false
  · exact Or.inl (deliver_of_idle idle)
  · push Not at idle
    obtain ⟨notification, found, unsent, mailable⟩ := idle
    exact Or.inr ⟨notification, found, unsent, by simpa using mailable⟩

/-- A step that spares the notification leaves it read if it is. -/
theorem staysRead_of_spares (spares : event.Spares id room)
    (isRead : room.statusOf id = some .read) :
    (room.step reader event).statusOf id = some .read := by
  cases event with
  | markRead session actor pk =>
      rcases (markRead_effect reader room id session actor pk).2 with
        same | marked
      · exact same.trans isRead
      · exact marked
  | deliver worker other =>
      by_cases sameId : other = id
      · subst sameId
        rcases deliver_cases worker room other with
          unchanged | ⟨notification, found, _, mailable⟩
        · rw [Mailroom.step, unchanged, isRead]
        · have notRead : notification.status ≠ .read := by
            intro status
            rw [spares rfl notification found status] at mailable
            cases mailable
          rw [Mailroom.statusOf, found] at isRead
          exact absurd (Option.some.inj isRead) notRead
      · exact (deliver_of_ne sameId).1.trans isRead

theorem mailsAccounted_step (spares : event.Spares id room)
    (accounted : room.Accounted id) :
    (room.step reader event).Accounted id := by
  cases event with
  | markRead session actor pk =>
      obtain ⟨sameOutbox, effect⟩ :=
        markRead_effect reader room id session actor pk
      have sameMails : (room.step reader (.markRead session actor pk)).mailsFor
          id = room.mailsFor id :=
        congrArg (List.filter _) sameOutbox
      rcases accounted with unmailed | ⟨one, marked⟩
      · exact Or.inl (sameMails.trans unmailed)
      · refine Or.inr ⟨sameMails ▸ one, ?_⟩
        rcases effect with same | isRead
        · rw [Mailroom.step, same]
          exact marked
        · exact Or.inr isRead
  | deliver worker other =>
      by_cases sameId : other = id
      · subst sameId
        rcases deliver_cases worker room other with
          unchanged | ⟨notification, found, unsent, mailable⟩
        · rw [Mailroom.step, unchanged]
          exact accounted
        · have status : room.statusOf other = some notification.status := by
            rw [Mailroom.statusOf, found, Option.map_some]
          have notRead : notification.status ≠ .read := by
            intro isRead
            rw [spares rfl notification found isRead] at mailable
            cases mailable
          have unmailed : room.mailsFor other = [] := by
            rcases accounted with unmailed | ⟨_, marked⟩
            · exact unmailed
            · rw [status] at marked
              simp [unsent, notRead] at marked
          rcases deliver_of_mailable found unsent mailable with
            ⟨_, sameMails⟩ | ⟨isSent, oneMore⟩
          · exact Or.inl (sameMails.trans unmailed)
          · refine Or.inr ⟨?_, Or.inl isSent⟩
            rw [unmailed] at oneMore
            exact oneMore
      · obtain ⟨sameStatus, sameMails⟩ := deliver_of_ne sameId
        unfold Mailroom.Accounted
        rw [Mailroom.step, sameStatus, sameMails]
        exact accounted

/-- A notification that is delivered while it is read does not stay read. -/
theorem not_read_of_not_spares (notSpared : ¬event.Spares id room) :
    room.statusOf id = some .read ∧
      (room.step reader event).statusOf id ≠ some .read := by
  cases event with
  | markRead session actor pk => exact absurd trivial notSpared
  | deliver worker other =>
      simp only [MailroomEvent.Spares] at notSpared
      push Not at notSpared
      obtain ⟨rfl, notification, found, isRead, mailable⟩ := notSpared
      have unsent : notification.status ≠ .sent := by
        rw [isRead]
        decide
      refine ⟨?_, ?_⟩
      · rw [Mailroom.statusOf, found, Option.map_some, isRead]
      · rcases deliver_of_mailable found unsent (by simpa using mailable) with
          ⟨hasFailed, _⟩ | ⟨isSent, _⟩
        · rw [Mailroom.step, hasFailed]
          decide
        · rw [Mailroom.step, isSent]
          decide

end Runs

/-- A notification is mailed at most once and stays read exactly in the runs in
which no delivery finds it read. -/
theorem mailed_once_iff (reader : UuidReader)
    (notifications : Table Notification) (events : List MailroomEvent)
    (id : Uuid) :
    MailedOnce reader notifications events id ↔
      Guarded (Mailroom.step reader) (fun room event => event.Spares id room)
        { notifications } events := by
  constructor
  · intro mailedOnce
    rw [guarded_iff_steps]
    intro moment event taken
    by_contra notSpared
    obtain ⟨isRead, notKept⟩ := not_read_of_not_spares notSpared
    have later := mailedOnce.staysRead moment (moment + 1) (Nat.le_succ _)
      isRead
    rw [List.take_add_one, taken, exec_append] at later
    exact notKept later
  · intro guarded
    constructor
    · have unmailed : Mailroom.Accounted id { notifications } := Or.inl rfl
      rcases exec_invariant (fun _ _ accounted spares =>
        mailsAccounted_step spares accounted) unmailed guarded with
        none | ⟨one, _⟩
      · rw [none]
        exact Nat.zero_le 1
      · exact one.le
    · intro earlier later before isRead
      have keepsRead : ∀ room event, Mailroom.statusOf room id = some .read →
          MailroomEvent.Spares id room event →
            (room.step reader event).statusOf id = some .read :=
        fun _ _ isRead spares => staysRead_of_spares spares isRead
      exact exec_invariant_later keepsRead guarded before isRead

/-- One notification for the user 1. -/
def oneNotification : Table Notification :=
  ⟨[{ id := 1, createdAt := 0, user := some 1, channel := .email,
      title := "Order N-1 paid", body := "Hi!" }], by simp⟩

/-- A worker whose mails are all accepted. -/
def reliableWorker (now : Time) : Worker where
  now
  emails _ := "buyer@example.com"
  accepts _ := true

/-- The notification is delivered, read, and delivered again. -/
def redeliveredAfterRead : List MailroomEvent :=
  [.deliver (reliableWorker 1) 1, .markRead { now := 2 } (some { id := 1 }) "1",
    .deliver (reliableWorker 3) 1]

/-- The second delivery mails the notification again and takes the mark of the
recipient off. -/
theorem read_notification_mailed_again :
    let after (moment : Nat) := exec (Mailroom.step decimalUuids)
      { notifications := oneNotification } (redeliveredAfterRead.take moment)
    [1, 2, 3].map (fun moment => ((after moment).statusOf 1,
        ((after moment).mailsFor 1).length)) =
      [(some .sent, 1), (some .read, 1), (some .sent, 2)] ∧
      ¬MailedOnce decimalUuids oneNotification redeliveredAfterRead 1 := by
  intro after
  refine ⟨by decide +kernel, ?_⟩
  intro mailedOnce
  have atMostOne := mailedOnce.once
  revert atMostOne
  decide +kernel

end NovaCommerce
