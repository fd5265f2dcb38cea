import NovaCommerce.GroupStreams
import NovaCommerce.TenantIsolation

/-!
# The websocket streams

A websocket asks for the stream of an order, for the firehose of its user, or
for the dashboard of the staff.  Saved events are broadcast while sockets come
and go.  Each of them gets what its stream is about, in the order in which it
was broadcast and none of it twice; the others' messages never reach it.
-/

namespace NovaCommerce

open GroupStreams GuardedRun

/-- What a client receives over a websocket of any route. -/
inductive StreamFrame where
  /-- `{"type": "connected", ...}`. -/
  | connected (orderId channel : Option String)
  | orderEvent (push : OrderPush)
  deriving DecidableEq, Repr

def Frame.sentOn : Frame → StreamFrame
  | connected orderId => .connected orderId none
  | orderEvent push => .orderEvent push

/-- The outcome of `connect`, for any route. -/
inductive Admission where
  | joined (group : String) (greeting : StreamFrame)
  | closed (code : Nat)
  | raised (exception : Exception)
  deriving DecidableEq, Repr

def Handshake.admission : Handshake → Admission
  | joined group greeting => .joined group greeting.sentOn
  | closed code => .closed code
  | raised exception => .raised exception

namespace AdminDashboardConsumer

/-- `GROUP`. -/
def group : String :=
  "admin.dashboard"

def connect (user : Option User) : Admission :=
  match user with
  | none => .closed 4403
  | some user =>
      if user.isStaff then .joined group (.connected none (some group))
      else .closed 4403

end AdminDashboardConsumer

/-- `websocket_urlpatterns`. -/
inductive StreamRoute where
  | orders (orderId : String)
  | me
  | adminDashboard

/-- A websocket that is opened; `db` is what the query of the check reads. -/
structure StreamRequest where
  route : StreamRoute
  user : Option User
  db : Database

namespace StreamRequest

def connect (reader : UuidReader) (request : StreamRequest) : Admission :=
  match request.route with
  | .orders orderId =>
      (OrderStatusConsumer.connect reader request.db request.user
        orderId).admission
  | .me => (UserFirehoseConsumer.connect request.user).admission
  | .adminDashboard => AdminDashboardConsumer.connect request.user

end StreamRequest

def Admission.joins : Admission → Option (String × StreamFrame)
  | joined group greeting => some (group, greeting)
  | closed _ | raised _ => none

/-- The message of a saved event. -/
def SavedEvent.push (saved : SavedEvent) : OrderPush where
  orderId := toString saved.event.order
  code := saved.event.code
  message := saved.event.message
  status := saved.order.status.value

/-- All three consumers greet a socket that they let in, and send the events of
their group on; the handler of a saved event sends to one group after the
other. -/
def streamProtocol (reader : UuidReader) :
    Protocol StreamRequest SavedEvent String OrderPush StreamFrame where
  admits request := (request.connect reader).joins
  frame := .orderEvent
  sends saved := saved.broadcasts.map fun sent => (sent.group, sent.payload)

abbrev StreamServer (Socket : Type) :=
  Server Socket StreamRequest String OrderPush StreamFrame

abbrev StreamAction (Socket : Type) :=
  Action Socket StreamRequest SavedEvent

namespace StreamRequest

/-- The stream is about the event. -/
def covers (request : StreamRequest) (saved : SavedEvent) : Bool :=
  match request.route with
  | .orders orderId => toString saved.event.order = orderId
  | .me => saved.order.user.isSome &&
      saved.order.user = request.user.map User.id
  | .adminDashboard => false

/-- What the stream tells of some events, if the socket is let in. -/
def tells (reader : UuidReader) (request : StreamRequest)
    (events : List SavedEvent) : List StreamFrame :=
  match request.connect reader with
  | .joined _ greeting =>
      greeting :: (events.filter request.covers).map fun saved =>
        .orderEvent saved.push
  | .closed _ | .raised _ => []

end StreamRequest

section Covering

variable (reader : UuidReader)

theorem sends_eq (saved : SavedEvent) :
    (streamProtocol reader).sends saved =
      (orderGroup (toString saved.event.order), saved.push) ::
        (saved.order.user.map fun user =>
          (userGroup user, saved.push)).toList := by
  have sends : (streamProtocol reader).sends saved =
      saved.broadcasts.map fun sent => (sent.group, sent.payload) := rfl
  rw [sends]
  unfold SavedEvent.broadcasts
  cases saved.order.user <;> rfl

theorem orderGroup_ne_adminDashboard (orderId : String) :
    orderGroup orderId ≠ AdminDashboardConsumer.group := by
  intro same
  have sameChars := congrArg String.toList same
  rw [orderGroup, AdminDashboardConsumer.group, String.toList_append]
    at sameChars
  simp at sameChars

theorem userGroup_ne_adminDashboard (user : Uuid) :
    userGroup user ≠ AdminDashboardConsumer.group := by
  intro same
  have sameChars := congrArg String.toList same
  rw [userGroup, AdminDashboardConsumer.group, String.toList_append]
    at sameChars
  simp at sameChars

/-- What is sent for an event to the group of a stream. -/
theorem toGroup_sends {request : StreamRequest} {group : String}
    {greeting : StreamFrame}
    (joined : request.connect reader = .joined group greeting)
    (saved : SavedEvent) :
    toGroup group ((streamProtocol reader).sends saved) =
      if request.covers saved then [saved.push] else [] := by
  obtain ⟨route, user, db⟩ := request
  rw [sends_eq, toGroup]
  cases route with
  | orders orderId =>
      have isGroup : orderGroup orderId = group := by
        unfold StreamRequest.connect OrderStatusConsumer.connect at joined
        dsimp only at joined
        split at joined
        · cases joined
        · split at joined <;> cases joined
          rfl
      have notUser : ∀ user, userGroup user ≠ orderGroup orderId :=
        fun user => (orderGroup_ne_userGroup orderId user).symm
      rw [← isGroup, StreamRequest.covers]
      generalize toString saved.event.order = savedFor
      by_cases about : savedFor = orderId <;>
        cases saved.order.user <;>
        simp [orderGroup_injective.eq_iff, notUser, about]
  | me =>
      cases user with
      | none => cases joined
      | some user =>
          cases joined
          have injective := userGroup_injective reader
          cases ofUser : saved.order.user with
          | none =>
              simp [StreamRequest.covers, orderGroup_ne_userGroup, ofUser]
          | some owner =>
              by_cases owns : owner = user.id <;>
                simp [StreamRequest.covers, orderGroup_ne_userGroup, ofUser,
                  injective.eq_iff, owns]
  | adminDashboard =>
      have isGroup : group = AdminDashboardConsumer.group := by
        cases user with
        | none => cases joined
        | some user =>
            unfold StreamRequest.connect AdminDashboardConsumer.connect
              at joined
            dsimp only at joined
            split at joined <;> cases joined
            rfl
      rw [isGroup]
      cases saved.order.user <;>
        simp [StreamRequest.covers, orderGroup_ne_adminDashboard,
          userGroup_ne_adminDashboard]

theorem toGroup_events {request : StreamRequest} {group : String}
    {greeting : StreamFrame}
    (joined : request.connect reader = .joined group greeting)
    (events : List SavedEvent) :
    toGroup group (events.flatMap (streamProtocol reader).sends) =
      (events.filter request.covers).map SavedEvent.push := by
  induction events with
  | nil => rfl
  | cons saved events ih =>
      have first := toGroup_sends reader joined saved
      rw [toGroup] at first ih ⊢
      rw [List.flatMap_cons, List.filter_append, List.map_append, first, ih]
      cases covered : request.covers saved <;>
        simp [covered]

end Covering

section Runs

variable {Socket : Type} [DecidableEq Socket]

/-- The sockets after a run in which nobody was connected at first. -/
abbrev stream (reader : UuidReader) (actions : List (StreamAction Socket)) :
    StreamServer Socket :=
  exec (Server.step (streamProtocol reader)) {} actions

/-- The events that were saved in a run. -/
def savedIn (actions : List (StreamAction Socket)) : List SavedEvent :=
  actions.flatMap Action.published

/-- What a socket gets in a run, compared with the greeting and the messages
that went to its group while it was in. -/
structure Streamed (reader : UuidReader) (actions : List (StreamAction Socket))
    (socket : Socket) (heard : List StreamFrame) : Prop where
  inOrder : ((stream reader actions).endpoints socket).frames <+: heard
  /-- An accepted socket misses only what waits in its mailbox. -/
  complete : ∀ request group frames,
    ((stream reader actions).endpoints socket).connection =
        some ⟨request, .accepted group, frames⟩ →
      heard = frames ++
        ((stream reader actions).endpoints socket).mailbox.map .orderEvent
  /-- Only a socket that was let in gets anything: one message for each event
  that its stream is about, at most. -/
  once : ∀ connection,
    ((stream reader actions).endpoints socket).connection = some connection →
      List.Subperm heard (connection.request.tells reader (savedIn actions))
  unopened :
    ((stream reader actions).endpoints socket).connection = none → heard = []

/-- However sockets come and go while events are broadcast, each socket is sent
its greeting and then, in the order of the broadcasts, the messages that went
to its group from its join to its end, unless its mailbox was full: at most one
for each event that was saved, none of an event that its stream is not about,
and nothing at all if it was refused.  The dashboard is only greeted. -/
theorem streams_tell_events (reader : UuidReader)
    (actions : List (StreamAction Socket)) (socket : Socket) :
    Streamed reader actions socket
      (heardBy (streamProtocol reader) socket {} actions) := by
  let server : StreamServer Socket := {}
  have unopened : Tells (streamProtocol reader) (server.endpoints socket) []
      [] := .unopened
  have tells := tells_exec unopened actions
  rw [List.nil_append, List.nil_append] at tells
  refine ⟨tells.frames_prefix, ?_, ?_, tells.heard_of_unopened⟩
  · intro request group frames accepted
    exact tells.complete accepted
  · intro connection connected
    have follows := tells.follows connected
    have among := subperm_sentIn (streamProtocol reader) server actions
    rw [StreamRequest.tells]
    cases joined : connection.request.connect reader with
    | joined group greeting =>
        have admitted : (streamProtocol reader).admits connection.request =
            some (group, greeting) := congrArg Admission.joins joined
        have heard := follows.subperm admitted among
        rw [List.flatten_nil, List.nil_append,
          toGroup_events reader joined, List.map_map] at heard
        exact heard
    | closed code | raised exception =>
        rw [follows.of_refused (congrArg Admission.joins joined)]

end Runs

/-- Two sockets of a user are opened, and one of them has joined when an event
of an order of the user is broadcast. -/
def lateFirehose : List (StreamAction Nat) :=
  let opened : StreamRequest := ⟨.me, some { id := 3 }, {}⟩
  let order : Order :=
    { id := 1, createdAt := 0, number := "N1", user := some 3,
      emailSnapshot := "", phoneSnapshot := "" }
  let event : OrderEvent :=
    { id := 8, createdAt := 0, order := 1, code := "created" }
  [.own 0 (.connect opened), .own 1 (.connect opened), .own 0 .groupAdd,
    .publish ⟨order, event⟩, .send 0 fun _ => false, .own 0 .accept,
    .send 0 fun _ => false, .own 1 .groupAdd, .own 1 .accept,
    .own 0 .receive, .own 1 .receive]

-- The other socket is only greeted.
example :
    ((stream decimalUuids lateFirehose).endpoints 0).frames =
        [.connected none none, .orderEvent ⟨"1", "created", "", "pending"⟩] ∧
      ((stream decimalUuids lateFirehose).endpoints 1).frames =
        [.connected none none] := by
  decide +kernel

end NovaCommerce
