import NovaCommerce.GuardedRun
import Mathlib.Data.Finset.Basic
import Mathlib.Logic.Function.Basic

/-!
# Streams of groups

Sockets connect with a request.  A request that is admitted joins one group,
is accepted and greeted, and is then sent on what its mailbox gets.  Calls
publish messages, one send after the other, and any number of them at once; a
send puts a message into the mailboxes of all who are in its group at that
moment, unless they are full.

A socket is sent its greeting and then what was sent to its group since it has
joined, in the order of the sends, and nothing that nobody published.
-/

namespace GroupStreams

open GuardedRun

variable {Socket Request Event Group Message Frame : Type*}

/-- The group and the greeting of the requests that are admitted, how a message
is sent on, and what is sent for an event. -/
structure Protocol (Request Event Group Message Frame : Type*) where
  admits : Request → Option (Group × Frame)
  frame : Message → Frame
  sends : Event → List (Group × Message)

/-- Where the consumer of a socket stands. -/
inductive Stage (Group Frame : Type*) where
  | connecting (group : Group) (greeting : Frame)
  | joined (group : Group) (greeting : Frame)
  | accepted (group : Group)
  | ended

structure Connection (Request Group Frame : Type*) where
  request : Request
  stage : Stage Group Frame
  frames : List Frame := []

/-- A socket: its connection, if it has been opened, and the groups and the
mailbox that are kept for it. -/
structure Endpoint (Request Group Message Frame : Type*) where
  connection : Option (Connection Request Group Frame) := none
  groups : Finset Group := ∅
  mailbox : List Message := []

inductive Progress (Request : Type*) where
  | connect (request : Request)
  | groupAdd
  | accept
  | receive
  | disconnect
  /-- The consumer ends without leaving its group. -/
  | crash

namespace Endpoint

variable (endpoint : Endpoint Request Group Message Frame)

/-- The group that the socket is in, from the join until the end. -/
def group? : Option Group :=
  match endpoint.connection with
  | some ⟨_, .joined group _, _⟩ | some ⟨_, .accepted group, _⟩ => some group
  | _ => none

/-- What has been sent over the socket. -/
def frames : List Frame :=
  match endpoint.connection with
  | some connection => connection.frames
  | none => []

/-- The greeting that a step makes due. -/
def greets : Progress Request → List Frame
  | .groupAdd =>
      match endpoint.connection with
      | some ⟨_, .connecting _ greeting, _⟩ => [greeting]
      | _ => []
  | .connect _ | .accept | .receive | .disconnect | .crash => []

variable [DecidableEq Group]

def step (protocol : Protocol Request Event Group Message Frame) :
    Progress Request → Endpoint Request Group Message Frame
  | .connect request =>
      match endpoint.connection with
      | some _ => endpoint
      | none =>
          match protocol.admits request with
          | some (group, greeting) =>
              { endpoint with
                connection := some ⟨request, .connecting group greeting, []⟩ }
          | none =>
              { endpoint with connection := some ⟨request, .ended, []⟩ }
  | .groupAdd =>
      match endpoint.connection with
      | some ⟨request, .connecting group greeting, frames⟩ =>
          { endpoint with
            connection := some ⟨request, .joined group greeting, frames⟩
            groups := insert group endpoint.groups }
      | _ => endpoint
  | .accept =>
      match endpoint.connection with
      | some ⟨request, .joined group greeting, frames⟩ =>
          { endpoint with
            connection :=
              some ⟨request, .accepted group, frames ++ [greeting]⟩ }
      | _ => endpoint
  | .receive =>
      match endpoint.connection, endpoint.mailbox with
      | some ⟨request, .accepted group, frames⟩, message :: mailbox =>
          { endpoint with
            connection := some ⟨request, .accepted group,
              frames ++ [protocol.frame message]⟩
            mailbox }
      | _, _ => endpoint
  | .disconnect =>
      match endpoint.connection with
      | some ⟨request, .accepted group, frames⟩ =>
          { endpoint with
            connection := some ⟨request, .ended, frames⟩
            groups := endpoint.groups.erase group }
      | _ => endpoint
  | .crash =>
      match endpoint.connection with
      | some ⟨request, _, frames⟩ =>
          { endpoint with connection := some ⟨request, .ended, frames⟩ }
      | none => endpoint

/-- A message is sent to a group. -/
def reached (sent : Group × Message) (isFull : Bool) :
    Endpoint Request Group Message Frame :=
  if sent.1 ∈ endpoint.groups ∧ isFull = false then
    { endpoint with mailbox := endpoint.mailbox ++ [sent.2] }
  else endpoint

end Endpoint

/-- All sockets, and what the calls that publish have still to send. -/
structure Server (Socket Request Group Message Frame : Type*) where
  endpoints : Socket → Endpoint Request Group Message Frame := fun _ => {}
  calls : List (List (Group × Message)) := []

inductive Action (Socket Request Event : Type*) where
  | own (socket : Socket) (progress : Progress Request)
  /-- A call for an event begins. -/
  | publish (event : Event)
  /-- A call makes its next send; some mailboxes take no more. -/
  | send (call : Nat) (full : Socket → Bool)
  /-- A send of a call fails, and the call gives up. -/
  | fail (call : Nat)

/-- The event that an action publishes. -/
def Action.published : Action Socket Request Event → List Event
  | publish event => [event]
  | own _ _ | send _ _ | fail _ => []

namespace Server

/-- What an action sends. -/
def sends (server : Server Socket Request Group Message Frame) :
    Action Socket Request Event → Option (Group × Message)
  | .send call _ => server.calls[call]?.bind List.head?
  | .own _ _ | .publish _ | .fail _ => none

variable [DecidableEq Socket] [DecidableEq Group]
  (protocol : Protocol Request Event Group Message Frame)
  (server : Server Socket Request Group Message Frame)

def step (action : Action Socket Request Event) :
    Server Socket Request Group Message Frame :=
  match action with
  | .own socket progress =>
      { server with
        endpoints := Function.update server.endpoints socket
          ((server.endpoints socket).step protocol progress) }
  | .publish event =>
      { server with calls := server.calls ++ [protocol.sends event] }
  | .send call full =>
      match server.sends action with
      | some sent =>
          { endpoints := fun socket =>
              (server.endpoints socket).reached sent (full socket)
            calls := server.calls.modify call List.tail }
      | none => server
  | .fail call =>
      { server with calls := server.calls.modify call fun _ => [] }

/-- What is to be sent over a socket because of an action. -/
def hears (socket : Socket) (action : Action Socket Request Event) :
    List Frame :=
  match action with
  | .own other progress =>
      if other = socket then (server.endpoints socket).greets progress else []
  | .send _ full =>
      match server.sends action with
      | some sent =>
          if (server.endpoints socket).group? = some sent.1 ∧
              full socket = false then
            [protocol.frame sent.2]
          else []
      | none => []
  | .publish _ | .fail _ => []

end Server

section Heard

variable (protocol : Protocol Request Event Group Message Frame)
  [DecidableEq Group]

/-- The messages that were sent to a group. -/
def toGroup (group : Group) (sent : List (Group × Message)) : List Message :=
  (sent.filter fun message => message.1 = group).map Prod.snd

/-- What was to be sent for a request: nothing, or the greeting of its
admission and messages that were sent to its group, in their order. -/
def Follows (request : Request) (heard : List Frame)
    (sent : List (Group × Message)) : Prop :=
  heard = [] ∨ ∃ group greeting, ∃ messages : List Message,
    protocol.admits request = some (group, greeting) ∧
      heard = greeting :: messages.map protocol.frame ∧
      messages.Sublist (toGroup group sent)

/-- The socket is as it should be after what it was to be sent and what was
sent to all groups. -/
inductive Tells : Endpoint Request Group Message Frame → List Frame →
    List (Group × Message) → Prop where
  | unopened {sent} : Tells {} [] sent
  | connecting {request group greeting sent}
      (admitted : protocol.admits request = some (group, greeting)) :
      Tells ⟨some ⟨request, .connecting group greeting, []⟩, ∅, []⟩ [] sent
  | joined {request group greeting mailbox sent}
      (admitted : protocol.admits request = some (group, greeting))
      (among : List.Sublist mailbox (toGroup group sent)) :
      Tells ⟨some ⟨request, .joined group greeting, []⟩, {group}, mailbox⟩
        (greeting :: mailbox.map protocol.frame) sent
  | accepted {request group greeting taken mailbox sent}
      (admitted : protocol.admits request = some (group, greeting))
      (among : List.Sublist (taken ++ mailbox) (toGroup group sent)) :
      Tells ⟨some ⟨request, .accepted group,
          greeting :: taken.map protocol.frame⟩, {group}, mailbox⟩
        (greeting :: (taken ++ mailbox).map protocol.frame) sent
  | ended {request frames groups mailbox heard sent}
      (isPrefix : frames <+: heard)
      (follows : Follows protocol request heard sent) :
      Tells ⟨some ⟨request, .ended, frames⟩, groups, mailbox⟩ heard sent

variable {protocol} {endpoint : Endpoint Request Group Message Frame}
  {heard : List Frame} {sent : List (Group × Message)}

theorem toGroup_concat (group : Group) (message : Group × Message) :
    toGroup group (sent ++ [message]) =
      toGroup group sent ++
        if message.1 = group then [message.2] else [] := by
  by_cases same : message.1 = group <;> simp [toGroup, same]

theorem sublist_toGroup {messages : List Message} {group : Group}
    (among : messages.Sublist (toGroup group sent))
    (message : Group × Message) :
    messages.Sublist (toGroup group (sent ++ [message])) := by
  rw [toGroup_concat]
  exact among.trans (List.sublist_append_left _ _)

theorem Follows.concat {request : Request}
    (follows : Follows protocol request heard sent)
    (message : Group × Message) :
    Follows protocol request heard (sent ++ [message]) := by
  rcases follows with nothing | ⟨group, greeting, messages, admitted, heard_eq,
    among⟩
  · exact .inl nothing
  · exact .inr ⟨group, greeting, messages, admitted, heard_eq,
      sublist_toGroup among message⟩

namespace Tells

variable (tells : Tells protocol endpoint heard sent)

include tells

theorem follows {connection : Connection Request Group Frame}
    (isOpen : endpoint.connection = some connection) :
    Follows protocol connection.request heard sent := by
  cases tells with
  | unopened => cases isOpen
  | connecting admitted =>
      cases isOpen
      exact .inl rfl
  | joined admitted among =>
      cases isOpen
      exact .inr ⟨_, _, _, admitted, rfl, among⟩
  | accepted admitted among =>
      cases isOpen
      exact .inr ⟨_, _, _, admitted, rfl, among⟩
  | ended isPrefix follows =>
      cases isOpen
      exact follows

/-- What was sent over the socket comes first in what was to be sent. -/
theorem frames_prefix : endpoint.frames <+: heard := by
  cases tells with
  | unopened => exact List.nil_prefix
  | connecting admitted => exact List.nil_prefix
  | joined admitted among => exact List.nil_prefix
  | @accepted request group greeting taken mailbox sent admitted among =>
      rw [List.map_append]
      exact List.prefix_append (greeting :: taken.map protocol.frame) _
  | ended isPrefix follows => exact isPrefix

/-- Nothing is missing from an accepted socket but what waits for it. -/
theorem complete {request : Request} {group : Group} {frames : List Frame}
    (isOpen : endpoint.connection = some ⟨request, .accepted group, frames⟩) :
    heard = frames ++ endpoint.mailbox.map protocol.frame := by
  cases tells with
  | accepted admitted among =>
      cases isOpen
      simp
  | unopened => cases isOpen
  | connecting admitted => cases isOpen
  | joined admitted among => cases isOpen
  | ended isPrefix follows => cases isOpen

theorem heard_of_unopened (unopened : endpoint.connection = none) :
    heard = [] := by
  cases tells with
  | unopened => rfl
  | connecting admitted => cases unopened
  | joined admitted among => cases unopened
  | accepted admitted among => cases unopened
  | ended isPrefix follows => cases unopened

/-- The consumer ends, with or without leaving its group. -/
theorem ends {request : Request} {stage : Stage Group Frame}
    {frames : List Frame}
    (isOpen : endpoint.connection = some ⟨request, stage, frames⟩)
    (groups : Finset Group) (mailbox : List Message) :
    Tells protocol ⟨some ⟨request, .ended, frames⟩, groups, mailbox⟩ heard
      sent := by
  refine .ended ?_ (tells.follows isOpen)
  have isPrefix := tells.frames_prefix
  rw [Endpoint.frames, isOpen] at isPrefix
  exact isPrefix

theorem step (progress : Progress Request) :
    Tells protocol (endpoint.step protocol progress)
      (heard ++ endpoint.greets progress) sent := by
  have before := tells
  cases progress with
  | connect request =>
      cases tells with
      | unopened =>
          cases admitted : protocol.admits request with
          | none =>
              simp only [Endpoint.step, admitted]
              exact .ended (List.prefix_refl _) (.inl rfl)
          | some joins =>
              simp only [Endpoint.step, admitted]
              exact .connecting admitted
      | connecting | joined | accepted | ended =>
          simpa [Endpoint.step, Endpoint.greets] using before
  | groupAdd =>
      cases tells with
      | connecting admitted => exact .joined admitted (List.nil_sublist _)
      | unopened | joined | accepted | ended =>
          simpa [Endpoint.step, Endpoint.greets] using before
  | accept =>
      rw [Endpoint.greets, List.append_nil]
      cases tells with
      | @joined request group greeting mailbox sent admitted among =>
          have nothingTaken : [] ++ mailbox = mailbox := rfl
          rw [← nothingTaken] at among
          exact .accepted admitted among
      | unopened | connecting | accepted | ended => exact before
  | receive =>
      rw [Endpoint.greets, List.append_nil]
      cases tells with
      | @accepted request group greeting taken mailbox sent admitted among =>
          cases mailbox with
          | nil => exact before
          | cons message mailbox =>
              have moved : taken ++ message :: mailbox =
                  (taken ++ [message]) ++ mailbox := by simp
              rw [moved] at among ⊢
              have received := Tells.accepted admitted among
              rw [List.map_append] at received
              exact received
      | unopened | connecting | joined | ended => exact before
  | disconnect =>
      rw [Endpoint.greets, List.append_nil]
      cases tells with
      | accepted admitted among => exact before.ends rfl _ _
      | unopened | connecting | joined | ended => exact before
  | crash =>
      rw [Endpoint.greets, List.append_nil]
      cases opened : endpoint.connection with
      | none =>
          rw [Endpoint.step, opened]
          exact before
      | some connection =>
          rw [Endpoint.step, opened]
          exact before.ends opened _ _

/-- Who has joined the group of a message is to be sent it. -/
theorem reached (message : Group × Message) (isFull : Bool) :
    Tells protocol (endpoint.reached message isFull)
      (heard ++ if endpoint.group? = some message.1 ∧ isFull = false then
        [protocol.frame message.2] else [])
      (sent ++ [message]) := by
  cases tells with
  | unopened => simpa [Endpoint.reached, Endpoint.group?] using .unopened
  | connecting admitted =>
      simpa [Endpoint.reached, Endpoint.group?] using .connecting admitted
  | @joined request group greeting mailbox sent admitted among =>
      by_cases gets : group = message.1 ∧ isFull = false
      · obtain ⟨rfl, notFull⟩ := gets
        have more : List.Sublist (mailbox ++ [message.2])
            (toGroup message.1 (sent ++ [message])) := by
          rw [toGroup_concat, if_pos rfl]
          exact among.append_right _
        simpa [Endpoint.reached, Endpoint.group?, notFull] using
          Tells.joined admitted more
      · have missed : ¬(message.1 = group ∧ isFull = false) :=
          fun hears => gets ⟨hears.1.symm, hears.2⟩
        simpa [Endpoint.reached, Endpoint.group?, gets, missed] using
          Tells.joined admitted (sublist_toGroup among message)
  | @accepted request group greeting taken mailbox sent admitted among =>
      by_cases gets : group = message.1 ∧ isFull = false
      · obtain ⟨rfl, notFull⟩ := gets
        have more : List.Sublist (taken ++ (mailbox ++ [message.2]))
            (toGroup message.1 (sent ++ [message])) := by
          rw [toGroup_concat, if_pos rfl, ← List.append_assoc]
          exact among.append_right _
        simpa [Endpoint.reached, Endpoint.group?, notFull] using
          Tells.accepted admitted more
      · have missed : ¬(message.1 = group ∧ isFull = false) :=
          fun hears => gets ⟨hears.1.symm, hears.2⟩
        simpa [Endpoint.reached, Endpoint.group?, gets, missed] using
          Tells.accepted admitted (sublist_toGroup among message)
  | @ended request frames groups mailbox heard sent isPrefix follows =>
      rw [if_neg (by simp [Endpoint.group?]), List.append_nil]
      unfold Endpoint.reached
      split
      · exact .ended isPrefix (follows.concat message)
      · exact .ended isPrefix (follows.concat message)

end Tells

end Heard

section Runs

variable {protocol : Protocol Request Event Group Message Frame}
  {server : Server Socket Request Group Message Frame}

/-- The first send of a call leaves the others. -/
theorem perm_modify_tail {calls : List (List (Group × Message))} {call : Nat}
    {sent : Group × Message}
    (isNext : calls[call]?.bind List.head? = some sent) :
    List.Perm (sent :: (calls.modify call List.tail).flatten)
      calls.flatten := by
  induction calls generalizing call with
  | nil => cases isNext
  | cons sends calls ih =>
      cases call with
      | zero =>
          cases sends with
          | nil => cases isNext
          | cons first sends =>
              obtain rfl : first = sent := Option.some.inj isNext
              exact .refl _
      | succ call =>
          have others := ih (show calls[call]?.bind List.head? = _ from isNext)
          rw [List.modify_succ_cons, List.flatten_cons, List.flatten_cons]
          exact List.perm_middle.symm.trans (others.append_left sends)

theorem sublist_modify_nil (calls : List (List (Group × Message)))
    (call : Nat) :
    List.Sublist (calls.modify call fun _ => []).flatten calls.flatten := by
  induction calls generalizing call with
  | nil => simp
  | cons sends calls ih =>
      cases call with
      | zero => simp
      | succ call =>
          rw [List.modify_succ_cons, List.flatten_cons, List.flatten_cons]
          exact (ih call).append_left sends

variable [DecidableEq Socket] [DecidableEq Group]

theorem tells_step {socket : Socket} {heard : List Frame}
    {sent : List (Group × Message)}
    (tells : Tells protocol (server.endpoints socket) heard sent)
    (action : Action Socket Request Event) :
    Tells protocol ((server.step protocol action).endpoints socket)
      (heard ++ server.hears protocol socket action)
      (sent ++ (server.sends action).toList) := by
  cases action with
  | own other progress =>
      rw [Server.sends, Option.toList_none, List.append_nil, Server.hears]
      change Tells protocol (Function.update server.endpoints other _ socket)
        _ _
      by_cases same : other = socket
      · subst same
        rw [if_pos rfl, Function.update_self]
        exact tells.step progress
      · rw [if_neg same, List.append_nil,
          Function.update_of_ne (Ne.symm same)]
        exact tells
  | publish event =>
      rw [Server.sends, Server.hears, Option.toList_none, List.append_nil,
        List.append_nil]
      exact tells
  | send call full =>
      rw [Server.step, Server.hears]
      cases server.sends (.send call full) with
      | none =>
          rw [Option.toList_none, List.append_nil, List.append_nil]
          exact tells
      | some message => exact tells.reached message (full socket)
  | fail call =>
      rw [Server.sends, Server.hears, Option.toList_none, List.append_nil,
        List.append_nil]
      exact tells

/-- What a socket was to be sent in a run. -/
abbrev heardBy (protocol : Protocol Request Event Group Message Frame)
    (socket : Socket) :
    Server Socket Request Group Message Frame →
      List (Action Socket Request Event) → List Frame :=
  outputs (Server.step protocol) fun server action =>
    server.hears protocol socket action

/-- What was sent in a run. -/
abbrev sentIn (protocol : Protocol Request Event Group Message Frame) :
    Server Socket Request Group Message Frame →
      List (Action Socket Request Event) → List (Group × Message) :=
  outputs (Server.step protocol) fun server action =>
    (server.sends action).toList

theorem tells_exec {socket : Socket} {heard : List Frame}
    {sent : List (Group × Message)}
    (tells : Tells protocol (server.endpoints socket) heard sent)
    (actions : List (Action Socket Request Event)) :
    Tells protocol
      ((exec (Server.step protocol) server actions).endpoints socket)
      (heard ++ heardBy protocol socket server actions)
      (sent ++ sentIn protocol server actions) := by
  induction actions generalizing server heard sent with
  | nil =>
      rw [heardBy, sentIn, outputs, outputs, List.append_nil, List.append_nil]
      exact tells
  | cons action actions ih =>
      have later := ih (tells_step tells action)
      rw [List.append_assoc, List.append_assoc] at later
      exact later

/-- A step sends what was to be sent, or leaves it to be sent. -/
theorem subperm_step (action : Action Socket Request Event) :
    List.Subperm
      ((server.sends action).toList ++
        (server.step protocol action).calls.flatten)
      (server.calls.flatten ++ action.published.flatMap protocol.sends) := by
  cases action with
  | own socket progress =>
      rw [Action.published, List.flatMap_nil, List.append_nil]
      exact .refl _
  | publish event =>
      rw [Server.step, List.flatten_append]
      simp [Server.sends, Action.published, List.Subperm.refl]
  | send call full =>
      rw [Action.published, List.flatMap_nil, List.append_nil, Server.step]
      cases isNext : server.sends (.send call full) with
      | none => exact .refl _
      | some sent => exact (perm_modify_tail isNext).subperm
  | fail call =>
      rw [Action.published, List.flatMap_nil, List.append_nil]
      exact (sublist_modify_nil server.calls call).subperm

variable (protocol server) in
/-- Nothing is sent that was not published, nor more often. -/
theorem subperm_sentIn
    (actions : List (Action Socket Request Event)) :
    List.Subperm (sentIn protocol server actions)
      (server.calls.flatten ++
        (actions.flatMap Action.published).flatMap protocol.sends) := by
  induction actions generalizing server with
  | nil =>
      rw [sentIn, outputs]
      exact List.nil_subperm
  | cons action actions ih =>
      have later := (List.Subperm.refl (server.sends action).toList).append
        (ih (server.step protocol action))
      rw [← List.append_assoc] at later
      rw [List.flatMap_cons, List.flatMap_append, ← List.append_assoc]
      exact later.trans ((subperm_step action).append (.refl _))

theorem Follows.of_refused {request : Request} {heard : List Frame}
    {sent : List (Group × Message)}
    (follows : Follows protocol request heard sent)
    (refused : protocol.admits request = none) : heard = [] := by
  rcases follows with nothing | ⟨group, greeting, messages, admitted, _⟩
  · exact nothing
  · cases refused.symm.trans admitted

theorem subperm_map {Element Image : Type*} (image : Element → Image)
    {few many : List Element} (among : List.Subperm few many) :
    List.Subperm (few.map image) (many.map image) := by
  obtain ⟨ordered, perm, sublist⟩ := among
  exact ⟨ordered.map image, perm.map image, sublist.map image⟩

theorem Follows.subperm {request : Request} {heard : List Frame}
    {sent published : List (Group × Message)} {group : Group}
    {greeting : Frame} (follows : Follows protocol request heard sent)
    (admitted : protocol.admits request = some (group, greeting))
    (among : List.Subperm sent published) :
    List.Subperm heard
      (greeting :: (toGroup group published).map protocol.frame) := by
  rcases follows with rfl | ⟨joins, greets, messages, admits, rfl, sublist⟩
  · exact List.nil_subperm
  · obtain ⟨rfl, rfl⟩ :=
      Prod.mk.inj (Option.some.inj (admits.symm.trans admitted))
    have more : List.Subperm messages (toGroup joins published) :=
      sublist.subperm.trans (subperm_map _ (among.filter _))
    exact (List.subperm_cons _).mpr (subperm_map _ more)

end Runs

end GroupStreams
