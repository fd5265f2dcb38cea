import NovaCommerce.GuardedRun
import Mathlib.Data.Finset.Basic
import Mathlib.Logic.Function.Basic

/-!
# Websockets and the consumers of their channels

A connection manager keeps the websockets of every channel and one task for
every channel that has some, which consumes what is published there.  Tasks
take turns at their `await`s.  Nothing is awaited while the lock is held, so a
connection or a disconnection is one step, and the lock is free between steps.
A message is sent to one websocket after the other, and other tasks run in
between.

The websockets of a channel and its consumer match as long as no consumer
crashes and no send fails when the channel has no other websocket.
-/

namespace NovaCommerce

open GuardedRun

variable {Channel WebSocket : Type} [DecidableEq Channel]
  [DecidableEq WebSocket]

/-- `_channels` and `_pubsub_tasks`; tasks are named by numbers. -/
structure ConnectionManager (Channel WebSocket : Type) where
  channels : Channel → Option (Finset WebSocket) := fun _ => none
  pubsubTasks : Channel → Option Nat := fun _ => none

namespace ConnectionManager

/-- `self._channels.get(channel, ())`. -/
def sockets (manager : ConnectionManager Channel WebSocket)
    (channel : Channel) : Finset WebSocket :=
  (manager.channels channel).getD ∅

/-- `self._channels[channel].add(websocket)`. -/
def add (manager : ConnectionManager Channel WebSocket)
    (channel : Channel) (websocket : WebSocket) :
    ConnectionManager Channel WebSocket :=
  { manager with
    channels := Function.update manager.channels channel
      (some (insert websocket (manager.sockets channel))) }

/-- `self._channels[channel].discard(websocket)`: the access creates an entry
if there is none. -/
def discard (manager : ConnectionManager Channel WebSocket)
    (channel : Channel) (websocket : WebSocket) :
    ConnectionManager Channel WebSocket :=
  { manager with
    channels := Function.update manager.channels channel
      (some ((manager.sockets channel).erase websocket)) }

/-- The entries of a channel are taken out of both dictionaries. -/
def pop (manager : ConnectionManager Channel WebSocket) (channel : Channel) :
    ConnectionManager Channel WebSocket where
  channels := Function.update manager.channels channel none
  pubsubTasks := Function.update manager.pubsubTasks channel none

end ConnectionManager

/-- A message on its way to the websockets of a channel: those that it has not
been sent to yet. -/
structure Fanout (Channel WebSocket : Type) where
  channel : Channel
  remaining : Finset WebSocket

/-- Where a `_consume` task stands: it subscribes, waits for a message, or
sends one. -/
inductive Consuming (WebSocket : Type) where
  | subscribing
  | listening
  | sending (remaining : Finset WebSocket)

/-- A `_consume` task that has not ended. -/
structure Consumer (Channel WebSocket : Type) where
  channel : Channel
  state : Consuming WebSocket

namespace Consumer

/-- The websockets that its message has not been sent to yet. -/
def remaining (consumer : Consumer Channel WebSocket) : Finset WebSocket :=
  match consumer.state with
  | .sending remaining => remaining
  | _ => ∅

def isSending (consumer : Consumer Channel WebSocket) : Bool :=
  match consumer.state with
  | .sending _ => true
  | _ => false

end Consumer

/-- The manager, the consumers that run, and the broadcasts under way. -/
structure EventLoop (Channel WebSocket : Type) where
  manager : ConnectionManager Channel WebSocket := {}
  consumers : Nat → Option (Consumer Channel WebSocket) := fun _ => none
  nextTask : Nat := 0
  broadcasts : Nat → Option (Fanout Channel WebSocket) := fun _ => none
  nextBroadcast : Nat := 0

inductive SocketEvent (Channel WebSocket : Type) where
  | connect (websocket : WebSocket) (channel : Channel)
  | disconnect (websocket : WebSocket) (channel : Channel)
  /-- A broadcast begins. -/
  | broadcast (channel : Channel)
  /-- A broadcast sends to a websocket. -/
  | broadcastSend (broadcast : Nat) (websocket : WebSocket) (succeeds : Bool)
  /-- A consumer has subscribed. -/
  | subscribed (task : Nat)
  /-- A consumer gets a message. -/
  | message (task : Nat)
  /-- A consumer sends to a websocket. -/
  | consumeSend (task : Nat) (websocket : WebSocket) (succeeds : Bool)
  /-- Redis fails while a consumer subscribes or waits for a message. -/
  | redisError (task : Nat)

namespace EventLoop

/-- `self._pubsub_tasks[channel] = asyncio.create_task(...)`. -/
def createTask (loop : EventLoop Channel WebSocket) (channel : Channel) :
    EventLoop Channel WebSocket :=
  { loop with
    manager := { loop.manager with
      pubsubTasks :=
        Function.update loop.manager.pubsubTasks channel (some loop.nextTask) }
    consumers := Function.update loop.consumers loop.nextTask
      (some ⟨channel, .subscribing⟩)
    nextTask := loop.nextTask + 1 }

def connect (loop : EventLoop Channel WebSocket) (websocket : WebSocket)
    (channel : Channel) : EventLoop Channel WebSocket :=
  let added := { loop with manager := loop.manager.add channel websocket }
  match loop.manager.pubsubTasks channel with
  | some _ => added
  | none => added.createTask channel

/-- `task.cancel()`: the task does nothing more but end. -/
def cancel (loop : EventLoop Channel WebSocket) (task : Option Nat) :
    EventLoop Channel WebSocket :=
  match task with
  | some task =>
      { loop with consumers := Function.update loop.consumers task none }
  | none => loop

def disconnect (loop : EventLoop Channel WebSocket) (websocket : WebSocket)
    (channel : Channel) : EventLoop Channel WebSocket :=
  let manager := loop.manager.discard channel websocket
  if manager.sockets channel = ∅ then
    { loop with manager := manager.pop channel }.cancel
      (manager.pubsubTasks channel)
  else { loop with manager }

/-- The manager after a send: a websocket that it failed for is discarded. -/
def afterSend (loop : EventLoop Channel WebSocket) (channel : Channel)
    (websocket : WebSocket) (succeeds : Bool) :
    ConnectionManager Channel WebSocket :=
  if succeeds then loop.manager else loop.manager.discard channel websocket

/-- The state of a consumer that has a message left for some websockets. -/
def sendingTo (remaining : Finset WebSocket) : Consuming WebSocket :=
  if remaining = ∅ then .listening else .sending remaining

def step (loop : EventLoop Channel WebSocket) :
    SocketEvent Channel WebSocket → EventLoop Channel WebSocket
  | .connect websocket channel => loop.connect websocket channel
  | .disconnect websocket channel => loop.disconnect websocket channel
  | .broadcast channel =>
      { loop with
        broadcasts := Function.update loop.broadcasts loop.nextBroadcast
          (some ⟨channel, loop.manager.sockets channel⟩)
        nextBroadcast := loop.nextBroadcast + 1 }
  | .broadcastSend broadcast websocket succeeds =>
      match loop.broadcasts broadcast with
      | some ⟨channel, remaining⟩ =>
          if websocket ∈ remaining then
            { loop with
              manager := loop.afterSend channel websocket succeeds
              broadcasts := Function.update loop.broadcasts broadcast
                (some ⟨channel, remaining.erase websocket⟩) }
          else loop
      | none => loop
  | .subscribed task =>
      match loop.consumers task with
      | some ⟨channel, .subscribing⟩ =>
          { loop with
            consumers := Function.update loop.consumers task
              (some ⟨channel, .listening⟩) }
      | _ => loop
  | .message task =>
      match loop.consumers task with
      | some ⟨channel, .listening⟩ =>
          { loop with
            consumers := Function.update loop.consumers task
              (some ⟨channel, sendingTo (loop.manager.sockets channel)⟩) }
      | _ => loop
  | .consumeSend task websocket succeeds =>
      match loop.consumers task with
      | some ⟨channel, .sending remaining⟩ =>
          if websocket ∈ remaining then
            { loop with
              manager := loop.afterSend channel websocket succeeds
              consumers := Function.update loop.consumers task
                (some ⟨channel, sendingTo (remaining.erase websocket)⟩) }
          else loop
      | _ => loop
  | .redisError task =>
      match loop.consumers task with
      | some ⟨_, .subscribing⟩ | some ⟨_, .listening⟩ =>
          -- The exception is logged and the task ends.
          { loop with consumers := Function.update loop.consumers task none }
      | _ => loop

/-- The channel that a running task consumes. -/
def consumes (loop : EventLoop Channel WebSocket) (task : Nat) :
    Option Channel :=
  (loop.consumers task).map Consumer.channel

/-- A channel with a registered websocket has exactly one running consumer, and
a channel without one has no consumer, no task and no entry. -/
def Matched (loop : EventLoop Channel WebSocket) : Prop :=
  ∀ channel,
    (loop.manager.sockets channel ≠ ∅ →
      ∃! task, loop.consumes task = some channel) ∧
    (loop.manager.sockets channel = ∅ →
      (∀ task, loop.consumes task ≠ some channel) ∧
      loop.manager.pubsubTasks channel = none ∧
      loop.manager.channels channel = none)

/-- The channel keeps a websocket without this one. -/
def KeepsOther (loop : EventLoop Channel WebSocket) (channel : Channel)
    (websocket : WebSocket) : Prop :=
  ∃ other ∈ loop.manager.sockets channel, other ≠ websocket

instance (loop : EventLoop Channel WebSocket) (channel : Channel)
    (websocket : WebSocket) : Decidable (loop.KeepsOther channel websocket) :=
  inferInstanceAs (Decidable (∃ other ∈ _, _))

/-- No consumer crashes, and a send fails only while the channel has another
websocket. -/
def Tolerates (loop : EventLoop Channel WebSocket) :
    SocketEvent Channel WebSocket → Prop
  | .broadcastSend broadcast websocket succeeds => succeeds = false →
      ∀ fanout ∈ loop.broadcasts broadcast, websocket ∈ fanout.remaining →
        loop.KeepsOther fanout.channel websocket
  | .consumeSend task websocket succeeds => succeeds = false →
      ∀ consumer ∈ loop.consumers task, websocket ∈ consumer.remaining →
        loop.KeepsOther consumer.channel websocket
  | .redisError task =>
      ∀ consumer ∈ loop.consumers task, consumer.isSending = true
  | _ => True

instance (loop : EventLoop Channel WebSocket) : DecidablePred loop.Tolerates
  | .broadcastSend .. | .consumeSend .. => inferInstanceAs (Decidable (_ → _))
  | .redisError _ => inferInstanceAs (Decidable (∀ consumer ∈ _, _))
  | .connect .. | .disconnect .. | .broadcast _ | .subscribed _ | .message _ =>
      inferInstanceAs (Decidable True)

/-- The registered task of a channel is its running consumer, there is one as
long as the channel has an entry, and no entry is empty. -/
structure Sound (loop : EventLoop Channel WebSocket) : Prop where
  registered : ∀ channel task,
    loop.manager.pubsubTasks channel = some task ↔
      loop.consumes task = some channel
  hasTask : ∀ channel, loop.manager.pubsubTasks channel = none ↔
    loop.manager.channels channel = none
  nonempty : ∀ channel, loop.manager.channels channel ≠ some ∅
  fresh : ∀ task, loop.nextTask ≤ task → loop.consumes task = none

variable {loop : EventLoop Channel WebSocket}

omit [DecidableEq Channel] [DecidableEq WebSocket] in
theorem sound_start : Sound ({} : EventLoop Channel WebSocket) where
  registered _ _ := ⟨nofun, nofun⟩
  hasTask _ := ⟨fun _ => rfl, fun _ => rfl⟩
  nonempty _ := nofun
  fresh _ _ := rfl

omit [DecidableEq Channel] [DecidableEq WebSocket] in
/-- A channel has an entry exactly if it has a websocket. -/
theorem Sound.sockets_eq_empty (sound : loop.Sound) (channel : Channel) :
    loop.manager.sockets channel = ∅ ↔
      loop.manager.channels channel = none := by
  rw [ConnectionManager.sockets]
  cases entry : loop.manager.channels channel with
  | none => exact iff_of_true rfl rfl
  | some sockets =>
      refine iff_of_false ?_ nofun
      rintro rfl
      exact sound.nonempty channel entry

omit [DecidableEq Channel] [DecidableEq WebSocket] in
theorem Sound.matched (sound : loop.Sound) : loop.Matched := by
  intro channel
  rw [ne_eq, sound.sockets_eq_empty]
  constructor
  · intro hasEntry
    cases isRegistered : loop.manager.pubsubTasks channel with
    | none => exact (hasEntry ((sound.hasTask channel).mp isRegistered)).elim
    | some task =>
        refine ⟨task, (sound.registered channel task).mp isRegistered, ?_⟩
        intro other consumes
        have alsoRegistered := (sound.registered channel other).mpr consumes
        exact Option.some.inj (alsoRegistered.symm.trans isRegistered)
  · intro noEntry
    have noTask := (sound.hasTask channel).mpr noEntry
    refine ⟨?_, noTask, noEntry⟩
    intro task consumes
    have isRegistered := (sound.registered channel task).mpr consumes
    cases noTask.symm.trans isRegistered

omit [DecidableEq Channel] [DecidableEq WebSocket] in
/-- The invariant is about the dictionaries and the channels of the tasks. -/
theorem Sound.of_same {next : EventLoop Channel WebSocket}
    (sound : loop.Sound) (manager_eq : next.manager = loop.manager)
    (consumes_eq : next.consumes = loop.consumes)
    (nextTask_eq : next.nextTask = loop.nextTask) : next.Sound where
  registered := by
    rw [manager_eq, consumes_eq]
    exact sound.registered
  hasTask := by
    rw [manager_eq]
    exact sound.hasTask
  nonempty := by
    rw [manager_eq]
    exact sound.nonempty
  fresh := by
    rw [consumes_eq, nextTask_eq]
    exact sound.fresh

omit [DecidableEq WebSocket] in
/-- Another entry for a channel that has one, if it is not empty. -/
theorem Sound.of_manager {next : EventLoop Channel WebSocket}
    (sound : loop.Sound)
    (tasks_eq : next.manager.pubsubTasks = loop.manager.pubsubTasks)
    (consumes_eq : next.consumes = loop.consumes)
    (nextTask_eq : next.nextTask = loop.nextTask)
    {channel : Channel} {sockets : Finset WebSocket}
    (channels_eq : next.manager.channels =
      Function.update loop.manager.channels channel (some sockets))
    (hasEntry : loop.manager.channels channel ≠ none)
    (isNonempty : sockets ≠ ∅) : next.Sound where
  registered other task := by
    rw [tasks_eq, consumes_eq]
    exact sound.registered other task
  hasTask other := by
    rw [tasks_eq, channels_eq, sound.hasTask]
    by_cases same : other = channel
    · subst same
      simp [hasEntry]
    · rw [Function.update_of_ne same]
  nonempty other := by
    rw [channels_eq]
    by_cases same : other = channel
    · subst same
      simpa using isNonempty
    · rw [Function.update_of_ne same]
      exact sound.nonempty other
  fresh task later := by
    rw [consumes_eq]
    exact sound.fresh task (nextTask_eq ▸ later)

theorem sound_discard {next : EventLoop Channel WebSocket}
    (sound : loop.Sound) {channel : Channel} {websocket : WebSocket}
    (keeps : (loop.manager.sockets channel).erase websocket ≠ ∅)
    (manager_eq : next.manager = loop.manager.discard channel websocket)
    (consumes_eq : next.consumes = loop.consumes)
    (nextTask_eq : next.nextTask = loop.nextTask) : next.Sound := by
  refine sound.of_manager (by rw [manager_eq]; rfl) consumes_eq nextTask_eq
    (by rw [manager_eq]; rfl) ?_ keeps
  intro noEntry
  apply keeps
  rw [(sound.sockets_eq_empty channel).mpr noEntry, Finset.erase_empty]

theorem sound_createTask (sound : loop.Sound) {channel : Channel}
    {websocket : WebSocket}
    (noTask : loop.manager.pubsubTasks channel = none) :
    ({ loop with
      manager := loop.manager.add channel websocket }.createTask
        channel).Sound where
  registered other task := by
    change Function.update loop.manager.pubsubTasks channel
      (some loop.nextTask) other = some task ↔
        (Function.update loop.consumers loop.nextTask _ task).map _ = _
    have idle := sound.fresh loop.nextTask (Nat.le_refl _)
    by_cases same : other = channel
    · subst same
      rw [Function.update_self]
      by_cases isNew : task = loop.nextTask
      · simp [isNew]
      · rw [Function.update_of_ne isNew]
        refine iff_of_false (fun equal => isNew (Option.some.inj equal).symm) ?_
        intro consumes
        have isRegistered := (sound.registered other task).mpr consumes
        cases noTask.symm.trans isRegistered
    · rw [Function.update_of_ne same, sound.registered]
      by_cases isNew : task = loop.nextTask
      · subst isNew
        rw [Function.update_self, idle]
        exact iff_of_false nofun fun equal => same (Option.some.inj equal).symm
      · rw [Function.update_of_ne isNew]
        rfl
  hasTask other := by
    change Function.update loop.manager.pubsubTasks channel _ other = none ↔
      Function.update loop.manager.channels channel _ other = none
    by_cases same : other = channel
    · subst same
      rw [Function.update_self, Function.update_self]
      exact iff_of_false nofun nofun
    · rw [Function.update_of_ne same, Function.update_of_ne same]
      exact sound.hasTask other
  nonempty other := by
    change Function.update loop.manager.channels channel _ other ≠ some ∅
    by_cases same : other = channel
    · subst same
      rw [Function.update_self]
      exact fun empty => Finset.insert_ne_empty _ _ (Option.some.inj empty)
    · rw [Function.update_of_ne same]
      exact sound.nonempty other
  fresh task later := by
    have isLater : loop.nextTask < task := later
    change (Function.update loop.consumers loop.nextTask _ task).map _ = none
    rw [Function.update_of_ne isLater.ne']
    exact sound.fresh task isLater.le

theorem sound_connect (sound : loop.Sound) (websocket : WebSocket)
    (channel : Channel) : (loop.connect websocket channel).Sound := by
  unfold connect
  cases hasTask : loop.manager.pubsubTasks channel with
  | none => exact sound_createTask sound hasTask
  | some task =>
      refine sound.of_manager rfl rfl rfl rfl ?_ (Finset.insert_ne_empty _ _)
      intro noEntry
      cases ((sound.hasTask channel).mpr noEntry).symm.trans hasTask

omit [DecidableEq Channel] [DecidableEq WebSocket] in
theorem manager_cancel (cancelled : Option Nat) :
    (loop.cancel cancelled).manager = loop.manager := by
  cases cancelled <;> rfl

omit [DecidableEq Channel] [DecidableEq WebSocket] in
theorem consumes_cancel (cancelled : Option Nat) (task : Nat) :
    (loop.cancel cancelled).consumes task =
      if cancelled = some task then none else loop.consumes task := by
  cases cancelled with
  | none => rfl
  | some other =>
      change (Function.update loop.consumers other none task).map _ = _
      by_cases same : task = other
      · subst same
        simp
      · rw [Function.update_of_ne same,
          if_neg fun equal => same (Option.some.inj equal).symm]
        rfl

omit [DecidableEq WebSocket] in
theorem sound_pop (sound : loop.Sound) (channel : Channel) :
    ({ loop with manager := loop.manager.pop channel }.cancel
      (loop.manager.pubsubTasks channel)).Sound where
  registered other task := by
    rw [manager_cancel, consumes_cancel]
    change Function.update loop.manager.pubsubTasks channel none other =
      some task ↔ (if _ then none else loop.consumes task) = some other
    by_cases same : other = channel
    · subst same
      rw [Function.update_self]
      refine iff_of_false nofun ?_
      split
      · exact nofun
      · next notIts =>
          exact fun consumes =>
            notIts ((sound.registered other task).mpr consumes)
    · rw [Function.update_of_ne same]
      split
      · next isIts =>
          have consumes := (sound.registered channel task).mp isIts
          refine iff_of_false ?_ nofun
          intro isOthers
          have alsoConsumes := (sound.registered other task).mp isOthers
          exact same (Option.some.inj (alsoConsumes.symm.trans consumes))
      · exact sound.registered other task
  hasTask other := by
    rw [manager_cancel]
    change Function.update loop.manager.pubsubTasks channel none other = none ↔
      Function.update loop.manager.channels channel none other = none
    by_cases same : other = channel
    · subst same
      rw [Function.update_self, Function.update_self]
      exact iff_of_true rfl rfl
    · rw [Function.update_of_ne same, Function.update_of_ne same]
      exact sound.hasTask other
  nonempty other := by
    rw [manager_cancel]
    change Function.update loop.manager.channels channel none other ≠ some ∅
    by_cases same : other = channel
    · subst same
      rw [Function.update_self]
      exact nofun
    · rw [Function.update_of_ne same]
      exact sound.nonempty other
  fresh task later := by
    have isLater : loop.nextTask ≤ task := by
      cases isTask : loop.manager.pubsubTasks channel with
      | none =>
          rw [isTask] at later
          exact later
      | some cancelled =>
          rw [isTask] at later
          exact later
    rw [consumes_cancel]
    split
    · rfl
    · exact sound.fresh task isLater

theorem sound_disconnect (sound : loop.Sound) (websocket : WebSocket)
    (channel : Channel) : (loop.disconnect websocket channel).Sound := by
  unfold disconnect
  dsimp only
  have left : (loop.manager.discard channel websocket).sockets channel =
      (loop.manager.sockets channel).erase websocket := by
    simp [ConnectionManager.sockets, ConnectionManager.discard]
  split
  · have popped : (loop.manager.discard channel websocket).pop channel =
        loop.manager.pop channel := by
      simp [ConnectionManager.pop, ConnectionManager.discard]
    rw [popped]
    exact sound_pop sound channel
  · next isNonempty =>
      rw [left] at isNonempty
      exact sound_discard sound isNonempty rfl rfl rfl

omit [DecidableEq Channel] [DecidableEq WebSocket] in
/-- A consumer goes on with its channel. -/
theorem consumes_update {next : EventLoop Channel WebSocket} {task : Nat}
    {channel : Channel} {before after : Consuming WebSocket}
    (runs : loop.consumers task = some ⟨channel, before⟩)
    (consumers_eq : next.consumers =
      Function.update loop.consumers task (some ⟨channel, after⟩)) :
    next.consumes = loop.consumes := by
  funext other
  rw [consumes, consumers_eq]
  by_cases same : other = task
  · subst same
    rw [Function.update_self, consumes, runs]
    rfl
  · rw [Function.update_of_ne same]
    rfl

theorem sound_afterSend {next : EventLoop Channel WebSocket}
    (sound : loop.Sound) {channel : Channel} {websocket : WebSocket}
    {succeeds : Bool}
    (keeps : succeeds = false → loop.KeepsOther channel websocket)
    (manager_eq : next.manager = loop.afterSend channel websocket succeeds)
    (consumes_eq : next.consumes = loop.consumes)
    (nextTask_eq : next.nextTask = loop.nextTask) : next.Sound := by
  cases succeeds with
  | true => exact sound.of_same manager_eq consumes_eq nextTask_eq
  | false =>
      obtain ⟨other, otherMem, otherNe⟩ := keeps rfl
      refine sound_discard sound ?_ manager_eq consumes_eq nextTask_eq
      exact Finset.ne_empty_of_mem (Finset.mem_erase.mpr ⟨otherNe, otherMem⟩)

/-- What a step has to respect to keep the invariant. -/
theorem sound_step (sound : loop.Sound)
    (event : SocketEvent Channel WebSocket) (tolerates : loop.Tolerates event) :
    (loop.step event).Sound := by
  cases event with
  | connect websocket channel => exact sound_connect sound websocket channel
  | disconnect websocket channel =>
      exact sound_disconnect sound websocket channel
  | broadcast channel => exact sound.of_same rfl rfl rfl
  | broadcastSend broadcast websocket succeeds =>
      rw [step]
      cases underway : loop.broadcasts broadcast with
      | none => exact sound
      | some fanout =>
          dsimp only
          split
          · next isRemaining =>
              refine sound_afterSend sound ?_ rfl rfl rfl
              intro fails
              exact tolerates fails fanout (by simp [underway]) isRemaining
          · exact sound
  | subscribed task =>
      rw [step]
      split
      · next channel runs =>
          exact sound.of_same rfl (consumes_update runs rfl) rfl
      · exact sound
  | message task =>
      rw [step]
      split
      · next channel runs =>
          exact sound.of_same rfl (consumes_update runs rfl) rfl
      · exact sound
  | consumeSend task websocket succeeds =>
      rw [step]
      split
      · next channel remaining runs =>
          split
          · next isRemaining =>
              refine sound_afterSend sound ?_ rfl (consumes_update runs rfl) rfl
              intro fails
              exact tolerates fails ⟨channel, .sending remaining⟩
                (by simp [runs]) isRemaining
          · exact sound
      · exact sound
  | redisError task =>
      rw [step]
      split
      · next channel runs =>
          cases tolerates ⟨channel, .subscribing⟩ (by simp [runs])
      · next channel runs =>
          cases tolerates ⟨channel, .listening⟩ (by simp [runs])
      · exact sound

/-- An empty entry is left behind if a send fails while the channel has no
other websocket. -/
theorem keepsOther_of_matched {next : EventLoop Channel WebSocket}
    {channel : Channel} {websocket : WebSocket} (isMatched : next.Matched)
    (manager_eq : next.manager = loop.manager.discard channel websocket) :
    loop.KeepsOther channel websocket := by
  have entry : next.manager.channels channel =
      some ((loop.manager.sockets channel).erase websocket) := by
    rw [manager_eq]
    exact Function.update_self _ _ _
  by_contra alone
  have noneLeft : (loop.manager.sockets channel).erase websocket = ∅ := by
    rw [Finset.eq_empty_iff_forall_notMem]
    intro other otherMem
    obtain ⟨otherNe, otherMem⟩ := Finset.mem_erase.mp otherMem
    exact alone ⟨other, otherMem, otherNe⟩
  rw [noneLeft] at entry
  have isEmpty : next.manager.sockets channel = ∅ := by
    rw [ConnectionManager.sockets, entry]
    rfl
  cases entry.symm.trans ((isMatched channel).2 isEmpty).2.2

omit [DecidableEq Channel] [DecidableEq WebSocket] in
/-- The websockets of a consumer that crashes are left without one. -/
theorem not_matched_of_crash {next : EventLoop Channel WebSocket}
    (sound : loop.Sound) {task : Nat} {consumer : Consumer Channel WebSocket}
    (runs : loop.consumers task = some consumer)
    (manager_eq : next.manager = loop.manager)
    (consumers_eq : next.consumers =
      Function.update loop.consumers task none) : ¬next.Matched := by
  intro isMatched
  have consumed : loop.consumes task = some consumer.channel := by
    rw [consumes, runs, Option.map_some]
  have hasTask := (sound.registered _ _).mpr consumed
  have hasSocket : next.manager.sockets consumer.channel ≠ ∅ := by
    rw [manager_eq, ne_eq, sound.sockets_eq_empty, ← sound.hasTask, hasTask]
    exact nofun
  obtain ⟨other, consumes, _⟩ := (isMatched consumer.channel).1 hasSocket
  rw [EventLoop.consumes, consumers_eq] at consumes
  by_cases same : other = task
  · subst same
    rw [Function.update_self] at consumes
    cases consumes
  · rw [Function.update_of_ne same] at consumes
    have alsoTask := (sound.registered _ _).mpr consumes
    exact same (Option.some.inj (alsoTask.symm.trans hasTask))

/-- A step that is not tolerated ends the match. -/
theorem tolerates_of_matched (sound : loop.Sound)
    (event : SocketEvent Channel WebSocket)
    (isMatched : (loop.step event).Matched) : loop.Tolerates event := by
  cases event with
  | broadcastSend broadcast websocket succeeds =>
      rintro rfl fanout underway isRemaining
      rw [step, Option.mem_def.mp underway] at isMatched
      dsimp only at isMatched
      rw [if_pos isRemaining] at isMatched
      exact keepsOther_of_matched isMatched rfl
  | consumeSend task websocket succeeds =>
      rintro rfl ⟨channel, state⟩ runs isRemaining
      rw [step, Option.mem_def.mp runs] at isMatched
      cases state with
      | subscribing => cases isRemaining
      | listening => cases isRemaining
      | sending remaining =>
          dsimp only at isMatched
          rw [if_pos (show websocket ∈ remaining from isRemaining)] at isMatched
          exact keepsOther_of_matched isMatched rfl
  | redisError task =>
      rintro ⟨channel, state⟩ runs
      rw [step, Option.mem_def.mp runs] at isMatched
      cases state with
      | subscribing =>
          dsimp only at isMatched
          exact absurd isMatched
            (not_matched_of_crash sound (Option.mem_def.mp runs) rfl rfl)
      | listening =>
          dsimp only at isMatched
          exact absurd isMatched
            (not_matched_of_crash sound (Option.mem_def.mp runs) rfl rfl)
      | sending remaining => rfl
  | connect websocket channel => trivial
  | disconnect websocket channel => trivial
  | broadcast channel => trivial
  | subscribed task => trivial
  | message task => trivial

/-- The consumers match the websockets at every moment of a run exactly if no
consumer crashes in it and every send that fails leaves its channel with another
websocket. -/
theorem consumers_match_subscribers_iff
    (events : List (SocketEvent Channel WebSocket)) :
    (∀ moment, (exec step ({} : EventLoop Channel WebSocket)
        (events.take moment)).Matched) ↔
      Guarded step Tolerates ({} : EventLoop Channel WebSocket) events := by
  have implies : ∀ loop : EventLoop Channel WebSocket,
      loop.Sound → loop.Matched := fun _ => Sound.matched
  have preserved : ∀ (loop : EventLoop Channel WebSocket) event,
      loop.Sound → loop.Tolerates event → (loop.step event).Sound :=
    fun _ event sound tolerates => sound_step sound event tolerates
  have needed : ∀ (loop : EventLoop Channel WebSocket) event,
      loop.Sound → (loop.step event).Matched → loop.Tolerates event :=
    fun _ event sound isMatched => tolerates_of_matched sound event isMatched
  exact (guarded_iff_throughout implies preserved needed sound_start).symm

-- A send fails for one of two clients, and both leave.
example : Guarded step Tolerates ({} : EventLoop String Nat)
    [.connect 1 "stock.TEE", .subscribed 0, .connect 2 "stock.TEE",
      .message 0, .consumeSend 0 1 false, .consumeSend 0 2 true,
      .disconnect 1 "stock.TEE", .broadcast "stock.TEE",
      .broadcastSend 0 2 true, .disconnect 2 "stock.TEE"] := by
  decide +kernel

/-- A client connects, its consumer crashes, and another client connects. -/
def crashedConsumer : List (SocketEvent String Nat) :=
  [.connect 1 "stock.TEE", .subscribed 0, .redisError 0,
    .connect 2 "stock.TEE"]

/-- Two registered websockets and nobody who consumes for them. -/
theorem silent_after_crash :
    ¬(exec step ({} : EventLoop String Nat) crashedConsumer).Matched := by
  intro isMatched
  obtain ⟨task, isRunning, _⟩ := (isMatched "stock.TEE").1 (by decide +kernel)
  match task with
  | 0 => exact absurd isRunning (by decide +kernel)
  | _ + 1 => cases isRunning

end EventLoop

end NovaCommerce
