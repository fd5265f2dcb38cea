import NovaCommerce.ConnectionManager

/-!
# Published messages reach every websocket once

The consumer of a channel takes one message after the other from Redis and
sends it to the websockets that are registered when it takes it.  While a
websocket stays registered, others connect and leave and fail; its consumer
runs on, and sends it every message that it takes, once, before it takes the
next one.
-/

namespace NovaCommerce

open GuardedRun

variable {Channel WebSocket : Type} [DecidableEq Channel]
  [DecidableEq WebSocket]

/-- What happens to a message on the way to one websocket. -/
inductive Handover where
  | taken
  | sent
  deriving DecidableEq, Repr

/-- Whether a message is owed after a delivery: every message is sent once,
before the next one is taken. -/
def Handover.after : Bool → Handover → Option Bool
  | false, taken => some true
  | true, sent => some false
  | true, taken | false, sent => none

namespace EventLoop

/-- The consumer has a message that it has not sent to the websocket yet. -/
def owes (loop : EventLoop Channel WebSocket) (task : Nat)
    (websocket : WebSocket) : Bool :=
  (loop.consumers task).any fun consumer =>
    decide (websocket ∈ consumer.remaining)

/-- What an event does to the messages that a consumer takes for a
websocket. -/
def deliveries (task : Nat) (websocket : WebSocket)
    (loop : EventLoop Channel WebSocket) :
    SocketEvent Channel WebSocket → List Handover
  | .message other =>
      match loop.consumers other with
      | some ⟨_, .listening⟩ => if other = task then [.taken] else []
      | _ => []
  | .consumeSend other receiver _ =>
      match loop.consumers other with
      | some ⟨_, .sending remaining⟩ =>
          if other = task ∧ receiver = websocket ∧ receiver ∈ remaining then
            [.sent]
          else []
      | _ => []
  | _ => []

/-- The event leaves the websocket registered: it does not disconnect, and no
send to it fails. -/
def Keeps (channel : Channel) (websocket : WebSocket)
    (loop : EventLoop Channel WebSocket) :
    SocketEvent Channel WebSocket → Prop
  | .disconnect other left => other = websocket → left ≠ channel
  | .broadcastSend broadcast other succeeds => succeeds = false →
      ∀ fanout ∈ loop.broadcasts broadcast, other ∈ fanout.remaining →
        fanout.channel = channel → other ≠ websocket
  | .consumeSend task other succeeds => succeeds = false →
      ∀ consumer ∈ loop.consumers task, other ∈ consumer.remaining →
        consumer.channel = channel → other ≠ websocket
  | _ => True

instance (channel : Channel) (websocket : WebSocket)
    (loop : EventLoop Channel WebSocket) :
    DecidablePred (loop.Keeps channel websocket)
  | .disconnect .. => inferInstanceAs (Decidable (_ → _))
  | .broadcastSend .. | .consumeSend .. => inferInstanceAs (Decidable (_ → _))
  | .connect .. | .broadcast _ | .subscribed _ | .message _ | .redisError _ =>
      inferInstanceAs (Decidable True)

/-- The task consumes the channel of the websocket. -/
structure Serves (loop : EventLoop Channel WebSocket) (task : Nat)
    (channel : Channel) (websocket : WebSocket) : Prop where
  sound : loop.Sound
  consumes : loop.consumes task = some channel
  registered : websocket ∈ loop.manager.sockets channel

variable {loop : EventLoop Channel WebSocket} {task : Nat} {channel : Channel}
  {websocket : WebSocket}

theorem mem_sockets_add (registered : websocket ∈ loop.manager.sockets channel)
    (joined : Channel) (other : WebSocket) :
    websocket ∈ (loop.manager.add joined other).sockets channel := by
  by_cases same : channel = joined
  · subst same
    have grown : (loop.manager.add channel other).sockets channel =
        insert other (loop.manager.sockets channel) := by
      simp [ConnectionManager.sockets, ConnectionManager.add]
    rw [grown]
    exact Finset.mem_insert_of_mem registered
  · simpa [ConnectionManager.sockets, ConnectionManager.add, same]
      using registered

theorem mem_sockets_discard
    (registered : websocket ∈ loop.manager.sockets channel) {left : Channel}
    {other : WebSocket} (isOther : left = channel → other ≠ websocket) :
    websocket ∈ (loop.manager.discard left other).sockets channel := by
  by_cases same : channel = left
  · subst same
    have shrunk : (loop.manager.discard channel other).sockets channel =
        (loop.manager.sockets channel).erase other := by
      simp [ConnectionManager.sockets, ConnectionManager.discard]
    rw [shrunk]
    exact Finset.mem_erase.mpr ⟨(isOther rfl).symm, registered⟩
  · simpa [ConnectionManager.sockets, ConnectionManager.discard, same]
      using registered

theorem mem_sockets_afterSend
    (registered : websocket ∈ loop.manager.sockets channel) {sentTo : Channel}
    {other : WebSocket} {succeeds : Bool}
    (isOther : succeeds = false → sentTo = channel → other ≠ websocket) :
    websocket ∈ (loop.afterSend sentTo other succeeds).sockets channel := by
  cases succeeds with
  | true => exact registered
  | false => exact mem_sockets_discard registered (isOther rfl)

/-- What a step does to the consumer of a websocket, and to what it owes. -/
structure Delivers (loop next : EventLoop Channel WebSocket) (task : Nat)
    (channel : Channel) (websocket : WebSocket) (made : List Handover) :
    Prop where
  serves : next.Serves task channel websocket
  owes : made.foldlM Handover.after (loop.owes task websocket) =
    some (next.owes task websocket)

omit [DecidableEq Channel] in
/-- The consumer goes on as it was. -/
theorem Serves.delivers_of_same {next : EventLoop Channel WebSocket}
    (serves : loop.Serves task channel websocket) (sound : next.Sound)
    (same : next.consumers task = loop.consumers task)
    (registered : websocket ∈ next.manager.sockets channel) :
    Delivers loop next task channel websocket [] where
  serves :=
    { sound
      consumes := by
        rw [EventLoop.consumes, same]
        exact serves.consumes
      registered }
  owes := by
    rw [EventLoop.owes, EventLoop.owes, same]
    rfl

omit [DecidableEq Channel] [DecidableEq WebSocket] in
theorem consumers_cancel_of_ne {cancelled : Option Nat}
    (isOther : cancelled ≠ some task) :
    (loop.cancel cancelled).consumers task = loop.consumers task := by
  cases cancelled with
  | none => rfl
  | some other =>
      have isNotIt : task ≠ other :=
        fun same => isOther (congrArg some same.symm)
      exact Function.update_of_ne isNotIt _ _

theorem Serves.delivers_connect (serves : loop.Serves task channel websocket)
    (other : WebSocket) (joined : Channel) :
    Delivers loop (loop.connect other joined) task channel websocket [] := by
  have registered := mem_sockets_add serves.registered joined other
  have isOld : task ≠ loop.nextTask := by
    rintro rfl
    cases (serves.sound.fresh _ le_rfl).symm.trans serves.consumes
  apply serves.delivers_of_same (sound_connect serves.sound other joined)
  · rw [connect]
    cases loop.manager.pubsubTasks joined with
    | none => exact Function.update_of_ne isOld _ _
    | some registered => rfl
  · rw [connect]
    cases loop.manager.pubsubTasks joined with
    | none => exact registered
    | some task => exact registered

theorem Serves.delivers_disconnect
    (serves : loop.Serves task channel websocket) {other : WebSocket}
    {left : Channel} (isOther : left = channel → other ≠ websocket) :
    Delivers loop (loop.disconnect other left) task channel websocket [] := by
  have registered := mem_sockets_discard serves.registered isOther
  have sound := sound_disconnect serves.sound other left
  by_cases noneLeft :
      (loop.manager.discard left other).sockets left = ∅
  · rw [disconnect, if_pos noneLeft] at sound ⊢
    have elsewhere : channel ≠ left := by
      rintro rfl
      rw [noneLeft] at registered
      cases registered
    apply serves.delivers_of_same sound
    · apply consumers_cancel_of_ne
      intro isTask
      have consumes := (serves.sound.registered left task).mp isTask
      exact elsewhere (Option.some.inj (serves.consumes.symm.trans consumes))
    · rw [manager_cancel]
      simpa [ConnectionManager.sockets, ConnectionManager.pop,
        ConnectionManager.discard, elsewhere] using serves.registered
  · rw [disconnect, if_neg noneLeft] at sound ⊢
    exact serves.delivers_of_same sound rfl registered

omit [DecidableEq Channel] in
theorem remaining_sendingTo (consumed : Channel)
    (remaining : Finset WebSocket) :
    Consumer.remaining ⟨consumed, sendingTo remaining⟩ = remaining := by
  unfold sendingTo
  split
  · next isEmpty => exact isEmpty.symm
  · rfl

omit [DecidableEq Channel] [DecidableEq WebSocket] in
theorem Serves.channel_eq (serves : loop.Serves task channel websocket)
    {consumer : Consumer Channel WebSocket}
    (runs : loop.consumers task = some consumer) :
    consumer.channel = channel := by
  have consumes := serves.consumes
  rw [EventLoop.consumes, runs] at consumes
  exact Option.some.inj consumes

omit [DecidableEq Channel] in
/-- A consumer goes on, this one or another. -/
theorem Serves.delivers_of_update {next : EventLoop Channel WebSocket}
    {other : Nat} {consumed : Channel} {before after : Consuming WebSocket}
    {made : List Handover} (serves : loop.Serves task channel websocket)
    (sound : next.Sound) (runs : loop.consumers other = some ⟨consumed, before⟩)
    (consumers_eq : next.consumers =
      Function.update loop.consumers other (some ⟨consumed, after⟩))
    (registered : websocket ∈ next.manager.sockets channel)
    (own : other = task → made.foldlM Handover.after
        (decide (websocket ∈ Consumer.remaining ⟨consumed, before⟩)) =
      some (decide (websocket ∈ Consumer.remaining ⟨consumed, after⟩)))
    (others : other ≠ task → made = []) :
    Delivers loop next task channel websocket made := by
  by_cases isIts : other = task
  · subst isIts
    refine ⟨⟨sound, ?_, registered⟩, ?_⟩
    · rw [consumes_update runs consumers_eq]
      exact serves.consumes
    · rw [owes, owes, runs, consumers_eq, Function.update_self]
      exact own rfl
  · rw [others isIts]
    refine serves.delivers_of_same sound ?_ registered
    rw [consumers_eq]
    exact Function.update_of_ne (Ne.symm isIts) _ _

theorem Serves.delivers_step (serves : loop.Serves task channel websocket)
    (event : SocketEvent Channel WebSocket) (tolerates : loop.Tolerates event)
    (keeps : loop.Keeps channel websocket event) :
    Delivers loop (loop.step event) task channel websocket
      (loop.deliveries task websocket event) := by
  have sound := sound_step serves.sound event tolerates
  have idle : Delivers loop loop task channel websocket [] :=
    serves.delivers_of_same serves.sound rfl serves.registered
  cases event with
  | connect other joined => exact serves.delivers_connect other joined
  | disconnect other left =>
      refine serves.delivers_disconnect ?_
      intro same isIt
      exact keeps isIt same
  | broadcast broadcastTo =>
      exact serves.delivers_of_same sound rfl serves.registered
  | broadcastSend broadcast other succeeds =>
      apply serves.delivers_of_same sound
      · rw [step]
        split
        · split <;> rfl
        · rfl
      · rw [step]
        split
        · next sentTo remaining isUnderway =>
            split
            · next isRemaining =>
                apply mem_sockets_afterSend serves.registered
                intro fails same
                exact keeps fails _ isUnderway isRemaining same
            · exact serves.registered
        · exact serves.registered
  | subscribed other =>
      cases runs : loop.consumers other with
      | none => simpa [step, deliveries, runs] using idle
      | some consumer =>
          obtain ⟨consumed, state⟩ := consumer
          cases state with
          | subscribing =>
              rw [step, runs] at sound ⊢
              apply serves.delivers_of_update sound runs rfl serves.registered
              · intro isIts
                simp [deliveries, Consumer.remaining]
              · intro isOther
                rfl
          | listening | sending remaining =>
              simpa [step, deliveries, runs] using idle
  | message other =>
      cases runs : loop.consumers other with
      | none => simpa [step, deliveries, runs] using idle
      | some consumer =>
          obtain ⟨consumed, state⟩ := consumer
          cases state with
          | listening =>
              rw [step, runs] at sound ⊢
              apply serves.delivers_of_update sound runs rfl serves.registered
              · rintro rfl
                obtain rfl : consumed = channel := serves.channel_eq runs
                have owed := serves.registered
                rw [remaining_sendingTo]
                simp [deliveries, runs, owed, Consumer.remaining,
                  Handover.after]
              · intro isOther
                simp [deliveries, runs, isOther]
          | subscribing | sending remaining =>
              simpa [step, deliveries, runs] using idle
  | consumeSend other receiver succeeds =>
      cases runs : loop.consumers other with
      | none => simpa [step, deliveries, runs] using idle
      | some consumer =>
          obtain ⟨consumed, state⟩ := consumer
          cases state with
          | sending remaining =>
              by_cases isRemaining : receiver ∈ remaining
              · have registered : websocket ∈
                    (loop.afterSend consumed receiver succeeds).sockets
                      channel := by
                  apply mem_sockets_afterSend serves.registered
                  intro fails same
                  exact keeps fails _ runs isRemaining same
                rw [step, runs] at sound ⊢
                dsimp only at sound ⊢
                rw [if_pos isRemaining] at sound ⊢
                apply serves.delivers_of_update sound runs rfl registered
                · rintro rfl
                  rw [remaining_sendingTo]
                  by_cases isIt : receiver = websocket
                  · subst isIt
                    simp [deliveries, runs, isRemaining, Consumer.remaining,
                      Handover.after]
                  · simp only [deliveries, runs, isIt, false_and, and_false,
                      if_false, List.foldlM_nil]
                    refine congrArg some (decide_eq_decide.mpr ?_)
                    simp [Consumer.remaining, Ne.symm isIt]
                · intro isOther
                  simp [deliveries, runs, isOther]
              · simpa [step, deliveries, runs, isRemaining] using idle
          | subscribing | listening =>
              simpa [step, deliveries, runs] using idle
  | redisError other =>
      have same : loop.step (.redisError other) = loop := by
        rw [step]
        cases runs : loop.consumers other with
        | none => rfl
        | some consumer =>
            obtain ⟨consumed, state⟩ := consumer
            have isSending := tolerates _ runs
            cases state with
            | subscribing => cases isSending
            | listening => cases isSending
            | sending remaining => rfl
      rw [same]
      exact idle

theorem serves_exec (events : List (SocketEvent Channel WebSocket))
    (serves : loop.Serves task channel websocket)
    (tolerated : Guarded step Tolerates loop events)
    (kept : Guarded step (Keeps channel websocket) loop events) :
    Delivers loop (exec step loop events) task channel websocket
      (outputs step (deliveries task websocket) loop events) := by
  induction events generalizing loop with
  | nil => exact ⟨serves, rfl⟩
  | cons event events ih =>
      have delivers := serves.delivers_step event tolerated.1 kept.1
      obtain ⟨servesLater, owesLater⟩ :=
        ih delivers.serves tolerated.2 kept.2
      refine ⟨servesLater, ?_⟩
      rw [outputs, List.foldlM_append, delivers.owes]
      exact owesLater

/-- While a websocket stays registered, the consumer of its channel stays the
same, and sends it every message that it takes, once, before it takes the next
one, whatever other websockets and other channels do; consumers crash in no
such run, and a send fails only while its channel has another websocket. -/
theorem messages_sent_once
    (earlier later : List (SocketEvent Channel WebSocket)) (channel : Channel)
    (websocket : WebSocket)
    (tolerated : Guarded step Tolerates ({} : EventLoop Channel WebSocket)
      (earlier ++ later)) :
    let loop := exec step ({} : EventLoop Channel WebSocket) earlier
    let final := exec step loop later
    websocket ∈ loop.manager.sockets channel →
    Guarded step (Keeps channel websocket) loop later →
    ∃ task, loop.consumes task = some channel ∧
      final.consumes task = some channel ∧
      (outputs step (deliveries task websocket) loop later).foldlM
          Handover.after (loop.owes task websocket) =
        some (final.owes task websocket) := by
  intro loop final registered kept
  obtain ⟨before, after⟩ := guarded_append.mp tolerated
  have preserved : ∀ (loop : EventLoop Channel WebSocket) event, loop.Sound →
      loop.Tolerates event → (loop.step event).Sound :=
    fun _ event sound => sound_step sound event
  have sound : loop.Sound := exec_invariant preserved sound_start before
  obtain ⟨task, consumes, -⟩ :=
    (sound.matched channel).1 (Finset.ne_empty_of_mem registered)
  have delivers := serves_exec later ⟨sound, consumes, registered⟩ after kept
  exact ⟨task, consumes, delivers.serves.consumes, delivers.owes⟩

/-- Another client connects in the middle of a message, misses the rest of it,
and leaves. -/
def shortVisit : List (SocketEvent String Nat) :=
  [.message 0, .connect 2 "stock.TEE", .consumeSend 0 1 true, .message 0,
    .consumeSend 0 2 true, .disconnect 2 "stock.TEE", .consumeSend 0 1 true,
    .message 0]

theorem messages_sent_once_visited :
    let loop := exec step ({} : EventLoop String Nat)
      [.connect 1 "stock.TEE", .subscribed 0]
    let final := exec step loop shortVisit
    ∃ task, loop.consumes task = some "stock.TEE" ∧
      final.consumes task = some "stock.TEE" ∧
      (outputs step (deliveries task 1) loop shortVisit).foldlM
          Handover.after (loop.owes task 1) = some (final.owes task 1) :=
  messages_sent_once [.connect 1 "stock.TEE", .subscribed 0] shortVisit
    "stock.TEE" 1 (by decide +kernel) (by decide +kernel) (by decide +kernel)

end EventLoop

end NovaCommerce
