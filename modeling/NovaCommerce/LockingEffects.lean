import NovaCommerce.LockingTransactions

/-!
# Effects of the parts of a transaction

What a part of a transaction does is a relation between the progress before and
after it, at the store of the commit.  A relation that is reflexive and
transitive is proved part by part: of what is read, locked and written, and
then of sequences, branches and loops.  Over a run, the commits are those of
requests that were made.
-/

namespace LockingTransactions

open AtomicCall GuardedRun

variable {Client Key Store Error Value Next : Type} {Request : Type*}

/-- Whatever others do meanwhile, the part has this effect by the commit. -/
def Achieves (rely : Rely Key Store)
    (effect : Store → Progress Key Store → Progress Key Store → Prop)
    (transaction : Transaction Key Store Error Value) : Prop :=
  ∀ now before value after, Leads rely now transaction before value after →
    effect now before after

/-- An effect that nothing happens has, and that two parts have together if
each has it. -/
structure Composes
    (effect : Store → Progress Key Store → Progress Key Store → Prop) :
    Prop where
  refl : ∀ now progress, effect now progress progress
  trans : ∀ now before middle after, effect now before middle →
    effect now middle after → effect now before after

section Parts

variable {rely : Rely Key Store}
  {effect : Store → Progress Key Store → Progress Key Store → Prop}

theorem achieves_fail {error : Error} :
    Achieves rely effect (.fail error : Transaction Key Store Error Value) :=
  fun _ _ _ _ leads => (leads_fail leads).elim

theorem achieves_mapError {change : Error → Error}
    {transaction : Transaction Key Store Error Value}
    (achieves : Achieves rely effect transaction) :
    Achieves rely effect (transaction.mapError change) :=
  fun now before value after leads =>
    achieves now before value after (leads_mapError.mp leads)

variable (composes : Composes effect)

include composes

theorem achieves_pure {value : Value} :
    Achieves rely effect
      (pure value : Transaction Key Store Error Value) := by
  intro now before result after leads
  obtain ⟨_, rfl⟩ := leads_pure.mp leads
  exact composes.refl now after

theorem achieves_bind {first : Transaction Key Store Error Value}
    {next : Value → Transaction Key Store Error Next}
    (achievesFirst : Achieves rely effect first)
    (achievesNext : ∀ value, Achieves rely effect (next value)) :
    Achieves rely effect (first >>= next) := by
  intro now before value after leads
  obtain ⟨middleValue, middle, leadsFirst, leadsNext⟩ := leads_bind.mp leads
  exact composes.trans now before middle after
    (achievesFirst now before middleValue middle leadsFirst)
    (achievesNext middleValue now middle value after leadsNext)

theorem achieves_query {pinned : Bool} :
    Achieves rely effect
      (.query pinned : Transaction Key Store Error Store) := by
  intro now before value after leads
  obtain ⟨_, _, _, rfl⟩ := leads_query.mp leads
  exact composes.refl now after

/-- A part that takes no effect but through its locks and writes. -/
theorem achieves_of_writes {transaction : Transaction Key Store Error Value}
    (locks : ∀ now before key, effect now before (before.lock key))
    (writes : transaction.Writes fun change =>
      ∀ now before, effect now before (before.write change)) :
    Achieves rely effect transaction := by
  intro now before value after leads
  induction transaction generalizing before with
  | done result =>
      obtain ⟨_, rfl⟩ := leads
      exact composes.refl now after
  | fail error => exact False.elim leads
  | read pinned rest ih =>
      obtain ⟨_, _, later⟩ := leads
      exact ih _ (writes _) _ later
  | lock key rest ih =>
      obtain ⟨_, _, later⟩ := leads
      exact composes.trans now before _ after (locks now before key)
        (ih _ (writes _) _ later)
  | write change rest ih =>
      have later : Leads rely now rest (before.write change) value after :=
        leads
      exact composes.trans now before _ after (writes.1 now before)
        (ih writes.2 _ later)

end Parts

/-- A reflexive and transitive relation that every commit has between the
stores before and after it holds from the start to the end of a chain. -/
theorem Chained.related (relation : Store → Store → Prop)
    (refl : ∀ store, relation store store)
    (trans : ∀ first second third, relation first second →
      relation second third → relation first third)
    {first last : Store} {commits : List (Commit Request Store Value)}
    (chained : Chained first commits last)
    (each : ∀ commit ∈ commits, relation commit.before commit.after) :
    relation first last := by
  induction commits generalizing first with
  | nil => exact chained ▸ refl first
  | cons commit commits ih =>
      obtain ⟨rfl, chained⟩ := chained
      exact trans _ _ _ (each commit List.mem_cons_self)
        (ih chained fun other otherMem =>
          each other (List.mem_cons_of_mem _ otherMem))

/-- A part writes less than another set of writes allows. -/
theorem Transaction.Writes.mono {allowed wider : (Store → Store) → Prop}
    {transaction : Transaction Key Store Error Value}
    (writes : transaction.Writes allowed)
    (weaken : ∀ change, allowed change → wider change) :
    transaction.Writes wider := by
  induction transaction with
  | done result => trivial
  | fail error => trivial
  | read pinned rest ih => exact fun store => ih store (writes store)
  | lock key rest ih => exact fun store => ih store (writes store)
  | write change rest ih => exact ⟨weaken change writes.1, ih writes.2⟩

/-- Two things that all writes of a part are. -/
theorem Transaction.Writes.and {first second : (Store → Store) → Prop}
    {transaction : Transaction Key Store Error Value}
    (firstWrites : transaction.Writes first)
    (secondWrites : transaction.Writes second) :
    transaction.Writes fun change => first change ∧ second change := by
  induction transaction with
  | done result => trivial
  | fail error => trivial
  | read pinned rest ih =>
      exact fun store => ih store (firstWrites store) (secondWrites store)
  | lock key rest ih =>
      exact fun store => ih store (firstWrites store) (secondWrites store)
  | write change rest ih =>
      exact ⟨⟨firstWrites.1, secondWrites.1⟩,
        ih firstWrites.2 secondWrites.2⟩

/-- All requests in flight and in the log are allowed. -/
structure Requested (allowed : Request → Prop)
    (system : System Client Request Key Store Error Value) : Prop where
  flights : ∀ client flight, system.flights client = some flight →
    allowed flight.request
  log : ∀ commit ∈ system.log, allowed commit.request

section Requests

variable [DecidableEq Client] [DecidableEq Key] {allowed : Request → Prop}
  {program : Request → Transaction Key Store Error Value}
  {system : System Client Request Key Store Error Value}

omit [DecidableEq Key] in
theorem Requested.fly (requested : Requested allowed system) {client : Client}
    {flight : Flight Request Key Store Error Value}
    (isAllowed : allowed flight.request) :
    Requested allowed (system.fly client flight) where
  flights other flying flies := by
    change Function.update system.flights client (some flight) other = _
      at flies
    by_cases same : other = client
    · subst same
      rw [Function.update_self] at flies
      cases flies
      exact isAllowed
    · rw [Function.update_of_ne same] at flies
      exact requested.flights other flying flies
  log := requested.log

omit [DecidableEq Key] in
theorem Requested.release (requested : Requested allowed system)
    (client : Client) : Requested allowed (system.release client) where
  flights other flying flies := by
    change Function.update system.flights client none other = _ at flies
    by_cases same : other = client
    · subst same
      rw [Function.update_self] at flies
      cases flies
    · rw [Function.update_of_ne same] at flies
      exact requested.flights other flying flies
  log := requested.log

theorem Requested.step (requested : Requested allowed system)
    {action : Action Client Request}
    (starts : ∀ client request, action = .start client request →
      allowed request) :
    Requested allowed (system.step program action) := by
  cases action with
  | start client request =>
      rw [System.step]
      split
      · exact requested
      · exact requested.fly (starts client request rfl)
  | abort client => exact requested.release client
  | advance client =>
      rw [System.step]
      split
      · next flight flies =>
          have isAllowed := requested.flights client flight flies
          unfold System.advance
          split
          · refine ⟨(requested.release client).flights, ?_⟩
            intro commit listed
            rcases List.mem_append.mp listed with earlier | last
            · exact requested.log commit earlier
            · rw [List.mem_singleton.mp last]
              exact isAllowed
          · exact requested.release client
          · exact requested.fly isAllowed
          · next key rest _ =>
              have flown : Requested allowed (system.fly client
                  { flight with rest := rest (flight.own system.committed) }) :=
                requested.fly isAllowed
              split
              · exact ⟨flown.flights, requested.log⟩
              · exact requested
          · exact requested.fly isAllowed
      · exact requested

/-- Whatever is committed was requested. -/
theorem requested_exec {actions : List (Action Client Request)}
    (requested : Requested allowed system)
    (starts : ∀ client request, .start client request ∈ actions →
      allowed request) :
    Requested allowed (exec (System.step program) system actions) := by
  induction actions generalizing system with
  | nil => exact requested
  | cons action actions ih =>
      refine ih (requested.step ?_) fun client request listed =>
        starts client request (List.mem_cons_of_mem _ listed)
      rintro client request rfl
      exact starts client request List.mem_cons_self

end Requests

end LockingTransactions
