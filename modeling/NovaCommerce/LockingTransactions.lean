import NovaCommerce.AtomicCall
import NovaCommerce.GuardedRun
import Mathlib.Algebra.BigOperators.Group.List.Basic
import Mathlib.Data.Set.Insert
import Mathlib.Logic.Function.Basic

/-!
# Transactions that lock rows

A transaction is a sequence of statements: plain reads, reads that first lock a
row, writes, and a result or an error at the end.  Clients run transactions
side by side, one statement at a time.  A statement sees what was committed
when it starts, together with the writes of its own transaction; a lock that
another client holds makes it wait; writes are published and locks released at
the commit.

`Leads` describes a transaction from the moment of its commit: every answer
that it got was the view of an earlier store, from which the store at the
commit differs at most by what others may do while its locks are held.  A
relation for what others may do, which the commits in turn establish, is all
that is needed to describe a run of any number of clients as a chain of
commits.
-/

namespace LockingTransactions

open AtomicCall GuardedRun

universe u

variable {Client Key Store Error Value Next : Type} {Request : Type u}

/-- The statements of a transaction.  A query that is pinned must be answered
by the primary store. -/
inductive Transaction (Key Store Error Value : Type) where
  | done (value : Value)
  | fail (error : Error)
  | read (pinned : Bool) (next : Store → Transaction Key Store Error Value)
  | lock (key : Key) (next : Store → Transaction Key Store Error Value)
  | write (change : Store → Store) (next : Transaction Key Store Error Value)

namespace Transaction

/-- One transaction after the other. -/
def bind : Transaction Key Store Error Value →
    (Value → Transaction Key Store Error Next) →
      Transaction Key Store Error Next
  | done value, next => next value
  | fail error, _ => fail error
  | read pinned rest, next => read pinned fun store => (rest store).bind next
  | lock key rest, next => lock key fun store => (rest store).bind next
  | write change rest, next => write change (rest.bind next)

instance : Monad (Transaction Key Store Error) where
  pure := done
  bind := bind

/-- A query, answered by the view of the store. -/
def query (pinned : Bool) : Transaction Key Store Error Store :=
  read pinned done

/-- A row lock, answered by the view of the store once it is held. -/
def acquire (key : Key) : Transaction Key Store Error Store :=
  lock key done

def execute (change : Store → Store) : Transaction Key Store Error Unit :=
  write change (done ())

/-- Run a transaction while no other client does anything. -/
def alone : Transaction Key Store Error Value → EStateM Error Store Value
  | done value => pure value
  | fail error => throw error
  | read _ rest => fun store => (rest store).alone store
  | lock _ rest => fun store => (rest store).alone store
  | write change rest => fun store => rest.alone (change store)

theorem alone_bind (first : Transaction Key Store Error Value)
    (next : Value → Transaction Key Store Error Next) :
    (first >>= next).alone =
      first.alone >>= fun value => (next value).alone := by
  change (first.bind next).alone = _
  funext store
  induction first generalizing store with
  | done value => rfl
  | fail error => rfl
  | read pinned rest ih => exact ih store store
  | lock key rest ih => exact ih store store
  | write change rest ih => exact ih (change store)

/-- What follows a query is answered by the store. -/
theorem alone_query_bind (pinned : Bool)
    (next : Store → Transaction Key Store Error Value) (store : Store) :
    (query pinned >>= next).alone store = (next store).alone store :=
  rfl

/-- Let an error through as another one. -/
def mapError (change : Error → Error) :
    Transaction Key Store Error Value → Transaction Key Store Error Value
  | done value => done value
  | fail error => fail (change error)
  | read pinned rest => read pinned fun store => (rest store).mapError change
  | lock key rest => lock key fun store => (rest store).mapError change
  | write effect rest => write effect (rest.mapError change)

theorem alone_mapError_eq_ok {change : Error → Error}
    {transaction : Transaction Key Store Error Value} {before after : Store}
    {value : Value} :
    (transaction.mapError change).alone before = .ok value after ↔
      transaction.alone before = .ok value after := by
  induction transaction generalizing before with
  | done result => rfl
  | fail error => constructor <;> intro impossible <;> cases impossible
  | read pinned rest ih => exact ih before
  | lock key rest ih => exact ih before
  | write effect rest ih => exact ih

/-- The transaction only writes. -/
def Blind : Transaction Key Store Error Value → Prop
  | done _ => True
  | fail _ => True
  | read _ _ => False
  | lock _ _ => False
  | write _ rest => rest.Blind

/-- Two transactions that only write, one after the other. -/
theorem blind_bind {first : Transaction Key Store Error Value}
    {next : Value → Transaction Key Store Error Next}
    (firstBlind : first.Blind) (nextBlind : ∀ value, (next value).Blind) :
    (first >>= next).Blind := by
  change (first.bind next).Blind
  induction first with
  | done value => exact nextBlind value
  | fail error => trivial
  | read pinned rest => exact firstBlind.elim
  | lock key rest => exact firstBlind.elim
  | write change rest ih => exact ih firstBlind

/-- All writes of the transaction are allowed ones. -/
def Writes (allowed : (Store → Store) → Prop) :
    Transaction Key Store Error Value → Prop
  | done _ => True
  | fail _ => True
  | read _ rest => ∀ store, (rest store).Writes allowed
  | lock _ rest => ∀ store, (rest store).Writes allowed
  | write change rest => allowed change ∧ rest.Writes allowed

theorem writes_bind {allowed : (Store → Store) → Prop}
    {first : Transaction Key Store Error Value}
    {next : Value → Transaction Key Store Error Next}
    (firstWrites : first.Writes allowed)
    (nextWrites : ∀ value, (next value).Writes allowed) :
    (first >>= next).Writes allowed := by
  change (first.bind next).Writes allowed
  induction first with
  | done value => exact nextWrites value
  | fail error => trivial
  | read pinned rest ih => exact fun store => ih store (firstWrites store)
  | lock key rest ih => exact fun store => ih store (firstWrites store)
  | write change rest ih => exact ⟨firstWrites.1, ih firstWrites.2⟩

theorem writes_query_bind {allowed : (Store → Store) → Prop}
    {pinned : Bool} {next : Store → Transaction Key Store Error Value}
    (nextWrites : ∀ store, (next store).Writes allowed) :
    (query pinned >>= next).Writes allowed :=
  nextWrites

theorem writes_mapError {allowed : (Store → Store) → Prop}
    {change : Error → Error}
    {transaction : Transaction Key Store Error Value}
    (writes : transaction.Writes allowed) :
    (transaction.mapError change).Writes allowed := by
  induction transaction with
  | done value => trivial
  | fail error => trivial
  | read pinned rest ih => exact fun store => ih store (writes store)
  | lock key rest ih => exact fun store => ih store (writes store)
  | write effect rest ih => exact ⟨writes.1, ih writes.2⟩

end Transaction

/-- What the other clients may do to the store while a transaction holds the
locks of some rows. -/
structure Rely (Key Store : Type) where
  allows : Set Key → Store → Store → Prop
  refl : ∀ held store, allows held store store
  trans : ∀ held first second third, allows held first second →
    allows held second third → allows held first third
  anti : ∀ fewer more before after, fewer ⊆ more → allows more before after →
    allows fewer before after

/-- Nobody else does anything. -/
def exclusive : Rely Key Store where
  allows _ before after := before = after
  refl _ _ := rfl
  trans _ _ _ _ first second := first.trans second
  anti _ _ _ _ _ same := same

/-- The locks that a transaction holds and what it has written. -/
structure Progress (Key Store : Type) where
  held : Set Key
  own : Store → Store

namespace Progress

def start : Progress Key Store where
  held := ∅
  own := id

def lock (progress : Progress Key Store) (key : Key) : Progress Key Store where
  held := insert key progress.held
  own := progress.own

def write (progress : Progress Key Store) (change : Store → Store) :
    Progress Key Store where
  held := progress.held
  own := change ∘ progress.own

@[simp]
theorem held_lock (progress : Progress Key Store) (key : Key) :
    (progress.lock key).held = insert key progress.held :=
  rfl

@[simp]
theorem own_lock (progress : Progress Key Store) (key : Key) :
    (progress.lock key).own = progress.own :=
  rfl

@[simp]
theorem held_write (progress : Progress Key Store) (change : Store → Store) :
    (progress.write change).held = progress.held :=
  rfl

@[simp]
theorem own_write (progress : Progress Key Store) (change : Store → Store)
    (store : Store) :
    (progress.write change).own store = change (progress.own store) :=
  rfl

end Progress

/-- A transaction has gone from one progress to another by the time the
committed store is `now`: it was answered by earlier stores. -/
def Leads (rely : Rely Key Store) (now : Store) :
    Transaction Key Store Error Value → Progress Key Store → Value →
      Progress Key Store → Prop
  | .done result, before, value, after => value = result ∧ after = before
  | .fail _, _, _, _ => False
  | .read _ rest, before, value, after =>
      ∃ earlier, rely.allows before.held earlier now ∧
        Leads rely now (rest (before.own earlier)) before value after
  | .lock key rest, before, value, after =>
      ∃ earlier, rely.allows (insert key before.held) earlier now ∧
        Leads rely now (rest (before.own earlier)) (before.lock key) value
          after
  | .write change rest, before, value, after =>
      Leads rely now rest (before.write change) value after

section Leads

variable {rely : Rely Key Store} {now : Store}
  {before after : Progress Key Store}

@[simp]
theorem leads_pure {result value : Value} :
    Leads rely now (pure result : Transaction Key Store Error Value) before
        value after ↔
      value = result ∧ after = before :=
  Iff.rfl

@[simp]
theorem leads_done {result value : Value} :
    Leads rely now (.done result : Transaction Key Store Error Value) before
        value after ↔
      value = result ∧ after = before :=
  Iff.rfl

@[simp]
theorem leads_fail {error : Error} {value : Value} :
    ¬Leads rely now (.fail error : Transaction Key Store Error Value) before
      value after :=
  fun never => never

/-- A sequence of two transactions passes through the end of the first. -/
theorem leads_bind {first : Transaction Key Store Error Value}
    {next : Value → Transaction Key Store Error Next} {value : Next} :
    Leads rely now (first >>= next) before value after ↔
      ∃ middleValue middle, Leads rely now first before middleValue middle ∧
        Leads rely now (next middleValue) middle value after := by
  change Leads rely now (first.bind next) before value after ↔ _
  induction first generalizing before with
  | done result =>
      constructor
      · intro leads
        exact ⟨result, before, ⟨rfl, rfl⟩, leads⟩
      · rintro ⟨_, _, ⟨rfl, rfl⟩, leads⟩
        exact leads
  | fail error =>
      constructor
      · exact False.elim
      · rintro ⟨_, _, never, _⟩
        exact never.elim
  | read pinned rest ih =>
      constructor
      · rintro ⟨earlier, allowed, leads⟩
        obtain ⟨middleValue, middle, first, second⟩ := (ih _).mp leads
        exact ⟨middleValue, middle, ⟨earlier, allowed, first⟩, second⟩
      · rintro ⟨middleValue, middle, ⟨earlier, allowed, first⟩, second⟩
        exact ⟨earlier, allowed, (ih _).mpr ⟨_, _, first, second⟩⟩
  | lock key rest ih =>
      constructor
      · rintro ⟨earlier, allowed, leads⟩
        obtain ⟨middleValue, middle, first, second⟩ := (ih _).mp leads
        exact ⟨middleValue, middle, ⟨earlier, allowed, first⟩, second⟩
      · rintro ⟨middleValue, middle, ⟨earlier, allowed, first⟩, second⟩
        exact ⟨earlier, allowed, (ih _).mpr ⟨_, _, first, second⟩⟩
  | write change rest ih => exact ih

/-- Locks are only released at the commit. -/
theorem Leads.held_subset {transaction : Transaction Key Store Error Value}
    {value : Value} (leads : Leads rely now transaction before value after) :
    before.held ⊆ after.held := by
  induction transaction generalizing before with
  | done result => exact leads.2 ▸ le_refl _
  | fail error => exact False.elim leads
  | read pinned rest ih =>
      obtain ⟨_, _, rest⟩ := leads
      exact ih _ rest
  | lock key rest ih =>
      obtain ⟨_, _, rest⟩ := leads
      exact (Set.subset_insert _ _).trans (ih _ rest)
  | write change rest ih =>
      have later : Leads rely now rest (before.write change) value after :=
        leads
      have grown := ih later
      exact grown

@[simp]
theorem leads_query {pinned : Bool} {value : Store} :
    Leads rely now (.query pinned : Transaction Key Store Error Store) before
        value after ↔
      ∃ earlier, rely.allows before.held earlier now ∧
        value = before.own earlier ∧ after = before :=
  Iff.rfl

@[simp]
theorem leads_acquire {key : Key} {value : Store} :
    Leads rely now (.acquire key : Transaction Key Store Error Store) before
        value after ↔
      ∃ earlier, rely.allows (insert key before.held) earlier now ∧
        value = before.own earlier ∧ after = before.lock key :=
  Iff.rfl

@[simp]
theorem leads_execute {change : Store → Store} {value : Unit} :
    Leads rely now (.execute change : Transaction Key Store Error Unit) before
        value after ↔
      after = before.write change := by
  constructor
  · exact And.right
  · exact fun same => ⟨rfl, same⟩

theorem leads_mapError {change : Error → Error}
    {transaction : Transaction Key Store Error Value} {value : Value} :
    Leads rely now (transaction.mapError change) before value after ↔
      Leads rely now transaction before value after := by
  induction transaction generalizing before with
  | done result => rfl
  | fail error => rfl
  | read pinned rest ih =>
      exact exists_congr fun _ => and_congr_right fun _ => ih _
  | lock key rest ih =>
      exact exists_congr fun _ => and_congr_right fun _ => ih _
  | write effect rest ih => exact ih

/-- What a transaction does alone is one of the things that it may do next to
others. -/
theorem leads_of_alone (rely : Rely Key Store) {now final : Store}
    {before : Progress Key Store}
    {transaction : Transaction Key Store Error Value} {value : Value}
    (returned : transaction.alone (before.own now) = .ok value final) :
    ∃ after, Leads rely now transaction before value after ∧
      after.own now = final := by
  induction transaction generalizing before with
  | done result =>
      obtain ⟨rfl, rfl⟩ := pure_eq_ok.mp returned
      exact ⟨before, ⟨rfl, rfl⟩, rfl⟩
  | fail error => exact (throw_eq_ok.mp returned).elim
  | read pinned rest ih =>
      obtain ⟨after, leads, after_eq⟩ := ih _ returned
      exact ⟨after, ⟨now, rely.refl _ _, leads⟩, after_eq⟩
  | lock key rest ih =>
      have later : (rest (before.own now)).alone
          ((before.lock key).own now) = .ok value final := returned
      obtain ⟨after, leads, after_eq⟩ := ih _ later
      exact ⟨after, ⟨now, rely.refl _ _, leads⟩, after_eq⟩
  | write change rest ih =>
      have later : rest.alone ((before.write change).own now) =
          .ok value final := returned
      obtain ⟨after, leads, after_eq⟩ := ih later
      exact ⟨after, leads, after_eq⟩

/-- The same of a transaction from its start. -/
theorem leads_of_alone_start (rely : Rely Key Store) {now final : Store}
    {transaction : Transaction Key Store Error Value} {value : Value}
    (returned : transaction.alone now = .ok value final) :
    ∃ after, Leads rely now transaction .start value after ∧
      after.own now = final := by
  have started : transaction.alone ((Progress.start : Progress Key Store).own
      now) = .ok value final := returned
  exact leads_of_alone rely started

/-- A part that only writes does what it does alone. -/
theorem Leads.alone_of_blind {transaction : Transaction Key Store Error Value}
    {value : Value} (leads : Leads rely now transaction before value after)
    (blind : transaction.Blind) :
    transaction.alone (before.own now) = .ok value (after.own now) ∧
      after.held = before.held := by
  induction transaction generalizing before with
  | done result =>
      obtain ⟨rfl, rfl⟩ := leads
      exact ⟨rfl, rfl⟩
  | fail error => exact False.elim leads
  | read pinned rest ih => exact blind.elim
  | lock key rest ih => exact blind.elim
  | write change rest ih =>
      have later : Leads rely now rest (before.write change) value after :=
        leads
      exact ih later blind

/-- A property of the writes of a transaction that holds of what was written
before holds of all that is written. -/
theorem Leads.own_of_writes {transaction : Transaction Key Store Error Value}
    {value : Value} {allowed : (Store → Store) → Prop}
    (composes : ∀ first second, allowed first → allowed second →
      allowed (second ∘ first))
    (leads : Leads rely now transaction before value after)
    (writes : transaction.Writes allowed) (already : allowed before.own) :
    allowed after.own := by
  induction transaction generalizing before with
  | done result => exact leads.2 ▸ already
  | fail error => exact False.elim leads
  | read pinned rest ih =>
      obtain ⟨_, _, later⟩ := leads
      exact ih _ later (writes _) already
  | lock key rest ih =>
      obtain ⟨_, _, later⟩ := leads
      exact ih _ later (writes _) already
  | write change rest ih =>
      have later : Leads rely now rest (before.write change) value after :=
        leads
      exact ih later writes.2
        (composes before.own change already writes.1)

/-- A part that only reads leaves what was written as it is. -/
theorem Leads.own_of_reads {transaction : Transaction Key Store Error Value}
    {value : Value} (leads : Leads rely now transaction before value after)
    (reads : transaction.Writes fun _ => False) : after.own = before.own := by
  induction transaction generalizing before with
  | done result => exact congrArg Progress.own leads.2
  | fail error => exact False.elim leads
  | read pinned rest ih =>
      obtain ⟨_, _, later⟩ := leads
      exact ih _ later (reads _)
  | lock key rest ih =>
      obtain ⟨_, _, later⟩ := leads
      have same := ih _ later (reads _)
      exact same
  | write change rest ih => exact reads.1.elim

/-- What no write of a transaction changes is as it was before. -/
theorem Leads.own_keeps {Part : Type} {part : Store → Part}
    {transaction : Transaction Key Store Error Value} {value : Value}
    (leads : Leads rely now transaction before value after)
    (keeps : transaction.Writes fun change =>
      ∀ store, part (change store) = part store) (store : Store) :
    part (after.own store) = part (before.own store) := by
  induction transaction generalizing before with
  | done result => rw [leads.2]
  | fail error => exact False.elim leads
  | read pinned rest ih =>
      obtain ⟨_, _, later⟩ := leads
      exact ih _ later (keeps _)
  | lock key rest ih =>
      obtain ⟨_, _, later⟩ := leads
      have kept := ih _ later (keeps _)
      exact kept
  | write change rest ih =>
      have later : Leads rely now rest (before.write change) value after :=
        leads
      exact (ih later keeps.2).trans (keeps.1 (before.own store))

end Leads

/-- A transaction that has begun and is neither committed nor rolled back. -/
structure Flight (Request : Type u) (Key Store Error Value : Type) where
  request : Request
  own : Store → Store
  rest : Transaction Key Store Error Value

/-- A commit, with the committed stores before and after it. -/
structure Commit (Request : Type u) (Store Value : Type) where
  request : Request
  value : Value
  before : Store
  after : Store

/-- The committed store, who holds which lock, the transactions in flight, and
the commits so far. -/
structure System (Client : Type) (Request : Type u)
    (Key Store Error Value : Type) where
  committed : Store
  owner : Key → Option Client := fun _ => none
  flights : Client → Option (Flight Request Key Store Error Value) :=
    fun _ => none
  log : List (Commit Request Store Value) := []

/-- A client begins a transaction, goes on with it by one statement, or has it
rolled back. -/
inductive Action (Client : Type) (Request : Type u) where
  | start (client : Client) (request : Request)
  | advance (client : Client)
  | abort (client : Client)

namespace System

variable [DecidableEq Client] [DecidableEq Key]

/-- The rows that a client has locked. -/
def held (system : System Client Request Key Store Error Value)
    (client : Client) : Set Key :=
  fun key => system.owner key = some client

/-- The client goes on with another flight. -/
def fly (system : System Client Request Key Store Error Value)
    (client : Client) (flight : Flight Request Key Store Error Value) :
    System Client Request Key Store Error Value :=
  { system with flights := Function.update system.flights client flight }

/-- The transaction of the client is over and its locks are released. -/
def release (system : System Client Request Key Store Error Value)
    (client : Client) : System Client Request Key Store Error Value :=
  { system with
    owner := fun key =>
      if system.owner key = some client then none else system.owner key
    flights := Function.update system.flights client none }

/-- Nobody else holds the lock. -/
def canLock (system : System Client Request Key Store Error Value)
    (client : Client) (key : Key) : Bool :=
  system.owner key = none || system.owner key = some client

/-- The commit that the next statement of a client makes, if it makes one. -/
def commitOf (system : System Client Request Key Store Error Value) :
    Action Client Request → Option (Commit Request Store Value)
  | .advance client =>
      match system.flights client with
      | some { request, own, rest := .done value } => some {
          request
          value
          before := system.committed
          after := own system.committed }
      | _ => none
  | _ => none

/-- The next statement of a flight. -/
def advance (system : System Client Request Key Store Error Value)
    (client : Client) (flight : Flight Request Key Store Error Value) :
    System Client Request Key Store Error Value :=
  match flight.rest with
  | .done value =>
      { system.release client with
        committed := flight.own system.committed
        log := system.log ++ [{
          request := flight.request
          value
          before := system.committed
          after := flight.own system.committed }] }
  | .fail _ => system.release client
  | .read _ rest => system.fly client
      { flight with rest := rest (flight.own system.committed) }
  | .lock key rest =>
      if system.canLock client key then
        { system.fly client
            { flight with rest := rest (flight.own system.committed) } with
          owner := Function.update system.owner key client }
      -- The statement waits.
      else system
  | .write change rest => system.fly client
      { flight with own := change ∘ flight.own, rest }

def step (program : Request → Transaction Key Store Error Value)
    (system : System Client Request Key Store Error Value) :
    Action Client Request → System Client Request Key Store Error Value
  | .start client request =>
      match system.flights client with
      | some _ => system
      | none => system.fly client
          { request, own := id, rest := program request }
  | .advance client =>
      match system.flights client with
      | some flight => system.advance client flight
      | none => system
  | .abort client => system.release client

/-- The commits of a run meet a condition. -/
def CommitsMeet (condition : Commit Request Store Value → Prop)
    (system : System Client Request Key Store Error Value)
    (action : Action Client Request) : Prop :=
  ∀ commit ∈ system.commitOf action, condition commit

instance (condition : Commit Request Store Value → Prop)
    [DecidablePred condition]
    (system : System Client Request Key Store Error Value)
    (action : Action Client Request) :
    Decidable (system.CommitsMeet condition action) :=
  inferInstanceAs (Decidable (∀ commit ∈ system.commitOf action, _))

end System

/-- The commits lead from one store to another, one after the other. -/
def Chained : Store → List (Commit Request Store Value) → Store → Prop
  | first, [], last => first = last
  | first, commit :: commits, last =>
      commit.before = first ∧ Chained commit.after commits last

theorem chained_concat {first last : Store}
    {commits : List (Commit Request Store Value)}
    {commit : Commit Request Store Value} (chained : Chained first commits last)
    (continues : commit.before = last) :
    Chained first (commits ++ [commit]) commit.after := by
  induction commits generalizing first with
  | nil =>
      subst chained
      exact ⟨continues, rfl⟩
  | cons head commits ih => exact ⟨chained.1, ih chained.2⟩

/-- An invariant of the commits holds at the end of the chain. -/
theorem Chained.invariant {first last : Store}
    {commits : List (Commit Request Store Value)} {holds : Store → Prop}
    (chained : Chained first commits last) (initially : holds first)
    (preserved : ∀ commit ∈ commits, holds commit.before →
      holds commit.after) :
    holds last := by
  induction commits generalizing first with
  | nil => exact chained ▸ initially
  | cons commit commits ih =>
      refine ih chained.2 ?_ fun later laterMem =>
        preserved later (List.mem_cons_of_mem _ laterMem)
      exact preserved commit List.mem_cons_self (chained.1 ▸ initially)

/-- A measure that every commit changes by its amount is changed by the sum of
the amounts. -/
theorem Chained.sum {Sum : Type} [AddCommGroup Sum] {first last : Store}
    {commits : List (Commit Request Store Value)} (measure : Store → Sum)
    (amount : Commit Request Store Value → Sum)
    (chained : Chained first commits last)
    (changed : ∀ commit ∈ commits,
      measure commit.after = measure commit.before + amount commit) :
    measure last = measure first + (commits.map amount).sum := by
  induction commits generalizing first with
  | nil =>
      subst chained
      simp
  | cons commit commits ih =>
      have later := ih chained.2 fun other otherMem =>
        changed other (List.mem_cons_of_mem _ otherMem)
      rw [later, changed commit List.mem_cons_self, chained.1, List.map_cons,
        List.sum_cons, add_assoc]

section Runs

variable [DecidableEq Client]

/-- Whatever the flight leads to, its whole transaction leads to. -/
def Follows (rely : Rely Key Store)
    (program : Request → Transaction Key Store Error Value)
    (committed : Store) (held : Set Key)
    (flight : Flight Request Key Store Error Value) : Prop :=
  ∀ now, rely.allows held committed now → ∀ value after,
    Leads rely now flight.rest ⟨held, flight.own⟩ value after →
      Leads rely now (program flight.request) .start value after

/-- The commit is one that the program of its request leads to. -/
def Commit.IsOf (rely : Rely Key Store)
    (program : Request → Transaction Key Store Error Value)
    (commit : Commit Request Store Value) : Prop :=
  ∃ progress, Leads rely commit.before (program commit.request) .start
      commit.value progress ∧
    commit.after = progress.own commit.before

/-- The commits so far are a chain of commits that their programs lead to, and
every flight follows its program. -/
structure Tracked (rely : Rely Key Store)
    (program : Request → Transaction Key Store Error Value)
    (condition : Commit Request Store Value → Prop) (initial : Store)
    (system : System Client Request Key Store Error Value) : Prop where
  chained : Chained initial system.log system.committed
  commits : ∀ commit ∈ system.log,
    commit.IsOf rely program ∧ condition commit
  follows : ∀ client flight, system.flights client = some flight →
    Follows rely program system.committed (system.held client) flight
  idle : ∀ client, system.flights client = none → system.held client = ∅

section Held

variable {system : System Client Request Key Store Error Value}
  {client other : Client}

theorem held_release_self : (system.release client).held client = ∅ := by
  apply Set.eq_empty_of_forall_notMem
  intro key holds
  change (if system.owner key = some client then none
    else system.owner key) = some client at holds
  split at holds
  · cases holds
  · next notOwner => exact notOwner holds

theorem held_release_of_ne (otherNe : other ≠ client) :
    (system.release client).held other = system.held other := by
  ext key
  change (if system.owner key = some client then none
    else system.owner key) = some other ↔ system.owner key = some other
  split
  · next isOwner =>
      rw [isOwner]
      constructor
      · intro never
        cases never
      · intro same
        exact absurd (Option.some.inj same).symm otherNe
  · rfl

omit [DecidableEq Client] in
/-- Rows that one client has locked are not locked by another. -/
theorem held_subset_compl (otherNe : other ≠ client) :
    system.held other ⊆ (system.held client)ᶜ := by
  intro key otherHolds holds
  exact otherNe (Option.some.inj (otherHolds.symm.trans holds))

variable [DecidableEq Key] {key : Key}

omit [DecidableEq Client] in
theorem held_update_self (owner : Key → Option Client) :
    {row | Function.update owner key client row = some client} =
      insert key {row | owner row = some client} := by
  ext row
  by_cases same : row = key <;> simp [same]

theorem held_update_of_ne (free : system.canLock client key = true)
    (otherNe : other ≠ client) :
    {row | Function.update system.owner key client row = some other} =
      system.held other := by
  ext row
  change Function.update system.owner key (some client) row = some other ↔
    system.owner row = some other
  by_cases same : row = key
  · subst row
    rw [Function.update_self]
    rw [System.canLock, Bool.or_eq_true, decide_eq_true_eq,
      decide_eq_true_eq] at free
    constructor
    · intro equal
      exact absurd (Option.some.inj equal).symm otherNe
    · intro owns
      rcases free with unowned | owned
      · rw [unowned] at owns
        cases owns
      · rw [owned] at owns
        exact absurd (Option.some.inj owns).symm otherNe
  · rw [Function.update_of_ne same]

end Held

section Steps

variable {rely : Rely Key Store}
  {program : Request → Transaction Key Store Error Value}
  {condition : Commit Request Store Value → Prop} {initial : Store}
  {system next : System Client Request Key Store Error Value}
  {client : Client}

/-- A step of one client changes its own flight and locks, and the committed
store at most by what all the others allow. -/
theorem tracked_of_update
    {landing : Option (Flight Request Key Store Error Value)}
    (tracked : Tracked rely program condition initial system)
    (chained : Chained initial next.log next.committed)
    (commits : ∀ commit ∈ next.log,
      commit.IsOf rely program ∧ condition commit)
    (flights_eq :
      next.flights = Function.update system.flights client landing)
    (held_eq : ∀ other, other ≠ client → next.held other = system.held other)
    (published : ∀ other, other ≠ client →
      rely.allows (system.held other) system.committed next.committed)
    (follows : ∀ flight, landing = some flight →
      Follows rely program next.committed (next.held client) flight)
    (idle : landing = none → next.held client = ∅) :
    Tracked rely program condition initial next where
  chained := chained
  commits := commits
  follows other flight flies := by
    rw [flights_eq] at flies
    by_cases same : other = client
    · subst same
      rw [Function.update_self] at flies
      exact follows flight flies
    · rw [Function.update_of_ne same] at flies
      rw [held_eq other same]
      intro now allowed
      exact tracked.follows other flight flies now
        (rely.trans _ _ _ _ (published other same) allowed)
  idle other grounded := by
    rw [flights_eq] at grounded
    by_cases same : other = client
    · subst same
      rw [Function.update_self] at grounded
      exact idle grounded
    · rw [Function.update_of_ne same] at grounded
      exact (held_eq other same).trans (tracked.idle other grounded)

variable (tracked : Tracked rely program condition initial system)

include tracked

/-- A flight that goes on without a commit or a new lock. -/
theorem tracked_fly {flight : Flight Request Key Store Error Value}
    (follows : Follows rely program system.committed (system.held client)
      flight) :
    Tracked rely program condition initial (system.fly client flight) := by
  refine tracked_of_update tracked tracked.chained tracked.commits rfl
    (fun _ _ => rfl) (fun _ _ => rely.refl _ _) ?_ ?_
  · rintro _ ⟨⟩
    exact follows
  · rintro ⟨⟩

theorem tracked_release :
    Tracked rely program condition initial (system.release client) := by
  refine tracked_of_update tracked tracked.chained tracked.commits rfl
    (fun _ => held_release_of_ne) (fun _ _ => rely.refl _ _) ?_ ?_
  · rintro _ ⟨⟩
  · intro _
    exact held_release_self

/-- A flight that has got the lock of a row. -/
theorem tracked_lock [DecidableEq Key] {key : Key}
    {flight : Flight Request Key Store Error Value}
    (free : system.canLock client key = true)
    (follows : Follows rely program system.committed
      (insert key (system.held client)) flight) :
    Tracked rely program condition initial
      { system.fly client flight with
        owner := Function.update system.owner key client } := by
  refine tracked_of_update tracked tracked.chained tracked.commits rfl
    (fun _ => held_update_of_ne free) (fun _ _ => rely.refl _ _) ?_ ?_
  · rintro _ ⟨⟩
    change Follows rely program system.committed
      {row | Function.update system.owner key client row = some client} _
    rw [held_update_self]
    exact follows
  · rintro ⟨⟩

/-- A commit publishes what its transaction has written; the flights of the
others follow their programs from the new store as well, since it differs by
what they allow. -/
theorem tracked_commit {flight : Flight Request Key Store Error Value}
    {value : Value} (flies : system.flights client = some flight)
    (isDone : flight.rest = .done value)
    (meets : condition {
      request := flight.request
      value
      before := system.committed
      after := flight.own system.committed })
    (guarantee : rely.allows (system.held client)ᶜ system.committed
      (flight.own system.committed)) :
    Tracked rely program condition initial
      { system.release client with
        committed := flight.own system.committed
        log := system.log ++ [{
          request := flight.request
          value
          before := system.committed
          after := flight.own system.committed }] } := by
  refine tracked_of_update tracked (chained_concat tracked.chained rfl) ?_ rfl
    (fun _ => held_release_of_ne) ?_ ?_ ?_
  · intro commit member
    rcases List.mem_append.mp member with earlier | new
    · exact tracked.commits commit earlier
    · rw [List.mem_singleton] at new
      subst new
      refine ⟨⟨⟨system.held client, flight.own⟩, ?_, rfl⟩, meets⟩
      apply tracked.follows client flight flies _ (rely.refl _ _)
      rw [isDone]
      exact ⟨rfl, rfl⟩
  · intro other otherNe
    exact rely.anti _ _ _ _ (held_subset_compl otherNe) guarantee
  · rintro _ ⟨⟩
  · intro _
    exact held_release_self

end Steps

/-- What every commit of a program guarantees to the clients that hold other
locks. -/
def Guarantees (rely : Rely Key Store)
    (program : Request → Transaction Key Store Error Value)
    (condition : Commit Request Store Value → Prop) : Prop :=
  ∀ request before value progress,
    Leads rely before (program request) .start value progress →
    condition { request, value, before, after := progress.own before } →
    rely.allows progress.heldᶜ before (progress.own before)

variable {rely : Rely Key Store}
  {program : Request → Transaction Key Store Error Value}
  {condition : Commit Request Store Value → Prop} {initial : Store}

theorem tracked_step [DecidableEq Key]
    (guarantees : Guarantees rely program condition)
    {system : System Client Request Key Store Error Value}
    {action : Action Client Request}
    (tracked : Tracked rely program condition initial system)
    (meets : system.CommitsMeet condition action) :
    Tracked rely program condition initial (system.step program action) := by
  cases action with
  | start client request =>
      rw [System.step]
      cases grounded : system.flights client with
      | some flight => exact tracked
      | none =>
          apply tracked_fly tracked
          intro now _ value after leads
          rw [tracked.idle client grounded] at leads
          exact leads
  | abort client => exact tracked_release tracked
  | advance client =>
      rw [System.step]
      cases flies : system.flights client with
      | none => exact tracked
      | some flight =>
          have follows := tracked.follows client flight flies
          obtain ⟨request, own, rest⟩ := flight
          cases rest with
          | done value =>
              have holds : condition {
                  request
                  value
                  before := system.committed
                  after := own system.committed } := by
                apply meets
                simp [System.commitOf, flies]
              apply tracked_commit tracked flies rfl holds
              exact guarantees request system.committed value
                ⟨system.held client, own⟩
                (follows _ (rely.refl _ _) _ _ ⟨rfl, rfl⟩) holds
          | fail error => exact tracked_release tracked
          | read pinned rest =>
              apply tracked_fly tracked
              intro now allowed value after leads
              exact follows now allowed value after
                ⟨system.committed, allowed, leads⟩
          | lock key rest =>
              simp only [System.advance]
              split
              · next free =>
                  apply tracked_lock tracked free
                  intro now allowed value after leads
                  apply follows now _ value after
                    ⟨system.committed, allowed, leads⟩
                  exact rely.anti _ _ _ _ (Set.subset_insert _ _) allowed
              · exact tracked
          | write change rest =>
              apply tracked_fly tracked
              intro now allowed value after leads
              exact follows now allowed value after leads

/-- Any number of clients, in any interleaving: the committed store is reached
by a chain of commits, each one led to by its own program from stores that the
others were allowed to change. -/
theorem exec_tracked [DecidableEq Key]
    (guarantees : Guarantees rely program condition)
    {actions : List (Action Client Request)}
    (meets : Guarded (System.step program)
      (fun system => System.CommitsMeet condition system)
      { committed := initial } actions) :
    Tracked rely program condition initial
      (exec (System.step program) { committed := initial } actions) := by
  apply exec_invariant (fun _ _ tracked meets =>
    tracked_step guarantees tracked meets) _ meets
  refine ⟨rfl, by simp, ?_, ?_⟩
  · intro client flight flies
    cases flies
  · intro client _
    apply Set.eq_empty_of_forall_notMem
    intro key holds
    cases holds

/-- Without a condition every run will do. -/
theorem commitsMeet_true [DecidableEq Key]
    (system : System Client Request Key Store Error Value)
    (actions : List (Action Client Request)) :
    Guarded (System.step program)
      (fun system => System.CommitsMeet (fun _ => True) system) system
      actions :=
  (guarded_true system actions).mono fun _ _ _ _ _ => trivial

end Runs

end LockingTransactions
