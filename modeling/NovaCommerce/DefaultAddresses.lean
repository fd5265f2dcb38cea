import NovaCommerce.Addresses
import NovaCommerce.GuardedRun
import NovaCommerce.TenantIsolation
import NovaCommerce.UniqueMarks

/-!
# One default address of a kind

Creating a default address and `make_default` leave a user one default address
of the kind, but an update writes the kind and the mark as they were submitted.
A user keeps at most one default address of each kind exactly in the runs in
which no update leaves an address the second one.
-/

namespace NovaCommerce

open GuardedRun

/-- The default addresses of a user and a kind. -/
def defaultAddresses (table : Table Address) (user : Uuid)
    (kind : AddressKind) : List Address :=
  (objects table).filter fun address =>
    address.isDefault && address.user = user && address.kind = kind

/-- No user has two default addresses of a kind. -/
def OneDefault (table : Table Address) : Prop :=
  ∀ user kind, (defaultAddresses table user kind).length ≤ 1

/-- A request, and who makes it. -/
structure AddressStep where
  actor : Option User
  request : AddressRequest

namespace AddressStep

def step (reader : UuidReader) (table : Table Address) (label : AddressStep) :
    Table Address :=
  (label.request.respond reader label.actor table).2

/-- An update that is saved does not leave its address a default one of a kind
of which the user has another default address. -/
def KeepsOneDefault (reader : UuidReader) (table : Table Address) :
    AddressStep → Prop
  | ⟨some user, .update pk isPartial fields⟩ => ∀ address,
      AddressViewSet.getObject reader table user pk = .ok address →
        AddressSerializer.errors isPartial fields = [] →
          (fields.setOn address).location.storable = true →
            (fields.setOn address).isDefault = true →
              ∀ other ∈
                  defaultAddresses table user.id (fields.setOn address).kind,
                other.id = address.id
  | _ => True

end AddressStep

/-- The mark of a default address names its user and its kind. -/
def defaultMark (address : Address) : Option (Uuid × AddressKind) :=
  if alive address && address.isDefault then some (address.user, address.kind)
  else none

theorem defaultMark_eq_some {address : Address} {user : Uuid}
    {kind : AddressKind} :
    defaultMark address = some (user, kind) ↔
      alive address = true ∧ address.isDefault = true ∧ address.user = user ∧
        address.kind = kind := by
  unfold defaultMark
  split
  · next marked => simp_all
  · next unmarked => simp_all

theorem mem_defaultAddresses {table : Table Address} {user : Uuid}
    {kind : AddressKind} {address : Address} :
    address ∈ defaultAddresses table user kind ↔
      address ∈ table.rows ∧ defaultMark address = some (user, kind) := by
  rw [defaultMark_eq_some]
  simp only [defaultAddresses, objects, List.mem_filter, Bool.and_eq_true,
    decide_eq_true_eq]
  tauto

theorem oneDefault_iff (table : Table Address) :
    OneDefault table ↔ table.UniquelyMarked defaultMark := by
  rw [Table.uniquelyMarked_iff_length, Prod.forall]
  refine forall_congr' fun user => forall_congr' fun kind => ?_
  have sameRows : defaultAddresses table user kind =
      table.rows.filter fun address =>
        defaultMark address = some (user, kind) := by
    rw [defaultAddresses, objects, List.filter_filter]
    apply List.filter_congr
    intro address _
    rw [Bool.eq_iff_iff]
    simp only [decide_eq_true_eq, defaultMark_eq_some]
    simp [and_comm, and_assoc]
  rw [sameRows]

/-- The user's addresses of the kind lose the mark, the others keep theirs. -/
theorem defaultMark_clearDefault (user : Uuid) (kind : AddressKind)
    (address : Address) :
    defaultMark (clearDefault user kind address) =
      if defaultMark address = some (user, kind) then none
      else defaultMark address := by
  unfold clearDefault
  split
  · next cleared =>
      simp only [Bool.and_eq_true, decide_eq_true_eq] at cleared
      obtain ⟨⟨isAlive, rfl⟩, rfl⟩ := cleared
      cases isDefault : address.isDefault <;>
        simp [defaultMark, isAlive, isDefault]
  · next other =>
      rw [if_neg]
      intro marked
      obtain ⟨isAlive, _, rfl, rfl⟩ := defaultMark_eq_some.mp marked
      simp [isAlive] at other

theorem clearDefault_lessMarked (user : Uuid) (kind : AddressKind)
    (address : Address) :
    defaultMark (clearDefault user kind address) = defaultMark address ∨
      defaultMark (clearDefault user kind address) = none := by
  rw [defaultMark_clearDefault]
  split
  · exact Or.inr rfl
  · exact Or.inl rfl

section Actions

variable {reader : UuidReader} {table : Table Address} {user : User}

theorem mem_of_getAddress {pk : String} {address : Address}
    (found : AddressViewSet.getObject reader table user pk = .ok address) :
    address ∈ table.rows ∧ alive address = true ∧ address.user = user.id := by
  unfold AddressViewSet.getObject at found
  cases isRead : reader.read pk with
  | none => simp [isRead] at found
  | some id =>
      cases looked : (objects table).find? fun address =>
          address.user = user.id && address.id = id with
      | none => simp [isRead, looked] at found
      | some other =>
          simp only [isRead, looked, Except.ok.injEq] at found
          subst found
          have holds := List.find?_some looked
          simp only [Bool.and_eq_true, decide_eq_true_eq] at holds
          obtain ⟨member, isAlive⟩ := List.mem_filter.mp
            (List.mem_of_find?_eq_some looked)
          exact ⟨member, isAlive, holds.1⟩

/-- No address bears a mark that was taken off. -/
theorem defaultMark_alter_clearDefault {kind : AddressKind}
    {address : Address}
    (member : address ∈ (table.alter (clearDefault user.id kind)
      (key_clearDefault user.id kind)).rows) :
    defaultMark address ≠ some (user.id, kind) := by
  rw [Table.rows_alter] at member
  obtain ⟨old, _, rfl⟩ := List.mem_map.mp member
  rw [defaultMark_clearDefault]
  split
  · simp
  · next other => exact other

/-- A new default address takes the mark off the others. -/
theorem uniquelyMarked_performCreate
    (unique : table.UniquelyMarked defaultMark) (session : Session)
    (fields : AddressFields) (fullName phone city street : String) :
    (AddressViewSet.performCreate session user fields fullName phone city
      street table).2.UniquelyMarked defaultMark := by
  let build := AddressViewSet.newAddress session user fields fullName phone
    city street
  let address := build (FreshKey.fresh table.keys)
  have hasKey : ∀ id, Keyed.key (build id) = id :=
    AddressViewSet.key_newAddress session user fields fullName phone city
      street
  unfold AddressViewSet.performCreate
  dsimp only
  split
  · exact unique
  change (if address.isDefault then
      (table.create build hasKey).alter (AddressViewSet.clearOthers address)
        (AddressViewSet.key_clearOthers address)
    else table.create build hasKey).UniquelyMarked defaultMark
  split
  · have keepsNew : AddressViewSet.clearOthers address address = address :=
      if_pos rfl
    have clears : table.alter (AddressViewSet.clearOthers address)
          (AddressViewSet.key_clearOthers address) =
        table.alter (clearDefault user.id address.kind)
          (key_clearDefault user.id address.kind) := by
      apply Table.alter_congr
      intro old oldMem
      apply if_neg
      intro sameId
      apply FreshKey.fresh_notMem table.keys
      have sameKey : Keyed.key old = FreshKey.fresh table.keys := sameId
      rw [← sameKey]
      exact List.mem_map_of_mem oldMem
    rw [Table.alter_create table _ build hasKey keepsNew, clears]
    apply (unique.alter _ (clearDefault_lessMarked _ _)).create
    intro group marked row rowMem
    rw [Table.keys_alter] at marked
    have ofNew : group = (user.id, address.kind) := by
      obtain ⟨_, _, ofUser, ofKind⟩ := defaultMark_eq_some.mp marked
      exact Prod.ext ofUser.symm ofKind.symm
    rw [ofNew]
    exact defaultMark_alter_clearDefault rowMem
  · next notDefault =>
      apply unique.create
      intro group marked
      exact absurd (defaultMark_eq_some.mp marked).2.1 notDefault

theorem uniquelyMarked_create (unique : table.UniquelyMarked defaultMark)
    (session : Session) (fields : AddressFields) :
    (AddressViewSet.create session user fields table).2.UniquelyMarked
      defaultMark := by
  unfold AddressViewSet.create
  split
  · exact uniquelyMarked_performCreate unique session fields _ _ _ _
  · exact unique

/-- An action keeps the marks unique if it does so on the object that it
finds. -/
theorem uniquelyMarked_onObject_iff
    (unique : table.UniquelyMarked defaultMark) {pk : String}
    {act : Address → AddressCall} (keeps : Address → Prop)
    (kept : ∀ address ∈ table.rows, alive address = true →
      address.user = user.id →
        ((act address table).2.UniquelyMarked defaultMark ↔ keeps address)) :
    (AddressViewSet.onObject reader user pk act table).2.UniquelyMarked
        defaultMark ↔
      ∀ address,
        AddressViewSet.getObject reader table user pk = .ok address →
          keeps address := by
  unfold AddressViewSet.onObject
  cases found : AddressViewSet.getObject reader table user pk with
  | error refusal => simpa using unique
  | ok address =>
      obtain ⟨member, isAlive, isOwn⟩ := mem_of_getAddress found
      simpa using kept address member isAlive isOwn

/-- A deleted address bears no mark. -/
theorem uniquelyMarked_destroy (unique : table.UniquelyMarked defaultMark)
    (session : Session) (pk : String) :
    (AddressViewSet.destroy reader session user pk table).2.UniquelyMarked
      defaultMark := by
  refine (uniquelyMarked_onObject_iff unique (fun _ => True) ?_).mpr
    fun _ _ => trivial
  intro address member _ _
  refine iff_of_true ((unique.save_iff member ?_).mpr ?_) trivial
  · rfl
  · intro group marked
    cases (defaultMark_eq_some.mp marked).1

/-- The new default address is the only one of its kind that bears the mark. -/
theorem uniquelyMarked_makeDefault (unique : table.UniquelyMarked defaultMark)
    (pk : String) :
    (AddressViewSet.makeDefault reader user pk table).2.UniquelyMarked
      defaultMark := by
  refine (uniquelyMarked_onObject_iff unique (fun _ => True) ?_).mpr
    fun _ _ => trivial
  intro address member isAlive isOwn
  have cleared := unique.alter (key_clearDefault user.id address.kind)
    (clearDefault_lessMarked user.id address.kind)
  have clearedMem : clearDefault user.id address.kind address ∈
      (table.alter (clearDefault user.id address.kind)
        (key_clearDefault user.id address.kind)).rows :=
    List.mem_map_of_mem member
  refine iff_of_true ((cleared.save_iff clearedMem ?_).mpr ?_) trivial
  · exact (key_clearDefault user.id address.kind address).symm
  · intro group marked row rowMem _
    have ofNew : group = (user.id, address.kind) := by
      obtain ⟨_, _, ofUser, ofKind⟩ := defaultMark_eq_some.mp marked
      exact Prod.ext (ofUser.symm.trans isOwn) ofKind.symm
    rw [ofNew]
    exact defaultMark_alter_clearDefault rowMem

/-- An update that is saved keeps the marks unique exactly if it leaves no
second mark of a kind. -/
theorem uniquelyMarked_update_iff (unique : table.UniquelyMarked defaultMark)
    {pk : String} {isPartial : Bool} {fields : AddressFields} :
    (AddressViewSet.update reader user pk isPartial fields
        table).2.UniquelyMarked defaultMark ↔
      AddressStep.KeepsOneDefault reader table
        ⟨some user, .update pk isPartial fields⟩ := by
  refine uniquelyMarked_onObject_iff unique _ ?_
  intro address member isAlive isOwn
  cases invalid : AddressSerializer.errors isPartial fields with
  | cons error errors => simpa using unique
  | nil =>
      have sameKey : Keyed.key (fields.setOn address) = Keyed.key address := rfl
      dsimp only
      by_cases unstorable : (!(fields.setOn address).location.storable) = true
      · rw [if_pos unstorable]
        refine iff_of_true unique fun _ storable => ?_
        rw [storable] at unstorable
        cases unstorable
      rw [if_neg unstorable, unique.save_iff member sameKey]
      constructor
      · intro unused _ _ isDefault other otherDefault
        obtain ⟨otherMem, otherMark⟩ := mem_defaultAddresses.mp otherDefault
        have savedMark : defaultMark (fields.setOn address) =
            some (user.id, (fields.setOn address).kind) :=
          defaultMark_eq_some.mpr ⟨isAlive, isDefault, isOwn, rfl⟩
        by_contra otherKey
        exact unused _ savedMark other otherMem otherKey otherMark
      · intro keeps group savedMark other otherMem otherKey otherMark
        obtain ⟨_, isDefault, ofUser, ofKind⟩ :=
          defaultMark_eq_some.mp savedMark
        have otherDefault : other ∈ defaultAddresses table user.id
            (fields.setOn address).kind := by
          rw [mem_defaultAddresses, otherMark, ofKind, ← isOwn]
          exact ⟨otherMem, congrArg some (Prod.ext ofUser.symm rfl)⟩
        have storable : (fields.setOn address).location.storable = true := by
          simpa using unstorable
        exact otherKey (keeps rfl storable isDefault other otherDefault)

/-- Only an update can give a user a second default address of a kind. -/
theorem oneDefault_step_iff (oneDefault : OneDefault table)
    (label : AddressStep) :
    OneDefault (label.step reader table) ↔
      label.KeepsOneDefault reader table := by
  rw [oneDefault_iff] at oneDefault
  rw [oneDefault_iff]
  obtain ⟨actor, request⟩ := label
  cases actor with
  | none => exact iff_of_true oneDefault trivial
  | some user =>
      cases request with
      | list session paginator => exact iff_of_true oneDefault trivial
      | retrieve pk =>
          refine iff_of_true ((uniquelyMarked_onObject_iff oneDefault
            (fun _ => True) ?_).mpr fun _ _ => trivial) trivial
          exact fun _ _ _ _ => iff_of_true oneDefault trivial
      | create session fields =>
          exact iff_of_true
            (uniquelyMarked_create oneDefault session fields) trivial
      | update pk isPartial fields =>
          exact uniquelyMarked_update_iff oneDefault
      | destroy session pk =>
          exact iff_of_true
            (uniquelyMarked_destroy oneDefault session pk) trivial
      | makeDefault pk =>
          exact iff_of_true
            (uniquelyMarked_makeDefault oneDefault pk) trivial

end Actions

/-- From no addresses, no user ever has two default addresses of a kind exactly
in the runs in which no update that is saved leaves its address a second one. -/
theorem one_default_address_iff (reader : UuidReader)
    (requests : List AddressStep) :
    (∀ moment, OneDefault
        (exec (AddressStep.step reader) ∅ (requests.take moment))) ↔
      Guarded (AddressStep.step reader) (AddressStep.KeepsOneDefault reader) ∅
        requests := by
  have noAddresses : OneDefault ∅ :=
    (oneDefault_iff _).mpr Table.uniquelyMarked_empty
  refine (guarded_iff_throughout (fun _ holds => holds) ?_ ?_ noAddresses).symm
  · intro table label oneDefault keeps
    exact (oneDefault_step_iff oneDefault label).mpr keeps
  · intro table label oneDefault after
    exact (oneDefault_step_iff oneDefault label).mp after

/-- A full address of a kind. -/
def addressForm (kind : String) (isDefault : Bool) : AddressFields where
  kind := some kind
  fullName := some "Ada Buyer"
  phone := some "+1"
  city := some "Tashkent"
  street := some "Main"
  isDefault := some isDefault

/-- The user 1 creates a default address for shipping and another address, and
changes some fields of the latter. -/
def changesSecond (second fields : AddressFields) : List AddressStep :=
  [⟨some { id := 1 }, .create { now := 1 } (addressForm "shipping" true)⟩,
    ⟨some { id := 1 }, .create { now := 2 } second⟩,
    ⟨some { id := 1 }, .update "2" true fields⟩]

/-- Both the mark and the kind of an address can be changed so that the user has
two default addresses for shipping. -/
theorem update_makes_second_default :
    let marked := changesSecond (addressForm "shipping" false)
      { isDefault := some true }
    let moved := changesSecond (addressForm "billing" true)
      { kind := some "shipping" }
    ([marked, moved].map fun requests =>
        (defaultAddresses (exec (AddressStep.step decimalUuids) ∅ requests) 1
          .shipping).map fun address => address.id) = [[1, 2], [1, 2]] ∧
      ¬∀ moment, OneDefault
        (exec (AddressStep.step decimalUuids) ∅ (marked.take moment)) := by
  intro marked moved
  refine ⟨by decide +kernel, ?_⟩
  intro oneDefault
  have atMostOne := oneDefault 3 1 .shipping
  revert atMostOne
  decide +kernel

end NovaCommerce
