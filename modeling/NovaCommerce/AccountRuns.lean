import NovaCommerce.Accounts
import NovaCommerce.GuardedRun
import NovaCommerce.UniqueMarks
import Mathlib.Data.List.ReduceOption

/-!
# What accounts can do for themselves

However registrations, logins, profile updates and the seeding of the roles
follow each other, nobody gains a privilege: an account keeps its standing and
its roles, and a new one is an ordinary one.  Who has registered can log in from
then on, by the address as it was stored.
-/

namespace NovaCommerce

open GuardedRun

/-- The unique columns, and the keys that name rows. -/
structure AccountTables.Sound (tables : AccountTables) : Prop where
  emails : tables.users.UniquelyMarked fun account => some account.email
  codes : tables.roles.UniquelyMarked fun role => some role.code
  wishlists : tables.wishlists.UniquelyMarked fun row => some row.user
  wishers : ∀ row ∈ tables.wishlists.rows, row.user ∈ tables.users.keys
  members : ∀ pair ∈ tables.userRoles,
    pair.1 ∈ tables.users.keys ∧ pair.2 ∈ tables.roles.keys

/-- The role that a registration looks for. -/
def AccountTables.customer (tables : AccountTables) : Option Role :=
  (objects tables.roles).find? fun role => role.code = "customer"

section Registration

variable {gateway : AccountGateway} {session : Session} {salt : String}
  {fields : RegisterFields} {email password : String}
  {tables : AccountTables}

/-- The tables after a registration that succeeds. -/
def AccountTables.register (gateway : AccountGateway) (session : Session)
    (salt : String) (fields : RegisterFields) (email password : String)
    (tables : AccountTables) : AccountTables :=
  { tables.saveUser gateway session salt fields email password with
    userRoles := tables.userRoles ++
      (tables.customer.map fun role => (tables.nextUser, role.id)).toList
    wishlists := tables.wishlists.create
      (fun id => { id, createdAt := session.now, user := tables.nextUser })
      (fun _ => rfl) }

theorem mem_keys_create {Row Key : Type} [Keyed Row Key] [FreshKey Key]
    {table : Table Row} (build : Key → Row)
    (hasKey : ∀ key, Keyed.key (build key) = key) {key : Key}
    (known : key ∈ table.keys) : key ∈ (table.create build hasKey).keys := by
  rw [Table.keys, Table.rows_create, List.map_append]
  exact List.mem_append_left _ known

theorem nextUser_notMem (tables : AccountTables) :
    tables.nextUser ∉ tables.users.keys :=
  FreshKey.fresh_notMem _

theorem createWishlist_of_new (session : Session) {user : Uuid}
    (isNew : ∀ row ∈ tables.wishlists.rows, row.user ≠ user) :
    tables.createWishlist session user = some { tables with
      wishlists := tables.wishlists.create
        (fun id => { id, createdAt := session.now, user })
        (fun _ => rfl) } := by
  have unused :
      (tables.wishlists.rows.any fun row => row.user = user) = false := by
    rw [List.any_eq_false]
    exact fun row member same => isNew row member (of_decide_eq_true same)
  have noneAlive :
      ((objects tables.wishlists).any fun row => row.user = user) = false := by
    rw [List.any_eq_false] at unused ⊢
    exact fun row member => unused row (List.mem_filter.mp member).1
  rw [AccountTables.createWishlist, noneAlive, unused]
  rfl

theorem addCustomer_of_new {user : Uuid}
    (isNew : ∀ pair ∈ tables.userRoles, pair.1 ≠ user) :
    tables.addCustomer user = { tables with
      userRoles := tables.userRoles ++
        (tables.customer.map fun role => (user, role.id)).toList } := by
  rw [AccountTables.addCustomer, AccountTables.customer]
  cases (objects tables.roles).find? fun role => role.code = "customer" with
  | none => simp
  | some role =>
      have notMember : (user, role.id) ∉ tables.userRoles :=
        fun member => isNew _ member rfl
      simp [notMember]

theorem createUser_of_taken
    (taken : tables.isTaken (normalizeEmail gateway email) = true) :
    createUser gateway session salt fields email password tables =
      (.internal, tables) :=
  if_pos taken

theorem createUser_of_free (sound : tables.Sound)
    (free : tables.isTaken (normalizeEmail gateway email) = false) :
    createUser gateway session salt fields email password tables =
      (.registered (normalizeEmail gateway email) (fields.firstName.getD "")
          (fields.lastName.getD "") (fields.phone.getD ""),
        tables.register gateway session salt fields email password) := by
  have fresh := nextUser_notMem tables
  have noWishlist : ∀ row ∈ tables.wishlists.rows,
      row.user ≠ tables.nextUser :=
    fun row member same => fresh (same ▸ sound.wishers row member)
  have noRole : ∀ pair ∈ tables.userRoles, pair.1 ≠ tables.nextUser :=
    fun pair member same => fresh (same ▸ (sound.members pair member).1)
  have wished : (tables.saveUser gateway session salt fields email
      password).createWishlist session tables.nextUser = some _ :=
    createWishlist_of_new session noWishlist
  have notTaken : ¬tables.isTaken (newAccount gateway session salt fields
      email password tables.nextUser).email = true := by
    rw [newAccount, free]
    exact Bool.false_ne_true
  rw [createUser, if_neg notTaken]
  dsimp only
  rw [newAccount, wished]
  exact congrArg (Prod.mk _) (addCustomer_of_new noRole)

end Registration

section Roles

variable {before after : AccountTables} {user : Uuid}

/-- The visible roles, each with its code. -/
def AccountTables.namedRoles (tables : AccountTables) :
    List (Uuid × String) :=
  (tables.roles.rows.map fun role =>
    if alive role then some (role.id, role.code) else none).reduceOption

theorem rolesOf_eq (tables : AccountTables) (user : Uuid) :
    tables.rolesOf user =
      ((tables.namedRoles.filter fun named =>
        (user, named.1) ∈ tables.userRoles).map Prod.snd).insertionSort
          (· ≤ ·) := by
  rw [AccountTables.rolesOf, AccountTables.namedRoles, objects]
  congr 1
  induction tables.roles.rows with
  | nil => rfl
  | cons role roles ih =>
      by_cases isAlive : alive role = true
      · by_cases member : (user, role.id) ∈ tables.userRoles
        · simpa [isAlive, member, List.reduceOption_cons_of_some] using ih
        · simpa [isAlive, member, List.reduceOption_cons_of_some] using ih
      · simpa [isAlive, List.reduceOption_cons_of_none] using ih

/-- Only roles are written, and nobody has other ones afterwards. -/
structure KeepsMembers (before after : AccountTables) : Prop where
  users_eq : after.users = before.users
  userRoles_eq : after.userRoles = before.userRoles
  wishlists_eq : after.wishlists = before.wishlists
  rolesOf_eq : ∀ user, after.rolesOf user = before.rolesOf user

theorem KeepsMembers.refl (tables : AccountTables) :
    KeepsMembers tables tables :=
  ⟨rfl, rfl, rfl, fun _ => rfl⟩

theorem KeepsMembers.trans {first second third : AccountTables}
    (earlier : KeepsMembers first second)
    (later : KeepsMembers second third) : KeepsMembers first third :=
  ⟨later.users_eq.trans earlier.users_eq,
    later.userRoles_eq.trans earlier.userRoles_eq,
    later.wishlists_eq.trans earlier.wishlists_eq,
    fun user => (later.rolesOf_eq user).trans (earlier.rolesOf_eq user)⟩

/-- A role that is saved under its code keeps its members. -/
theorem keepsMembers_save {role saved : Role}
    (member : role ∈ before.roles.rows) (sameId : saved.id = role.id)
    (sameCode : saved.code = role.code)
    (sameDeleted : saved.deletedAt = role.deletedAt) :
    KeepsMembers before
      { before with roles := before.roles.save saved } := by
  refine ⟨rfl, rfl, rfl, fun user => ?_⟩
  have sameAlive : alive saved = alive role :=
    congrArg Option.isNone sameDeleted
  have sameNamed : (before.roles.save saved).rows.map (fun role =>
      if alive role then some (role.id, role.code) else none) =
      before.roles.rows.map fun role =>
        if alive role then some (role.id, role.code) else none :=
    Table.map_save member sameId _ (by rw [sameAlive, sameId, sameCode])
  rw [NovaCommerce.rolesOf_eq, NovaCommerce.rolesOf_eq,
    AccountTables.namedRoles, AccountTables.namedRoles, sameNamed]

/-- Nobody has a role that is created. -/
theorem keepsMembers_create (sound : before.Sound) (build : Uuid → Role)
    (hasKey : ∀ id, Keyed.key (build id) = id) :
    KeepsMembers before
      { before with roles := before.roles.create build hasKey } := by
  refine ⟨rfl, rfl, rfl, fun user => ?_⟩
  let created := build (FreshKey.fresh before.roles.keys)
  have notMember : (user, created.id) ∉ before.userRoles := by
    intro member
    have used : created.id ∈ before.roles.keys := (sound.members _ member).2
    have isFresh : created.id = FreshKey.fresh before.roles.keys := hasKey _
    exact FreshKey.fresh_notMem _ (isFresh ▸ used)
  rw [NovaCommerce.rolesOf_eq, NovaCommerce.rolesOf_eq,
    AccountTables.namedRoles, AccountTables.namedRoles, Table.rows_create,
    List.map_append, List.reduceOption_append, List.filter_append,
    List.map_append]
  let named := ([created].map fun role =>
    if alive role then some (role.id, role.code) else none).reduceOption
  have nothingNew : (named.filter fun named =>
      (user, named.1) ∈ before.userRoles) = [] := by
    dsimp only [named]
    rw [List.map_singleton]
    split
    · simp [List.reduceOption, notMember]
    · rfl
  rw [nothingNew, List.map_nil, List.append_nil]

theorem updateOrCreateRole_spec (sound : before.Sound) {session : Session}
    {code name description : String}
    (done : updateOrCreateRole session code name description before =
      some after) :
    KeepsMembers before after ∧ after.Sound := by
  unfold updateOrCreateRole at done
  cases found : (objects before.roles).find? fun role => role.code = code with
  | some role =>
      simp only [found, Option.some.injEq] at done
      subst done
      have member : role ∈ before.roles.rows :=
        (List.mem_filter.mp (List.mem_of_find?_eq_some found)).1
      let saved : Role := { role with name, description, isSystem := true }
      have sameKey : Keyed.key saved = Keyed.key role := rfl
      refine ⟨keepsMembers_save member rfl rfl rfl,
        { sound with codes := ?_, members := ?_ }⟩
      · refine (sound.codes.save_iff member sameKey).mpr ?_
        intro code sameCode other otherMem otherKey otherCode
        exact otherKey (congrArg Keyed.key
          (sound.codes other otherMem role member code otherCode sameCode))
      · intro pair pairMem
        rw [Table.keys_save]
        exact sound.members pair pairMem
  | none =>
      simp only [found, Option.ite_none_left_eq_some, Option.some.injEq] at done
      obtain ⟨unused, rfl⟩ := done
      refine ⟨keepsMembers_create sound _ _,
        { sound with codes := ?_, members := ?_ }⟩
      · refine sound.codes.create ?_
        intro group isCode other otherMem otherCode
        obtain rfl := Option.some.inj isCode
        exact unused (List.any_eq_true.mpr ⟨other, otherMem,
          decide_eq_true (Option.some.inj otherCode)⟩)
      · intro pair pairMem
        exact (sound.members pair pairMem).imp_right (mem_keys_create _ _)

theorem seedRolesFrom_spec (session : Session)
    (roles : List (String × String × String)) (sound : before.Sound) :
    KeepsMembers before (seedRolesFrom session roles before).2 ∧
      (seedRolesFrom session roles before).2.Sound := by
  induction roles generalizing before with
  | nil => exact ⟨.refl before, sound⟩
  | cons role roles ih =>
      obtain ⟨code, name, description⟩ := role
      cases done : updateOrCreateRole session code name description before with
      | none =>
          simp only [seedRolesFrom, done]
          exact ⟨.refl before, sound⟩
      | some seeded =>
          obtain ⟨keeps, soundSeeded⟩ := updateOrCreateRole_spec sound done
          simp only [seedRolesFrom, done]
          exact ⟨keeps.trans (ih soundSeeded).1, (ih soundSeeded).2⟩

end Roles

section Changes

variable {gateway : AccountGateway} {tables : AccountTables}

/-- What a request leaves of the tables. -/
inductive AccountChange (gateway : AccountGateway) (before : AccountTables) :
    AccountRequest → AccountTables → Prop where
  | kept (request : AccountRequest) :
      AccountChange gateway before request before
  | registered {session : Session} {salt : String} {fields : RegisterFields}
      {email password : String}
      (free : before.isTaken (normalizeEmail gateway email) = false) :
      AccountChange gateway before (.register session salt fields)
        (before.register gateway session salt fields email password)
  | updated {isPartial : Bool} {fields : ProfileFields} {account : Account}
      (member : account ∈ before.users.rows)
      (free : ∀ other ∈ before.users.rows, other.id ≠ account.id →
        other.email ≠ (fields.setOn account).email) :
      AccountChange gateway before
        (.updateMe (some account.id) isPartial fields)
        { before with users := before.users.save (fields.setOn account) }
  | seeded {session : Session} {after : AccountTables}
      (keeps : KeepsMembers before after) (sound : after.Sound) :
      AccountChange gateway before (.seedRoles session) after

theorem fieldErrors_eq_nil {name : String} {isRequired : Bool}
    {refuse : String → List String} {value : Option String}
    (accepted : fieldErrors name isRequired refuse value = []) :
    ∀ text, value = some text → refuse text = [] := by
  rintro text rfl
  cases refused : refuse text with
  | nil => rfl
  | cons message messages => simp [fieldErrors, refused] at accepted

/-- An address that is accepted is blank for nobody, and free. -/
theorem refuseEmail_eq_nil {isTaken : String → Bool} {email : String}
    (accepted : refuseEmail gateway isTaken email = []) :
    isTaken email = false := by
  unfold refuseEmail at accepted
  split at accepted
  · next blank => simp [refuseBlank, blank] at accepted
  · simp only [List.append_eq_nil_iff] at accepted
    by_contra taken
    simp [Bool.eq_true_of_not_eq_false taken] at accepted

theorem register_change (sound : tables.Sound) (session : Session)
    (salt : String) (fields : RegisterFields) :
    AccountChange gateway tables (.register session salt fields)
      (register gateway session salt fields tables).2 := by
  unfold register
  split
  · next email password _ _ _ =>
      cases taken : tables.isTaken (normalizeEmail gateway email) with
      | true =>
          rw [createUser_of_taken taken]
          exact .kept _
      | false =>
          rw [createUser_of_free sound taken]
          exact .registered taken
  · exact .kept _

/-- An endpoint for authenticated users changes nothing, or acts for an active
user. -/
theorem withUser_cases (tables : AccountTables) (actor : Option Uuid)
    (act : Account → AccountCall) :
    (withUser actor act tables).2 = tables ∨
      ∃ account, actor = some account.id ∧ account ∈ tables.users.rows ∧
        withUser actor act tables = act account tables := by
  unfold withUser
  cases actor with
  | none => exact Or.inl rfl
  | some id =>
      cases found : tables.users.find? id with
      | none => exact Or.inl (by simp only [found])
      | some account =>
          obtain ⟨member, rfl⟩ := Table.find?_eq_some.mp found
          simp only [found]
          split
          · exact Or.inr ⟨account, rfl, member, rfl⟩
          · exact Or.inl rfl

theorem updateMe_change (actor : Option Uuid) (isPartial : Bool)
    (fields : ProfileFields) (sound : tables.Sound) :
    AccountChange gateway tables (.updateMe actor isPartial fields)
      (updateMe gateway actor isPartial fields tables).2 := by
  rw [updateMe]
  rcases withUser_cases tables actor _ with
    kept | ⟨account, rfl, member, acts⟩
  · rw [kept]
    exact .kept _
  · rw [acts]
    cases accepted : fields.errors gateway tables isPartial account with
    | cons error errors =>
        dsimp only
        exact .kept _
    | nil =>
        dsimp only
        refine .updated member ?_
        intro other otherMem otherId sameEmail
        simp only [ProfileFields.errors, List.append_eq_nil_iff] at accepted
        cases submitted : fields.email with
        | none =>
            rw [ProfileFields.setOn, submitted] at sameEmail
            exact otherId (congrArg Keyed.key (sound.emails other otherMem
              account member _ (congrArg some sameEmail) rfl))
        | some email =>
            have free := refuseEmail_eq_nil
              (fieldErrors_eq_nil accepted.1.1.1 email submitted)
            rw [List.any_eq_false] at free
            rw [ProfileFields.setOn, submitted] at sameEmail
            exact free other otherMem (by simp [otherId, sameEmail])

/-- Every request keeps the tables, or does one of three things. -/
theorem respond_change (sound : tables.Sound) (request : AccountRequest) :
    AccountChange gateway tables request
      (request.respond gateway tables).2 := by
  cases request with
  | register session salt fields =>
      exact register_change sound session salt fields
  | login email password =>
      have kept : (login gateway email password tables).2 = tables := by
        unfold login
        repeat' split
        all_goals rfl
      rw [AccountRequest.respond, kept]
      exact .kept _
  | readMe actor =>
      have kept : (readMe actor tables).2 = tables := by
        rcases withUser_cases tables actor _ with
          kept | ⟨account, -, -, acts⟩
        · exact kept
        · exact congrArg Prod.snd acts
      rw [AccountRequest.respond, kept]
      exact .kept _
  | updateMe actor isPartial fields =>
      exact updateMe_change actor isPartial fields sound
  | seedRoles session =>
      obtain ⟨keeps, soundAfter⟩ := seedRolesFrom_spec session systemRoles sound
      exact .seeded keeps soundAfter

end Changes

section Runs

variable {gateway : AccountGateway} {before after : AccountTables}
  {request : AccountRequest}

/-- The unique columns stay unique. -/
theorem AccountChange.sound (change :
    AccountChange gateway before request after) (sound : before.Sound) :
    after.Sound := by
  cases change with
  | kept => exact sound
  | seeded _ soundAfter => exact soundAfter
  | @registered session salt fields email password free =>
      have known : ∀ row ∈ before.wishlists.rows,
          row.user ≠ before.nextUser := fun row member same =>
        nextUser_notMem before (same ▸ sound.wishers row member)
      have new : before.nextUser ∈ (before.register gateway session salt fields
          email password).users.keys :=
        List.mem_map.mpr
          ⟨_, List.mem_append_right _ (List.mem_singleton_self _), rfl⟩
      refine ⟨?_, sound.codes, ?_, ?_, ?_⟩
      · change (before.users.create (newAccount gateway session salt fields
          email password) fun _ => rfl).UniquelyMarked _
        refine sound.emails.create ?_
        intro address isAddress account member sameEmail
        obtain rfl := Option.some.inj isAddress
        rw [AccountTables.isTaken, List.any_eq_false] at free
        exact free account member (decide_eq_true (Option.some.inj sameEmail))
      · refine sound.wishlists.create ?_
        intro user isUser row member sameUser
        obtain rfl := Option.some.inj isUser
        exact known row member (Option.some.inj sameUser)
      · intro row member
        rcases List.mem_append.mp member with old | isNew
        · exact mem_keys_create _ (fun _ => rfl) (sound.wishers row old)
        · rw [List.mem_singleton.mp isNew]
          exact new
      · intro pair member
        rcases List.mem_append.mp member with old | isNew
        · exact (sound.members pair old).imp_left
            (mem_keys_create _ fun _ => rfl)
        · obtain ⟨role, found, rfl⟩ :=
            Option.map_eq_some_iff.mp (Option.mem_toList.mp isNew)
          exact ⟨new, List.mem_map_of_mem
            (List.mem_filter.mp (List.mem_of_find?_eq_some found)).1⟩
  | @updated isPartial fields account member free =>
      have sameKey : Keyed.key (fields.setOn account) = Keyed.key account := rfl
      refine ⟨(sound.emails.save_iff member sameKey).mpr ?_, sound.codes,
        sound.wishlists, ?_, ?_⟩
      · rintro address isAddress other otherMem otherId sameEmail
        exact free other otherMem otherId
          (Option.some.inj (sameEmail.trans isAddress.symm))
      · intro row rowMem
        rw [Table.keys_save]
        exact sound.wishers row rowMem
      · intro pair pairMem
        rw [Table.keys_save]
        exact sound.members pair pairMem

/-- Tables whose constraints hold. -/
structure AccountStore extends AccountTables where
  sound : toAccountTables.Sound

/-- The tables after a request. -/
def AccountStore.step (gateway : AccountGateway) (store : AccountStore)
    (request : AccountRequest) : AccountStore where
  toAccountTables := (request.respond gateway store.toAccountTables).2
  sound := (respond_change store.sound request).sound store.sound

/-- All but what a profile shows to be edited. -/
def SameStanding (old new : Account) : Prop :=
  ∃ email firstName lastName phone,
    new = { old with email, firstName, lastName, phone }

/-- An account as anybody can have one: of a customer, if that. -/
structure IsOrdinary (tables : AccountTables) (account : Account) : Prop where
  active : account.isActive = true
  notStaff : account.isStaff = false
  notSuperuser : account.isSuperuser = false
  undeleted : account.deletedAt = none
  unverified : account.emailVerifiedAt = none ∧ account.phoneVerifiedAt = none
  roles : tables.rolesOf account.id = [] ∨
    tables.rolesOf account.id = ["customer"]
  wishlist : ∃! row, row ∈ tables.wishlists.rows ∧ row.user = account.id

/-- Nobody has gained or lost a privilege. -/
structure KeepsStanding (before after : AccountTables) : Prop where
  stays : ∀ old ∈ before.users.rows, ∃ new ∈ after.users.rows,
    SameStanding old new ∧ after.rolesOf old.id = before.rolesOf old.id
  wishlists : ∀ row ∈ before.wishlists.rows, row ∈ after.wishlists.rows
  newcomers : ∀ new ∈ after.users.rows, new.id ∉ before.users.keys →
    IsOrdinary after new

theorem SameStanding.refl (account : Account) : SameStanding account account :=
  ⟨_, _, _, _, rfl⟩

theorem SameStanding.trans {first second third : Account}
    (earlier : SameStanding first second)
    (later : SameStanding second third) : SameStanding first third := by
  obtain ⟨_, _, _, _, rfl⟩ := earlier
  obtain ⟨email, firstName, lastName, phone, rfl⟩ := later
  exact ⟨email, firstName, lastName, phone, rfl⟩

theorem KeepsStanding.refl (tables : AccountTables) :
    KeepsStanding tables tables where
  stays old member := ⟨old, member, .refl old, rfl⟩
  wishlists _ member := member
  newcomers _ member isNew := absurd (List.mem_map_of_mem member) isNew

theorem KeepsStanding.trans {first second third : AccountTables}
    (sound : third.Sound) (earlier : KeepsStanding first second)
    (later : KeepsStanding second third) : KeepsStanding first third where
  stays old member := by
    obtain ⟨middle, middleMem, standing, roles⟩ := earlier.stays old member
    obtain ⟨new, newMem, standingLater, rolesLater⟩ :=
      later.stays middle middleMem
    have sameId : middle.id = old.id := by
      obtain ⟨_, _, _, _, rfl⟩ := standing
      rfl
    exact ⟨new, newMem, standing.trans standingLater,
      (sameId ▸ rolesLater).trans (sameId ▸ roles)⟩
  wishlists row member := later.wishlists row (earlier.wishlists row member)
  newcomers new member isNew := by
    by_cases known : new.id ∈ second.users.keys
    · obtain ⟨middle, middleMem, sameId⟩ := List.mem_map.mp known
      obtain ⟨again, againMem, standing, roles⟩ := later.stays middle middleMem
      have ordinary := earlier.newcomers middle middleMem
        (fun old => isNew (sameId ▸ old))
      obtain ⟨email, firstName, lastName, phone, rfl⟩ := standing
      obtain rfl := third.users.eq_of_key_eq againMem member sameId
      obtain ⟨row, ⟨rowMem, ofUser⟩, -⟩ := ordinary.wishlist
      refine { ordinary with
        roles := roles ▸ ordinary.roles
        wishlist := ⟨row, ⟨later.wishlists row rowMem, ofUser⟩, ?_⟩ }
      rintro other ⟨otherMem, ofSame⟩
      exact sound.wishlists other otherMem row (later.wishlists row rowMem) _
        (congrArg some ofSame) (congrArg some ofUser)
    · exact later.newcomers new member known

section Newcomer

variable {session : Session} {salt : String} {fields : RegisterFields}
  {email password : String}

/-- A new user has the role of customers, if there is one. -/
theorem rolesOf_register (sound : before.Sound) :
    (before.register gateway session salt fields email password).rolesOf
        before.nextUser = (before.customer.map Role.code).toList := by
  have isPair : ∀ role, (before.nextUser, role) ∈ before.userRoles ++
      (before.customer.map fun role => (before.nextUser, role.id)).toList ↔
        (before.customer.map fun role => role.id) = some role := by
    intro role
    have unknown : (before.nextUser, role) ∉ before.userRoles :=
      fun member => nextUser_notMem before (sound.members _ member).1
    simp [unknown]
  rw [AccountTables.rolesOf]
  simp only [AccountTables.register, AccountTables.saveUser, isPair]
  cases found : before.customer with
  | none => simp
  | some customer =>
      have member := List.mem_of_find?_eq_some found
      have perm : ((objects before.roles).filter fun role =>
          ((some customer).map fun role => role.id) = some role.id).Perm
            [customer] := by
        refine (List.perm_ext_iff_of_nodup
          ((before.roles.nodup_rows.filter _).filter _)
          (List.nodup_singleton _)).mpr ?_
        intro role
        rw [List.mem_filter, List.mem_singleton]
        constructor
        · rintro ⟨roleMem, sameId⟩
          exact before.roles.eq_of_key_eq (List.mem_filter.mp roleMem).1
            (List.mem_filter.mp member).1
            (Option.some.inj (of_decide_eq_true sameId)).symm
        · rintro rfl
          exact ⟨member, decide_eq_true rfl⟩
      rw [List.perm_singleton.mp perm]
      rfl

/-- A registration gives nobody else a role. -/
theorem rolesOf_register_of_ne {user : Uuid} (other : user ≠ before.nextUser) :
    (before.register gateway session salt fields email password).rolesOf user =
      before.rolesOf user := by
  have samePairs : ∀ role, (user, role) ∈ before.userRoles ++
      (before.customer.map fun role => (before.nextUser, role.id)).toList ↔
        (user, role) ∈ before.userRoles := by
    intro role
    simp [other.symm]
  rw [AccountTables.rolesOf, AccountTables.rolesOf]
  simp only [AccountTables.register, samePairs]
  rfl

theorem isOrdinary_register (sound : before.Sound) :
    IsOrdinary (before.register gateway session salt fields email password)
      (newAccount gateway session salt fields email password
        before.nextUser) where
  active := rfl
  notStaff := rfl
  notSuperuser := rfl
  undeleted := rfl
  unverified := ⟨rfl, rfl⟩
  roles := by
    have roles : (before.register gateway session salt fields email
        password).rolesOf before.nextUser = _ := rolesOf_register sound
    rw [newAccount, roles]
    cases found : before.customer with
    | none => exact Or.inl rfl
    | some customer =>
        have isCustomer : customer.code = "customer" := by
          rw [AccountTables.customer] at found
          simpa using List.find?_some found
        exact Or.inr (congrArg ([·]) isCustomer)
  wishlist := by
    refine ⟨_, ⟨List.mem_append_right _ (List.mem_singleton_self _), rfl⟩, ?_⟩
    rintro row ⟨member, ofUser⟩
    rcases List.mem_append.mp member with old | isNew
    · have known := sound.wishers row old
      rw [ofUser] at known
      exact absurd known (nextUser_notMem before)
    · exact List.mem_singleton.mp isNew

end Newcomer

theorem AccountChange.keepsStanding
    (change : AccountChange gateway before request after)
    (sound : before.Sound) : KeepsStanding before after := by
  cases change with
  | kept => exact .refl before
  | @registered session salt fields email password free =>
      refine ⟨?_, fun row member => List.mem_append_left _ member, ?_⟩
      · intro old member
        refine ⟨old, List.mem_append_left _ member, .refl old,
          rolesOf_register_of_ne ?_⟩
        intro isNext
        exact nextUser_notMem before (isNext ▸ List.mem_map_of_mem member)
      · intro new member isNew
        rcases List.mem_append.mp member with old | created
        · exact absurd (List.mem_map_of_mem old) isNew
        · rw [List.mem_singleton.mp created]
          exact isOrdinary_register sound
  | @updated isPartial fields account member free =>
      refine ⟨?_, fun _ member => member, ?_⟩
      · intro old oldMem
        by_cases isAccount : Keyed.key old = Keyed.key account
        · obtain rfl := before.users.eq_of_key_eq oldMem member isAccount
          have known : Keyed.key old ∈ before.users.keys :=
            List.mem_map_of_mem member
          exact ⟨fields.setOn old, Table.mem_save.mpr (Or.inr ⟨rfl, known⟩),
            ⟨_, _, _, _, rfl⟩, rfl⟩
        · exact ⟨old, Table.mem_save_of_ne oldMem isAccount, .refl old, rfl⟩
      · intro new newMem isNew
        have known : new.id ∈ (before.users.save (fields.setOn account)).keys :=
          List.mem_map_of_mem newMem
        rw [Table.keys_save] at known
        exact absurd known isNew
  | seeded keeps _ =>
      refine ⟨?_, ?_, ?_⟩
      · intro old member
        exact ⟨old, keeps.users_eq ▸ member, .refl old, keeps.rolesOf_eq _⟩
      · intro row member
        exact keeps.wishlists_eq ▸ member
      · intro new member isNew
        exact absurd (List.mem_map_of_mem (keeps.users_eq ▸ member)) isNew

/-- The request is of a user who updates their profile. -/
def AccountRequest.Updates (user : Uuid) : AccountRequest → Prop
  | updateMe actor _ _ => actor = some user
  | _ => False

/-- Only its user changes anything about an account. -/
theorem AccountChange.keeps_account
    (change : AccountChange gateway before request after) {account : Account}
    (others : ¬request.Updates account.id)
    (member : account ∈ before.users.rows) : account ∈ after.users.rows := by
  cases change with
  | kept => exact member
  | registered => exact List.mem_append_left _ member
  | seeded keeps => exact keeps.users_eq ▸ member
  | @updated isPartial fields updated updatedMem free =>
      refine Table.mem_save_of_ne member ?_
      intro sameKey
      exact others (congrArg some sameKey.symm)

variable (gateway) in
theorem mem_users_exec {store : AccountStore} {requests : List AccountRequest}
    {account : Account} (member : account ∈ store.users.rows)
    (others : ∀ request ∈ requests, ¬request.Updates account.id) :
    account ∈ (exec (AccountStore.step gateway) store requests).users.rows := by
  induction requests generalizing store with
  | nil => exact member
  | cons request requests ih =>
      rw [List.forall_mem_cons] at others
      have kept : account ∈ (store.step gateway request).users.rows :=
        (respond_change store.sound request).keeps_account others.1 member
      exact ih kept others.2

variable (gateway) in
theorem keepsStanding_exec (store : AccountStore)
    (requests : List AccountRequest) :
    KeepsStanding store.toAccountTables
      (exec (AccountStore.step gateway) store requests).toAccountTables := by
  let keeps (first second : AccountStore) : Prop :=
    KeepsStanding first.toAccountTables second.toAccountTables
  have trans : ∀ first second third, keeps first second →
      keeps second third → keeps first third :=
    fun _ _ third earlier later => earlier.trans third.sound later
  exact exec_relation keeps (fun store => .refl store.toAccountTables) trans
    (fun store request _ => (respond_change store.sound
      request).keepsStanding store.sound)
    (guarded_true store requests)

/-- Whatever registrations, logins, profile updates and seedings follow each
other, no account gains or loses a privilege or a role, and new ones are
ordinary; and an account whose user updates nothing stays as it is. -/
theorem standing_kept (gateway : AccountGateway) (store : AccountStore)
    (requests : List AccountRequest) :
    let reached := exec (AccountStore.step gateway) store requests
    KeepsStanding store.toAccountTables reached.toAccountTables ∧
      ∀ account ∈ store.users.rows,
        (∀ request ∈ requests, ¬request.Updates account.id) →
          account ∈ reached.users.rows :=
  ⟨keepsStanding_exec gateway store requests,
    fun _ member others => mem_users_exec gateway member others⟩

end Runs

section Login

variable {gateway : AccountGateway} {tables : AccountTables}

theorem authenticate_eq_some (sound : tables.Sound) {email password : String}
    {account : Account} :
    authenticate gateway tables email password = some account ↔
      account ∈ tables.users.rows ∧ account.email = email ∧
        gateway.checkPassword password account.password = true ∧
        account.isActive = true := by
  have found : (tables.users.rows.find? fun account =>
      account.email = email) = some account ↔
        account ∈ tables.users.rows ∧ account.email = email := by
    constructor
    · intro found
      exact ⟨List.mem_of_find?_eq_some found,
        by simpa using List.find?_some found⟩
    · rintro ⟨member, rfl⟩
      obtain ⟨other, found⟩ := Option.isSome_iff_exists.mp
        (List.find?_isSome.mpr ⟨account, member, decide_eq_true rfl⟩ :
          (tables.users.rows.find? fun other =>
            other.email = account.email).isSome)
      have sameEmail : other.email = account.email := by
        simpa using List.find?_some found
      rw [found, sound.emails other (List.mem_of_find?_eq_some found) account
        member _ (congrArg some sameEmail) rfl]
  rw [authenticate, Option.filter_eq_some_iff, found, Bool.and_eq_true,
    and_assoc]

/-- What is put into the tokens of an account. -/
def Account.claims (account : Account) (tables : AccountTables) :
    TokenClaims where
  userId := account.id
  email := account.email
  roles := tables.rolesOf account.id
  isStaff := account.isStaff

theorem fieldErrors_refuseBlank {name text : String} {isRequired : Bool} :
    fieldErrors name isRequired refuseBlank (some text) = [] ↔ text ≠ "" := by
  by_cases blank : text = ""
  · simp [fieldErrors, refuseBlank, blank]
  · simp [fieldErrors, refuseBlank, blank]

theorem login_eq_tokens {typed attempt : String} {claims : TokenClaims} :
    (login gateway (some typed) (some attempt) tables).1 = .tokens claims ↔
      (typed ≠ "" ∧ attempt ≠ "") ∧ ∃ account,
        authenticate gateway tables typed attempt = some account ∧
          account.claims tables = claims := by
  have noErrors : fieldErrors "email" true refuseBlank (some typed) ++
      fieldErrors "password" true refuseBlank (some attempt) = [] ↔
        typed ≠ "" ∧ attempt ≠ "" := by
    rw [List.append_eq_nil_iff, fieldErrors_refuseBlank,
      fieldErrors_refuseBlank]
  rw [← noErrors]
  cases errors : fieldErrors "email" true refuseBlank (some typed) ++
      fieldErrors "password" true refuseBlank (some attempt) with
  | cons error others => simp [login, errors, AccountResponse.invalid]
  | nil =>
      cases found : authenticate gateway tables typed attempt with
      | none => simp [login, errors, found]
      | some account =>
          simp only [login, errors, found, true_and, Option.some.injEq,
            exists_eq_left', AccountResponse.tokens.injEq]
          rfl

theorem register_of_accepted (sound : tables.Sound) (session : Session)
    (salt : String) {fields : RegisterFields} {email password : String}
    (submitted : fields.email = some email)
    (secret : fields.password = some password)
    (accepted : fields.errors gateway tables = [])
    (free : tables.isTaken (normalizeEmail gateway email) = false) :
    register gateway session salt fields tables =
      (.registered (normalizeEmail gateway email) (fields.firstName.getD "")
          (fields.lastName.getD "") (fields.phone.getD ""),
        tables.register gateway session salt fields email password) := by
  simp only [register, accepted, submitted, secret]
  exact createUser_of_free sound free

/-- Neither the address nor the password of a registration is blank. -/
theorem RegisterFields.ne_empty {fields : RegisterFields}
    {email password : String} (submitted : fields.email = some email)
    (secret : fields.password = some password)
    (accepted : fields.errors gateway tables = []) :
    email ≠ "" ∧ password ≠ "" := by
  simp only [errors, List.append_eq_nil_iff] at accepted
  have acceptedEmail := fieldErrors_eq_nil accepted.1.1.1.1 email submitted
  have acceptedPassword := fieldErrors_eq_nil accepted.1.1.1.2 password secret
  constructor
  · rintro rfl
    simp [refuseEmail, refuseBlank] at acceptedEmail
  · rintro rfl
    simp [refusePassword, refuseBlank] at acceptedPassword

theorem normalizeEmail_ne_empty {email : String} (notBlank : email ≠ "") :
    normalizeEmail gateway email ≠ "" := by
  unfold normalizeEmail
  split
  · exact notBlank
  · intro blank
    have length := congrArg String.length blank
    simp at length

variable (gateway) in
/-- Who registers an address that is free once its domain is in lower case can
log in, whatever happens meanwhile, until they update their profile: with the
password they gave, and the address as it was stored, which need not be the one
that they typed; with no other; and as a customer at most. -/
theorem registered_logs_in (store : AccountStore) (session : Session)
    (salt : String) (fields : RegisterFields) {email password : String}
    (submitted : fields.email = some email)
    (secret : fields.password = some password)
    (accepted : fields.errors gateway store.toAccountTables = [])
    (free : store.isTaken (normalizeEmail gateway email) = false)
    (requests : List AccountRequest)
    (others : ∀ request ∈ requests, ¬request.Updates store.nextUser) :
    let address := normalizeEmail gateway email
    let registered := store.step gateway (.register session salt fields)
    let reached := (exec (AccountStore.step gateway) registered
      requests).toAccountTables
    let claims : TokenClaims :=
      { userId := store.nextUser
        email := address
        roles := (store.customer.map Role.code).toList
        isStaff := false }
    (login gateway (some address) (some password) reached).1 =
        .tokens claims ∧
      ∀ typed attempt found,
        (login gateway (some typed) (some attempt) reached).1 =
            .tokens found ∧ found.userId = store.nextUser ↔
          typed = address ∧ attempt ≠ "" ∧
            gateway.checkPassword attempt
              (gateway.makePassword salt password) = true ∧
            found = claims := by
  intro address registered reached claims
  obtain ⟨notBlank, notEmpty⟩ :=
    RegisterFields.ne_empty submitted secret accepted
  have after := congrArg Prod.snd (register_of_accepted store.sound session salt
    submitted secret accepted free)
  let account := newAccount gateway session salt fields email password
    store.nextUser
  have isRegistered : registered.toAccountTables =
      store.toAccountTables.register gateway session salt fields email
        password := after
  have member : account ∈ registered.users.rows := by
    rw [isRegistered]
    exact List.mem_append_right _ (List.mem_singleton_self _)
  have stays : account ∈ reached.users.rows :=
    mem_users_exec gateway member others
  have sound : reached.Sound := AccountStore.sound _
  have roles : reached.rolesOf account.id =
      (store.customer.map Role.code).toList := by
    obtain ⟨new, newMem, standing, sameRoles⟩ :=
      (keepsStanding_exec gateway registered requests).stays account member
    rw [sameRoles, isRegistered]
    exact rolesOf_register store.sound
  have claims_eq : account.claims reached = claims := by
    rw [Account.claims, roles]
    rfl
  have address_ne : address ≠ "" := normalizeEmail_ne_empty notBlank
  have authentic : ∀ typed attempt found,
      authenticate gateway reached typed attempt = some found ∧
          found.id = store.nextUser ↔
        typed = address ∧ found = account ∧
          gateway.checkPassword attempt
            (gateway.makePassword salt password) = true := by
    intro typed attempt found
    rw [authenticate_eq_some sound]
    constructor
    · rintro ⟨⟨foundMem, rfl, checked, -⟩, sameId⟩
      obtain rfl : found = account :=
        reached.users.eq_of_key_eq foundMem stays sameId
      exact ⟨rfl, rfl, checked⟩
    · rintro ⟨rfl, rfl, checked⟩
      exact ⟨⟨stays, rfl, checked, rfl⟩, rfl⟩
  refine ⟨?_, ?_⟩
  · refine login_eq_tokens.mpr ⟨⟨address_ne, notEmpty⟩, account, ?_, claims_eq⟩
    exact ((authentic address password account).mpr
      ⟨rfl, rfl, gateway.check_make salt password⟩).1
  · intro typed attempt found
    rw [login_eq_tokens]
    constructor
    · rintro ⟨⟨⟨-, attempted⟩, other, isFound, rfl⟩, sameId⟩
      obtain ⟨isTyped, rfl, checked⟩ :=
        (authentic typed attempt other).mp ⟨isFound, sameId⟩
      exact ⟨isTyped, attempted, checked, claims_eq⟩
    · rintro ⟨rfl, attempted, checked, rfl⟩
      have isFound :=
        (authentic address attempt account).mpr ⟨rfl, rfl, checked⟩
      exact ⟨⟨⟨address_ne, attempted⟩, account, isFound.1, claims_eq⟩, rfl⟩

end Login

/-- Addresses have an `@`, and passwords are stored as they are. -/
def plainGateway : AccountGateway where
  lower text := text.map Char.toLower
  isEmail text := text.toList.contains '@'
  validatePassword _ := []
  makePassword _ password := password
  checkPassword password stored := password = stored
  check_make _ _ := decide_eq_true rfl

/-- No accounts yet. -/
def seededStore : AccountStore :=
  AccountStore.step plainGateway
    { sound := by
        constructor
        · exact Table.uniquelyMarked_empty
        · exact Table.uniquelyMarked_empty
        · exact Table.uniquelyMarked_empty
        · exact fun _ member => absurd member List.not_mem_nil
        · exact fun _ member => absurd member List.not_mem_nil }
    (.seedRoles { now := 1 })

def annFields : RegisterFields where
  email := some "Ann@Shop.UZ"
  password := some "correct horse"

/-- Another registration of the same address fails. -/
theorem registered_logs_in_ann :
    let registered := seededStore.step plainGateway
      (.register { now := 2 } "" annFields)
    let reached := (exec (AccountStore.step plainGateway) registered
      [.register { now := 3 } "" { annFields with password := some "guess" },
        .seedRoles { now := 4 }]).toAccountTables
    (login plainGateway (some "Ann@shop.uz") (some "correct horse") reached).1 =
      .tokens ⟨1, "Ann@shop.uz", ["customer"], false⟩ := by
  have logsIn := registered_logs_in plainGateway seededStore { now := 2 } ""
    annFields rfl rfl (by decide +kernel) (by decide +kernel)
    [.register { now := 3 } "" { annFields with password := some "guess" },
      .seedRoles { now := 4 }]
    (by simp [AccountRequest.Updates])
  have stored : normalizeEmail plainGateway "Ann@Shop.UZ" = "Ann@shop.uz" := by
    decide +kernel
  have seeded : (seededStore.customer.map Role.code).toList = ["customer"] := by
    decide +kernel
  have isFirst : seededStore.nextUser = 1 := by decide +kernel
  rw [stored, seeded, isFirst] at logsIn
  exact logsIn.1

end NovaCommerce
