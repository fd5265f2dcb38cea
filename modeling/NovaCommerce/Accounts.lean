import NovaCommerce.Reviews
import NovaCommerce.RequestText

/-!
# Accounts

Registration, login, the profile of the user who asks, and the command that
seeds the roles.  Registration looks for the address as it was typed, but stores
it with its domain in lower case; a login looks for exactly what is typed.
-/

namespace NovaCommerce

structure Role extends TimeStampedUUIDModel where
  code : String
  name : String
  description : String := ""
  isSystem : Bool := false
  deriving DecidableEq, Repr

/-- `User`; `password` is the hash that is stored. -/
structure Account extends TimeStampedUUIDModel where
  email : String
  password : String
  firstName : String := ""
  lastName : String := ""
  phone : String := ""
  isActive : Bool := true
  isStaff : Bool := false
  isSuperuser : Bool := false
  emailVerifiedAt : Option Time := none
  phoneVerifiedAt : Option Time := none
  deriving DecidableEq, Repr

structure Wishlist extends TimeStampedUUIDModel where
  user : Uuid
  deriving DecidableEq, Repr

instance : IsModel Role := ⟨Role.toTimeStampedUUIDModel⟩
instance : IsModel Account := ⟨Account.toTimeStampedUUIDModel⟩
instance : IsModel Wishlist := ⟨Wishlist.toTimeStampedUUIDModel⟩

/-- `userRoles` has a pair for every role of a user. -/
structure AccountTables where
  users : Table Account := ∅
  roles : Table Role := ∅
  userRoles : List (Uuid × Uuid) := []
  wishlists : Table Wishlist := ∅

/-- What Django and its libraries decide: which texts are addresses, what is
wrong with a password, how passwords are hashed with a salt, and `str.lower`. -/
structure AccountGateway where
  lower : String → String
  isEmail : String → Bool
  validatePassword : String → List String
  makePassword : String → String → String
  checkPassword : String → String → Bool
  check_make : ∀ salt password,
    checkPassword password (makePassword salt password) = true

/-- `text.rsplit("@", 1)`, if there is an `@`. -/
def splitAddress (text : List Char) : Option (List Char × List Char) :=
  let reversed := text.reverse
  match reversed.dropWhile (· ≠ '@') with
  | [] => none
  | _ :: name =>
      some (name.reverse, (reversed.takeWhile (· ≠ '@')).reverse)

/-- `BaseUserManager.normalize_email`. -/
def normalizeEmail (gateway : AccountGateway) (email : String) : String :=
  match splitAddress (RequestText.strip email.toList) with
  | none => email
  | some (name, domain) =>
      String.ofList name ++ "@" ++ gateway.lower (String.ofList domain)

namespace AccountTables

/-- Another user, soft-deleted or not, has the address. -/
def isTaken (tables : AccountTables) (email : String) : Bool :=
  tables.users.rows.any fun account => account.email = email

/-- The codes of the visible roles of a user, in their order. -/
def rolesOf (tables : AccountTables) (user : Uuid) : List String :=
  (((objects tables.roles).filter fun role =>
    (user, role.id) ∈ tables.userRoles).map Role.code).insertionSort (· ≤ ·)

/-- The signal of a created user: `Wishlist.objects.get_or_create`. -/
def createWishlist (session : Session) (user : Uuid)
    (tables : AccountTables) : Option AccountTables :=
  if (objects tables.wishlists).any fun row => row.user = user then some tables
  else if tables.wishlists.rows.any fun row => row.user = user then
    -- The user has a wishlist that is soft-deleted: an `IntegrityError`.
    none
  else some { tables with
    wishlists := tables.wishlists.create
      (fun id => { id, createdAt := session.now, user }) (fun _ => rfl) }

/-- `user.roles.add(...)` of the role of customers, if there is one. -/
def addCustomer (user : Uuid) (tables : AccountTables) : AccountTables :=
  match (objects tables.roles).find? fun role => role.code = "customer" with
  | none => tables
  | some role =>
      if (user, role.id) ∈ tables.userRoles then tables
      else { tables with
        userRoles := tables.userRoles ++ [(user, role.id)] }

end AccountTables

/-- The submitted fields of a registration, stripped. -/
structure RegisterFields where
  email : Option String := none
  password : Option String := none
  firstName : Option String := none
  lastName : Option String := none
  phone : Option String := none

/-- The submitted fields of a profile that may be written, stripped. -/
structure ProfileFields where
  email : Option String := none
  firstName : Option String := none
  lastName : Option String := none
  phone : Option String := none

def refuseEmail (gateway : AccountGateway) (isTaken : String → Bool)
    (email : String) : List String :=
  if email = "" then refuseBlank email
  else
    (if isTaken email then ["user with this email already exists."]
      else []) ++
    refuseText 254 email ++
    (if gateway.isEmail email then [] else ["Enter a valid email address."])

def refusePassword (gateway : AccountGateway) (password : String) :
    List String :=
  if password = "" then refuseBlank password
  else gateway.validatePassword password ++ refuseCharacters password

/-- The errors of `RegisterSerializer.is_valid`. -/
def RegisterFields.errors (gateway : AccountGateway) (tables : AccountTables)
    (fields : RegisterFields) : List (String × List String) :=
  fieldErrors "email" true (refuseEmail gateway tables.isTaken) fields.email ++
    fieldErrors "password" true (refusePassword gateway) fields.password ++
    fieldErrors "first_name" false (refuseText 120) fields.firstName ++
    fieldErrors "last_name" false (refuseText 120) fields.lastName ++
    fieldErrors "phone" false (refuseText 24) fields.phone

/-- The errors of `UserSerializer.is_valid`, for the profile of an account. -/
def ProfileFields.errors (gateway : AccountGateway) (tables : AccountTables)
    (isPartial : Bool) (account : Account) (fields : ProfileFields) :
    List (String × List String) :=
  let isTaken email := tables.users.rows.any fun other =>
    other.id ≠ account.id && other.email = email
  fieldErrors "email" (!isPartial) (refuseEmail gateway isTaken) fields.email ++
    fieldErrors "first_name" false (refuseText 120) fields.firstName ++
    fieldErrors "last_name" false (refuseText 120) fields.lastName ++
    fieldErrors "phone" false (refuseText 24) fields.phone

/-- `setattr` of the submitted fields. -/
def ProfileFields.setOn (fields : ProfileFields) (account : Account) :
    Account :=
  { account with
    email := fields.email.getD account.email
    firstName := fields.firstName.getD account.firstName
    lastName := fields.lastName.getD account.lastName
    phone := fields.phone.getD account.phone }

structure RoleData where
  id : Uuid
  code : String
  name : String
  description : String
  deriving DecidableEq, Repr

structure UserData where
  id : Uuid
  email : String
  firstName : String
  lastName : String
  fullName : String
  phone : String
  isActive : Bool
  isStaff : Bool
  emailVerifiedAt : Option Time
  phoneVerifiedAt : Option Time
  roles : List RoleData
  createdAt : Time
  deriving DecidableEq, Repr

/-- The property `full_name`. -/
def Account.fullName (account : Account) : String :=
  let name := String.ofList (RequestText.strip
    (account.firstName ++ " " ++ account.lastName).toList)
  if name = "" then account.email else name

def Account.data (tables : AccountTables) (account : Account) : UserData :=
  { account with
    fullName := account.fullName
    roles := (((objects tables.roles).filter fun role =>
      (account.id, role.id) ∈ tables.userRoles).insertionSort
        fun first second => first.code ≤ second.code).map fun role =>
          { role with } }

/-- What `get_token` puts into the tokens of a user. -/
structure TokenClaims where
  userId : Uuid
  email : String
  roles : List String
  isStaff : Bool
  deriving DecidableEq, Repr

inductive AccountResponse where
  | registered (email firstName lastName phone : String)
  | tokens (claims : TokenClaims)
  | profile (data : UserData)
  | error (status : Nat) (code message : String) (details : Option Json)
  /-- A command that printed what it did, or was stopped by an error. -/
  | command (succeeded : Bool)

def AccountResponse.invalid (errors : List (String × List String)) :
    AccountResponse :=
  .error 400 "invalid" "Request failed."
    (some (.obj (errors.map fun error => (error.1, .arr (error.2.map .str)))))

def AccountResponse.internal : AccountResponse :=
  .error 500 "internal" "Internal server error." none

/-- An action: its answer, and the tables it leaves. -/
abbrev AccountCall := AccountTables → AccountResponse × AccountTables

/-- The row of `_create_user`, with the defaults of the model. -/
def newAccount (gateway : AccountGateway) (session : Session) (salt : String)
    (fields : RegisterFields) (email password : String) (id : Uuid) :
    Account where
  id := id
  createdAt := session.now
  email := normalizeEmail gateway email
  password := gateway.makePassword salt password
  firstName := fields.firstName.getD ""
  lastName := fields.lastName.getD ""
  phone := fields.phone.getD ""

/-- The identifier of the user that is created next. -/
def AccountTables.nextUser (tables : AccountTables) : Uuid :=
  FreshKey.fresh tables.users.keys

/-- `user.save()` of a new user. -/
def AccountTables.saveUser (gateway : AccountGateway) (session : Session)
    (salt : String) (fields : RegisterFields) (email password : String)
    (tables : AccountTables) : AccountTables :=
  { tables with
    users := tables.users.create
      (newAccount gateway session salt fields email password)
      (fun _ => rfl) }

/-- `RegisterSerializer.create`. -/
def createUser (gateway : AccountGateway) (session : Session) (salt : String)
    (fields : RegisterFields) (email password : String) : AccountCall :=
  fun tables =>
    let account :=
      newAccount gateway session salt fields email password tables.nextUser
    -- The column is unique.
    if tables.isTaken account.email then (.internal, tables)
    else
      let saved := tables.saveUser gateway session salt fields email password
      match saved.createWishlist session account.id with
      | none => (.internal, saved)
      | some wished =>
          (.registered account.email account.firstName account.lastName
            account.phone, wished.addCustomer account.id)

/-- `RegisterView`. -/
def register (gateway : AccountGateway) (session : Session) (salt : String)
    (fields : RegisterFields) : AccountCall := fun tables =>
  match fields.errors gateway tables, fields.email, fields.password with
  | [], some email, some password =>
      createUser gateway session salt fields email password tables
  -- A missing field is one of the errors.
  | errors, _, _ => (.invalid errors, tables)

/-- `authenticate`: the active user with exactly this address, if the password
is right. -/
def authenticate (gateway : AccountGateway) (tables : AccountTables)
    (email password : String) : Option Account :=
  (tables.users.rows.find? fun account => account.email = email).filter
    fun account =>
      gateway.checkPassword password account.password && account.isActive

/-- `LoginView`. -/
def login (gateway : AccountGateway) (email password : Option String) :
    AccountCall := fun tables =>
  match fieldErrors "email" true refuseBlank email ++
      fieldErrors "password" true refuseBlank password, email, password with
  | [], some email, some password =>
      match authenticate gateway tables email password with
      | some account =>
          (.tokens {
            userId := account.id
            email := account.email
            roles := tables.rolesOf account.id
            isStaff := account.isStaff }, tables)
      | none => (.error 401 "authentication_failed"
          "No active account found with the given credentials" none, tables)
  | errors, _, _ => (.invalid errors, tables)

/-- An endpoint that asks for an authenticated user, whom a token names. -/
def withUser (actor : Option Uuid) (act : Account → AccountCall) :
    AccountCall := fun tables =>
  match actor with
  | none => (.error 401 "not_authenticated"
      "Authentication credentials were not provided." none, tables)
  | some id =>
      let refusal (detail code : String) : AccountResponse :=
        .error 401 "authentication_failed" "Request failed."
          (some (.obj [("detail", .str detail), ("code", .str code)]))
      match tables.users.find? id with
      | none => (refusal "User not found" "user_not_found", tables)
      | some account =>
          if account.isActive then act account tables
          else (refusal "User is inactive" "user_inactive", tables)

/-- `MeView`, reading. -/
def readMe (actor : Option Uuid) : AccountCall :=
  withUser actor fun account tables => (.profile (account.data tables), tables)

/-- `MeView`, writing. -/
def updateMe (gateway : AccountGateway) (actor : Option Uuid)
    (isPartial : Bool) (fields : ProfileFields) : AccountCall :=
  withUser actor fun account tables =>
    match fields.errors gateway tables isPartial account with
    | [] =>
        let saved := fields.setOn account
        let after := { tables with users := tables.users.save saved }
        (.profile (saved.data after), after)
    | errors => (.invalid errors, tables)

/-- `SYSTEM_ROLES`. -/
def systemRoles : List (String × String × String) :=
  [("customer", "Customer", "End-user shopping on the storefront."),
    ("vendor", "Vendor", "Multi-vendor seller account."),
    ("staff", "Staff", "Internal operations team member."),
    ("admin", "Administrator", "Full administrative access."),
    ("support", "Support", "Customer-support agent.")]

/-- `Role.objects.update_or_create`; nothing, if a soft-deleted role has the
code. -/
def updateOrCreateRole (session : Session) (code name description : String)
    (tables : AccountTables) : Option AccountTables :=
  match (objects tables.roles).find? fun role => role.code = code with
  | some role =>
      let saved := { role with name, description, isSystem := true }
      some { tables with roles := tables.roles.save saved }
  | none =>
      if tables.roles.rows.any fun role => role.code = code then none
      else
        let build (id : Uuid) : Role :=
          { id, createdAt := session.now, code, name, description,
            isSystem := true }
        some { tables with roles := tables.roles.create build (fun _ => rfl) }

/-- The loop of the command, which an error stops. -/
def seedRolesFrom (session : Session) :
    List (String × String × String) → AccountCall
  | [], tables => (.command true, tables)
  | (code, name, description) :: others, tables =>
      match updateOrCreateRole session code name description tables with
      | none => (.command false, tables)
      | some seeded => seedRolesFrom session others seeded

/-- The command `seed_roles`. -/
def seedRoles (session : Session) : AccountCall :=
  seedRolesFrom session systemRoles

/-- What anybody can ask for, and the command. -/
inductive AccountRequest where
  | register (session : Session) (salt : String) (fields : RegisterFields)
  | login (email password : Option String)
  | readMe (actor : Option Uuid)
  | updateMe (actor : Option Uuid) (isPartial : Bool) (fields : ProfileFields)
  | seedRoles (session : Session)

def AccountRequest.respond (gateway : AccountGateway) :
    AccountRequest → AccountCall
  | register session salt fields =>
      NovaCommerce.register gateway session salt fields
  | login email password => NovaCommerce.login gateway email password
  | readMe actor => NovaCommerce.readMe actor
  | updateMe actor isPartial fields =>
      NovaCommerce.updateMe gateway actor isPartial fields
  | seedRoles session => NovaCommerce.seedRoles session

end NovaCommerce
