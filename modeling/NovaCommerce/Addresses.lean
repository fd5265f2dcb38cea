import NovaCommerce.Reviews

/-!
# Addresses

The endpoint for the addresses of a user.  A client may write the kind of an
address and whether it is a default one; the creation of a default address and
`make_default` take the mark off the user's other addresses of the kind.
-/

namespace NovaCommerce

inductive AddressKind where
  | shipping
  | billing
  | both
  deriving DecidableEq, Repr

def AddressKind.ofValue : String → Option AddressKind
  | "shipping" => some .shipping
  | "billing" => some .billing
  | "both" => some .both
  | _ => none

structure Address extends TimeStampedUUIDModel where
  user : Uuid
  label : String := ""
  kind : AddressKind := .shipping
  fullName : String
  phone : String
  country : String := "UZ"
  region : String := ""
  city : String
  street : String
  apartment : String := ""
  postalCode : String := ""
  isDefault : Bool := false
  location : Json := .obj []

instance : IsModel Address := ⟨Address.toTimeStampedUUIDModel⟩

structure AddressData where
  id : Uuid
  label : String
  kind : AddressKind
  fullName : String
  phone : String
  country : String
  region : String
  city : String
  street : String
  apartment : String
  postalCode : String
  isDefault : Bool
  location : Json
  createdAt : Time

/-- The submitted fields that are not read-only, as their parsers read
them. -/
structure AddressFields where
  label : Option String := none
  kind : Option String := none
  fullName : Option String := none
  phone : Option String := none
  country : Option String := none
  region : Option String := none
  city : Option String := none
  street : Option String := none
  apartment : Option String := none
  postalCode : Option String := none
  isDefault : Option Bool := none
  location : Option Json := none

/-- `setattr` of the submitted fields. -/
def AddressFields.setOn (fields : AddressFields) (address : Address) :
    Address :=
  { address with
    label := fields.label.getD address.label
    kind := (fields.kind.bind AddressKind.ofValue).getD address.kind
    fullName := fields.fullName.getD address.fullName
    phone := fields.phone.getD address.phone
    country := fields.country.getD address.country
    region := fields.region.getD address.region
    city := fields.city.getD address.city
    street := fields.street.getD address.street
    apartment := fields.apartment.getD address.apartment
    postalCode := fields.postalCode.getD address.postalCode
    isDefault := fields.isDefault.getD address.isDefault
    location := fields.location.getD address.location }

namespace AddressSerializer

def data (address : Address) : AddressData :=
  { address with }

/-- The checks of a text that may not be blank. -/
def refuseRequired (maxLength : Nat) (text : String) : List String :=
  if text = "" then refuseBlank text else refuseText maxLength text

def refuseKind (kind : String) : List String :=
  if (AddressKind.ofValue kind).isSome then []
  else [s!"\"{kind}\" is not a valid choice."]

def refuseLocation : Json → List String
  | .null => ["This field may not be null."]
  | _ => []

/-- The errors of `is_valid`. -/
def errors (isPartial : Bool) (fields : AddressFields) :
    List (String × List String) :=
  fieldErrors "label" false (refuseText 64) fields.label ++
    fieldErrors "kind" false refuseKind fields.kind ++
    fieldErrors "full_name" (!isPartial) (refuseRequired 200)
      fields.fullName ++
    fieldErrors "phone" (!isPartial) (refuseRequired 24) fields.phone ++
    fieldErrors "country" false (refuseRequired 2) fields.country ++
    fieldErrors "region" false (refuseText 120) fields.region ++
    fieldErrors "city" (!isPartial) (refuseRequired 120) fields.city ++
    fieldErrors "street" (!isPartial) (refuseRequired 255) fields.street ++
    fieldErrors "apartment" false (refuseText 64) fields.apartment ++
    fieldErrors "postal_code" false (refuseText 20) fields.postalCode ++
    fieldErrors "location" false refuseLocation fields.location

end AddressSerializer

inductive AddressResponse where
  | addresses (page : Page AddressData)
  | address (status : Nat) (data : AddressData)
  | noContent
  | error (status : Nat) (code message : String) (details : Option Json)
  | detail (status : Nat) (text : String)

/-- A serializer that refused the data of a request. -/
def AddressResponse.invalid (errors : List (String × List String)) :
    AddressResponse :=
  .error 400 "invalid" "Request failed." (some (errorDetails errors))

/-- An exception that no view handles. -/
def AddressResponse.internal : AddressResponse :=
  .error 500 "internal" "Internal server error." none

/-- An action of the endpoint: its answer, and the addresses it leaves. -/
abbrev AddressCall := Table Address → AddressResponse × Table Address

/-- `.update(is_default=False)` on the visible addresses of a user and a
kind. -/
def clearDefault (user : Uuid) (kind : AddressKind) (address : Address) :
    Address :=
  if alive address && address.user = user && address.kind = kind then
    { address with isDefault := false }
  else address

theorem key_clearDefault (user : Uuid) (kind : AddressKind)
    (address : Address) :
    Keyed.key (clearDefault user kind address) = Keyed.key address := by
  unfold clearDefault
  split <;> rfl

namespace AddressViewSet

def getQueryset (session : Session) (table : Table Address) (user : User) :
    List Address :=
  session.orderBy table (fun address => address.user = user.id)
    fun first second =>
      if first.isDefault = second.isDefault then
        second.createdAt ≤ first.createdAt
      else first.isDefault = true

/-- `get_object`, from the user's own addresses. -/
def getObject (reader : UuidReader) (table : Table Address) (user : User)
    (pk : String) : Except AddressResponse Address :=
  match reader.read pk with
  | none => .error (.detail 404 "Not found.")
  | some id =>
      match (objects table).find? fun address =>
          address.user = user.id && address.id = id with
      | none => .error (.detail 404 "No Address matches the given query.")
      | some address => .ok address

/-- An action on the object of the request. -/
def onObject (reader : UuidReader) (user : User) (pk : String)
    (act : Address → AddressCall) : AddressCall := fun table =>
  match getObject reader table user pk with
  | .error refusal => (refusal, table)
  | .ok address => act address table

def list (session : Session) (user : User) (paginator : Paginator Address) :
    AddressCall := fun table =>
  (.addresses (paginator.page AddressSerializer.data
    (getQueryset session table user)), table)

def retrieve (reader : UuidReader) (user : User) (pk : String) : AddressCall :=
  onObject reader user pk fun address table =>
    (.address 200 (AddressSerializer.data address), table)

/-- `serializer.save(user=...)`, with the defaults of the model. -/
def newAddress (session : Session) (user : User) (fields : AddressFields)
    (fullName phone city street : String) (id : Uuid) : Address :=
  fields.setOn
    { id, createdAt := session.now, user := user.id, fullName, phone, city,
      street }

theorem key_newAddress (session : Session) (user : User)
    (fields : AddressFields) (fullName phone city street : String)
    (id : Uuid) :
    Keyed.key (newAddress session user fields fullName phone city street id) =
      id :=
  rfl

/-- The update of `perform_create`, which leaves the new address. -/
def clearOthers (created address : Address) : Address :=
  if address.id = created.id then address
  else clearDefault created.user created.kind address

theorem key_clearOthers (created address : Address) :
    Keyed.key (clearOthers created address) = Keyed.key address := by
  unfold clearOthers
  split
  · rfl
  · exact key_clearDefault _ _ _

def performCreate (session : Session) (user : User) (fields : AddressFields)
    (fullName phone city street : String) : AddressCall := fun table =>
  let address := newAddress session user fields fullName phone city street
    (FreshKey.fresh table.keys)
  let created := table.create
    (newAddress session user fields fullName phone city street)
    (key_newAddress session user fields fullName phone city street)
  -- The column refuses what JSON of the database cannot hold.
  if !address.location.storable then (.internal, table)
  else
    (.address 201 (AddressSerializer.data address),
      if address.isDefault then
        created.alter (clearOthers address) (key_clearOthers address)
      else created)

def create (session : Session) (user : User) (fields : AddressFields) :
    AddressCall := fun table =>
  match AddressSerializer.errors false fields, fields.fullName, fields.phone,
      fields.city, fields.street with
  | [], some fullName, some phone, some city, some street =>
      performCreate session user fields fullName phone city street table
  -- A missing field is one of the errors.
  | errors, _, _, _, _ => (.invalid errors, table)

/-- `update` and `partial_update`; `perform_update` only saves. -/
def update (reader : UuidReader) (user : User) (pk : String)
    (isPartial : Bool) (fields : AddressFields) : AddressCall :=
  onObject reader user pk fun address table =>
    match AddressSerializer.errors isPartial fields with
    | [] =>
        let saved := fields.setOn address
        if !saved.location.storable then (.internal, table)
        else (.address 200 (AddressSerializer.data saved), table.save saved)
    | errors => (.invalid errors, table)

def destroy (reader : UuidReader) (session : Session) (user : User)
    (pk : String) : AddressCall :=
  onObject reader user pk fun address table =>
    (.noContent, table.save { address with deletedAt := some session.now })

def makeDefault (reader : UuidReader) (user : User) (pk : String) :
    AddressCall :=
  onObject reader user pk fun address table =>
    let cleared := table.alter (clearDefault user.id address.kind)
      (key_clearDefault user.id address.kind)
    -- Only `is_default` is written back.
    let saved := { address with isDefault := true }
    (.address 200 (AddressSerializer.data saved), cleared.save saved)

end AddressViewSet

/-- A request to the endpoint, with what its handling takes from outside. -/
inductive AddressRequest where
  | list (session : Session) (paginator : Paginator Address)
  | retrieve (pk : String)
  | create (session : Session) (fields : AddressFields)
  | update (pk : String) (isPartial : Bool) (fields : AddressFields)
  | destroy (session : Session) (pk : String)
  | makeDefault (pk : String)

def AddressRequest.view (reader : UuidReader) (user : User) :
    AddressRequest → AddressCall
  | list session paginator => AddressViewSet.list session user paginator
  | retrieve pk => AddressViewSet.retrieve reader user pk
  | create session fields => AddressViewSet.create session user fields
  | update pk isPartial fields =>
      AddressViewSet.update reader user pk isPartial fields
  | destroy session pk => AddressViewSet.destroy reader session user pk
  | makeDefault pk => AddressViewSet.makeDefault reader user pk

/-- The answer to a request; all actions ask for an authenticated user. -/
def AddressRequest.respond (reader : UuidReader) (actor : Option User)
    (request : AddressRequest) (before : Table Address) :
    AddressResponse × Table Address :=
  match actor with
  | none => (.error 401 "not_authenticated"
      "Authentication credentials were not provided." none, before)
  | some user => request.view reader user before

end NovaCommerce
