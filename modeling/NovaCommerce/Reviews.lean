import NovaCommerce.OrderViews

/-!
# Reviews

The endpoint for reviews and the two moderation actions of the admin.  Only
what `list` and `retrieve` return is filtered by the status; the objects that
an update or a deletion finds are all visible reviews, and any authenticated
user may ask for one.
-/

namespace NovaCommerce

open AtomicCall

inductive ReviewStatus where
  | pending
  | approved
  | rejected
  deriving DecidableEq, Repr

structure Review extends TimeStampedUUIDModel where
  product : Uuid
  user : Uuid
  order : Option Uuid := none
  rating : Nat
  title : String := ""
  body : String := ""
  status : ReviewStatus := .pending
  helpfulCount : Nat := 0
  deriving DecidableEq, Repr

instance : IsModel Review := ⟨Review.toTimeStampedUUIDModel⟩

/-- The tables that the endpoint reads and writes, and the addresses of the
users. -/
structure ReviewStore where
  products : Table Product := ∅
  orders : Table Order := ∅
  reviews : Table Review := ∅
  emails : Uuid → String := fun _ => ""

/-- The unique pair of a product and a user is in another row, which may be a
deleted one. -/
def ReviewStore.isTaken (store : ReviewStore) (review : Review) : Bool :=
  store.reviews.rows.any fun other => other.id ≠ review.id &&
    other.product = review.product && other.user = review.user

structure ReviewData where
  id : Uuid
  product : Uuid
  user : Uuid
  userEmail : String
  order : Option Uuid
  rating : Nat
  title : String
  body : String
  status : ReviewStatus
  helpfulCount : Nat
  createdAt : Time
  deriving DecidableEq, Repr

/-- The submitted fields that are not read-only, as their parsers read
them. -/
structure ReviewFields where
  product : Option Uuid := none
  order : Option (Option Uuid) := none
  rating : Option Int := none
  title : Option String := none
  body : Option String := none

/-- `setattr` of the submitted fields. -/
def ReviewFields.setOn (fields : ReviewFields) (review : Review) : Review :=
  { review with
    product := fields.product.getD review.product
    order := fields.order.getD review.order
    rating := (fields.rating.map Int.toNat).getD review.rating
    title := fields.title.getD review.title
    body := fields.body.getD review.body }

namespace ReviewSerializer

def data (store : ReviewStore) (review : Review) : ReviewData :=
  { review with userEmail := store.emails review.user }

def validateRating (val : Int) : List String :=
  if 1 ≤ val ∧ val ≤ 5 then [] else ["rating must be 1..5"]

/-- The range of a small integer column is checked first. -/
def refuseRating (val : Int) : List String :=
  if val < 0 then
    ["Ensure this value is greater than or equal to 0."]
  else if 32767 < val then
    ["Ensure this value is less than or equal to 32767."]
  else validateRating val

/-- A foreign key names a visible row. -/
def refuseKey {Row : Type} [IsModel Row] (table : Table Row) (id : Uuid) :
    List String :=
  if (objects table).any fun row => (IsModel.base row).id = id then []
  else [s!"Invalid pk \"{id}\" - object does not exist."]

def refuseOrder (store : ReviewStore) : Option Uuid → List String
  | none => []
  | some order => refuseKey store.orders order

/-- The errors of `is_valid`: a title and a body may be blank or missing. -/
def errors (store : ReviewStore) (isPartial : Bool) (fields : ReviewFields) :
    List (String × List String) :=
  fieldErrors "product" (!isPartial) (refuseKey store.products)
      fields.product ++
    fieldErrors "order" false (refuseOrder store) fields.order ++
    fieldErrors "rating" (!isPartial) refuseRating fields.rating ++
    fieldErrors "title" false (refuseText 200) fields.title ++
    fieldErrors "body" false refuseCharacters fields.body

end ReviewSerializer

inductive ReviewResponse where
  | reviews (page : Page ReviewData)
  | review (status : Nat) (data : ReviewData)
  | noContent
  | error (status : Nat) (code message : String) (details : Option Json)
  | detail (status : Nat) (text : String)

namespace ReviewResponse

/-- The reviews that an answer discloses. -/
def shown : ReviewResponse → List ReviewData
  | reviews page => page.results
  | review _ data => [data]
  | _ => []

/-- A serializer that refused the data of a request. -/
def invalid (errors : List (String × List String)) : ReviewResponse :=
  .error 400 "invalid" "Request failed." (some (errorDetails errors))

end ReviewResponse

abbrev ReviewCall := EStateM Exception ReviewStore ReviewResponse

/-- The `action` of a view that finds reviews. -/
inductive ReviewAction where
  | list
  | retrieve
  | update
  | destroy
  deriving DecidableEq, Repr

namespace ReviewViewSet

/-- The review is in `get_queryset`. -/
def inQueryset (action : ReviewAction) (review : Review) : Bool :=
  match action with
  | .list | .retrieve => review.status = .approved
  | .update | .destroy => true

def getQueryset (session : Session) (store : ReviewStore)
    (action : ReviewAction) : List Review :=
  session.orderBy store.reviews (inQueryset action)
    (fun first second => second.createdAt ≤ first.createdAt)

/-- `get_object`; no permission looks at the object. -/
def getObject (reader : UuidReader) (store : ReviewStore)
    (action : ReviewAction) (pk : String) : Except ReviewResponse Review :=
  match reader.read pk with
  | none => .error (.detail 404 "Not found.")
  | some id =>
      match (objects store.reviews).find? fun review =>
          inQueryset action review && review.id = id with
      | none => .error (.detail 404 "No Review matches the given query.")
      | some review => .ok review

def list (session : Session) (paginator : Paginator Review) : ReviewCall := do
  let store ← get
  pure (.reviews (paginator.page (ReviewSerializer.data store)
    (getQueryset session store .list)))

def retrieve (reader : UuidReader) (pk : String) : ReviewCall := do
  let store ← get
  match getObject reader store .retrieve pk with
  | .error refusal => pure refusal
  | .ok review => pure (.review 200 (ReviewSerializer.data store review))

/-- `serializer.save(user=..., status=...)`, with the defaults of the
model. -/
def newReview (session : Session) (user : User) (fields : ReviewFields)
    (product : Uuid) (rating : Int) (id : Uuid) : Review :=
  fields.setOn
    { id, createdAt := session.now, product, user := user.id,
      rating := rating.toNat, status := .pending }

theorem key_newReview (session : Session) (user : User)
    (fields : ReviewFields) (product : Uuid) (rating : Int) (id : Uuid) :
    Keyed.key (newReview session user fields product rating id) = id :=
  rfl

/-- `perform_create`. -/
def performCreate (session : Session) (user : User) (fields : ReviewFields)
    (product : Uuid) (rating : Int) : ReviewCall := do
  let store ← get
  let review := newReview session user fields product rating
    (FreshKey.fresh store.reviews.keys)
  if store.isTaken review then
    throw (.integrityError "unique product, user")
  else do
    modify fun store => { store with
      reviews := store.reviews.create
        (newReview session user fields product rating)
        (key_newReview session user fields product rating) }
    pure (.review 201 (ReviewSerializer.data store review))

def create (session : Session) (user : User) (fields : ReviewFields) :
    ReviewCall := do
  let store ← get
  match ReviewSerializer.errors store false fields, fields.product,
      fields.rating with
  | [], some product, some rating =>
      performCreate session user fields product rating
  -- A missing field is one of the errors.
  | errors, _, _ => pure (.invalid errors)

/-- `perform_update`: every column is written back. -/
def performUpdate (review : Review) : ReviewCall := do
  let store ← get
  if store.isTaken review then
    throw (.integrityError "unique product, user")
  else do
    modify fun store => { store with reviews := store.reviews.save review }
    pure (.review 200 (ReviewSerializer.data store review))

/-- `update` and `partial_update`. -/
def update (reader : UuidReader) (pk : String) (isPartial : Bool)
    (fields : ReviewFields) : ReviewCall := do
  let store ← get
  match getObject reader store .update pk with
  | .error refusal => pure refusal
  | .ok review =>
      match ReviewSerializer.errors store isPartial fields with
      | [] => performUpdate (fields.setOn review)
      | errors => pure (.invalid errors)

def destroy (reader : UuidReader) (session : Session) (pk : String) :
    ReviewCall := do
  let store ← get
  match getObject reader store .destroy pk with
  | .error refusal => pure refusal
  | .ok review => do
      modify fun store => { store with
        reviews := store.reviews.save
          { review with deletedAt := some session.now } }
      pure .noContent

end ReviewViewSet

/-- A request to the endpoint, with what its handling takes from outside. -/
inductive ReviewRequest where
  | list (session : Session) (paginator : Paginator Review)
  | retrieve (pk : String)
  | create (session : Session) (fields : ReviewFields)
  | update (pk : String) (isPartial : Bool) (fields : ReviewFields)
  | destroy (session : Session) (pk : String)

namespace ReviewRequest

/-- `IsAuthenticatedOrReadOnly` on a request that is not a safe one. -/
def authenticated (actor : Option User) (view : User → ReviewCall) :
    ReviewCall :=
  match actor with
  | none => pure (.error 401 "not_authenticated"
      "Authentication credentials were not provided." none)
  | some user => view user

def view (reader : UuidReader) (actor : Option User) :
    ReviewRequest → ReviewCall
  | list session paginator => ReviewViewSet.list session paginator
  | retrieve pk => ReviewViewSet.retrieve reader pk
  | create session fields => authenticated actor fun user =>
      ReviewViewSet.create session user fields
  | update pk isPartial fields => authenticated actor fun _ =>
      ReviewViewSet.update reader pk isPartial fields
  | destroy session pk => authenticated actor fun _ =>
      ReviewViewSet.destroy reader session pk

/-- The answer to a request, and what it leaves. -/
def respond (reader : UuidReader) (actor : Option User)
    (request : ReviewRequest) (before : ReviewStore) :
    ReviewResponse × ReviewStore :=
  match request.view reader actor before with
  | .ok response after => (response, after)
  | .error _ after =>
      (.error 500 "internal" "Internal server error." none, after)

end ReviewRequest

namespace ReviewAdmin

/-- `queryset.update(status=...)` on the selected reviews. -/
def updateStatus (status : ReviewStatus) (selected : List Uuid)
    (review : Review) : Review :=
  if alive review && selected.contains review.id then { review with status }
  else review

theorem key_updateStatus (status : ReviewStatus) (selected : List Uuid)
    (review : Review) :
    Keyed.key (updateStatus status selected review) = Keyed.key review := by
  unfold updateStatus
  split <;> rfl

def approve (selected : List Uuid) (store : ReviewStore) : ReviewStore :=
  { store with
    reviews := store.reviews.alter (updateStatus .approved selected)
      (key_updateStatus .approved selected) }

def reject (selected : List Uuid) (store : ReviewStore) : ReviewStore :=
  { store with
    reviews := store.reviews.alter (updateStatus .rejected selected)
      (key_updateStatus .rejected selected) }

end ReviewAdmin

section Effects

variable {reader : UuidReader} {actor : Option User} {store : ReviewStore}

theorem mem_of_getObject {action : ReviewAction} {pk : String}
    {review : Review}
    (found : ReviewViewSet.getObject reader store action pk = .ok review) :
    review ∈ objects store.reviews ∧
      ReviewViewSet.inQueryset action review = true ∧
      reader.read pk = some review.id := by
  unfold ReviewViewSet.getObject at found
  cases isRead : reader.read pk with
  | none => simp [isRead] at found
  | some id =>
      cases looked : (objects store.reviews).find? fun review =>
          ReviewViewSet.inQueryset action review && review.id = id with
      | none => simp [isRead, looked] at found
      | some other =>
          simp only [isRead, looked, Except.ok.injEq] at found
          subst found
          have holds := List.find?_some looked
          simp only [Bool.and_eq_true, decide_eq_true_eq] at holds
          exact ⟨List.mem_of_find?_eq_some looked, holds.1,
            congrArg some holds.2.symm⟩

/-- The visible reviews of the action are found by their identifiers. -/
theorem getObject_of_mem {action : ReviewAction} {review : Review}
    (live : review ∈ objects store.reviews)
    (listed : ReviewViewSet.inQueryset action review = true) :
    ReviewViewSet.getObject reader store action (toString review.id) =
      .ok review := by
  unfold ReviewViewSet.getObject
  rw [reader.read_toString]
  have looked : ((objects store.reviews).find? fun other =>
      ReviewViewSet.inQueryset action other && other.id = review.id) =
        some review := by
    cases found : (objects store.reviews).find? fun other =>
        ReviewViewSet.inQueryset action other && other.id = review.id with
    | none =>
        have absent := List.find?_eq_none.mp found review live
        simp [listed] at absent
    | some other =>
        have holds := List.find?_some found
        simp only [Bool.and_eq_true, decide_eq_true_eq] at holds
        have otherMem := List.mem_of_find?_eq_some found
        rw [store.reviews.eq_of_key_eq (List.mem_filter.mp otherMem).1
          (List.mem_filter.mp live).1 holds.2]
  simp only [looked]

/-- The review that an answer says was saved. -/
def ReviewResponse.saved : ReviewResponse → Option ReviewData
  | review _ data => some data
  | _ => none

def ReviewRequest.isRead : ReviewRequest → Bool
  | list _ _ => true
  | retrieve _ => true
  | _ => false

/-- An update of the review with these fields is saved. -/
def ReviewStore.accepts (store : ReviewStore) (isPartial : Bool)
    (fields : ReviewFields) (review : Review) : Prop :=
  ReviewSerializer.errors store isPartial fields = [] ∧
    store.isTaken (fields.setOn review) = false

def ReviewStore.withSaved (store : ReviewStore) (review : Review) :
    ReviewStore :=
  { store with reviews := store.reviews.save review }

/-- What a request does to the reviews, and how it answers. -/
inductive ReviewEffect (reader : UuidReader) (actor : Option User)
    (store : ReviewStore) :
    ReviewRequest → ReviewResponse → ReviewStore → Prop
  | read {request : ReviewRequest} {response : ReviewResponse}
      (isRead : request.isRead = true) :
      ReviewEffect reader actor store request response store
  | created {user : User} {session : Session} {fields : ReviewFields}
      {product : Uuid} {rating : Int} {review : Review}
      (isActor : actor = some user) (hasProduct : fields.product = some product)
      (hasRating : fields.rating = some rating)
      (review_eq : review = ReviewViewSet.newReview session user fields product
        rating (FreshKey.fresh store.reviews.keys)) :
      ReviewEffect reader actor store (.create session fields)
        (.review 201 (ReviewSerializer.data store review))
        { store with
          reviews := store.reviews.create
            (ReviewViewSet.newReview session user fields product rating)
            (ReviewViewSet.key_newReview session user fields product
              rating) }
  | refusedCreate {session : Session} {fields : ReviewFields}
      {response : ReviewResponse} (notSaved : response.saved = none) :
      ReviewEffect reader actor store (.create session fields) response store
  | updated {user : User} {pk : String} {isPartial : Bool}
      {fields : ReviewFields} {review : Review} (isActor : actor = some user)
      (found : ReviewViewSet.getObject reader store .update pk = .ok review)
      (accepted : store.accepts isPartial fields review) :
      ReviewEffect reader actor store (.update pk isPartial fields)
        (.review 200 (ReviewSerializer.data store (fields.setOn review)))
        (store.withSaved (fields.setOn review))
  | refusedUpdate {pk : String} {isPartial : Bool} {fields : ReviewFields}
      {response : ReviewResponse} (notSaved : response.saved = none)
      (refused : ∀ user review, actor = some user →
        ReviewViewSet.getObject reader store .update pk = .ok review →
          ¬store.accepts isPartial fields review) :
      ReviewEffect reader actor store (.update pk isPartial fields) response
        store
  | destroyed {user : User} {session : Session} {pk : String}
      {review : Review} (isActor : actor = some user)
      (found : ReviewViewSet.getObject reader store .destroy pk = .ok review) :
      ReviewEffect reader actor store (.destroy session pk) .noContent
        (store.withSaved { review with deletedAt := some session.now })
  | refusedDestroy {session : Session} {pk : String}
      {response : ReviewResponse}
      (refused : ∀ user review, actor = some user →
        ReviewViewSet.getObject reader store .destroy pk ≠ .ok review) :
      ReviewEffect reader actor store (.destroy session pk) response store

theorem performCreate_eq (store : ReviewStore) (session : Session)
    (user : User) (fields : ReviewFields) (product : Uuid) (rating : Int) :
    let review := ReviewViewSet.newReview session user fields product rating
      (FreshKey.fresh store.reviews.keys)
    ReviewViewSet.performCreate session user fields product rating store =
      if store.isTaken review then
        .error (.integrityError "unique product, user") store
      else
        .ok (.review 201 (ReviewSerializer.data store review)) { store with
          reviews := store.reviews.create
            (ReviewViewSet.newReview session user fields product rating)
            (ReviewViewSet.key_newReview session user fields product
              rating) } := by
  intro review
  rw [ReviewViewSet.performCreate, get_bind]
  split <;> rfl

theorem performUpdate_eq (review : Review) :
    ReviewViewSet.performUpdate review store =
      if store.isTaken review then
        .error (.integrityError "unique product, user") store
      else
        .ok (.review 200 (ReviewSerializer.data store review))
          (store.withSaved review) := by
  rw [ReviewViewSet.performUpdate, get_bind]
  split <;> rfl

theorem respond_of_eq_ok {request : ReviewRequest} {response : ReviewResponse}
    {after : ReviewStore}
    (returned : request.view reader actor store = .ok response after) :
    request.respond reader actor store = (response, after) := by
  simp only [ReviewRequest.respond, returned]

theorem respond_of_eq_error {request : ReviewRequest} {raised : Exception}
    {after : ReviewStore}
    (failed : request.view reader actor store = .error raised after) :
    request.respond reader actor store =
      (.error 500 "internal" "Internal server error." none, after) := by
  simp only [ReviewRequest.respond, failed]

/-- What a creation without a product or a rating, or with any other error,
comes to. -/
theorem create_of_errors {session : Session} {user : User}
    {fields : ReviewFields}
    (hasErrors : ReviewSerializer.errors store false fields ≠ []) :
    ReviewViewSet.create session user fields store =
      .ok (.invalid (ReviewSerializer.errors store false fields)) store := by
  rw [ReviewViewSet.create, get_bind]
  cases errors : ReviewSerializer.errors store false fields with
  | nil => exact absurd errors hasErrors
  | cons first others => rfl

theorem required_of_errors {fields : ReviewFields}
    (noErrors : ReviewSerializer.errors store false fields = []) :
    ∃ product rating, fields.product = some product ∧
      fields.rating = some rating := by
  unfold ReviewSerializer.errors at noErrors
  simp only [List.append_eq_nil_iff] at noErrors
  obtain ⟨⟨⟨⟨ofProduct, _⟩, ofRating⟩, _⟩, _⟩ := noErrors
  have given {Value : Type} {name : String} {refuse : Value → List String}
      {value : Option Value}
      (none : fieldErrors name (!false) refuse value = []) :
      ∃ known, value = some known := by
    cases value with
    | none => cases none
    | some known => exact ⟨known, rfl⟩
  obtain ⟨product, hasProduct⟩ := given ofProduct
  obtain ⟨rating, hasRating⟩ := given ofRating
  exact ⟨product, rating, hasProduct, hasRating⟩

theorem reviewEffect_create (session : Session) (user : User)
    (fields : ReviewFields) :
    ReviewEffect reader (some user) store (.create session fields)
      ((ReviewRequest.create session fields).respond reader (some user)
        store).1
      ((ReviewRequest.create session fields).respond reader (some user)
        store).2 := by
  have viewed : (ReviewRequest.create session fields).view reader (some user)
      store = ReviewViewSet.create session user fields store := rfl
  by_cases noErrors : ReviewSerializer.errors store false fields = []
  · obtain ⟨product, rating, hasProduct, hasRating⟩ :=
      required_of_errors noErrors
    have performed := performCreate_eq store session user fields product rating
    dsimp only at performed
    rw [ReviewViewSet.create, get_bind, noErrors, hasProduct, hasRating]
      at viewed
    dsimp only at viewed
    rw [performed] at viewed
    split at viewed
    · rw [respond_of_eq_error viewed]
      exact .refusedCreate rfl
    · rw [respond_of_eq_ok viewed]
      exact .created rfl hasProduct hasRating rfl
  · rw [create_of_errors noErrors] at viewed
    rw [respond_of_eq_ok viewed]
    exact .refusedCreate rfl

theorem detail_of_getObject {action : ReviewAction} {pk : String}
    {refusal : ReviewResponse}
    (failed : ReviewViewSet.getObject reader store action pk =
      .error refusal) : ∃ text, refusal = .detail 404 text := by
  unfold ReviewViewSet.getObject at failed
  cases isRead : reader.read pk with
  | none =>
      simp only [isRead, Except.error.injEq] at failed
      exact ⟨_, failed.symm⟩
  | some id =>
      cases looked : (objects store.reviews).find? fun review =>
          ReviewViewSet.inQueryset action review && review.id = id with
      | none =>
          simp only [isRead, looked, Except.error.injEq] at failed
          exact ⟨_, failed.symm⟩
      | some review => simp [isRead, looked] at failed

theorem reviewEffect_update (user : User) (pk : String) (isPartial : Bool)
    (fields : ReviewFields) :
    ReviewEffect reader (some user) store (.update pk isPartial fields)
      ((ReviewRequest.update pk isPartial fields).respond reader (some user)
        store).1
      ((ReviewRequest.update pk isPartial fields).respond reader (some user)
        store).2 := by
  have viewed : (ReviewRequest.update pk isPartial fields).view reader
      (some user) store = ReviewViewSet.update reader pk isPartial fields
        store := rfl
  rw [ReviewViewSet.update, get_bind] at viewed
  cases found : ReviewViewSet.getObject reader store .update pk with
  | error refusal =>
      simp only [found] at viewed
      rw [respond_of_eq_ok viewed]
      obtain ⟨text, rfl⟩ := detail_of_getObject found
      refine .refusedUpdate rfl fun _ _ _ other => ?_
      rw [found] at other
      cases other
  | ok review =>
      have same {other : Review} (again : ReviewViewSet.getObject reader store
          .update pk = .ok other) : review = other :=
        Except.ok.inj (found.symm.trans again)
      cases errors : ReviewSerializer.errors store isPartial fields with
      | cons first others =>
          simp only [found, errors] at viewed
          rw [respond_of_eq_ok viewed]
          refine .refusedUpdate rfl fun _ other _ again accepted => ?_
          rw [accepted.1] at errors
          cases errors
      | nil =>
          simp only [found, errors] at viewed
          rw [performUpdate_eq] at viewed
          by_cases taken : store.isTaken (fields.setOn review) = true
          · rw [if_pos taken] at viewed
            rw [respond_of_eq_error viewed]
            refine .refusedUpdate rfl fun _ other _ again accepted => ?_
            rw [← same again] at accepted
            exact absurd taken (Bool.eq_false_iff.mp accepted.2)
          · rw [if_neg taken] at viewed
            rw [respond_of_eq_ok viewed]
            exact .updated rfl found ⟨errors, Bool.eq_false_iff.mpr taken⟩

theorem reviewEffect_destroy (user : User) (session : Session) (pk : String) :
    ReviewEffect reader (some user) store (.destroy session pk)
      ((ReviewRequest.destroy session pk).respond reader (some user) store).1
      ((ReviewRequest.destroy session pk).respond reader (some user)
        store).2 := by
  have viewed : (ReviewRequest.destroy session pk).view reader (some user)
      store = ReviewViewSet.destroy reader session pk store := rfl
  rw [ReviewViewSet.destroy, get_bind] at viewed
  cases found : ReviewViewSet.getObject reader store .destroy pk with
  | error refusal =>
      simp only [found] at viewed
      rw [respond_of_eq_ok viewed]
      refine .refusedDestroy fun _ review _ again => ?_
      rw [found] at again
      cases again
  | ok review =>
      simp only [found] at viewed
      have destroyed := viewed.trans
        (show _ = EStateM.Result.ok ReviewResponse.noContent
          (store.withSaved { review with deletedAt := some session.now })
          from rfl)
      rw [respond_of_eq_ok destroyed]
      exact .destroyed rfl found

theorem respond_retrieve_of_error {pk : String} {refusal : ReviewResponse}
    (failed : ReviewViewSet.getObject reader store .retrieve pk =
      .error refusal) :
    (ReviewRequest.retrieve pk).respond reader actor store =
      (refusal, store) := by
  have viewed : (ReviewRequest.retrieve pk).view reader actor store =
      ReviewViewSet.retrieve reader pk store := rfl
  rw [ReviewViewSet.retrieve, get_bind, failed] at viewed
  exact respond_of_eq_ok viewed

theorem respond_retrieve_of_ok {pk : String} {review : Review}
    (found : ReviewViewSet.getObject reader store .retrieve pk =
      .ok review) :
    (ReviewRequest.retrieve pk).respond reader actor store =
      (.review 200 (ReviewSerializer.data store review), store) := by
  have viewed : (ReviewRequest.retrieve pk).view reader actor store =
      ReviewViewSet.retrieve reader pk store := rfl
  rw [ReviewViewSet.retrieve, get_bind, found] at viewed
  exact respond_of_eq_ok viewed

/-- What is read is an approved review. -/
theorem approved_of_shown {request : ReviewRequest}
    (isRead : request.isRead = true) {data : ReviewData}
    (shown : data ∈ (request.respond reader actor store).1.shown) :
    ∃ review ∈ objects store.reviews, review.status = .approved ∧
      data = ReviewSerializer.data store review := by
  cases request with
  | list session paginator =>
      obtain ⟨review, listed, rfl⟩ := List.mem_map.mp shown
      have queried := paginator.results_subset _ listed
      obtain ⟨member, holds⟩ := List.mem_filter.mp
        ((session.orderBy_perm _ _ _).mem_iff.mp queried)
      simp only [Bool.and_eq_true, ReviewViewSet.inQueryset,
        decide_eq_true_eq] at holds
      exact ⟨review, List.mem_filter.mpr ⟨member, holds.1⟩, holds.2, rfl⟩
  | retrieve pk =>
      cases found : ReviewViewSet.getObject reader store .retrieve pk with
      | error refusal =>
          rw [respond_retrieve_of_error found] at shown
          obtain ⟨text, rfl⟩ := detail_of_getObject found
          cases shown
      | ok review =>
          rw [respond_retrieve_of_ok found] at shown
          obtain ⟨live, listed, _⟩ := mem_of_getObject found
          obtain rfl := List.mem_singleton.mp shown
          exact ⟨review, live, of_decide_eq_true listed, rfl⟩
  | create => cases isRead
  | update => cases isRead
  | destroy => cases isRead

/-- Every request has one of the effects. -/
theorem reviewEffect (reader : UuidReader) (actor : Option User)
    (store : ReviewStore) (request : ReviewRequest) :
    ReviewEffect reader actor store request
      (request.respond reader actor store).1
      (request.respond reader actor store).2 := by
  cases request with
  | list => exact .read rfl
  | retrieve pk =>
      cases found : ReviewViewSet.getObject reader store .retrieve pk with
      | error refusal =>
          rw [respond_retrieve_of_error found]
          exact .read rfl
      | ok review =>
          rw [respond_retrieve_of_ok found]
          exact .read rfl
  | create session fields =>
      cases actor with
      | none => exact .refusedCreate rfl
      | some user => exact reviewEffect_create session user fields
  | update pk isPartial fields =>
      cases actor with
      | none => exact .refusedUpdate rfl fun _ _ isActor => by cases isActor
      | some user => exact reviewEffect_update user pk isPartial fields
  | destroy session pk =>
      cases actor with
      | none => exact .refusedDestroy fun _ _ isActor => by cases isActor
      | some user => exact reviewEffect_destroy user session pk

end Effects

end NovaCommerce
