import NovaCommerce.Reviews
import NovaCommerce.TenantIsolation

/-!
# Moderated reviews

A review is meant to be shown as its author last submitted it, in a form that
a moderator has approved, and to be changed by its author and the staff only.
The endpoint keeps to that in the runs described here: whatever it finds it
also changes and deletes, for anybody, and an approved review stays approved
when it is changed.
-/

namespace NovaCommerce

open GuardedRun

structure ReviewContent where
  rating : Nat
  title : String
  body : String
  deriving DecidableEq, Repr

def Review.content (review : Review) : ReviewContent :=
  ⟨review.rating, review.title, review.body⟩

def ReviewData.content (data : ReviewData) : ReviewContent :=
  ⟨data.rating, data.title, data.body⟩

def ReviewFields.applyTo (fields : ReviewFields) (content : ReviewContent) :
    ReviewContent where
  rating := (fields.rating.map Int.toNat).getD content.rating
  title := fields.title.getD content.title
  body := fields.body.getD content.body

theorem content_setOn (fields : ReviewFields) (review : Review) :
    (fields.setOn review).content = fields.applyTo review.content :=
  rfl

/-- The reviews with the history that no table keeps: what the author of each
has submitted, and the forms in which a moderator has approved it. -/
structure Moderation where
  store : ReviewStore
  submitted : Uuid → Option ReviewContent := fun _ => none
  vetted : Uuid → List ReviewContent := fun _ => []

inductive ModerationStep where
  | request (actor : Option User) (request : ReviewRequest)
  | approve (selected : List Uuid)
  | reject (selected : List Uuid)

namespace Moderation

/-- What the authors have submitted after a request that has saved a review,
or none. -/
def submittedAfter (state : Moderation) (actor : Option User)
    (request : ReviewRequest) (saved : Option ReviewData) :
    Uuid → Option ReviewContent :=
  match actor, request, saved with
  | some _, .create _ fields, some data =>
      Function.update state.submitted data.id
        (some (fields.applyTo ⟨0, "", ""⟩))
  | some user, .update _ _ fields, some data =>
      if data.user = user.id then
        Function.update state.submitted data.id
          ((state.submitted data.id).map fields.applyTo)
      else state.submitted
  | _, _, _ => state.submitted

/-- The forms that are approved once the selected reviews are. -/
def vettedAfter (state : Moderation) (selected : List Uuid) (id : Uuid) :
    List ReviewContent :=
  ((objects state.store.reviews).filter fun review =>
    review.id = id && selected.contains review.id).map Review.content ++
      state.vetted id

def step (reader : UuidReader) (state : Moderation) :
    ModerationStep → Moderation
  | .request actor request =>
      let answered := request.respond reader actor state.store
      { state with
        store := answered.2
        submitted := state.submittedAfter actor request answered.1.saved }
  | .approve selected =>
      { state with
        store := ReviewAdmin.approve selected state.store
        vetted := state.vettedAfter selected }
  | .reject selected =>
      { state with store := ReviewAdmin.reject selected state.store }

end Moderation

/-- The author of a review and the staff may change it. -/
def mayChange (actor : Option User) (review : Review) : Bool :=
  actor.any fun user =>
    user.isStaff || user.isSuperuser || user.id = review.user

namespace Moderation

/-- Whatever a reader is shown is what its author last submitted, and a
moderator has approved it in that form. -/
def Published (reader : UuidReader) (state : Moderation) : Prop :=
  ∀ (actor : Option User) (request : ReviewRequest), request.isRead = true →
    ∀ data ∈ (request.respond reader actor state.store).1.shown,
      state.submitted data.id = some data.content ∧
        data.content ∈ state.vetted data.id

/-- A request leaves the reviews that the actor may not change. -/
def Untouched (reader : UuidReader) (state : Moderation) :
    ModerationStep → Prop
  | .request actor request => ∀ review ∈ state.store.reviews.rows,
      mayChange actor review = false →
        review ∈ (request.respond reader actor state.store).2.reviews.rows
  | _ => True

/-- A step that leaves the reviews moderated and the author's own. -/
def Moderates (reader : UuidReader) (state : Moderation)
    (label : ModerationStep) : Prop :=
  state.Untouched reader label ∧ (state.step reader label).Published reader

/-- Updates and deletions come from the author or the staff, updates of an
approved review leave it in an approved form, which is the same one unless it
is the author's, and moderators approve what the author has submitted. -/
def Respects (reader : UuidReader) (state : Moderation) :
    ModerationStep → Prop
  | .request (some user) (.update pk isPartial fields) => ∀ review,
      ReviewViewSet.getObject reader state.store .update pk = .ok review →
        state.store.accepts isPartial fields review →
          (mayChange (some user) review = false →
            fields.setOn review = review) ∧
          (review.status = .approved →
            if user.id = review.user then
              fields.applyTo review.content ∈ state.vetted review.id
            else fields.applyTo review.content = review.content)
  | .request (some user) (.destroy _ pk) => ∀ review,
      ReviewViewSet.getObject reader state.store .destroy pk = .ok review →
        mayChange (some user) review = true
  | .approve selected => ∀ review ∈ objects state.store.reviews,
      review.id ∈ selected →
        state.submitted review.id = some review.content
  | _ => True

/-- The approved reviews are as their authors last submitted them, in an
approved form. -/
def Vetted (state : Moderation) : Prop :=
  ∀ review ∈ objects state.store.reviews, review.status = .approved →
    state.submitted review.id = some review.content ∧
      review.content ∈ state.vetted review.id

section Steps

variable {reader : UuidReader} {state : Moderation}

theorem published_iff : state.Published reader ↔ state.Vetted := by
  constructor
  · intro published review live isApproved
    have found : ReviewViewSet.getObject reader state.store .retrieve
        (toString review.id) = .ok review :=
      getObject_of_mem live (decide_eq_true isApproved)
    have shown : ReviewSerializer.data state.store review ∈
        ((ReviewRequest.retrieve (toString review.id)).respond reader none
          state.store).1.shown := by
      rw [respond_retrieve_of_ok found]
      exact List.mem_singleton_self _
    exact published none (.retrieve _) rfl _ shown
  · intro vetted actor request isRead data shown
    obtain ⟨review, live, isApproved, rfl⟩ := approved_of_shown isRead shown
    exact vetted review live isApproved

/-- Nothing but a saved review changes what was submitted. -/
theorem submittedAfter_of_none (actor : Option User)
    (request : ReviewRequest) :
    state.submittedAfter actor request none = state.submitted := by
  cases actor <;> cases request <;> rfl

theorem submittedAfter_of_read {actor : Option User} {request : ReviewRequest}
    (isRead : request.isRead = true) (saved : Option ReviewData) :
    state.submittedAfter actor request saved = state.submitted := by
  cases request with
  | list | retrieve => cases actor <;> cases saved <;> rfl
  | create | update | destroy => cases isRead

theorem submittedAfter_destroy (actor : Option User) (session : Session)
    (pk : String) (saved : Option ReviewData) :
    state.submittedAfter actor (.destroy session pk) saved =
      state.submitted := by
  cases actor <;> cases saved <;> rfl

theorem respects_of_read {actor : Option User} {request : ReviewRequest}
    (isRead : request.isRead = true) :
    state.Respects reader (.request actor request) := by
  cases request with
  | list | retrieve => cases actor <;> trivial
  | create | update | destroy => cases isRead

/-- A step that leaves the reviews as they are. -/
theorem moderates_of_unchanged {actor : Option User} (vetted : state.Vetted)
    {submitted : Uuid → Option ReviewContent}
    (unchanged : submitted = state.submitted) :
    (∀ review ∈ state.store.reviews.rows, mayChange actor review = false →
        review ∈ state.store.reviews.rows) ∧
      Vetted { state with submitted } :=
  ⟨fun _ member _ => member, unchanged ▸ vetted⟩

/-- A new review waits for a moderator. -/
theorem vetted_created (vetted : state.Vetted) {user : User}
    {session : Session} {fields : ReviewFields} {product : Uuid} {rating : Int}
    (content : ReviewContent) :
    Vetted { state with
      store := { state.store with
        reviews := state.store.reviews.create
          (ReviewViewSet.newReview session user fields product rating)
          (ReviewViewSet.key_newReview session user fields product rating) }
      submitted := Function.update state.submitted
        (FreshKey.fresh state.store.reviews.keys) (some content) } := by
  intro review live isApproved
  obtain ⟨member, isAlive⟩ := List.mem_filter.mp live
  rw [Table.rows_create, List.mem_append, List.mem_singleton] at member
  rcases member with old | rfl
  · have otherId : review.id ≠ FreshKey.fresh state.store.reviews.keys := by
      intro same
      apply FreshKey.fresh_notMem state.store.reviews.keys
      rw [← same]
      exact List.mem_map_of_mem old
    dsimp only
    rw [Function.update_of_ne otherId]
    exact vetted review (List.mem_filter.mpr ⟨old, isAlive⟩) isApproved
  · cases isApproved

/-- A saved review is as vetted as its new form is, the others as before. -/
theorem vetted_saved_iff (vetted : state.Vetted) {review saved : Review}
    (member : review ∈ state.store.reviews.rows)
    (sameId : saved.id = review.id) (isAlive : alive saved = true)
    {submitted : Uuid → Option ReviewContent}
    (others : ∀ id, id ≠ review.id → submitted id = state.submitted id) :
    Vetted { state with store := state.store.withSaved saved, submitted } ↔
      (saved.status = .approved →
        submitted review.id = some saved.content ∧
          saved.content ∈ state.vetted review.id) := by
  have keyMem : Keyed.key saved ∈ state.store.reviews.keys := by
    change saved.id ∈ _
    rw [sameId]
    exact List.mem_map_of_mem member
  constructor
  · intro after isApproved
    have live : saved ∈ objects (state.store.withSaved saved).reviews :=
      List.mem_filter.mpr ⟨Table.mem_save.mpr (Or.inr ⟨rfl, keyMem⟩), isAlive⟩
    rw [← sameId]
    exact after saved live isApproved
  · intro ofSaved other live isApproved
    obtain ⟨otherMem, otherAlive⟩ := List.mem_filter.mp live
    rcases Table.mem_save.mp otherMem with ⟨old, otherKey⟩ | ⟨rfl, _⟩
    · have otherId : other.id ≠ review.id := by
        rw [← sameId]
        exact otherKey
      dsimp only
      rw [others _ otherId]
      exact vetted other (List.mem_filter.mpr ⟨old, otherAlive⟩) isApproved
    · dsimp only
      rw [sameId]
      exact ofSaved isApproved

/-- The rows that the actor may not change stay exactly if the saved row is
one that the actor may change, or the same one. -/
theorem untouched_saved_iff {actor : Option User} {review saved : Review}
    (member : review ∈ state.store.reviews.rows)
    (sameId : saved.id = review.id) :
    (∀ other ∈ state.store.reviews.rows, mayChange actor other = false →
        other ∈ (state.store.withSaved saved).reviews.rows) ↔
      (mayChange actor review = false → saved = review) := by
  constructor
  · intro stay notOwn
    rcases Table.mem_save.mp (stay review member notOwn) with
      ⟨_, otherKey⟩ | ⟨same, _⟩
    · exact absurd sameId.symm otherKey
    · exact same.symm
  · intro same other otherMem notOwn
    by_cases sameKey : other.id = saved.id
    · have sameRow : other = review :=
        state.store.reviews.eq_of_key_eq otherMem member
          (sameKey.trans sameId)
      rw [sameRow] at notOwn ⊢
      have unchanged := same notOwn
      refine Table.mem_save.mpr (Or.inr ⟨unchanged.symm, ?_⟩)
      rw [unchanged]
      exact List.mem_map_of_mem member
    · exact Table.mem_save_of_ne otherMem sameKey

/-- A deleted review is not shown. -/
theorem vetted_deleted (vetted : state.Vetted) {saved : Review}
    (isDeleted : alive saved = false) :
    Vetted { state with store := state.store.withSaved saved } := by
  intro other live isApproved
  obtain ⟨otherMem, otherAlive⟩ := List.mem_filter.mp live
  rcases Table.mem_save.mp otherMem with ⟨old, _⟩ | ⟨rfl, _⟩
  · exact vetted other (List.mem_filter.mpr ⟨old, otherAlive⟩) isApproved
  · rw [isDeleted] at otherAlive
    cases otherAlive

theorem submittedAfter_update {user : User} {pk : String} {isPartial : Bool}
    {fields : ReviewFields} (review : Review) :
    state.submittedAfter (some user) (.update pk isPartial fields)
        (some (ReviewSerializer.data state.store (fields.setOn review))) =
      if review.user = user.id then
        Function.update state.submitted review.id
          ((state.submitted review.id).map fields.applyTo)
      else state.submitted :=
  rfl

/-- An update of an approved review has to leave it in an approved form, and
in the same one unless it is the author's. -/
theorem vetted_updated_iff (vetted : state.Vetted) {user : User} {pk : String}
    {isPartial : Bool} {fields : ReviewFields} {review : Review}
    (live : review ∈ objects state.store.reviews) :
    Vetted { state with
        store := state.store.withSaved (fields.setOn review)
        submitted := state.submittedAfter (some user)
          (.update pk isPartial fields)
          (some (ReviewSerializer.data state.store (fields.setOn review))) } ↔
      (review.status = .approved →
        if user.id = review.user then
          fields.applyTo review.content ∈ state.vetted review.id
        else fields.applyTo review.content = review.content) := by
  obtain ⟨member, isAlive⟩ := List.mem_filter.mp live
  rw [submittedAfter_update]
  have others : ∀ id, id ≠ review.id →
      (if review.user = user.id then
        Function.update state.submitted review.id
          ((state.submitted review.id).map fields.applyTo)
      else state.submitted) id = state.submitted id := by
    intro id otherId
    split
    · exact Function.update_of_ne otherId _ _
    · rfl
  have sameId : (fields.setOn review).id = review.id := rfl
  have savedAlive : alive (fields.setOn review) = true := isAlive
  refine (vetted_saved_iff vetted member sameId savedAlive others).trans ?_
  refine imp_congr_right fun isApproved => ?_
  obtain ⟨isSubmitted, isVetted⟩ := vetted review live isApproved
  rw [content_setOn]
  by_cases own : review.user = user.id
  · rw [if_pos own, if_pos own.symm, Function.update_self, isSubmitted]
    simp
  · rw [if_neg own, if_neg (Ne.symm own), isSubmitted, Option.some.injEq]
    constructor
    · intro same
      exact same.1.symm
    · intro same
      rw [same]
      exact ⟨rfl, isVetted⟩

theorem request_moderates_iff (vetted : state.Vetted) {actor : Option User}
    {request : ReviewRequest} {response : ReviewResponse}
    {after : ReviewStore}
    (effect : ReviewEffect reader actor state.store request response after) :
    ((∀ review ∈ state.store.reviews.rows, mayChange actor review = false →
        review ∈ after.reviews.rows) ∧
      Vetted { state with
        store := after
        submitted := state.submittedAfter actor request response.saved }) ↔
      state.Respects reader (.request actor request) := by
  cases effect with
  | read isRead =>
      exact iff_of_true (moderates_of_unchanged vetted
        (submittedAfter_of_read isRead _)) (respects_of_read isRead)
  | refusedCreate notSaved =>
      rw [notSaved]
      refine iff_of_true (moderates_of_unchanged vetted
        (submittedAfter_of_none _ _)) ?_
      cases actor <;> trivial
  | created isActor _ _ review_eq =>
      subst isActor review_eq
      refine iff_of_true ⟨?_, vetted_created vetted _⟩ trivial
      intro review member _
      exact List.mem_append_left _ member
  | refusedUpdate notSaved refused =>
      rw [notSaved]
      refine iff_of_true (moderates_of_unchanged vetted
        (submittedAfter_of_none _ _)) ?_
      cases actor with
      | none => trivial
      | some user =>
          intro review found accepted
          exact absurd accepted (refused user review rfl found)
  | @updated user _ _ fields review isActor found accepted =>
      subst isActor
      obtain ⟨live, _, _⟩ := mem_of_getObject found
      have sameId : (fields.setOn review).id = review.id := rfl
      have untouched : (∀ other ∈ state.store.reviews.rows,
          mayChange (some user) other = false → other ∈
            (state.store.withSaved (fields.setOn review)).reviews.rows) ↔
          (mayChange (some user) review = false →
            fields.setOn review = review) :=
        untouched_saved_iff (List.mem_filter.mp live).1 sameId
      refine (and_congr untouched (vetted_updated_iff vetted live)).trans ?_
      constructor
      · intro holds other again _
        obtain rfl := Except.ok.inj (found.symm.trans again)
        exact holds
      · intro respects
        exact respects review found accepted
  | refusedDestroy refused =>
      refine iff_of_true (moderates_of_unchanged vetted
        (submittedAfter_destroy _ _ _ _)) ?_
      cases actor with
      | none => trivial
      | some user =>
          intro review found
          exact absurd found (refused user review rfl)
  | @destroyed user session _ review isActor found =>
      subst isActor
      obtain ⟨live, _, _⟩ := mem_of_getObject found
      obtain ⟨member, isAlive⟩ := List.mem_filter.mp live
      let deleted : Review := { review with deletedAt := some session.now }
      have isDeleted : alive deleted = false := rfl
      have changed : deleted ≠ review := by
        intro same
        rw [same, isAlive] at isDeleted
        cases isDeleted
      have sameId : deleted.id = review.id := rfl
      have untouched : (∀ other ∈ state.store.reviews.rows,
          mayChange (some user) other = false →
            other ∈ (state.store.withSaved deleted).reviews.rows) ↔
          mayChange (some user) review = true := by
        refine (untouched_saved_iff member sameId).trans ?_
        simp [changed]
      rw [submittedAfter_destroy]
      refine (and_iff_left (vetted_deleted vetted isDeleted)).trans ?_
      refine untouched.trans ?_
      constructor
      · intro own other again
        obtain rfl := Except.ok.inj (found.symm.trans again)
        exact own
      · intro respects
        exact respects review found

/-- An approval keeps the reviews vetted if their authors have submitted what
is approved. -/
theorem vetted_approve_iff (vetted : state.Vetted) (selected : List Uuid) :
    (state.step reader (.approve selected)).Vetted ↔
      state.Respects reader (.approve selected) := by
  constructor
  · intro after review live chosen
    obtain ⟨member, isAlive⟩ := List.mem_filter.mp live
    have approved : ReviewAdmin.updateStatus .approved selected review =
        { review with status := .approved } := by
      rw [ReviewAdmin.updateStatus, if_pos]
      simp [isAlive, chosen]
    refine (after { review with status := .approved } ?_ rfl).1
    exact List.mem_filter.mpr
      ⟨List.mem_map.mpr ⟨review, member, approved⟩, isAlive⟩
  · intro respects row live isApproved
    obtain ⟨rowMem, rowAlive⟩ := List.mem_filter.mp live
    obtain ⟨review, member, rfl⟩ := List.mem_map.mp rowMem
    by_cases isSelected : (alive review && selected.contains review.id) = true
    · rw [ReviewAdmin.updateStatus, if_pos isSelected]
      simp only [Bool.and_eq_true, List.contains_iff_mem] at isSelected
      have reviewLive := List.mem_filter.mpr ⟨member, isSelected.1⟩
      refine ⟨respects review reviewLive isSelected.2, ?_⟩
      apply List.mem_append_left
      refine List.mem_map.mpr ⟨review, List.mem_filter.mpr
        ⟨reviewLive, ?_⟩, rfl⟩
      simp [isSelected.2]
    · rw [ReviewAdmin.updateStatus, if_neg isSelected] at isApproved rowAlive ⊢
      obtain ⟨isSubmitted, isVetted⟩ :=
        vetted review (List.mem_filter.mpr ⟨member, rowAlive⟩) isApproved
      exact ⟨isSubmitted, List.mem_append_right _ isVetted⟩

theorem vetted_reject (vetted : state.Vetted) (selected : List Uuid) :
    (state.step reader (.reject selected)).Vetted := by
  intro row live isApproved
  obtain ⟨rowMem, rowAlive⟩ := List.mem_filter.mp live
  obtain ⟨review, member, rfl⟩ := List.mem_map.mp rowMem
  by_cases isSelected : (alive review && selected.contains review.id) = true
  · rw [ReviewAdmin.updateStatus, if_pos isSelected] at isApproved
    cases isApproved
  · rw [ReviewAdmin.updateStatus, if_neg isSelected] at isApproved rowAlive ⊢
    exact vetted review (List.mem_filter.mpr ⟨member, rowAlive⟩) isApproved

/-- A step in a vetted state. -/
theorem moderates_iff (vetted : state.Vetted) (label : ModerationStep) :
    state.Moderates reader label ↔ state.Respects reader label := by
  unfold Moderates
  rw [published_iff]
  cases label with
  | request actor request =>
      exact request_moderates_iff vetted
        (reviewEffect reader actor state.store request)
  | approve selected =>
      exact (and_iff_right trivial).trans (vetted_approve_iff vetted selected)
  | reject selected =>
      exact iff_of_true ⟨trivial, vetted_reject vetted selected⟩ trivial

end Steps

end Moderation

/-- In a run of requests and moderations from a published state, every step
leaves the reviews moderated and the author's own exactly if every step
respects the authors and the moderators. -/
theorem reviews_moderated_iff (reader : UuidReader) {state : Moderation}
    (published : state.Published reader) (steps : List ModerationStep) :
    Guarded (Moderation.step reader) (Moderation.Moderates reader) state
        steps ↔
      Guarded (Moderation.step reader) (Moderation.Respects reader) state
        steps := by
  refine guarded_congr ?_ (fun state label vetted =>
    Moderation.moderates_iff vetted label)
    (Moderation.published_iff.mp published)
  intro state label vetted respects
  exact Moderation.published_iff.mp
    ((Moderation.moderates_iff vetted label).mpr respects).2

/-- One product and no reviews. -/
def unreviewed : Moderation where
  store := { products := ⟨[{ id := 4, createdAt := 0, name := "Lamp" }],
    by decide⟩ }

/-- The user 1 reviews the product, and a moderator approves the review. -/
def reviewedLamp : List ModerationStep :=
  [.request (some { id := 1 }) (.create { now := 1 }
      { product := some 4, rating := some 5, body := some "Bright." }),
    .approve [1]]

/-- Another user rewrites the review. -/
def strangersEdit : ModerationStep :=
  .request (some { id := 2 })
    (.update "1" true { rating := some 1, body := some "Broken." })

theorem published_unreviewed : unreviewed.Published decimalUuids := by
  refine Moderation.published_iff.mpr ?_
  intro review live
  cases live

theorem reviews_moderated_lamp :
    Guarded (Moderation.step decimalUuids) (Moderation.Moderates decimalUuids)
      unreviewed reviewedLamp := by
  refine (reviews_moderated_iff decimalUuids published_unreviewed _).mpr
    ⟨trivial, ?_, trivial⟩
  unfold Moderation.Respects
  decide +kernel

/-- The edit is saved, and everybody is shown what nobody has approved under the
name of the author. -/
theorem stranger_rewrites_review :
    let before := exec (Moderation.step decimalUuids) unreviewed reviewedLamp
    let after := before.step decimalUuids strangersEdit
    let retrieved := (ReviewRequest.retrieve "1").respond decimalUuids none
      after.store
    unreviewed.Published decimalUuids ∧
      retrieved.1.shown.map (fun data => (data.user, data.content)) =
        [(1, ⟨1, "", "Broken."⟩)] ∧
      after.submitted 1 = some ⟨5, "", "Bright."⟩ ∧
      after.vetted 1 = [⟨5, "", "Bright."⟩] ∧
      ∃ review ∈ before.store.reviews.rows,
        mayChange (some { id := 2 }) review = false ∧
          review ∉ after.store.reviews.rows := by
  refine ⟨published_unreviewed, ?_, ?_, ?_, ?_⟩
  · decide +kernel
  · decide +kernel
  · decide +kernel
  · decide +kernel

end NovaCommerce
