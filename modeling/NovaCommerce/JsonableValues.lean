import NovaCommerce.PaymentServices

/-!
# What is stored of requests and responses

The request of a charge attempt and the response of its provider are stored as
JSON.  `_jsonable` walks through them whatever they are: dicts stay dicts,
lists and tuples become lists, JSON scalars stay as they are, and every other
object, such as an amount or an object of an SDK, becomes its text.
-/

namespace NovaCommerce

/-- A Python value, by the first of the type tests of `_jsonable` that it
passes: an SDK object that is a dict counts as one.  Objects that pass none are
of a type of their own. -/
inductive PyValue (Object : Type) where
  | none
  | bool (value : Bool)
  | int (value : Int)
  | float (mantissa exponent : Int)
  | nonFinite (name : String)
  | str (value : String)
  | list (items : List (PyValue Object))
  | tuple (items : List (PyValue Object))
  | dict (fields : List (String × PyValue Object))
  | object (value : Object)

namespace PyValue

variable {Object : Type}

/-- Induction over a value and the values inside it. -/
@[elab_as_elim, induction_eliminator]
theorem inside {motive : PyValue Object → Prop} (none : motive .none)
    (bool : ∀ value, motive (.bool value)) (int : ∀ value, motive (.int value))
    (float : ∀ mantissa exponent, motive (.float mantissa exponent))
    (nonFinite : ∀ name, motive (.nonFinite name))
    (str : ∀ value, motive (.str value))
    (list : ∀ items, (∀ item ∈ items, motive item) → motive (.list items))
    (tuple : ∀ items, (∀ item ∈ items, motive item) → motive (.tuple items))
    (dict : ∀ fields, (∀ field ∈ fields, motive field.2) →
      motive (.dict fields))
    (object : ∀ value, motive (.object value)) (value : PyValue Object) :
    motive value := by
  apply @PyValue.rec Object motive (fun items => ∀ item ∈ items, motive item)
    (fun fields => ∀ field ∈ fields, motive field.2)
    (fun field => motive field.2) none bool int float nonFinite str list tuple
    dict object
  · simp
  · intro first items ofFirst ofItems
    exact List.forall_mem_cons.mpr ⟨ofFirst, ofItems⟩
  · simp
  · intro first fields ofFirst ofFields
    exact List.forall_mem_cons.mpr ⟨ofFirst, ofFields⟩
  · exact fun _ _ ofValue => ofValue

mutual

/-- `_jsonable`, where `strOf` is `str` of the other objects. -/
def jsonable (strOf : Object → String) : PyValue Object → PyValue Object
  | .dict fields => .dict (jsonableFields strOf fields)
  | .list items => .list (jsonableItems strOf items)
  | .tuple items => .list (jsonableItems strOf items)
  | .object value => .str (strOf value)
  | value => value

def jsonableItems (strOf : Object → String) :
    List (PyValue Object) → List (PyValue Object)
  | [] => []
  | item :: items => jsonable strOf item :: jsonableItems strOf items

def jsonableFields (strOf : Object → String) :
    List (String × PyValue Object) → List (String × PyValue Object)
  | [] => []
  | (name, value) :: fields =>
      (name, jsonable strOf value) :: jsonableFields strOf fields

end

mutual

/-- The value consists of dicts, lists and JSON scalars. -/
def isJson : PyValue Object → Bool
  | .dict fields => isJsonFields fields
  | .list items => isJsonItems items
  | .tuple _ | .object _ | .nonFinite _ => false
  | _ => true

def isJsonItems : List (PyValue Object) → Bool
  | [] => true
  | item :: items => item.isJson && isJsonItems items

def isJsonFields : List (String × PyValue Object) → Bool
  | [] => true
  | (_, value) :: fields => value.isJson && isJsonFields fields

end

mutual

/-- All floats in the value are finite. -/
def isFinite : PyValue Object → Bool
  | .dict fields => isFiniteFields fields
  | .list items => isFiniteItems items
  | .tuple items => isFiniteItems items
  | .nonFinite _ => false
  | _ => true

def isFiniteItems : List (PyValue Object) → Bool
  | [] => true
  | item :: items => item.isFinite && isFiniteItems items

def isFiniteFields : List (String × PyValue Object) → Bool
  | [] => true
  | (_, value) :: fields => value.isFinite && isFiniteFields fields

end

section Lists

variable (strOf : Object → String)

@[simp]
theorem jsonableItems_eq (items : List (PyValue Object)) :
    jsonableItems strOf items = items.map (jsonable strOf) := by
  induction items with
  | nil => rfl
  | cons item items ih => simp [jsonableItems, ih]

@[simp]
theorem jsonableFields_eq (fields : List (String × PyValue Object)) :
    jsonableFields strOf fields =
      fields.map (Prod.map id (jsonable strOf)) := by
  induction fields with
  | nil => rfl
  | cons field fields ih => simp [jsonableFields, ih, Prod.map]

@[simp]
theorem isJsonItems_eq (items : List (PyValue Object)) :
    isJsonItems items = items.all isJson := by
  induction items with
  | nil => rfl
  | cons item items ih => simp [isJsonItems, ih]

@[simp]
theorem isJsonFields_eq (fields : List (String × PyValue Object)) :
    isJsonFields fields = fields.all fun field => field.2.isJson := by
  induction fields with
  | nil => rfl
  | cons field fields ih => simp [isJsonFields, ih]

@[simp]
theorem isFiniteItems_eq (items : List (PyValue Object)) :
    isFiniteItems items = items.all isFinite := by
  induction items with
  | nil => rfl
  | cons item items ih => simp [isFiniteItems, ih]

@[simp]
theorem isFiniteFields_eq (fields : List (String × PyValue Object)) :
    isFiniteFields fields = fields.all fun field => field.2.isFinite := by
  induction fields with
  | nil => rfl
  | cons field fields ih => simp [isFiniteFields, ih]

end Lists

/-- A step from a value to one inside it. -/
inductive Step where
  | index (position : Nat)
  | key (name : String)

/-- The value that a step leads to. -/
def inner (value : PyValue Object) (step : Step) : Option (PyValue Object) :=
  match value, step with
  | .list items, .index position => items[position]?
  | .tuple items, .index position => items[position]?
  | .dict fields, .key name => fields.lookup name
  | _, _ => .none

/-- The value that a path leads to. -/
def follow (value : PyValue Object) : List Step → Option (PyValue Object)
  | [] => some value
  | step :: path => (value.inner step).bind fun found => found.follow path

/-- What a value is apart from the values inside it. -/
inductive Node (Object : Type) where
  | list (length : Nat)
  | tuple (length : Nat)
  | dict (names : List String)
  | object (value : Object)
  | scalar (value : PyValue Object)

def node : PyValue Object → Node Object
  | .list items => .list items.length
  | .tuple items => .tuple items.length
  | .dict fields => .dict (fields.map Prod.fst)
  | .object value => .object value
  | value => .scalar value

/-- Tuples become lists of the same length and other objects become their
texts; dicts keep their keys and scalars stay as they are. -/
def Node.jsonable (strOf : Object → String) : Node Object → Node Object
  | .tuple length => .list length
  | .object value => .scalar (.str (strOf value))
  | node => node

section Laws

variable (strOf : Object → String)

theorem lookup_map_values (change : PyValue Object → PyValue Object)
    (fields : List (String × PyValue Object)) (name : String) :
    (fields.map (Prod.map id change)).lookup name =
      (fields.lookup name).map change := by
  induction fields with
  | nil => rfl
  | cons field fields ih =>
      obtain ⟨other, value⟩ := field
      by_cases same : name = other
      · simp [same]
      · have differs : (name == other) = false := beq_false_of_ne same
        simp [List.lookup_cons, differs, ih]

theorem node_jsonable (value : PyValue Object) :
    (value.jsonable strOf).node = value.node.jsonable strOf := by
  cases value with
  | dict fields =>
      simp [jsonable, node, Node.jsonable, Function.comp_def]
  | list items | tuple items => simp [jsonable, node, Node.jsonable]
  | _ => rfl

theorem inner_jsonable (value : PyValue Object) (step : Step) :
    (value.jsonable strOf).inner step =
      (value.inner step).map (jsonable strOf) := by
  cases value with
  | dict fields =>
      cases step with
      | index position => rfl
      | key name => simp [jsonable, inner, lookup_map_values]
  | list items | tuple items =>
      cases step with
      | index position => simp [jsonable, inner]
      | key name => rfl
  | _ => cases step <;> rfl

/-- Every path leads to the same place, walked through. -/
theorem follow_jsonable (value : PyValue Object) (path : List Step) :
    (value.jsonable strOf).follow path =
      (value.follow path).map (jsonable strOf) := by
  induction path generalizing value with
  | nil => rfl
  | cons step path ih =>
      rw [follow, follow, inner_jsonable]
      cases value.inner step with
      | none => rfl
      | some found => exact ih found

/-- The result is JSON, up to the floats that are not finite. -/
theorem isJson_jsonable (value : PyValue Object) :
    (value.jsonable strOf).isJson = value.isFinite := by
  induction value with
  | list items ih | tuple items ih =>
      simp only [jsonable, isJson, isFinite, jsonableItems_eq, isJsonItems_eq,
        isFiniteItems_eq, List.all_map]
      rw [Bool.eq_iff_iff, List.all_eq_true, List.all_eq_true]
      apply forall₂_congr
      intro item member
      rw [Function.comp_apply, ih item member]
  | dict fields ih =>
      simp only [jsonable, isJson, isFinite, jsonableFields_eq,
        isJsonFields_eq, isFiniteFields_eq, List.all_map]
      rw [Bool.eq_iff_iff, List.all_eq_true, List.all_eq_true]
      apply forall₂_congr
      intro field member
      rw [Function.comp_apply, Prod.map_snd, ih field member]
  | _ => rfl

/-- Walking through the result changes nothing more. -/
theorem jsonable_jsonable (value : PyValue Object) :
    (value.jsonable strOf).jsonable strOf = value.jsonable strOf := by
  induction value with
  | list items ih | tuple items ih =>
      simp only [jsonable, jsonableItems_eq, List.map_map]
      congr 1
      exact List.map_congr_left ih
  | dict fields ih =>
      simp only [jsonable, jsonableFields_eq, List.map_map]
      congr 1
      apply List.map_congr_left
      intro field member
      exact Prod.ext rfl (ih field member)
  | _ => rfl

/-- `_jsonable` yields JSON of the same shape: the result is JSON exactly if
the floats in the value are finite; along every path there is a value in the
result exactly if there was one before, a dict with the same keys for a dict, a
list of the same length for a list or a tuple, the same scalar for a scalar and
its text for any other object; and a second walk changes nothing. -/
theorem jsonable_storable (value : PyValue Object) :
    ((value.jsonable strOf).isJson = true ↔ value.isFinite = true) ∧
      (∀ path, ((value.jsonable strOf).follow path).map node =
        ((value.follow path).map node).map (Node.jsonable strOf)) ∧
      (value.jsonable strOf).jsonable strOf = value.jsonable strOf := by
  refine ⟨by rw [isJson_jsonable], ?_, jsonable_jsonable strOf value⟩
  intro path
  rw [follow_jsonable, Option.map_map, Option.map_map]
  congr 1
  funext found
  exact node_jsonable strOf found

end Laws

end PyValue

example :
    (PyValue.dict [("lines", .tuple [.object (1999 : Cents), .none])]).jsonable
        amountText = .dict [("lines", .list [.str "19.99", .none])] := by
  rfl

/-- Induction over a JSON value and the values inside it. -/
@[elab_as_elim]
theorem Json.inside {motive : Json → Prop} (null : motive .null)
    (bool : ∀ value, motive (.bool value)) (int : ∀ value, motive (.int value))
    (float : ∀ mantissa exponent, motive (.float mantissa exponent))
    (nonFinite : ∀ name, motive (.nonFinite name))
    (str : ∀ value, motive (.str value))
    (arr : ∀ items, (∀ item ∈ items, motive item) → motive (.arr items))
    (obj : ∀ fields, (∀ field ∈ fields, motive field.2) → motive (.obj fields))
    (json : Json) : motive json := by
  apply @Json.rec motive (fun items => ∀ item ∈ items, motive item)
    (fun fields => ∀ field ∈ fields, motive field.2)
    (fun field => motive field.2) null bool int float nonFinite str arr obj
  · simp
  · intro first items ofFirst ofItems
    exact List.forall_mem_cons.mpr ⟨ofFirst, ofItems⟩
  · simp
  · intro first fields ofFirst ofFields
    exact List.forall_mem_cons.mpr ⟨ofFirst, ofFields⟩
  · exact fun _ _ ofValue => ofValue

namespace PyValue

variable {Object : Type}

mutual

/-- A JSON value as Python holds it. -/
def ofJson : Json → PyValue Object
  | .null => .none
  | .bool value => .bool value
  | .int value => .int value
  | .float mantissa exponent => .float mantissa exponent
  | .nonFinite name => .nonFinite name
  | .str value => .str value
  | .arr items => .list (ofJsonItems items)
  | .obj fields => .dict (ofJsonFields fields)

def ofJsonItems : List Json → List (PyValue Object)
  | [] => []
  | item :: items => ofJson item :: ofJsonItems items

def ofJsonFields : List (String × Json) → List (String × PyValue Object)
  | [] => []
  | (name, value) :: fields => (name, ofJson value) :: ofJsonFields fields

end

theorem ofJsonItems_eq (items : List Json) :
    (ofJsonItems items : List (PyValue Object)) = items.map ofJson := by
  induction items with
  | nil => rfl
  | cons item items ih => rw [ofJsonItems, ih, List.map_cons]

theorem ofJsonFields_eq (fields : List (String × Json)) :
    (ofJsonFields fields : List (String × PyValue Object)) =
      fields.map (Prod.map id ofJson) := by
  induction fields with
  | nil => rfl
  | cons field fields ih =>
      obtain ⟨name, value⟩ := field
      rw [ofJsonFields, ih, List.map_cons]
      rfl

/-- What is JSON already is stored as it is, as the responses of providers
are. -/
theorem jsonable_ofJson (strOf : Object → String) (json : Json) :
    (ofJson json).jsonable strOf = ofJson json := by
  induction json using Json.inside with
  | arr items ih =>
      simp only [ofJson, ofJsonItems_eq, jsonable, jsonableItems_eq,
        List.map_map]
      congr 1
      exact List.map_congr_left ih
  | obj fields ih =>
      simp only [ofJson, ofJsonFields_eq, jsonable, jsonableFields_eq,
        List.map_map]
      congr 1
      apply List.map_congr_left
      intro field member
      exact Prod.ext rfl (ih field member)
  | _ => rfl

end PyValue

/-- `dataclasses.asdict(intent)`: the amount is a `Decimal`. -/
def ChargeIntent.asdict (intent : ChargeIntent) : PyValue Cents :=
  .dict [
    ("order_id", .str intent.orderId),
    ("order_number", .str intent.orderNumber),
    ("amount", .object intent.amount),
    ("currency", .str intent.currency),
    ("customer_email", .str intent.customerEmail),
    ("success_url", .str intent.successUrl),
    ("cancel_url", .str intent.cancelUrl),
    ("metadata", .dict (intent.metadata.map fun entry =>
      (entry.1, .str entry.2)))]

/-- What a payment keeps of its request. -/
theorem ChargeIntent.jsonable_asdict (intent : ChargeIntent) :
    intent.asdict.jsonable amountText = PyValue.ofJson intent.jsonable := by
  have metadata : intent.metadata.map
        (Prod.map id (PyValue.jsonable amountText) ∘ fun entry =>
          (entry.1, PyValue.str entry.2)) =
      intent.metadata.map (Prod.map id PyValue.ofJson ∘ fun entry =>
        (entry.1, Json.str entry.2)) :=
    List.map_congr_left fun _ _ => rfl
  simp [asdict, jsonable, PyValue.jsonable, PyValue.ofJson,
    PyValue.ofJsonFields_eq, metadata]

end NovaCommerce
