import CollectionArchive.Proofs.Json.Values
import CollectionArchive.Proofs.Node.Text

/-!
# Serializing values

A serializer is told the parts of a value one by one and makes something of them: a text, or a JSON
value. The value of a property tells its parts without building its JSON form.

* `Json.Serializer`: what is made of each sort of part; `Serializer.toText`, `Serializer.toValue`:
  the compact text, and a JSON value.
* `Json.Value.serialize`, `PropertyValue.serialize`: what is made of a value.
* **`PropertyValue.serialize_eq`**: no serializer tells the value of a property from its JSON form.
* `PropertyValue.isProper_toJson`: the JSON form is proper if locations are.
* **`PropertyValue.serialize_toText_toValue`**: the text of a value is that of its JSON form, and
  the JSON value made of it is that form.
-/

namespace CollectionArchive

open Json (Value)

namespace Json

/-- What is made of the parts of a value. Floats for which JSON has no number are null. -/
structure Serializer (α : Type) where
  null : α
  bool : Bool → α
  integer : Int → α
  float : Binary64 → α
  text : String → α
  array : List α → α
  object : List (String × α) → α
  float_eq_null : ∀ x, x.finite? = none → float x = null

namespace Serializer

/-- What is made of a list of texts. -/
def texts {α : Type} (s : Serializer α) (ss : List String) : α :=
  s.array (ss.map s.text)

/-- Compact text. -/
def toText : Serializer (List Char) where
  null := "null".toList
  bool := boolChars
  integer := Decimal.intChars
  float := PropertyValue.floatChars
  text := quotedChars
  array := bracketed
  object := braced
  float_eq_null x h := by
    cases x with
    | finite x => cases h
    | _ => rfl

/-- A JSON value. The members of an object are put one by one; of two with one key the later
counts. -/
def toValue : Serializer Value where
  null := .null
  bool := .bool
  integer := .int
  float := PropertyValue.floatJson
  text := .text
  array := .array
  object ms := .object (Table.ofList ms)
  float_eq_null x h := by rw [PropertyValue.floatJson, h, Option.map_none, Option.getD_none]

end Serializer

/-! ## JSON values -/

namespace Value

mutual

/-- What a serializer makes of a JSON value. -/
def serialize {α : Type} (s : Serializer α) : Value → α
  | null => s.null
  | bool b => s.bool b
  | number (.integer i) => s.integer i
  | number (.double x) => s.float (.finite x)
  | text t => s.text t
  | array items => s.array (serializeItems s items)
  | object members => s.object (serializeMembers s members)

def serializeItems {α : Type} (s : Serializer α) : List Value → List α
  | [] => []
  | v :: vs => serialize s v :: serializeItems s vs

def serializeMembers {α : Type} (s : Serializer α) :
    List (String × Value) → List (String × α)
  | [] => []
  | (k, v) :: ms => (k, serialize s v) :: serializeMembers s ms

end

theorem serializeItems_eq_map {α : Type} (s : Serializer α) (vs : List Value) :
    serializeItems s vs = vs.map (serialize s) := by
  induction vs with
  | nil => rfl
  | cons v vs ih => rw [serializeItems, ih, List.map_cons]

theorem serializeMembers_eq_map {α : Type} (s : Serializer α) (ms : List (String × Value)) :
    serializeMembers s ms = ms.map fun m => (m.1, m.2.serialize s) := by
  induction ms with
  | nil => rfl
  | cons m ms ih => rw [serializeMembers, ih, List.map_cons]

theorem serialize_texts {α : Type} (s : Serializer α) (ss : List String) :
    (texts ss).serialize s = s.texts ss := by
  rw [texts, serialize, serializeItems_eq_map, List.map_map]
  rfl

mutual

/-- The text that is made of a JSON value is its compact form. -/
theorem serialize_toText (v : Value) : v.serialize .toText = v.chars := by
  cases v with
  | null => rfl
  | bool b => rfl
  | number n => cases n <;> rfl
  | text t => rfl
  | array items => exact congrArg bracketed (serializeItems_toText items)
  | object members => exact congrArg braced (serializeMembers_toText members)

theorem serializeItems_toText (vs : List Value) : serializeItems .toText vs = itemChars vs := by
  cases vs with
  | nil => rfl
  | cons v vs => rw [serializeItems, itemChars, serialize_toText v, serializeItems_toText vs]

theorem serializeMembers_toText (ms : List (String × Value)) :
    serializeMembers .toText ms = memberChars ms := by
  cases ms with
  | nil => rfl
  | cons m ms =>
    rw [serializeMembers, memberChars, serialize_toText m.2, serializeMembers_toText ms]

end

/-- The JSON value that is made of a proper one is this value again. -/
theorem IsProper.serialize_toValue {v : Value} (h : v.IsProper) : v.serialize .toValue = v := by
  induction h with
  | null => rfl
  | bool b => rfl
  | integer => rfl
  | double x => rfl
  | text t => rfl
  | @array items _ ih =>
    rw [serialize, serializeItems_eq_map, List.map_congr_left ih, List.map_id']
    rfl
  | @object members keys _ ih =>
    have hmember : ∀ m ∈ members, (m.1, m.2.serialize .toValue) = m :=
      fun m hm => congrArg (Prod.mk m.1) (ih m hm)
    rw [serialize, serializeMembers_eq_map, List.map_congr_left hmember, List.map_id']
    exact congrArg Value.object (Table.ofList_of_ascending keys)

end Value

end Json

/-! ## Values of properties -/

namespace PropertyValue

mutual

/-- What a serializer makes of the value of a property. -/
def serialize {α : Type} (s : Json.Serializer α) : PropertyValue → α
  | integer i => s.integer i
  | float x => s.float x
  | string t => s.text t
  | boolean b => s.bool b
  | enumeration t => s.text t
  | date d => s.integer d.seconds
  | selector kind values => s.array (serializeElements s kind values)
  | list items => s.array (serializeItems s items)
  | featureList flags => s.array (flags.map s.bool)
  | url a => s.text a.text
  | textArea t => s.text t
  | tags names => s.texts names
  | hierarchies paths => s.array (paths.map s.texts)
  | location o => (Value.object o).serialize s

def serializeItems {α : Type} (s : Json.Serializer α) : List PropertyValue → List α
  | [] => []
  | x :: xs => serialize s x :: serializeItems s xs

def serializeElements {α : Type} (s : Json.Serializer α) (kind : Kind) :
    List PropertyValue → List α
  | [] => []
  | x :: xs =>
    s.object [("type", s.text kind.name), ("value", serialize s x)] :: serializeElements s kind xs

end

section Serializer

variable {α : Type} (s : Json.Serializer α)

theorem serialize_floatJson (x : Binary64) : (floatJson x).serialize s = s.float x := by
  cases x with
  | finite x => rfl
  | _ => exact (s.float_eq_null _ rfl).symm

mutual

/-- **No serializer tells the value of a property from its JSON form.** -/
theorem serialize_eq (x : PropertyValue) : x.serialize s = x.toJson.serialize s := by
  cases x with
  | integer i => rfl
  | float x => exact (serialize_floatJson s x).symm
  | string t => rfl
  | boolean b => rfl
  | enumeration t => rfl
  | date d => rfl
  | selector kind values =>
    rw [serialize, toJson, Value.serialize, serializeElements_eq kind values]
  | list items => rw [serialize, toJson, Value.serialize, serializeItems_eq items]
  | featureList flags =>
    rw [serialize, toJson, Value.serialize, Value.serializeItems_eq_map, List.map_map]
    rfl
  | url a => rfl
  | textArea t => rfl
  | tags names => exact (Value.serialize_texts s names).symm
  | hierarchies paths =>
    rw [serialize, toJson, Value.serialize, Value.serializeItems_eq_map, List.map_map]
    exact congrArg s.array (List.map_congr_left fun p _ => (Value.serialize_texts s p).symm)
  | location o => rfl

theorem serializeItems_eq (xs : List PropertyValue) :
    serializeItems s xs = Value.serializeItems s (itemsJson xs) := by
  cases xs with
  | nil => rfl
  | cons x xs =>
    rw [serializeItems, itemsJson, Value.serializeItems, serialize_eq x, serializeItems_eq xs]

theorem serializeElements_eq (kind : Kind) (xs : List PropertyValue) :
    serializeElements s kind xs = Value.serializeItems s (elementsJson kind xs) := by
  cases xs with
  | nil => rfl
  | cons x xs =>
    rw [serializeElements, elementsJson, Value.serializeItems, serialize_eq x,
      serializeElements_eq kind xs]
    rfl

end

end Serializer

/-! ## Proper JSON -/

mutual

/-- The objects of the locations in a value. -/
def locations : PropertyValue → List Json.Object
  | selector _ values => locationsOf values
  | list items => locationsOf items
  | location o => [o]
  | _ => []

def locationsOf : List PropertyValue → List Json.Object
  | [] => []
  | x :: xs => locations x ++ locationsOf xs

end

theorem isProper_texts (ss : List String) : (Value.texts ss).IsProper := by
  refine .array fun v hv => ?_
  obtain ⟨t, _, rfl⟩ := List.mem_map.mp hv
  exact .text t

theorem isProper_floatJson (x : Binary64) : (floatJson x).IsProper := by
  cases x with
  | finite x => exact .double x
  | _ => exact .null

theorem isProper_elementJson (kind : Kind) {v : Value} (h : v.IsProper) :
    (elementJson kind v).IsProper := by
  have keys : Ordered.precedes "type" "value" = true := by decide
  refine .object (List.pairwise_pair.mpr keys) fun m hm => ?_
  rcases List.mem_cons.mp hm with rfl | hm
  · exact .text kind.name
  · obtain rfl := List.mem_singleton.mp hm
    exact h

mutual

/-- The JSON form of a value is proper if its locations are. -/
theorem isProper_toJson {x : PropertyValue} (h : ∀ o ∈ x.locations, (Value.object o).IsProper) :
    x.toJson.IsProper := by
  cases x with
  | integer i =>
    obtain ⟨i, hleast, hbound⟩ := i
    exact .integer ⟨hleast, Int.lt_trans hbound (by decide)⟩
  | float x => exact isProper_floatJson x
  | string t => exact .text t
  | boolean b => exact .bool b
  | enumeration t => exact .text t
  | date d =>
    obtain ⟨hearliest, hlatest, _⟩ := d.valid
    simp only [Instant.earliest, Instant.latest] at hearliest hlatest
    exact .integer ⟨by omega, by omega⟩
  | selector kind values => exact .array (isProper_elementsJson kind h)
  | list items => exact .array (isProper_itemsJson h)
  | featureList flags =>
    refine .array fun v hv => ?_
    obtain ⟨b, _, rfl⟩ := List.mem_map.mp hv
    exact .bool b
  | url a => exact .text a.text
  | textArea t => exact .text t
  | tags names => exact isProper_texts names
  | hierarchies paths =>
    refine .array fun v hv => ?_
    obtain ⟨path, _, rfl⟩ := List.mem_map.mp hv
    exact isProper_texts path
  | location o => exact h o List.mem_cons_self

theorem isProper_itemsJson {xs : List PropertyValue}
    (h : ∀ o ∈ locationsOf xs, (Value.object o).IsProper) :
    ∀ v ∈ itemsJson xs, v.IsProper := by
  cases xs with
  | nil => exact List.forall_mem_nil _
  | cons x xs =>
    obtain ⟨hx, hxs⟩ := List.forall_mem_append.mp h
    exact List.forall_mem_cons.mpr ⟨isProper_toJson hx, isProper_itemsJson hxs⟩

theorem isProper_elementsJson (kind : Kind) {xs : List PropertyValue}
    (h : ∀ o ∈ locationsOf xs, (Value.object o).IsProper) :
    ∀ v ∈ elementsJson kind xs, v.IsProper := by
  cases xs with
  | nil => exact List.forall_mem_nil _
  | cons x xs =>
    obtain ⟨hx, hxs⟩ := List.forall_mem_append.mp h
    exact List.forall_mem_cons.mpr
      ⟨isProper_elementJson kind (isProper_toJson hx), isProper_elementsJson kind hxs⟩

end

/-- **The text of a value is the compact text of its JSON form**, at any depth of lists, selectors
and locations, and this text is what one serialization makes; serialized to a JSON value, the value
becomes its JSON form. The keys of a location ascend, as in every object. -/
theorem serialize_toText_toValue (x : PropertyValue) :
    String.ofList x.chars = x.toJson.compact ∧
    x.serialize .toText = x.chars ∧
    ((∀ o ∈ x.locations, (Value.object o).IsProper) → x.serialize .toValue = x.toJson) := by
  refine ⟨?_, ?_, fun h => ?_⟩
  · rw [Value.compact, chars_eq]
  · rw [serialize_eq, Value.serialize_toText, chars_eq]
  · rw [serialize_eq, (isProper_toJson h).serialize_toValue]

/-- A list of what JSON has no number for, and of a selector of a location. -/
def nested : PropertyValue :=
  .list [.float .nan,
    .selector .location [.location [("at", .array [.null, .int 1]), ("zone", .text "\n")]]]

theorem serialize_toText_toValue_nested :
    String.ofList nested.chars = "[null,[\x7b\"type\":\"KubunLocation\"," ++
      "\"value\":\x7b\"at\":[null,1],\"zone\":\"\\n\"\x7d\x7d]]" ∧
    nested.serialize .toValue = .array [.null, .array [.object [("type", .text "KubunLocation"),
      ("value", .object [("at", .array [.null, .int 1]), ("zone", .text "\n")])]]] := by
  obtain ⟨htext, _, hvalue⟩ := serialize_toText_toValue nested
  refine ⟨htext.trans (by decide +kernel), (hvalue fun o ho => ?_).trans rfl⟩
  obtain rfl := List.mem_singleton.mp ho
  have hone : (Value.int 1).IsProper := .integer ⟨by decide, by decide⟩
  have hat : (Value.array [.null, .int 1]).IsProper :=
    .array (List.forall_mem_cons.mpr ⟨.null, List.forall_mem_singleton.mpr hone⟩)
  refine .object (by decide) (List.forall_mem_cons.mpr ⟨hat, ?_⟩)
  exact List.forall_mem_singleton.mpr (.text "\n")

end PropertyValue

end CollectionArchive
