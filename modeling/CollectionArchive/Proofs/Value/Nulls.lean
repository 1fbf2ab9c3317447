import CollectionArchive.Proofs.Value.Elements

/-!
# Nulls in values

JSON has no number for some floats, and so they become null. Nothing else does.

* `Json.Value.holdsNull`: null, or null at any depth.
* `PropertyValue.isFinite`: JSON has numbers for all floats in a value.
* **`PropertyValue.holdsNull_toJson`**: a value becomes JSON without null exactly if it is finite.
  What is null in a location does not count.
* **`Cast.isFinite_of_forProperty`**: what is cast is finite.
-/

namespace CollectionArchive

namespace Json.Value

mutual

/-- Whether the value is null, or null is in it. -/
def holdsNull : Value → Bool
  | null => true
  | array items => anyHoldsNull items
  | object members => memberHoldsNull members
  | _ => false

def anyHoldsNull : List Value → Bool
  | [] => false
  | v :: vs => holdsNull v || anyHoldsNull vs

def memberHoldsNull : List (String × Value) → Bool
  | [] => false
  | (_, v) :: ms => holdsNull v || memberHoldsNull ms

end

theorem anyHoldsNull_eq_false {vs : List Value} :
    anyHoldsNull vs = false ↔ ∀ v ∈ vs, v.holdsNull = false := by
  induction vs with
  | nil => exact iff_of_true rfl (List.forall_mem_nil _)
  | cons v vs ih => rw [anyHoldsNull, Bool.or_eq_false_iff, List.forall_mem_cons, ih]

theorem holdsNull_texts (ss : List String) : (texts ss).holdsNull = false := by
  refine anyHoldsNull_eq_false.mpr fun v hv => ?_
  obtain ⟨_, _, rfl⟩ := List.mem_map.mp hv
  rfl

end Json.Value

namespace PropertyValue

open Json.Value (holdsNull anyHoldsNull)

mutual

/-- The value with nothing in its locations. -/
def withoutLocations : PropertyValue → PropertyValue
  | selector kind values => selector kind (allWithoutLocations values)
  | list items => list (allWithoutLocations items)
  | location _ => location []
  | v => v

def allWithoutLocations : List PropertyValue → List PropertyValue
  | [] => []
  | v :: vs => withoutLocations v :: allWithoutLocations vs

end

mutual

/-- Whether JSON has numbers for all floats in the value. -/
def isFinite : PropertyValue → Bool
  | float x => x.finite?.isSome
  | selector _ values => areFinite values
  | list items => areFinite items
  | _ => true

def areFinite : List PropertyValue → Bool
  | [] => true
  | v :: vs => isFinite v && areFinite vs

end

theorem areFinite_iff {vs : List PropertyValue} :
    areFinite vs = true ↔ ∀ v ∈ vs, v.isFinite = true := by
  induction vs with
  | nil => exact iff_of_true rfl (List.forall_mem_nil _)
  | cons v vs ih => rw [areFinite, Bool.and_eq_true, List.forall_mem_cons, ih]

theorem holdsNull_elementJson (kind : Kind) (v : Json.Value) :
    (elementJson kind v).holdsNull = v.holdsNull := by
  show (false || (v.holdsNull || false)) = _
  rw [Bool.false_or, Bool.or_false]

mutual

/-- **A value becomes JSON without null exactly if it is finite**, but for what is in its
locations. -/
theorem holdsNull_toJson (x : PropertyValue) :
    x.withoutLocations.toJson.holdsNull = !x.isFinite := by
  cases x with
  | float x =>
    rw [withoutLocations, toJson, floatJson, isFinite]
    · cases x <;> rfl
    all_goals nofun
  | selector kind values =>
    rw [withoutLocations, toJson, isFinite]
    exact anyHoldsNull_elementsJson kind values
  | list items =>
    rw [withoutLocations, toJson, isFinite]
    exact anyHoldsNull_itemsJson items
  | tags names => exact Json.Value.holdsNull_texts names
  | featureList flags =>
    refine Json.Value.anyHoldsNull_eq_false.mpr fun v hv => ?_
    obtain ⟨_, _, rfl⟩ := List.mem_map.mp hv
    rfl
  | hierarchies paths =>
    refine Json.Value.anyHoldsNull_eq_false.mpr fun v hv => ?_
    obtain ⟨path, _, rfl⟩ := List.mem_map.mp hv
    exact Json.Value.holdsNull_texts path
  | _ => rfl

theorem anyHoldsNull_itemsJson (vs : List PropertyValue) :
    anyHoldsNull (itemsJson (allWithoutLocations vs)) = !areFinite vs := by
  cases vs with
  | nil => rfl
  | cons v vs =>
    rw [allWithoutLocations, itemsJson, anyHoldsNull, areFinite, holdsNull_toJson,
      anyHoldsNull_itemsJson, Bool.not_and]

theorem anyHoldsNull_elementsJson (kind : Kind) (vs : List PropertyValue) :
    anyHoldsNull (elementsJson kind (allWithoutLocations vs)) = !areFinite vs := by
  cases vs with
  | nil => rfl
  | cons v vs =>
    rw [allWithoutLocations, elementsJson, anyHoldsNull, areFinite, holdsNull_elementJson,
      holdsNull_toJson, anyHoldsNull_elementsJson, Bool.not_and]

end

/-- A value is finite exactly if it does not become null and no null is in it. -/
theorem isFinite_iff {x : PropertyValue} : x.isFinite = true ↔
    x.toJson ≠ .null ∧ x.withoutLocations.toJson.holdsNull = false := by
  rw [holdsNull_toJson, Bool.not_eq_false', iff_and_self]
  intro h
  cases x with
  | float x =>
    obtain ⟨y, hy⟩ := Option.isSome_iff_exists.mp h
    rw [toJson, floatJson, hy]
    nofun
  | _ => nofun

end PropertyValue

/-! ## Casting -/

namespace Cast

variable {x : PropertyValue}

theorem isFinite_of_value {k : Kind} {v : Json.Value} (h : value k v = .ok x) :
    x.isFinite = true := by
  cases k with
  | location =>
    cases v with
    | object o => cases h; rfl
    | _ => cases h
  | box => cases h
  | link => cases h
  | list => cases h
  | _ => obtain ⟨_, _, rfl⟩ := Outcome.map_eq_ok.mp h; rfl

/-- **What is cast is finite.** -/
theorem isFinite_of_forProperty {p : Property} {v : Json.Value} (h : forProperty p v = .ok x) :
    x.isFinite = true := by
  rw [forProperty] at h
  split at h
  · obtain ⟨k, _, h⟩ := Outcome.bind_eq_ok.mp h
    obtain ⟨_, items, xs, rfl, hxs, rfl⟩ := list_eq_ok h
    refine PropertyValue.areFinite_iff.mpr fun y hy => ?_
    obtain ⟨item, hitem⟩ := hxs.exists_item hy
    exact isFinite_of_value hitem
  · exact isFinite_of_value h

end Cast

end CollectionArchive
