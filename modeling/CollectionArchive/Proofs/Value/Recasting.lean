import CollectionArchive.Proofs.Address.Ends
import CollectionArchive.Proofs.Value.Casting

/-!
# Casting what was cast

What is cast has a JSON form, and this is cast to the same property again. A date has whole seconds
in JSON; everything else comes back as it was, if addresses are read back from their texts.

* `PropertyValue.IsKeptInJson`: the values that their JSON form tells.
* **`Cast.value_toJson`**: a value that was cast is cast again from its JSON form exactly if it is
  one of them.
* `PropertyValue.inWholeSeconds`: the value with dates cut down to their seconds.
* `PropertyValue.addresses`: the addresses in a value.
* **`recast_of_forProperty`**: what casting the JSON form of a value gives.
-/

namespace CollectionArchive

open Json (Value)

/-- The JSON form of the value, which is no selector, tells all of it. -/
def PropertyValue.IsKeptInJson : PropertyValue → Prop
  | date d => d.nanos = 0
  | url a => Cast.url (.text a.text) = .ok a
  | _ => True

/-! ## Dates -/

namespace Instant

theorem Valid.startOfSecond {seconds : Int} {nanos : Nat} (h : Valid seconds nanos) :
    Valid seconds 0 :=
  ⟨h.1, h.2.1, by decide, .inl (by decide)⟩

/-- The start of the second of an instant. -/
def startOfSecond (d : Instant) : Instant :=
  ⟨d.seconds, 0, d.valid.startOfSecond⟩

theorem startOfSecond_eq_self {d : Instant} : d.startOfSecond = d ↔ d.nanos = 0 := by
  obtain ⟨seconds, nanos, valid⟩ := d
  constructor
  · intro h
    exact (congrArg Instant.nanos h).symm
  · rintro rfl
    rfl

end Instant

/-! ## Values that stand alone -/

namespace Cast

theorem array_map {α : Type} {expected : Expectation} (item : Value → Except CastError α)
    (json : α → Value) (each : ∀ a, item (json a) = .ok a) (as : List α) :
    array expected item (.array (as.map json)) = .ok as := by
  refine Outcome.mapM_eq_ok.mpr (List.forall₂_map_left_iff.mpr ?_)
  exact List.forall₂_same.mpr fun a _ => each a

theorem texts_texts (ss : List String) : texts (Value.texts ss) = .ok ss :=
  array_map plainText .text (fun _ => rfl) ss

theorem integer_int (i : Integer) : integer (Value.int i) = .ok i := by
  show orFlaw _ (Integer.ofInt? i) = _
  rw [Integer.ofInt?, dif_pos i.property]
  rfl

/-- The seconds of an instant are read as the start of that second. -/
theorem date_seconds (d : Instant) : date (Value.int d.seconds) = .ok d.startOfSecond := by
  show orFlaw _ (Instant.ofParts? d.seconds 0) = _
  rw [Instant.ofParts?, dif_pos d.valid.startOfSecond]
  rfl

/-- **A value that was cast is cast again from its JSON form exactly if that tells all of it.** -/
theorem value_toJson {k : Kind} {w : Value} {x : PropertyValue} (h : value k w = .ok x) :
    value k x.toJson = .ok x ↔ x.IsKeptInJson := by
  cases k with
  | integer =>
    obtain ⟨i, _, rfl⟩ := Outcome.map_eq_ok.mp h
    exact iff_of_true (Outcome.map_eq_ok.mpr ⟨i, integer_int i, rfl⟩) trivial
  | float | string | textArea | enumeration | boolean =>
    obtain ⟨_, _, rfl⟩ := Outcome.map_eq_ok.mp h
    exact iff_of_true rfl trivial
  | date =>
    obtain ⟨d, _, rfl⟩ := Outcome.map_eq_ok.mp h
    rw [value, Outcome.map_eq_ok]
    simp only [PropertyValue.date.injEq, exists_eq_right]
    rw [PropertyValue.toJson, date_seconds, Except.ok.injEq]
    exact Instant.startOfSecond_eq_self
  | url =>
    obtain ⟨a, _, rfl⟩ := Outcome.map_eq_ok.mp h
    rw [value, Outcome.map_eq_ok]
    simp only [PropertyValue.url.injEq, exists_eq_right]
    rfl
  | tags =>
    obtain ⟨names, _, rfl⟩ := Outcome.map_eq_ok.mp h
    refine iff_of_true (Outcome.map_eq_ok.mpr ⟨names, ?_, rfl⟩) trivial
    exact texts_texts names
  | featureList =>
    obtain ⟨flags, _, rfl⟩ := Outcome.map_eq_ok.mp h
    refine iff_of_true (Outcome.map_eq_ok.mpr ⟨flags, ?_, rfl⟩) trivial
    exact array_map plainBool .bool (fun _ => rfl) flags
  | hierarchies =>
    obtain ⟨paths, _, rfl⟩ := Outcome.map_eq_ok.mp h
    refine iff_of_true (Outcome.map_eq_ok.mpr ⟨paths, ?_, rfl⟩) trivial
    exact array_map texts .texts texts_texts paths
  | location =>
    cases w with
    | object o => cases h; exact iff_of_true rfl trivial
    | _ => cases h
  | box | link | list => cases h

/-- Addresses have no blanks at their ends, so that all of their texts is read. -/
theorem url_text {w : Value} {a : Address} (h : url w = .ok a)
    (readBack : Address.parse a.text = .ok a) : url (.text a.text) = .ok a := by
  cases w with
  | text s =>
    rw [url, Outcome.mapError_eq_ok] at h
    rw [url, Address.trim_text h, Outcome.mapError_eq_ok]
    exact readBack
  | _ => cases h

end Cast

/-! ## Values of properties -/

namespace PropertyValue

/-- The value with a date cut down to its second. -/
def ofSecond : PropertyValue → PropertyValue
  | date d => date d.startOfSecond
  | x => x

/-- The value with dates, by themselves or in a list, cut down to their seconds. -/
def inWholeSeconds : PropertyValue → PropertyValue
  | list items => list (items.map ofSecond)
  | x => x.ofSecond

/-- The address that a value is. -/
def address? : PropertyValue → Option Address
  | url a => some a
  | _ => none

/-- The address that a value is, or those in a list. -/
def addresses : PropertyValue → List Address
  | list items => items.filterMap address?
  | x => x.address?.toList

theorem itemsJson_eq_map (xs : List PropertyValue) : itemsJson xs = xs.map toJson := by
  induction xs with
  | nil => rfl
  | cons x xs ih => rw [itemsJson, ih, List.map_cons]

theorem toJson_ofSecond (x : PropertyValue) : x.ofSecond.toJson = x.toJson := by
  cases x <;> rfl

theorem toJson_inWholeSeconds (x : PropertyValue) : x.inWholeSeconds.toJson = x.toJson := by
  cases x with
  | list items =>
    rw [inWholeSeconds, toJson, toJson, itemsJson_eq_map, itemsJson_eq_map, List.map_map]
    exact congrArg Value.array (List.map_congr_left fun x _ => toJson_ofSecond x)
  | _ => rfl

variable {x : PropertyValue}

theorem ofSecond_eq_self (h : x.kind? ≠ some .date) : x.ofSecond = x := by
  cases x with
  | date d => exact absurd rfl h
  | _ => rfl

theorem inWholeSeconds_list {items : List PropertyValue} (h : ∀ y ∈ items, y.kind? ≠ some .date) :
    (list items).inWholeSeconds = list items := by
  rw [inWholeSeconds, List.map_congr_left fun y hy => ofSecond_eq_self (h y hy), List.map_id']

theorem inWholeSeconds_of_ne_list (h : x.kind? ≠ some .list) : x.inWholeSeconds = x.ofSecond := by
  cases x with
  | list items => exact absurd rfl h
  | _ => rfl

theorem mem_addresses_of_address? {a : Address} (ha : a ∈ x.address?) : a ∈ x.addresses := by
  cases x with
  | url b => exact Option.mem_toList.mpr ha
  | _ => cases ha

end PropertyValue

namespace Cast

variable {k : Kind} {w : Value} {x : PropertyValue}

theorem kind?_ne_of_value (h : value k w = .ok x) {other : Kind} (ne : k ≠ other) :
    x.kind? ≠ some other := by
  rw [kind?_of_value h]
  exact fun hk => ne (Option.some.inj hk)

/-- **What was cast to a kind is cast to it again.** -/
theorem value_toJson_ofSecond (h : value k w = .ok x)
    (readBack : ∀ a ∈ x.address?, Address.parse a.text = .ok a) :
    value k x.toJson = .ok x.ofSecond := by
  by_cases hdate : k = .date
  · subst hdate
    obtain ⟨d, _, rfl⟩ := Outcome.map_eq_ok.mp h
    exact Outcome.map_eq_ok.mpr ⟨d.startOfSecond, date_seconds d, rfl⟩
  · have notDate := kind?_ne_of_value h hdate
    rw [PropertyValue.ofSecond_eq_self notDate]
    refine (value_toJson h).mpr ?_
    cases x with
    | date d => exact absurd rfl notDate
    | url a =>
      have hkind := kind?_of_value h
      obtain rfl := Option.some.inj hkind
      obtain ⟨b, hb, hba⟩ := Outcome.map_eq_ok.mp h
      obtain rfl := PropertyValue.url.inj hba
      exact url_text hb (readBack b rfl)
    | _ => trivial

/-- What was cast to a list is cast to it again, item by item. -/
theorem list_toJson_inWholeSeconds (h : list k w = .ok x)
    (readBack : ∀ a ∈ x.addresses, Address.parse a.text = .ok a) :
    list k x.toJson = .ok x.inWholeSeconds := by
  obtain ⟨selectable, items, xs, rfl, hxs, rfl⟩ := list_eq_ok h
  rw [PropertyValue.toJson, PropertyValue.itemsJson_eq_map, list_array_eq_ok selectable]
  refine ⟨xs.map PropertyValue.ofSecond, ?_, rfl⟩
  refine List.forall₂_map_left_iff.mpr (List.forall₂_map_right_iff.mpr ?_)
  refine List.forall₂_same.mpr fun y hy => ?_
  obtain ⟨item, hitem⟩ := hxs.exists_item hy
  refine value_toJson_ofSecond hitem fun a ha => readBack a ?_
  exact List.mem_filterMap.mpr ⟨y, hy, ha⟩

/-! ## Properties -/

variable {p : Property}

theorem forProperty_of_list (hlist : p.kind = .list) (v : Value) :
    forProperty p v = subtype p >>= fun k => list k v := by
  rw [forProperty, hlist]

theorem forProperty_of_ne_list (single : p.kind ≠ .list) (v : Value) :
    forProperty p v = value p.kind v := by
  rw [forProperty]
  split
  next hlist => exact absurd hlist single
  next => rfl

/-- **What was cast for a property is cast for it again**, in whole seconds. -/
theorem forProperty_toJson (cast : forProperty p w = .ok x)
    (readBack : ∀ a ∈ x.addresses, Address.parse a.text = .ok a) :
    forProperty p x.toJson = .ok x.inWholeSeconds := by
  by_cases hlist : p.kind = .list
  · rw [forProperty_of_list hlist] at cast ⊢
    obtain ⟨k, hk, hcast⟩ := Outcome.bind_eq_ok.mp cast
    exact Outcome.bind_eq_ok.mpr ⟨k, hk, list_toJson_inWholeSeconds hcast readBack⟩
  · rw [forProperty_of_ne_list hlist] at cast ⊢
    rw [PropertyValue.inWholeSeconds_of_ne_list (kind?_ne_of_value cast hlist)]
    refine value_toJson_ofSecond cast fun a ha => readBack a ?_
    exact PropertyValue.mem_addresses_of_address? ha

/-- Only dates have seconds to be cut down to. -/
theorem inWholeSeconds_of_forProperty (cast : forProperty p w = .ok x) (notDate : p.kind ≠ .date)
    (notDates : p.kind = .list → subtype p ≠ .ok .date) : x.inWholeSeconds = x := by
  by_cases hlist : p.kind = .list
  · rw [forProperty_of_list hlist] at cast
    obtain ⟨k, hk, hcast⟩ := Outcome.bind_eq_ok.mp cast
    obtain ⟨_, _, xs, _, hxs, rfl⟩ := list_eq_ok hcast
    refine PropertyValue.inWholeSeconds_list fun y hy => ?_
    obtain ⟨item, hitem⟩ := hxs.exists_item hy
    refine kind?_ne_of_value hitem ?_
    rintro rfl
    exact notDates hlist hk
  · rw [forProperty_of_ne_list hlist] at cast
    rw [PropertyValue.inWholeSeconds_of_ne_list (kind?_ne_of_value cast hlist)]
    exact PropertyValue.ofSecond_eq_self (kind?_ne_of_value cast notDate)

end Cast

/-- **What was cast for a property is cast for it again.** The JSON form of the value, which is what
an archive holds, is cast to a value of the same form. This is the same value but for dates, of
which the whole seconds are left. Addresses are read back from their texts. -/
theorem recast_of_forProperty {p : Property} {w : Value} {x : PropertyValue}
    (cast : Cast.forProperty p w = .ok x)
    (readBack : ∀ a ∈ x.addresses, Address.parse a.text = .ok a) :
    ∃ y, Cast.forProperty p x.toJson = .ok y ∧ y.toJson = x.toJson ∧ y = x.inWholeSeconds ∧
      (p.kind ≠ .date → (p.kind = .list → Cast.subtype p ≠ .ok .date) → y = x) :=
  ⟨x.inWholeSeconds, Cast.forProperty_toJson cast readBack, x.toJson_inWholeSeconds, rfl,
    Cast.inWholeSeconds_of_forProperty cast⟩

/-- Half a second before the start of 1970. -/
def Instant.beforeStart : Instant :=
  ⟨-1, 500000000, by decide⟩

/-- A property for lists of dates. -/
def Property.dates : Property :=
  .leaf "" .zero ⟨.list, rfl⟩ (some [("subtype", .text Kind.date.name)]) false

/-- A property for addresses. -/
def Property.address : Property :=
  .leaf "" .zero ⟨.url, rfl⟩ none false

/-- A list of half a second keeps the second below it, and an address stays as it is. -/
theorem recast_of_forProperty_dates : ∃ d : Instant, d.seconds = -1 ∧ d.nanos = 0 ∧
    Cast.forProperty .dates (.array [.text "1969-12-31T23:59:59.5Z"]) =
      .ok (.list [.date .beforeStart]) ∧
    Cast.forProperty .dates (.array [.int (-1)]) = .ok (.list [.date d]) ∧
    ∃ a : Address, Cast.forProperty .address (.text " A:b ") = .ok (.url a) ∧
      Cast.forProperty .address (.text "a:b") = .ok (.url a) := by
  have hdate : Cast.date (.text "1969-12-31T23:59:59.5Z") = .ok .beforeStart := by decide +kernel
  have hdates : Cast.forProperty .dates (.array [.text "1969-12-31T23:59:59.5Z"]) =
      .ok (.list [.date .beforeStart]) := by
    refine Outcome.bind_eq_ok.mpr ⟨.date, rfl, (Cast.list_array_eq_ok rfl).mpr ⟨_, ?_, rfl⟩⟩
    exact .cons (Outcome.map_eq_ok.mpr ⟨_, hdate, rfl⟩) .nil
  have haddress : Cast.forProperty .address (.text " A:b ") =
      .ok (.url ⟨"a", none, .whole "b", none, none⟩) := rfl
  refine ⟨Instant.beforeStart.startOfSecond, rfl, rfl, hdates, ?_, _, haddress, ?_⟩
  · obtain ⟨_, hagain, _, rfl, _⟩ := recast_of_forProperty hdates (List.forall_mem_nil _)
    exact hagain
  · obtain ⟨_, hagain, _, _, hsame⟩ := recast_of_forProperty haddress
      (List.forall_mem_singleton.mpr rfl)
    rw [hsame nofun nofun] at hagain
    exact hagain

end CollectionArchive
