import CollectionArchive.Proofs.Registry.Assignment
import CollectionArchive.Proofs.Registry.Resolution
import CollectionArchive.Proofs.Schema.Written
import CollectionArchive.Proofs.Value.Casting
import CollectionArchive.Proofs.Value.Nulls

/-!
# Values that are stored

What is assigned to a property is cast to its kind. Only a typed value of this very kind is kept as
it is, and nothing looks into it: a list keeps elements of any kind, and a float that JSON has no
number for becomes null.

* `Assignment.Keeps`: what is kept; `Assignment.value_typed`, `Assignment.forProperty_of_leaf`.
* **`Assignment.assignment_of_value`**: the value for a property fits it.
* `CheckedRegistry.Stored`: the values that assignments store; `CheckedRegistry.Stored.value` and
  `CheckedRegistry.IsLeaf.stored`: they are the values for leaves.
* **`elements_of_stored`**: when the elements of a list are of the kind that its config declares.
* **`noNull_of_stored`**: when a value becomes JSON without null.
-/

namespace CollectionArchive

variable {σ : Type}

/-! ## What is kept and what is cast -/

theorem PropertyValue.kind?_ne_link (x : PropertyValue) : x.kind? ≠ some .link := by
  cases x <;> nofun

/-- What is cast for a list property is a list of elements of the kind that its config declares. -/
theorem Cast.elements_of_forProperty {p : Property} {k : Kind} {v : Json.Value} {x : PropertyValue}
    (kind : p.kind = .list) (subtype : p.configValue? "subtype" = some (.text k.name))
    (h : forProperty p v = .ok x) : ∃ items, x = .list items ∧ ∀ y ∈ items, y.kind? = some k := by
  have hsubtype : Cast.subtype p = .ok k := by
    rw [Cast.subtype, subtype]
    exact Outcome.elim_eq_ok.mpr (Kind.ofName?_name k)
  rw [forProperty, kind] at h
  obtain ⟨k', hk', h⟩ := Outcome.bind_eq_ok.mp h
  obtain rfl := Except.ok.inj (hk'.symm.trans hsubtype)
  obtain ⟨_, items, xs, _, hxs, hx⟩ := list_eq_ok h
  refine ⟨xs, hx, fun y hy => ?_⟩
  obtain ⟨item, hitem⟩ := hxs.exists_item hy
  exact kind?_of_value hitem

namespace Assignment

variable {kinds : LinkKinds} {i : Identifier} {p : Property} {v : Input} {x y : PropertyValue}

/-- The input is a typed value of the kind of the property, which is kept as it is. -/
def Keeps (p : Property) (v : Input) : Prop :=
  ∃ y, v = .typed y ∧ y.kind? = some p.kind

theorem value_of_ne_link (h : p.kind ≠ .link) : value kinds i p v = some <$> leaf p v := by
  rw [value, Kind.assignment, Kind.isLink, beq_false_of_ne h]
  rfl

/-- A typed value of the kind of a property is kept. -/
theorem value_typed (kept : y.kind? = some p.kind) :
    value kinds i p (.typed y) = .ok (some y) := by
  have hkind : p.kind ≠ .link := fun h => y.kind?_ne_link (h ▸ kept)
  rw [value_of_ne_link hkind, leaf, if_pos kept]
  rfl

/-- Anything else is cast. -/
theorem forProperty_of_leaf (cast : ¬ Keeps p v) (h : leaf p v = .ok x) :
    Cast.forProperty p v.toJson = .ok x := by
  cases v with
  | typed y =>
    rw [leaf, if_neg fun kept => cast ⟨y, rfl, kept⟩] at h
    exact Outcome.mapError_eq_ok.mp h
  | _ => exact Outcome.mapError_eq_ok.mp h

/-- The value for a property that is no link is of its kind, whether it is kept or cast. -/
theorem kind?_of_value (single : p.kind ≠ .link) (h : value kinds i p v = .ok (some x)) :
    x.kind? = some p.kind := by
  by_cases kept : Keeps p v
  · obtain ⟨y, rfl, hy⟩ := kept
    rw [value_typed hy] at h
    obtain rfl := Option.some.inj (Except.ok.inj h)
    exact hy
  · rw [value_of_ne_link single] at h
    obtain ⟨_, hleaf, hx⟩ := Outcome.map_eq_ok.mp h
    obtain rfl := Option.some.inj hx
    exact Cast.kind?_of_forProperty (forProperty_of_leaf kept hleaf)

/-- **The value for a property fits it.** -/
theorem assignment_of_value (h : value kinds i p v = .ok (some x)) :
    x.assignment = p.kind.assignment := by
  by_cases hlink : p.kind = .link
  · rw [value, hlink] at h
    obtain ⟨_, k, values, _, _, rfl⟩ := selector_eq_some.mp h
    rw [hlink]
    rfl
  · rw [PropertyValue.assignment, kind?_of_value hlink h, Kind.assignment, Kind.isLink,
      beq_false_of_ne hlink]
    rfl

/-- What is not kept is finite. -/
theorem isFinite_of_value (cast : ¬ Keeps p v) (h : value kinds i p v = .ok (some x)) :
    x.isFinite = true := by
  by_cases hlink : p.kind = .link
  · rw [value, hlink] at h
    obtain ⟨_, k, values, _, hall, rfl⟩ := selector_eq_some.mp h
    refine PropertyValue.areFinite_iff.mpr fun y hy => ?_
    obtain ⟨_, _, hitem⟩ := Outcome.exists_of_mapM_eq_ok (Outcome.mapM_eq_ok.mpr hall) hy
    exact Cast.isFinite_of_value hitem
  · rw [value_of_ne_link hlink] at h
    obtain ⟨_, hleaf, hx⟩ := Outcome.map_eq_ok.mp h
    obtain rfl := Option.some.inj hx
    exact Cast.isFinite_of_forProperty (forProperty_of_leaf cast hleaf)

end Assignment

/-! ## What is stored -/

namespace CheckedRegistry

/-- A leaf of a collection has the identifier. -/
structure IsLeaf (r : CheckedRegistry σ) (collection : String) (i : Identifier) (p : Property) :
    Prop where
  leaf : ∃ schema, r.schemata.get? collection = some schema ∧ p ∈ schema.main.leaves
  ident : p.ident? = some i

/-- A leaf of a collection is a list, and its config declares the kind of the elements. -/
structure IsListOf (r : CheckedRegistry σ) (collection : String) (i : Identifier) (p : Property)
    (k : Kind) : Prop extends r.IsLeaf collection i p where
  kind : p.kind = .list
  subtype : p.configValue? "subtype" = some (.text k.name)

/-- An assignment to a property of a collection puts a value on a node that had none for it. -/
def Stored (r : CheckedRegistry σ) (collection : String) (i : Identifier) (v : Input)
    (x : PropertyValue) : Prop :=
  ∃ rejectNull n n', r.assign collection rejectNull i n v = .ok n' ∧ n.has i = false ∧
    n'.get? i = some x

variable {r : CheckedRegistry σ} {collection : String} {i : Identifier} {p : Property} {v : Input}
  {x : PropertyValue}

theorem IsLeaf.unique {q : Property} (hp : r.IsLeaf collection i p)
    (hq : r.IsLeaf collection i q) : p = q := by
  obtain ⟨schema, hschema, hleaf⟩ := hp.leaf
  obtain ⟨schema', hschema', hleaf'⟩ := hq.leaf
  obtain rfl := Option.some.inj (hschema.symm.trans hschema')
  exact Schema.leaf_unique hleaf hleaf' hp.ident hq.ident

/-- What is stored is the value for a leaf of the collection. -/
theorem Stored.value (stored : r.Stored collection i v x) :
    ∃ p, r.IsLeaf collection i p ∧ Assignment.value r.kinds i p v = .ok (some x) := by
  obtain ⟨rejectNull, n, n', hassign, hfree, hget⟩ := stored
  rcases Assignment.assign_cases hassign with rfl | ⟨schema, p, y, hstores⟩
  · exact absurd (hfree.symm.trans (Node.has_of_get? hget)) nofun
  · rw [(Node.insert?_eq_some hstores.insert).2, if_pos rfl] at hget
    obtain rfl := Option.some.inj hget
    exact ⟨p, ⟨⟨schema, hstores.registered, hstores.leaf⟩, hstores.ident⟩, hstores.value⟩

/-- The value for a leaf is put on any node that has none for it. -/
theorem IsLeaf.exists_assign (leaf : r.IsLeaf collection i p) (notNull : v.isNull = false)
    (value : Assignment.value r.kinds i p v = .ok (some x)) (rejectNull : Bool) {n : Node}
    (free : n.has i = false) :
    ∃ n', r.assign collection rejectNull i n v = .ok n' ∧ n.insert? i x = some n' := by
  obtain ⟨schema, hschema, hleaf⟩ := leaf.leaf
  obtain ⟨n', hinsert⟩ := Node.exists_insert? free x
  have hstores : Assignment.Stores r.schemata r.kinds collection i n v schema p x n' :=
    { notNull := notNull
      registered := hschema
      leaf := hleaf
      ident := leaf.ident
      value := value
      fits := Assignment.assignment_of_value value
      insert := hinsert }
  exact ⟨n', hstores.assign rejectNull, hinsert⟩

theorem IsLeaf.stored (leaf : r.IsLeaf collection i p) (notNull : v.isNull = false)
    (value : Assignment.value r.kinds i p v = .ok (some x)) : r.Stored collection i v x := by
  obtain ⟨n', hassign, hinsert⟩ :=
    leaf.exists_assign notNull value false (n := .ofTitle "" []) rfl
  refine ⟨false, _, n', hassign, rfl, ?_⟩
  rw [(Node.insert?_eq_some hinsert).2, if_pos rfl]

/-- **Typed values of the kind of a property are stored**, whatever is in them. -/
theorem IsLeaf.stored_typed (leaf : r.IsLeaf collection i p) (kept : x.kind? = some p.kind) :
    r.Stored collection i (.typed x) x :=
  leaf.stored rfl (Assignment.value_typed kept)

end CheckedRegistry

/-- There is a checked registry of one collection with one leaf. -/
theorem Reachable.exists_single (kind : LeafKind) (config : Option Json.Object)
    (unlinked : (Property.leaf "" .zero kind config false).linkTarget? = none) :
    ∃ r : CheckedRegistry MemoryArchive, Reachable (.session (.checked r)) ∧
      r.schemata = [("a", .single .zero kind config)] ∧ r.kinds = [] := by
  have hresolve : LinkKinds.ofSchemata [("a", .single .zero kind config)] = .ok [] := by
    rw [LinkKinds.ofSchemata, Schemata.outboundLinks_cons, Schema.outboundLinks_single, unlinked]
    rfl
  have hpath : Entry.isValidPath (schemaPath "a") = true := by decide
  obtain ⟨r, reachable, hschemata, hkinds, _⟩ := Reachable.exists_checked
    MemoryArchive.isOpen_empty (List.pairwise_singleton _ _)
    (fun e he => by rw [List.mem_singleton.mp he]; exact hpath) hresolve
  exact ⟨r, reachable, hschemata, hkinds⟩

theorem Reachable.exists_leaf (kind : LeafKind) (config : Option Json.Object)
    (unlinked : (Property.leaf "" .zero kind config false).linkTarget? = none) :
    ∃ r : CheckedRegistry MemoryArchive, Reachable (.session (.checked r)) ∧
      r.IsLeaf "a" .zero (.leaf "" .zero kind config false) := by
  obtain ⟨r, reachable, hschemata, _⟩ := Reachable.exists_single kind config unlinked
  exact ⟨r, reachable, ⟨_, by rw [hschemata]; rfl, List.mem_cons_self⟩, rfl⟩

/-! ## Elements of lists -/

/-- **When the elements of a stored list are of the declared kind**: always if they are cast, and
else exactly if they were of this kind before. -/
theorem elements_of_stored {r : CheckedRegistry σ} {collection : String} {i : Identifier}
    {p : Property} {k : Kind} {v : Input} {x : PropertyValue} (list : r.IsListOf collection i p k)
    (stored : r.Stored collection i v x) :
    ∃ items, x = .list items ∧ ((∀ y ∈ items, y.kind? = some k) ↔
      ∀ ys, v = .typed (.list ys) → ∀ y ∈ ys, y.kind? = some k) := by
  obtain ⟨q, hq, hvalue⟩ := stored.value
  obtain rfl := hq.unique list.toIsLeaf
  by_cases kept : Assignment.Keeps q v
  · obtain ⟨y, rfl, hy⟩ := kept
    rw [Assignment.value_typed hy] at hvalue
    obtain rfl := Option.some.inj (Except.ok.inj hvalue)
    rw [list.kind] at hy
    cases y with
    | list items =>
      refine ⟨items, rfl, fun h ys hys => ?_, fun h => h items rfl⟩
      obtain rfl := PropertyValue.list.inj (Input.typed.inj hys)
      exact h
    | _ => cases hy
  · rw [Assignment.value_of_ne_link (by rw [list.kind]; nofun)] at hvalue
    obtain ⟨_, hleaf, hx⟩ := Outcome.map_eq_ok.mp hvalue
    obtain rfl := Option.some.inj hx
    obtain ⟨items, hx, hitems⟩ := Cast.elements_of_forProperty list.kind list.subtype
      (Assignment.forProperty_of_leaf kept hleaf)
    refine ⟨items, hx, iff_of_true hitems fun ys hys => ?_⟩
    exact absurd ⟨.list ys, hys, by rw [list.kind]; rfl⟩ kept

/-- The config of lists of integers. -/
def Json.Object.ofIntegers : Json.Object :=
  [("subtype", .text Kind.integer.name)]

theorem Reachable.exists_integers : ∃ (r : CheckedRegistry MemoryArchive) (p : Property),
    Reachable (.session (.checked r)) ∧ r.IsListOf "a" .zero p .integer := by
  obtain ⟨r, reachable, leaf⟩ := Reachable.exists_leaf ⟨.list, rfl⟩ (some .ofIntegers) rfl
  exact ⟨r, _, reachable, leaf, rfl, rfl⟩

/-- The integer one. -/
def PropertyValue.one : PropertyValue :=
  .integer ⟨1, by decide⟩

theorem elements_of_stored_integers : ∃ (r : CheckedRegistry MemoryArchive) (p : Property),
    Reachable (.session (.checked r)) ∧ r.IsListOf "a" .zero p .integer ∧
      r.Stored "a" .zero (.typed (.list [.one])) (.list [.one]) ∧
        ∃ items, PropertyValue.list [.one] = .list items ∧
          ∀ y ∈ items, y.kind? = some .integer := by
  obtain ⟨r, p, reachable, list⟩ := Reachable.exists_integers
  have stored := list.stored_typed (x := .list [.one]) (by rw [list.kind]; rfl)
  obtain ⟨items, hitems, hiff⟩ := elements_of_stored list stored
  refine ⟨r, p, reachable, list, stored, items, hitems, hiff.mpr fun ys hys y hy => ?_⟩
  obtain rfl := PropertyValue.list.inj (Input.typed.inj hys)
  rw [List.mem_singleton.mp hy]
  rfl

/-- **A stored list can have elements of another kind than the declared one.** -/
theorem not_elements_of_stored :
    ¬ ∀ (h : Handle MemoryArchive) (r : CheckedRegistry MemoryArchive) (collection : String)
        (i : Identifier) (p : Property) (k : Kind) (v : Input) (x : PropertyValue),
      Reachable h → h.toSession = .checked r → r.IsListOf collection i p k →
        r.Stored collection i v x → ∃ items, x = .list items ∧ ∀ y ∈ items, y.kind? = some k := by
  intro claim
  obtain ⟨r, p, reachable, list⟩ := Reachable.exists_integers
  have stored := list.stored_typed (x := .list [.one, .string "x"]) (by rw [list.kind]; rfl)
  obtain ⟨items, hitems, hkinds⟩ := claim _ r _ _ _ _ _ _ reachable rfl list stored
  obtain rfl := PropertyValue.list.inj hitems
  cases hkinds (.string "x") (List.mem_cons_of_mem _ List.mem_cons_self)

/-! ## Nulls -/

/-- **When a stored value becomes JSON without null**, but for what is in its locations: always if
it is cast, and else exactly if JSON has numbers for the floats in it. -/
theorem noNull_of_stored {r : CheckedRegistry σ} {collection : String} {i : Identifier} {v : Input}
    {x : PropertyValue} (stored : r.Stored collection i v x) :
    ∃ p, r.IsLeaf collection i p ∧
      ((x.toJson ≠ .null ∧ x.withoutLocations.toJson.holdsNull = false) ↔
        ∀ y, v = .typed y → y.kind? = some p.kind → y.isFinite = true) := by
  obtain ⟨p, hp, hvalue⟩ := stored.value
  refine ⟨p, hp, ?_⟩
  rw [← PropertyValue.isFinite_iff]
  by_cases kept : Assignment.Keeps p v
  · obtain ⟨y, rfl, hy⟩ := kept
    rw [Assignment.value_typed hy] at hvalue
    obtain rfl := Option.some.inj (Except.ok.inj hvalue)
    constructor
    · rintro h z hz _
      rwa [← Input.typed.inj hz]
    · exact fun h => h y rfl hy
  · exact iff_of_true (Assignment.isFinite_of_value kept hvalue) fun y hy hkind =>
      absurd ⟨y, hy, hkind⟩ kept

/-- The kind of leaves for floats. -/
def LeafKind.float : LeafKind :=
  ⟨.float, rfl⟩

/-- The float zero. -/
def PropertyValue.zero : PropertyValue :=
  .float (.finite (.zero false))

theorem noNull_of_stored_zero : ∃ r : CheckedRegistry MemoryArchive,
    Reachable (.session (.checked r)) ∧ r.Stored "a" .zero (.typed .zero) .zero ∧
      PropertyValue.zero.toJson ≠ .null := by
  obtain ⟨r, reachable, leaf⟩ := Reachable.exists_leaf .float none rfl
  have stored := leaf.stored_typed (x := .zero) rfl
  obtain ⟨p, _, hiff⟩ := noNull_of_stored stored
  refine ⟨r, reachable, stored, (hiff.mpr fun y hy _ => ?_).1⟩
  rw [← Input.typed.inj hy]
  rfl

/-- **A stored value can become null in JSON.** -/
theorem not_noNull_of_stored :
    ¬ ∀ (h : Handle MemoryArchive) (r : CheckedRegistry MemoryArchive) (collection : String)
        (i : Identifier) (v : Input) (x : PropertyValue),
      Reachable h → h.toSession = .checked r → r.Stored collection i v x → x.toJson ≠ .null := by
  intro claim
  obtain ⟨r, reachable, leaf⟩ := Reachable.exists_leaf .float none rfl
  have stored := leaf.stored_typed (x := .float .nan) rfl
  exact claim _ r _ _ _ _ reachable rfl stored rfl

end CollectionArchive
