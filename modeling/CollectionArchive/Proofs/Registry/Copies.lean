import CollectionArchive.Proofs.Registry.Faults
import CollectionArchive.Proofs.Value.Recasting

/-!
# Values that are copied

A typed value of the kind of a property is kept as it is. The values of a selector are not: they are
cast again from their JSON form, in which a date has whole seconds and an address is its text.

* `Assignment.selector_typed`: a selector is selected again from itself exactly if the JSON forms of
  its values tell all of them.
* `CheckedRegistry.Copies`: assigning a value itself puts it on a node.
* **`copied_of_stored`**: when a stored value can be copied; **`not_copied_of_stored`**: a date that
  cannot.
-/

namespace CollectionArchive

open Json (Value)

/-! ## Selecting again -/

/-- A selector is selected again from itself exactly if JSON tells each of its values. -/
theorem Assignment.selector_typed {kinds : LinkKinds} {i : Identifier} {k : Kind}
    {values : List PropertyValue} {v : Input}
    (h : selector kinds i v = .ok (some (.selector k values))) :
    selector kinds i (.typed (.selector k values)) = .ok (some (.selector k values)) ↔
      ∀ y ∈ values, y.IsKeptInJson := by
  obtain ⟨hitems, k', vs, hk, hall, hx⟩ := selector_eq_some.mp h
  obtain ⟨rfl, rfl⟩ := PropertyValue.selector.inj hx
  have hcast : ∀ y ∈ vs, Cast.value k' y.toJson = .ok y ↔ y.IsKeptInJson := fun y hy => by
    obtain ⟨_, _, hitem⟩ := Outcome.exists_of_mapM_eq_ok (Outcome.mapM_eq_ok.mpr hall) hy
    exact Cast.value_toJson hitem
  rw [← forall₂_congr hcast, selector_eq_some]
  constructor
  · rintro ⟨_, l, ws, hl, hagain, hx⟩
    obtain ⟨rfl, rfl⟩ := PropertyValue.selector.inj hx
    exact List.forall₂_same.mp (List.forall₂_map_left_iff.mp hagain)
  · intro hkept
    have hnonempty : vs.map PropertyValue.toJson ≠ [] := by
      rintro hnil
      rw [List.map_eq_nil_iff.mp hnil, List.forall₂_nil_right_iff] at hall
      exact hitems hall
    exact ⟨hnonempty, k', vs, hk, List.forall₂_map_left_iff.mpr (List.forall₂_same.mpr hkept), rfl⟩

/-! ## Assigning again -/

namespace CheckedRegistry

variable {σ : Type} {r : CheckedRegistry σ} {collection : String} {i : Identifier} {p : Property}
  {x : PropertyValue}

/-- Assigning a value itself to a property puts it on any node that has none for it. -/
def Copies (r : CheckedRegistry σ) (collection : String) (i : Identifier) (x : PropertyValue) :
    Prop :=
  ∀ (rejectNull : Bool) (n : Node), n.has i = false →
    ∃ n', r.assign collection rejectNull i n (.typed x) = .ok n' ∧ n.Gains i x n'

theorem IsLeaf.copies_iff (leaf : r.IsLeaf collection i p) :
    r.Copies collection i x ↔ Assignment.value r.kinds i p (.typed x) = .ok (some x) := by
  constructor
  · intro h
    obtain ⟨n', hassign, hgains⟩ := h false (.ofTitle "" []) rfl
    have stored : r.Stored collection i (.typed x) x :=
      ⟨false, .ofTitle "" [], n', hassign, rfl, hgains.bound⟩
    obtain ⟨q, hq, hvalue⟩ := stored.value
    exact leaf.unique hq ▸ hvalue
  · intro hvalue rejectNull n hfree
    obtain ⟨n', hassign, hinsert⟩ := leaf.exists_assign rfl hvalue rejectNull hfree
    exact ⟨n', hassign, Node.gains_of_insert? hinsert⟩

/-- A selector under a link is copied exactly if JSON tells each of its values. -/
theorem IsLink.copies_iff (link : r.IsLink collection i p) {v : Input} {k : Kind}
    {values : List PropertyValue} (stored : r.Stored collection i v (.selector k values)) :
    r.Copies collection i (.selector k values) ↔ ∀ y ∈ values, y.IsKeptInJson := by
  obtain ⟨q, hq, hvalue⟩ := stored.value
  obtain rfl := hq.unique link.isLeaf
  have hselector : ∀ v, Assignment.value r.kinds i q v = Assignment.selector r.kinds i v := by
    intro v
    rw [Assignment.value, link.kind]
    rfl
  rw [hselector] at hvalue
  rw [link.isLeaf.copies_iff, hselector, Assignment.selector_typed hvalue]

/-- What is stored for a leaf that is no link is of its kind, so it is kept as it is. -/
theorem IsLeaf.copies (leaf : r.IsLeaf collection i p) (kind : x.kind? = some p.kind) :
    r.Copies collection i x :=
  leaf.copies_iff.mpr (Assignment.value_typed kind)

end CheckedRegistry

/-- **When a stored value can be copied**: always if it is no selector, and else exactly if the JSON
form of each of its values tells all of it. -/
theorem copied_of_stored {σ : Type} {r : CheckedRegistry σ} {collection : String} {i : Identifier}
    {w : Value} {x : PropertyValue} (stored : r.Stored collection i (.json w) x) :
    r.Copies collection i x ↔
      ∀ k values, x = .selector k values → ∀ y ∈ values, y.IsKeptInJson := by
  obtain ⟨p, leaf, hvalue⟩ := stored.value
  by_cases hlink : p.kind = .link
  · have link : r.IsLink collection i p := ⟨leaf.leaf, leaf.ident, hlink⟩
    rw [Assignment.value, hlink] at hvalue
    obtain ⟨_, k, values, _, _, rfl⟩ := Assignment.selector_eq_some.mp hvalue
    rw [link.copies_iff stored]
    constructor
    · rintro hkept l ws heq
      obtain ⟨rfl, rfl⟩ := PropertyValue.selector.inj heq
      exact hkept
    · exact fun h => h k values rfl
  · have hkind := Assignment.kind?_of_value hlink hvalue
    refine iff_of_true (leaf.copies hkind) ?_
    rintro k values rfl
    cases hkind

/-! ## Dates that are linked -/

/-- A link to dates. -/
def Schemata.dated : Schemata :=
  [("a", .link .zero ⟨"b", Identifier.zero.text⟩), ("b", .single .zero ⟨.date, rfl⟩ none)]

theorem Reachable.exists_dated : ∃ (r : CheckedRegistry MemoryArchive) (p : Property),
    Reachable (.session (.checked r)) ∧ r.IsLink "a" .zero p ∧ r.kinds.get? .zero = some .date := by
  have hresolve : LinkKinds.ofSchemata .dated = .ok [(.zero, .date)] := by
    rw [LinkKinds.ofSchemata, Schemata.dated, Schemata.outboundLinks_cons,
      Schemata.outboundLinks_cons, Schema.outboundLinks_link, Schema.outboundLinks_single]
    rfl
  obtain ⟨r, reachable, hschemata, hkinds, _⟩ :=
    Reachable.exists_checked MemoryArchive.isOpen_empty (by decide) (by decide) hresolve
  refine ⟨r, _, reachable, ⟨⟨_, by rw [hschemata]; rfl, List.mem_cons_self⟩, rfl, rfl⟩, ?_⟩
  rw [hkinds]
  rfl

/-- A date in JSON is stored under a link to dates. -/
theorem CheckedRegistry.IsLink.stored_date {σ : Type} {r : CheckedRegistry σ} {collection : String}
    {i : Identifier} {p : Property} (link : r.IsLink collection i p)
    (kept : r.kinds.get? i = some .date) (text : String) (d : Instant)
    (cast : Cast.date (.text text) = .ok d) :
    r.Stored collection i (.json (.text text)) (.selector .date [.date d]) :=
  link.stored kept rfl rfl (Outcome.map_eq_ok.mpr ⟨d, cast, rfl⟩)

theorem copied_of_stored_date : ∃ (r : CheckedRegistry MemoryArchive) (x : PropertyValue),
    Reachable (.session (.checked r)) ∧
      r.Stored "a" .zero (.json (.text "1970-01-01T00:00:00Z")) x ∧ r.Copies "a" .zero x := by
  obtain ⟨r, p, reachable, link, kept⟩ := Reachable.exists_dated
  have stored := link.stored_date kept "1970-01-01T00:00:00Z" ⟨0, 0, by decide⟩ (by decide +kernel)
  refine ⟨r, _, reachable, stored, (copied_of_stored stored).mpr fun k values heq y hy => ?_⟩
  obtain ⟨_, rfl⟩ := PropertyValue.selector.inj heq
  obtain rfl := List.mem_singleton.mp hy
  rfl

/-- **A date that is not a whole second is not copied** under a link. -/
theorem not_copied_of_stored :
    ¬ ∀ (h : Handle MemoryArchive) (r : CheckedRegistry MemoryArchive) (collection : String)
        (i : Identifier) (w : Value) (x : PropertyValue),
      Reachable h → h.toSession = .checked r → r.Stored collection i (.json w) x →
        r.Copies collection i x := by
  intro claim
  obtain ⟨r, p, reachable, link, kept⟩ := Reachable.exists_dated
  have stored := link.stored_date kept "1970-01-01T00:00:00.5Z" ⟨0, 500000000, by decide⟩
    (by decide +kernel)
  have hkept := (link.copies_iff stored).mp (claim _ r _ _ _ _ reachable rfl stored)
  cases hkept _ List.mem_cons_self

end CollectionArchive
