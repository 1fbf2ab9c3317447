import CollectionArchive.Proofs.Registry.Faults
import CollectionArchive.Proofs.Value.Elements

/-!
# Assignments of several items

The items of an array are cast one by one for a link, as they are for a list. Either all of them can
be cast, or the first that cannot is told and nothing is stored.

* `CheckedRegistry.IsLink.assign_items_eq_ok`, `CheckedRegistry.IsLink.assign_items_eq_error`:
  assignments to links.
* `CheckedRegistry.IsLink.run_single`: a value by itself is assigned to a link as an array of it.
* **`casts_of_items`**: all of this, for lists and for links.
-/

namespace CollectionArchive

open Json (Value)

/-! ## Links -/

namespace Input

variable {v : Input}

/-- A value that is no array in JSON is one item. -/
theorem items_of_ne_array (single : ∀ items, v.toJson ≠ .array items) : v.items = [v.toJson] := by
  cases v with
  | null => rfl
  | json w =>
    cases w with
    | array items => exact absurd rfl (single items)
    | _ => rfl
  | typed x =>
    rw [items]
    · cases hx : x.toJson with
      | array items => exact absurd hx (single items)
      | _ => simp only [toJson, hx]
    · rintro k values heq
      obtain rfl := typed.inj heq
      exact single _ rfl

theorem isNull_of_ne_null (notNull : v.toJson ≠ .null) : v.isNull = false := by
  cases v with
  | null => exact absurd rfl notNull
  | json w =>
    cases w with
    | null => exact absurd rfl notNull
    | _ => rfl
  | typed x => rfl

end Input

namespace NodeCall

variable {σ : Type} {r : CheckedRegistry σ} {collection : String} {rejectNull : Bool}
  {i : Identifier} {v : Input} {n n' : Node}

theorem run_assign_eq_ok : (assign r collection rejectNull i v).run n = (.ok (), n') ↔
    r.assign collection rejectNull i n v = .ok n' := by
  rw [run, leave, Prod.mk.injEq]
  cases r.assign collection rejectNull i n v with
  | error e => exact iff_of_false (fun h => by cases h.1) (fun h => by cases h)
  | ok m => exact ⟨fun h => congrArg Except.ok h.2, fun h => ⟨rfl, Except.ok.inj h⟩⟩

/-- An assignment that fails leaves the node as it is. -/
theorem run_assign_eq_error {e : RegistryError} :
    (assign r collection rejectNull i v).run n = (.error e, n') ↔
      n' = n ∧ r.assign collection rejectNull i n v = .error e := by
  rw [run, leave, Prod.mk.injEq]
  cases r.assign collection rejectNull i n v with
  | error e' => exact ⟨fun h => ⟨h.2.symm, congrArg Except.error (Except.error.inj h.1)⟩,
      fun h => ⟨congrArg Except.error (Except.error.inj h.2), h.1.symm⟩⟩
  | ok m => exact iff_of_false (fun h => by cases h.1) (fun h => by cases h.2)

end NodeCall

namespace CheckedRegistry

variable {σ : Type} {r : CheckedRegistry σ} {collection : String} {rejectNull : Bool}
  {i : Identifier} {p : Property} {k : Kind} {items : List Value} {n n' : Node}

theorem IsLink.value_eq (link : r.IsLink collection i p) (v : Input) :
    Assignment.value r.kinds i p v = Assignment.selector r.kinds i v := by
  rw [Assignment.value, link.kind]
  rfl

/-- **Items are stored in one selector exactly if all of them can be cast.** -/
theorem IsLink.assign_items_eq_ok (link : r.IsLink collection i p) (kept : r.kinds.get? i = some k)
    (notEmpty : items ≠ []) :
    r.assign collection rejectNull i n (.json (.array items)) = .ok n' ↔
      ∃ xs, Cast.Elements k items xs ∧ n.insert? i (.selector k xs) = some n' := by
  rw [assign_of_isLeaf rfl link.isLeaf, Outcome.mapError_eq_ok, Outcome.bind_eq_ok, link.value_eq]
  constructor
  · rintro ⟨found?, hfound, h⟩
    cases found? with
    | none => exact absurd (Value.array.inj (Assignment.selector_eq_none.mp hfound)) notEmpty
    | some x =>
      obtain ⟨_, k', xs, kept', cast, rfl⟩ := Assignment.selector_eq_some.mp hfound
      obtain rfl := Option.some.inj (kept.symm.trans kept')
      exact ⟨xs, cast, Outcome.elim_eq_ok.mp h⟩
  · rintro ⟨xs, cast, hinsert⟩
    exact ⟨some (.selector k xs),
      Assignment.selector_eq_some.mpr ⟨notEmpty, k, xs, kept, cast, rfl⟩,
      Outcome.elim_eq_ok.mpr hinsert⟩

/-- **The first item that cannot be cast is told.** -/
theorem IsLink.assign_items_eq_error (link : r.IsLink collection i p)
    (kept : r.kinds.get? i = some k) (free : n.has i = false) {e : RegistryError} :
    r.assign collection rejectNull i n (.json (.array items)) = .error e ↔
      ∃ item reason, Cast.IsFirstMiss k items item reason ∧
        e = .assignment collection i (.castFailure item k reason) := by
  rw [assign_of_isLeaf rfl link.isLeaf, Outcome.mapError_eq_error]
  constructor
  · rintro ⟨fault, h, rfl⟩
    rcases Outcome.bind_eq_error.mp h with h | ⟨found?, _, h⟩
    · rw [link.value_eq] at h
      rcases Assignment.selector_eq_error.mp h with
        ⟨_, unkept, _⟩ | ⟨k', front, item, back, reason, kept', hsplit, hfront, fails, rfl⟩
      · rw [kept] at unkept
        cases unkept
      · obtain rfl := Option.some.inj (kept.symm.trans kept')
        exact ⟨item, reason, ⟨⟨front, back, hsplit, hfront⟩, fails⟩, rfl⟩
    · cases found? with
      | none => cases h
      | some x =>
        obtain ⟨m, hinsert⟩ := Node.exists_insert? free x
        simp only [hinsert] at h
        cases h
  · rintro ⟨item, reason, ⟨⟨front, back, hsplit, hfront⟩, fails⟩, rfl⟩
    refine ⟨_, Outcome.bind_eq_error.mpr (.inl ?_), rfl⟩
    rw [link.value_eq]
    exact Assignment.selector_eq_error.mpr
      (.inr ⟨k, front, item, back, reason, kept, hsplit, hfront, fails, rfl⟩)

/-- **A value by itself is assigned to a link as an array of it.** -/
theorem IsLink.run_single (link : r.IsLink collection i p) {v : Input} (notNull : v.toJson ≠ .null)
    (single : ∀ items, v.toJson ≠ .array items) (rejectNull : Bool) (n : Node) :
    (NodeCall.assign r collection rejectNull i v).run n =
      (NodeCall.assign r collection rejectNull i (.json (.array [v.toJson]))).run n := by
  have hselector : Assignment.selector r.kinds i v =
      Assignment.selector r.kinds i (.json (.array [v.toJson])) := by
    rw [Assignment.selector, Assignment.selector, Input.items_of_ne_array single]
    rfl
  rw [NodeCall.run, NodeCall.run, assign_of_isLeaf (Input.isNull_of_ne_null notNull) link.isLeaf,
    assign_of_isLeaf rfl link.isLeaf, link.value_eq, link.value_eq, hselector]

end CheckedRegistry

/-- **How several items are cast.** An array becomes a list, or the selector of a link that had no
value, exactly if each of its items can be cast to the kind, and then these values are its elements.
Otherwise the error is that of the first item that cannot be cast, which is told for a link, and the
node stays as it is. A value that is neither null nor an array in JSON is assigned to a link as an
array of it would be. -/
theorem casts_of_items (k : Kind) (items : List Value) :
    ((∃ xs, Cast.Elements k items xs) ↔ ∀ item ∈ items, ∃ x, Cast.value k item = .ok x) ∧
    (k ≠ .box → k ≠ .link → k ≠ .list →
      (∀ x, Cast.list k (.array items) = .ok x ↔
        ∃ xs, Cast.Elements k items xs ∧ x = .list xs) ∧
      ∀ reason, Cast.list k (.array items) = .error reason ↔
        ∃ item, Cast.IsFirstMiss k items item reason) ∧
    ∀ {σ : Type} (r : CheckedRegistry σ) (collection : String) (i : Identifier) (p : Property),
      r.IsLink collection i p → ∀ (rejectNull : Bool) (n : Node),
        (r.kinds.get? i = some k → items ≠ [] → n.has i = false →
          (∀ n', (NodeCall.assign r collection rejectNull i (.json (.array items))).run n =
              (.ok (), n') ↔
            ∃ xs, Cast.Elements k items xs ∧ n.insert? i (.selector k xs) = some n') ∧
          ∀ e n', (NodeCall.assign r collection rejectNull i (.json (.array items))).run n =
              (.error e, n') ↔
            n' = n ∧ ∃ item reason, Cast.IsFirstMiss k items item reason ∧
              e = .assignment collection i (.castFailure item k reason)) ∧
        ∀ v : Input, v.toJson ≠ .null → (∀ items, v.toJson ≠ .array items) →
          (NodeCall.assign r collection rejectNull i v).run n =
            (NodeCall.assign r collection rejectNull i (.json (.array [v.toJson]))).run n := by
  refine ⟨Cast.exists_elements_iff, fun hbox hlink hlist => ?_, ?_⟩
  · have selectable : k.isSelectable = true := by simp [Kind.isSelectable, hbox, hlink, hlist]
    exact ⟨fun _ => Cast.list_array_eq_ok selectable, fun _ => Cast.list_array_eq_error selectable⟩
  · intro σ r collection i p link rejectNull n
    refine ⟨fun kept notEmpty free => ⟨fun n' => ?_, fun e n' => ?_⟩, fun v notNull single => ?_⟩
    · rw [NodeCall.run_assign_eq_ok, link.assign_items_eq_ok kept notEmpty]
    · rw [NodeCall.run_assign_eq_error, link.assign_items_eq_error kept free]
    · exact link.run_single notNull single rejectNull n

/-- A number and a text that are integers. -/
def Json.Value.numerals : List Value :=
  [.int 1, .text " 1 "]

/-- Integers are cast for a link to integers, but for null among them. -/
theorem casts_of_items_numerals :
    ∃ (r : CheckedRegistry MemoryArchive) (n' : Node), Reachable (.session (.checked r)) ∧
      Cast.list .integer (.array Value.numerals) = .ok (.list [.one, .one]) ∧
      (NodeCall.assign r "b" false .zero (.json (.array Value.numerals))).run (.ofTitle "" []) =
        (.ok (), n') ∧
      n'.get? .zero = some (.selector .integer [.one, .one]) ∧
      (NodeCall.assign r "b" false .zero (.json (.array [.int 1, .null, .bool true]))).run
          (.ofTitle "" []) =
        (.error (.assignment "b" .zero
          (.castFailure .null .integer (.mismatch .integer "null"))), .ofTitle "" []) ∧
      (NodeCall.assign r "b" false .zero (.typed .one)).run (.ofTitle "" []) =
        (NodeCall.assign r "b" false .zero (.json (.array [.int 1]))).run (.ofTitle "" []) := by
  obtain ⟨r, reachable, hschemata, hkinds⟩ := Reachable.exists_crossed
  have link : r.IsLink "b" .zero _ := ⟨⟨_, by rw [hschemata]; rfl, List.mem_cons_self⟩, rfl, rfl⟩
  have kept : r.kinds.get? .zero = some .integer := by rw [hkinds]; rfl
  have cast : Cast.Elements .integer Value.numerals [.one, .one] := .cons rfl (.cons rfl .nil)
  have miss : Cast.IsFirstMiss .integer [.int 1, .null, .bool true] .null
      (.mismatch .integer "null") :=
    ⟨⟨[.int 1], [.bool true], rfl, List.forall_mem_singleton.mpr ⟨.one, rfl⟩⟩, rfl⟩
  have free : (Node.ofTitle "" []).has .zero = false := rfl
  obtain ⟨n', hinsert⟩ := Node.exists_insert? free (.selector .integer [.one, .one])
  obtain ⟨_, hlists, hlinks⟩ := casts_of_items .integer Value.numerals
  obtain ⟨hall, hsingle⟩ := hlinks r "b" .zero _ link false (.ofTitle "" [])
  obtain ⟨_, _, hlinks⟩ := casts_of_items .integer [.int 1, .null, .bool true]
  obtain ⟨hmiss, _⟩ := hlinks r "b" .zero _ link false (.ofTitle "" [])
  refine ⟨r, n', reachable, ?_, ?_, (Node.gains_of_insert? hinsert).bound, ?_, ?_⟩
  · exact ((hlists nofun nofun nofun).1 _).mpr ⟨_, cast, rfl⟩
  · exact ((hall kept (List.cons_ne_nil _ _) free).1 n').mpr ⟨_, cast, hinsert⟩
  · exact ((hmiss kept (List.cons_ne_nil _ _) free).2 _ _).mpr ⟨rfl, _, _, miss, rfl⟩
  · exact hsingle (.typed .one) nofun nofun

end CollectionArchive
