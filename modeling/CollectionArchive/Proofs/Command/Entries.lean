import CollectionArchive.Proofs.Command.Records
import CollectionArchive.Proofs.Link.Targets
import CollectionArchive.Proofs.Node.Keys
import CollectionArchive.Proofs.Registry.Bindings
import Mathlib.Data.List.ReduceOption

/-!
# Entries of records

The properties of a record are entries in the order of its text, and a key may come twice. Each
entry is left out, or is cast as the schema of the collection declares and put on the node. What is
on the node in the end are the values of all entries that are not left out.

* `Schemata.HasDistinctLinks`: no two collections have a link with one identifier.
* `Schema.TakesEntry`: the value that an entry has, if it is not left out.
* `Node.Reflects`, **`Node.Reflects.unique`**: a node is what a record says, and no other is.
* **`CheckedRegistry.Describes.reflects`**: the node that a record describes is what it says.
-/

namespace CollectionArchive

open Json (Value)

/-! ## Insertion into tables -/

theorem Table.perm_insert {κ α : Type} [DecidableEq κ] [Ordered κ] {t : Table κ α} {key : κ}
    (hfree : t.get? key = none) (a : α) : (t.insert key a).Perm ((key, a) :: t) := by
  induction t with
  | nil => exact .refl _
  | cons e t ih =>
    rw [get?_cons] at hfree
    split_ifs at hfree with hkey
    rw [insert]
    split_ifs with hbefore heq
    · exact .refl _
    · exact absurd heq.symm hkey
    · exact ((ih hfree).cons e).trans (.swap _ _ _)

theorem Node.perm_of_insert? {n n' : Node} {i : Identifier} {x : PropertyValue}
    (h : n.insert? i x = some n') : n'.properties.Perm ((i, x) :: n.properties) := by
  rw [insert?] at h
  split_ifs at h with hhas
  obtain rfl := Option.some.inj h
  refine Table.perm_insert ?_ x
  rw [has, Table.has] at hhas
  exact Option.not_isSome_iff_eq_none.mp hhas

/-! ## Links of several collections -/

/-- No two collections have a link with one identifier. -/
def Schemata.HasDistinctLinks (s : Schemata) : Prop :=
  ∀ (a b : String) (schema other : Schema) (p q : Property) (i : Identifier),
    s.get? a = some schema → s.get? b = some other → p ∈ schema.main.leaves →
      q ∈ other.main.leaves → p.kind = .link → q.kind = .link → p.ident? = some i →
        q.ident? = some i → a = b

/-- The kind that is kept for a link is that of its own target. -/
theorem Schemata.HasDistinctLinks.hasKind {s : Schemata} (distinct : s.HasDistinctLinks)
    (ascending : Table.Ascending s) {kinds : LinkKinds}
    (resolved : LinkKinds.ofSchemata s = .ok kinds) {collection : String} {schema : Schema}
    (registered : s.get? collection = some schema) {p : Property} (leaf : p ∈ schema.main.leaves)
    {i : Identifier} (ident : p.ident? = some i) (link : p.kind = .link) {k : Kind}
    (hk : kinds.get? i = some k) : ∃ t, p.linkTarget? = some t ∧ t.HasKind s k := by
  obtain ⟨l, hl, hkind⟩ := (LinkKinds.get?_ofSchemata resolved i k).mp hk
  have hident : l.property = i := by simpa using List.find?_some hl
  obtain ⟨other, hother, hmem⟩ := Schemata.mem_outboundLinks.mp
    (List.mem_reverse.mp (List.mem_of_find?_eq_some hl))
  obtain ⟨q, hq, _, hqi, hqt⟩ := Schema.mem_outboundLinks.mp hmem
  rw [hident] at hqi
  have hregistered := Table.get?_of_mem ascending hother
  have hqlink := (Property.linkTarget?_eq_some.mp hqt).1
  obtain rfl := distinct collection l.source schema other p q i registered hregistered leaf hq link
    hqlink ident hqi
  obtain rfl := Option.some.inj (registered.symm.trans hregistered)
  obtain rfl := Schema.leaf_unique leaf hq ident hqi
  exact ⟨l.target, hqt, (OutboundLink.targetKind_eq_ok.mp hkind).1⟩

/-! ## Entries -/

/-- The value that an entry of a record has in a collection, if it is not left out. Left out are
null, unless nulls are rejected, and no values for a link. -/
inductive Schema.TakesEntry (s : Schemata) (schema : Schema) (rejectNull : Bool) :
    String × Value → Option (Identifier × PropertyValue) → Prop
  | null {key : String} {i : Identifier} (ident : Identifier.parse key = .ok i)
    (allowed : rejectNull = false) : TakesEntry s schema rejectNull (key, .null) none
  | noItems {key : String} {i : Identifier} {p : Property} (ident : Identifier.parse key = .ok i)
    (leaf : p ∈ schema.main.leaves) (leafIdent : p.ident? = some i) (link : p.kind = .link) :
    TakesEntry s schema rejectNull (key, .array []) none
  | value {key : String} {v : Value} {i : Identifier} {p : Property} {x : PropertyValue}
    (ident : Identifier.parse key = .ok i) (notNull : v.isNull = false)
    (leaf : p ∈ schema.main.leaves) (leafIdent : p.ident? = some i) (noLink : p.kind ≠ .link)
    (cast : Cast.forProperty p v = .ok x) : TakesEntry s schema rejectNull (key, v) (some (i, x))
  | selector {key : String} {v : Value} {i : Identifier} {p : Property} {t : LinkTarget} {k : Kind}
    {xs : List PropertyValue} (ident : Identifier.parse key = .ok i) (notNull : v.isNull = false)
    (leaf : p ∈ schema.main.leaves) (leafIdent : p.ident? = some i) (link : p.kind = .link)
    (target : p.linkTarget? = some t) (kind : t.HasKind s k) (nonempty : (Input.json v).items ≠ [])
    (casts : List.Forall₂ (fun item x => Cast.value k item = .ok x) (Input.json v).items xs) :
    TakesEntry s schema rejectNull (key, v) (some (i, .selector k xs))

/-- A key names one leaf. -/
theorem Schema.named_leaf_unique {schema : Schema} {key : String} {i j : Identifier}
    {p q : Property} (hi : Identifier.parse key = .ok i) (hj : Identifier.parse key = .ok j)
    (hp : p ∈ schema.main.leaves) (hq : q ∈ schema.main.leaves) (hpi : p.ident? = some i)
    (hqj : q.ident? = some j) : i = j ∧ p = q := by
  obtain rfl := Except.ok.inj (hi.symm.trans hj)
  exact ⟨rfl, Schema.leaf_unique hp hq hpi hqj⟩

/-- An entry has one value, or none. -/
theorem Schema.TakesEntry.unique {s : Schemata} {schema : Schema} {rejectNull : Bool}
    {e : String × Value} {found found' : Option (Identifier × PropertyValue)}
    (h : schema.TakesEntry s rejectNull e found) (h' : schema.TakesEntry s rejectNull e found') :
    found = found' := by
  cases h with
  | null =>
    cases h' with
    | null => rfl
    | value _ notNull => cases notNull
    | selector _ notNull => cases notNull
  | noItems ident leaf leafIdent link =>
    cases h' with
    | noItems => rfl
    | value ident' _ leaf' leafIdent' noLink =>
      obtain ⟨rfl, rfl⟩ := named_leaf_unique ident ident' leaf leaf' leafIdent leafIdent'
      exact absurd link noLink
    | selector _ _ _ _ _ _ _ nonempty => exact absurd rfl nonempty
  | value ident notNull leaf leafIdent noLink cast =>
    cases h' with
    | null => cases notNull
    | noItems ident' leaf' leafIdent' link =>
      obtain ⟨rfl, rfl⟩ := named_leaf_unique ident ident' leaf leaf' leafIdent leafIdent'
      exact absurd link noLink
    | value ident' _ leaf' leafIdent' _ cast' =>
      obtain ⟨rfl, rfl⟩ := named_leaf_unique ident ident' leaf leaf' leafIdent leafIdent'
      obtain rfl := Except.ok.inj (cast.symm.trans cast')
      rfl
    | selector ident' _ leaf' leafIdent' link =>
      obtain ⟨rfl, rfl⟩ := named_leaf_unique ident ident' leaf leaf' leafIdent leafIdent'
      exact absurd link noLink
  | selector ident notNull leaf leafIdent link target kind nonempty casts =>
    cases h' with
    | null => cases notNull
    | noItems => exact absurd rfl nonempty
    | value ident' _ leaf' leafIdent' noLink =>
      obtain ⟨rfl, rfl⟩ := named_leaf_unique ident ident' leaf leaf' leafIdent leafIdent'
      exact absurd link noLink
    | selector ident' _ leaf' leafIdent' _ target' kind' _ casts' =>
      obtain ⟨rfl, rfl⟩ := named_leaf_unique ident ident' leaf leaf' leafIdent leafIdent'
      obtain rfl := Option.some.inj (target.symm.trans target')
      obtain rfl := kind.unique kind'
      have hvalues := (Outcome.mapM_eq_ok.mpr casts).symm.trans (Outcome.mapM_eq_ok.mpr casts')
      rw [Except.ok.inj hvalues]

/-- The node is what a record says: it has the title and the cover images of the record, and the
values of all entries that are not left out, no two of which have the same identifier. -/
structure Node.Reflects (n : Node) (s : Schemata) (schema : Schema) (rejectNull : Bool)
    (record : RecordLine) : Prop where
  title : n.title = record.title
  coverImages : n.coverImages = record.coverImages
  properties : ∃ found, List.Forall₂ (schema.TakesEntry s rejectNull) record.properties found ∧
    (found.reduceOption.map Prod.fst).Nodup ∧ n.properties.Perm found.reduceOption

/-- **A record says what one node is.** -/
theorem Node.Reflects.unique {n n' : Node} {s : Schemata} {schema : Schema} {rejectNull : Bool}
    {record : RecordLine} (h : n.Reflects s schema rejectNull record)
    (h' : n'.Reflects s schema rejectNull record) : n = n' := by
  obtain ⟨found, hfound, -, hperm⟩ := h.properties
  obtain ⟨found', hfound', -, hperm'⟩ := h'.properties
  obtain rfl : found = found' :=
    Relator.RightUnique.forall₂ (fun _ _ _ h h' => h.unique h') hfound hfound'
  refine Node.eq_of_get? (h.title.trans h'.title.symm) (h.coverImages.trans h'.coverImages.symm)
    fun i => Option.ext fun x => ?_
  rw [Node.get?, Table.get?_eq_some_iff n.ascending, Node.get?, Table.get?_eq_some_iff n'.ascending,
    hperm.mem_iff, hperm'.mem_iff]

namespace CheckedRegistry

variable {σ : Type} {r : CheckedRegistry σ} {collection : String} {rejectNull : Bool} {n n' : Node}

/-- What does nothing is left out. -/
theorem Skips.takesEntry {i : Identifier} {v : Value} {schema : Schema}
    (h : r.Skips collection rejectNull i (.ofJson v))
    (registered : r.schemata.get? collection = some schema) {key : String}
    (ident : Identifier.parse key = .ok i) :
    schema.TakesEntry r.schemata rejectNull (key, v) none := by
  cases h with
  | null isNull allowed =>
    cases v with
    | null => exact .null ident allowed
    | _ => cases isNull
  | @noItems p leaf link empty =>
    obtain ⟨schema', hschema, hleaf⟩ := leaf.leaf
    obtain rfl := Option.some.inj (registered.symm.trans hschema)
    cases v with
    | array items =>
      obtain rfl : items = [] := Value.array.inj empty
      exact .noItems ident hleaf leaf.ident link
    | _ => cases empty

/-- What is stored is the value of its entry. -/
theorem takesEntry_of_stores (resolved : LinkKinds.ofSchemata r.schemata = .ok r.kinds)
    (distinct : r.schemata.HasDistinctLinks) {i : Identifier} {v : Value} {schema : Schema}
    {p : Property} {x : PropertyValue}
    (h : Assignment.Stores r.schemata r.kinds collection i n (.ofJson v) schema p x n')
    {key : String} (ident : Identifier.parse key = .ok i) :
    schema.TakesEntry r.schemata rejectNull (key, v) (some (i, x)) := by
  obtain ⟨notNull, registered, leaf, leafIdent, value, _, _⟩ := h
  have hv : v.isNull = false := by
    cases v with
    | null => cases notNull
    | _ => rfl
  rw [Input.ofJson, hv, if_neg Bool.false_ne_true] at value
  by_cases hlink : p.kind = .link
  · rw [Assignment.value, hlink] at value
    obtain ⟨nonempty, k, xs, hk, hcasts, rfl⟩ := Assignment.selector_eq_some.mp value
    obtain ⟨t, ht, hkind⟩ :=
      distinct.hasKind r.schemata_ascending resolved registered leaf leafIdent hlink hk
    exact .selector ident hv leaf leafIdent hlink ht hkind nonempty hcasts
  · rw [Assignment.value_of_ne_link hlink] at value
    obtain ⟨y, hy, hx⟩ := Outcome.map_eq_ok.mp value
    obtain rfl := Option.some.inj hx
    exact .value ident hv leaf leafIdent hlink (Outcome.mapError_eq_ok.mp hy)

/-- An assignment that succeeds puts the value of its entry on the node, or leaves it out. -/
theorem takesEntry_of_assignText (resolved : LinkKinds.ofSchemata r.schemata = .ok r.kinds)
    (distinct : r.schemata.HasDistinctLinks) {schema : Schema}
    (registered : r.schemata.get? collection = some schema) {key : String} {v : Value}
    (h : r.assignText collection rejectNull n key (.ofJson v) = .ok n') :
    ∃ found, schema.TakesEntry r.schemata rejectNull (key, v) found ∧ n.Extends n' ∧
      n'.properties.Perm (found.toList ++ n.properties) := by
  obtain ⟨i, hi, h⟩ := Outcome.bind_eq_ok.mp h
  have hident := Outcome.mapError_eq_ok.mp hi
  rcases assign_eq_ok.mp h with ⟨rfl, hskips⟩ | ⟨schema', p, x, hstores⟩
  · exact ⟨none, hskips.takesEntry registered hident, .refl n', .refl _⟩
  · obtain rfl := Option.some.inj (registered.symm.trans hstores.registered)
    exact ⟨some (i, x), takesEntry_of_stores resolved distinct hstores hident,
      (Node.gains_of_insert? hstores.insert).extends, Node.perm_of_insert? hstores.insert⟩

/-- Assignments that all succeed put the values of their entries on the node. -/
theorem takesEntries_of_assignAll (resolved : LinkKinds.ofSchemata r.schemata = .ok r.kinds)
    (distinct : r.schemata.HasDistinctLinks) {schema : Schema}
    (registered : r.schemata.get? collection = some schema) {entries : List (String × Value)}
    (h : r.assignAll collection rejectNull n (entries.map fun e => (e.1, Input.ofJson e.2)) =
      (.ok (), n')) :
    ∃ found, List.Forall₂ (schema.TakesEntry r.schemata rejectNull) entries found ∧ n.Extends n' ∧
      n'.properties.Perm (found.reduceOption ++ n.properties) := by
  induction entries generalizing n with
  | nil =>
    obtain ⟨_, rfl⟩ := Prod.mk.inj h
    exact ⟨[], .nil, .refl n, .refl _⟩
  | cons e entries ih =>
    obtain ⟨key, v⟩ := e
    rw [List.map_cons, assignAll, Assignment.assignAll] at h
    cases hfirst : Assignment.assignText r.schemata r.kinds collection rejectNull n key
        (.ofJson v) with
    | error e =>
      rw [hfirst] at h
      cases (Prod.mk.inj h).1
    | ok next =>
      rw [hfirst] at h
      obtain ⟨first, hentry, hextends, hperm⟩ :=
        takesEntry_of_assignText resolved distinct registered hfirst
      obtain ⟨found, hentries, hrest, hperms⟩ := ih h
      refine ⟨first :: found, .cons hentry hentries, hextends.trans hrest, ?_⟩
      have hcons : (first :: found).reduceOption = first.toList ++ found.reduceOption := by
        cases first <;> rfl
      calc
        n'.properties.Perm (found.reduceOption ++ next.properties) := hperms
        List.Perm _ (found.reduceOption ++ (first.toList ++ n.properties)) := hperm.append_left _
        List.Perm _ (first.toList ++ (found.reduceOption ++ n.properties)) :=
          List.perm_append_comm_assoc _ _ _
        List.Perm _ ((first :: found).reduceOption ++ n.properties) := by
          rw [hcons, List.append_assoc]

/-- **The node that a record describes is what it says.** -/
theorem Describes.reflects (resolved : LinkKinds.ofSchemata r.schemata = .ok r.kinds)
    (distinct : r.schemata.HasDistinctLinks) {schema : Schema}
    (registered : r.schemata.get? collection = some schema) {record : RecordLine}
    (h : r.Describes collection rejectNull record n) :
    n.Reflects r.schemata schema rejectNull record := by
  obtain ⟨found, hentries, hextends, hperm⟩ :=
    takesEntries_of_assignAll resolved distinct registered h
  have hperm : n.properties.Perm found.reduceOption := by
    simpa [Node.ofTitle] using hperm
  refine ⟨hextends.title, hextends.coverImages, found, hentries, ?_, hperm⟩
  exact (hperm.map Prod.fst).nodup_iff.mp (Table.nodup_keys n.ascending)

end CheckedRegistry

end CollectionArchive
