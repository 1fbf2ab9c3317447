import CollectionArchive.Proofs.Registry.Storing

/-!
# The kinds of selectors

The kind of a link is kept under its identifier alone, while several collections may have links with
one identifier. The last of those that declare a target counts for all of them.

* `CheckedRegistry.IsLink`: the links of collections, with or without a target.
* `CheckedRegistry.SelectsOnly`: all selectors that are stored under a link are of one kind.
* `CheckedRegistry.Refuses`: nothing can be stored under a link.
* **`selectors_of_reachable`**: when a link has selectors of the kind that its own target names, and
  when a link without target takes nothing.
-/

namespace CollectionArchive

variable {σ : Type}

namespace CheckedRegistry

/-- A leaf of a collection is a link. -/
structure IsLink (r : CheckedRegistry σ) (collection : String) (i : Identifier) (p : Property) :
    Prop where
  leaf : ∃ schema, r.schemata.get? collection = some schema ∧ p ∈ schema.main.leaves
  ident : p.ident? = some i
  kind : p.kind = .link

/-- All selectors that assignments to a property of a collection store are of one kind. -/
def SelectsOnly (r : CheckedRegistry σ) (collection : String) (i : Identifier) (k : Kind) : Prop :=
  ∀ (rejectNull : Bool) (n n' : Node) (v : Input) (k' : Kind) (vs : List PropertyValue),
    r.assign collection rejectNull i n v = .ok n' → n.has i = false →
      n'.get? i = some (.selector k' vs) → k' = k

/-- Assigning anything to a property of a collection fails since the target of a link is missing. -/
def Refuses (r : CheckedRegistry σ) (collection : String) (i : Identifier) : Prop :=
  ∀ (rejectNull : Bool) (n : Node) (v : Input), v.isNull = false → v.toJson ≠ .array [] →
    r.assign collection rejectNull i n v =
      .error (.assignment collection i .linkTargetUnresolved)

variable {r : CheckedRegistry σ} {collection : String} {i : Identifier} {p : Property}

theorem IsLink.isLeaf (link : r.IsLink collection i p) : r.IsLeaf collection i p :=
  ⟨link.leaf, link.ident⟩

/-- What is cast to the kind that is kept for a link is stored under it. -/
theorem IsLink.stored (link : r.IsLink collection i p) {k : Kind} {v : Input} {w : Json.Value}
    {x : PropertyValue} (hkind : r.kinds.get? i = some k) (notNull : v.isNull = false)
    (single : v.items = [w]) (hcast : Cast.value k w = .ok x) :
    r.Stored collection i v (.selector k [x]) := by
  refine link.isLeaf.stored notNull ?_
  have hall : List.Forall₂ (fun w x => Cast.value k w = .ok x) v.items [x] := by
    rw [single]
    exact .cons hcast .nil
  rw [Assignment.value, link.kind]
  refine Assignment.selector_eq_some.mpr ⟨?_, k, [x], hkind, hall, rfl⟩
  rw [single]
  exact List.cons_ne_nil _ _

/-- **The selectors under a link are of the kind that is kept for its identifier.** -/
theorem IsLink.selectsOnly_iff (link : r.IsLink collection i p) {k : Kind}
    (hkind : r.kinds.get? i = some k) (hselectable : k.isSelectable = true) (k' : Kind) :
    r.SelectsOnly collection i k' ↔ k = k' := by
  constructor
  · intro h
    obtain ⟨w, x, hcast⟩ := Cast.exists_value hselectable
    -- An array of one value, since an array by itself would be taken for several values.
    have stored := link.stored (v := .json (.array [w])) hkind rfl rfl hcast
    obtain ⟨_, n, n', hassign, hfree, hget⟩ := stored
    exact h _ _ _ _ _ _ hassign hfree hget
  · rintro rfl rejectNull n n' v k' vs hassign hfree hget
    rcases Assignment.assign_cases hassign with rfl | ⟨schema, q, x, hstores⟩
    · exact absurd (hfree.symm.trans (Node.has_of_get? hget)) nofun
    · obtain ⟨schema', hschema', hleaf⟩ := link.leaf
      obtain rfl := Option.some.inj (hstores.registered.symm.trans hschema')
      obtain rfl := Schema.leaf_unique hstores.leaf hleaf hstores.ident link.ident
      obtain ⟨k₁, ws, hk₁, rfl⟩ := hstores.selector link.kind
      rw [(Node.insert?_eq_some hstores.insert).2, if_pos rfl] at hget
      obtain ⟨rfl, _⟩ := PropertyValue.selector.inj (Option.some.inj hget)
      exact Option.some.inj (hk₁.symm.trans hkind)

/-- **Nothing can be stored under a link exactly if no kind is kept for its identifier.** -/
theorem IsLink.refuses_iff (link : r.IsLink collection i p) :
    r.Refuses collection i ↔ r.kinds.get? i = none := by
  obtain ⟨schema, hschema, hleaf⟩ := link.leaf
  constructor
  · intro h
    have := h false (.ofTitle "" []) (.json (.bool true)) rfl nofun
    exact ((Assignment.assign_eq_unresolved hschema hleaf link.ident link.kind rfl).mp this).2
  · intro hnone rejectNull n v hnull hempty
    exact (Assignment.assign_eq_unresolved hschema hleaf link.ident link.kind hnull).mpr
      ⟨hempty, hnone⟩

theorem IsLink.mem_outboundLinks (link : r.IsLink collection i p) {t : LinkTarget}
    (ht : p.linkTarget? = some t) : ⟨collection, i, t⟩ ∈ r.schemata.outboundLinks := by
  obtain ⟨schema, hschema, hleaf⟩ := link.leaf
  exact Schemata.mem_outboundLinks.mpr ⟨schema, Table.mem_of_get? hschema,
    Schema.mem_outboundLinks.mpr ⟨p, hleaf, rfl, link.ident, ht⟩⟩

end CheckedRegistry

/-! ## Links with one identifier -/

/-- Two links with one identifier that lead to a string and to an integer. -/
def Schemata.crossed : Schemata :=
  [("a", .link .zero ⟨"a", LinkTarget.titleIdent⟩), ("b", .link .zero ⟨"c", Identifier.zero.text⟩),
    ("c", .single .zero ⟨.integer, rfl⟩ none)]

/-- Two links with one identifier, the first of which has no target. -/
def Schemata.shadowed : Schemata :=
  [("a", .single .zero .link none), ("b", .link .zero ⟨"b", LinkTarget.titleIdent⟩)]

theorem Schemata.outboundLinks_crossed : crossed.outboundLinks =
    [⟨"a", .zero, ⟨"a", LinkTarget.titleIdent⟩⟩, ⟨"b", .zero, ⟨"c", Identifier.zero.text⟩⟩] := by
  rw [crossed, outboundLinks_cons, outboundLinks_cons, outboundLinks_cons,
    Schema.outboundLinks_link, Schema.outboundLinks_link, Schema.outboundLinks_single]
  rfl

theorem Schemata.outboundLinks_shadowed :
    shadowed.outboundLinks = [⟨"b", .zero, ⟨"b", LinkTarget.titleIdent⟩⟩] := by
  rw [shadowed, outboundLinks_cons, outboundLinks_cons, Schema.outboundLinks_single,
    Schema.outboundLinks_link]
  rfl

theorem Reachable.exists_crossed : ∃ r : CheckedRegistry MemoryArchive,
    Reachable (.session (.checked r)) ∧ r.schemata = .crossed ∧ r.kinds = [(.zero, .integer)] := by
  obtain ⟨r, reachable, hschemata, hkinds, _⟩ := Reachable.exists_checked MemoryArchive.isOpen_empty
    (by decide) (by decide) (show LinkKinds.ofSchemata .crossed = .ok [(.zero, .integer)] by
      rw [LinkKinds.ofSchemata, Schemata.outboundLinks_crossed]; rfl)
  exact ⟨r, reachable, hschemata, hkinds⟩

theorem Reachable.exists_shadowed : ∃ r : CheckedRegistry MemoryArchive,
    Reachable (.session (.checked r)) ∧ r.schemata = .shadowed ∧ r.kinds = [(.zero, .string)] := by
  obtain ⟨r, reachable, hschemata, hkinds, _⟩ := Reachable.exists_checked MemoryArchive.isOpen_empty
    (by decide) (by decide) (show LinkKinds.ofSchemata .shadowed = .ok [(.zero, .string)] by
      rw [LinkKinds.ofSchemata, Schemata.outboundLinks_shadowed]; rfl)
  exact ⟨r, reachable, hschemata, hkinds⟩

/-! ## When links work -/

/-- **When links work as their own collection declares them.** In a checked registry that can be
reached, the target of a link names things of some kind, and the selectors that are stored under the
link are of this kind exactly if the target of the link that counts for its identifier is, too. A
link without target takes nothing exactly if no collection declares a target under its
identifier. -/
theorem selectors_of_reachable [Archive σ] {h : Handle σ} {r : CheckedRegistry σ}
    (reachable : Reachable h) (checked : h.toSession = .checked r) {collection : String}
    {i : Identifier} {p : Property} (link : r.IsLink collection i p) :
    (∀ t, p.linkTarget? = some t → ∃ k, t.HasKind r.schemata k ∧
      (r.SelectsOnly collection i k ↔
        ∃ l, r.schemata.governing? i = some l ∧ l.target.HasKind r.schemata k)) ∧
    (p.linkTarget? = none →
      (r.Refuses collection i ↔ ∀ l ∈ r.schemata.outboundLinks, l.property ≠ i)) := by
  have resolved := reachable.isResolved r checked
  constructor
  · intro t ht
    have hmem := link.mem_outboundLinks ht
    obtain ⟨k, hk⟩ := LinkKinds.targetKind_of_addAll resolved _ hmem
    refine ⟨k, (OutboundLink.targetKind_eq_ok.mp hk).1, ?_⟩
    obtain ⟨k₀, hk₀⟩ : ∃ k₀, r.kinds.get? i = some k₀ := by
      refine Option.ne_none_iff_exists'.mp fun hnone => ?_
      exact (LinkKinds.get?_ofSchemata_eq_none resolved i).mp hnone _ hmem rfl
    -- The kind that is kept need not be `k`: it is that of the link that counts.
    obtain ⟨l, hl, hlk⟩ := (LinkKinds.get?_ofSchemata resolved i k₀).mp hk₀
    obtain ⟨hkind, hselectable⟩ := OutboundLink.targetKind_eq_ok.mp hlk
    rw [link.selectsOnly_iff hk₀ hselectable]
    constructor
    · rintro rfl
      exact ⟨l, hl, hkind⟩
    · rintro ⟨l', hl', hkind'⟩
      obtain rfl := Option.some.inj (hl.symm.trans hl')
      exact hkind.unique hkind'
  · intro _
    rw [link.refuses_iff, LinkKinds.get?_ofSchemata_eq_none resolved]

theorem selectors_of_reachable_crossed : ∃ (r : CheckedRegistry MemoryArchive) (k : Kind),
    Reachable (.session (.checked r)) ∧ r.schemata = .crossed ∧
      (LinkTarget.mk "c" Identifier.zero.text).HasKind r.schemata k ∧
        r.SelectsOnly "b" .zero k := by
  obtain ⟨r, reachable, hschemata, _⟩ := Reachable.exists_crossed
  have link : r.IsLink "b" .zero _ := ⟨⟨_, by rw [hschemata]; rfl, List.mem_cons_self⟩, rfl, rfl⟩
  obtain ⟨k, hk, hiff⟩ := (selectors_of_reachable reachable rfl link).1 _ rfl
  refine ⟨r, k, reachable, hschemata, hk, hiff.mpr ⟨⟨"b", .zero, _⟩, ?_, hk⟩⟩
  rw [hschemata, Schemata.governing?, Schemata.outboundLinks_crossed]
  rfl

/-- **Links do not work as their own collection declares them** when collections share their
identifiers: selectors can be of another kind, and a link without target can take values. -/
theorem not_selectors_of_reachable :
    (¬ ∀ (h : Handle MemoryArchive) (r : CheckedRegistry MemoryArchive) (collection : String)
        (i : Identifier) (p : Property) (t : LinkTarget) (k : Kind),
      Reachable h → h.toSession = .checked r → r.IsLink collection i p → p.linkTarget? = some t →
        t.HasKind r.schemata k → r.SelectsOnly collection i k) ∧
    ¬ ∀ (h : Handle MemoryArchive) (r : CheckedRegistry MemoryArchive) (collection : String)
        (i : Identifier) (p : Property),
      Reachable h → h.toSession = .checked r → r.IsLink collection i p → p.linkTarget? = none →
        r.Refuses collection i := by
  constructor
  · intro claim
    obtain ⟨r, reachable, hschemata, hkinds⟩ := Reachable.exists_crossed
    have link : r.IsLink "a" .zero _ := ⟨⟨_, by rw [hschemata]; rfl, List.mem_cons_self⟩, rfl, rfl⟩
    have hselects := claim _ r "a" .zero _ _ .string reachable rfl link rfl
      (by rw [hschemata]; exact .title rfl rfl)
    have := (link.selectsOnly_iff (by rw [hkinds]; rfl) rfl _).mp hselects
    cases this
  · intro claim
    obtain ⟨r, reachable, hschemata, hkinds⟩ := Reachable.exists_shadowed
    have link : r.IsLink "a" .zero _ := ⟨⟨_, by rw [hschemata]; rfl, List.mem_cons_self⟩, rfl, rfl⟩
    have hnone := link.refuses_iff.mp (claim _ r "a" .zero _ reachable rfl link rfl)
    rw [hkinds] at hnone
    cases hnone

end CollectionArchive
