import CollectionArchive.Link.Kinds
import CollectionArchive.Proofs.Schema.Leaves

/-!
# Links and their kinds

* `Schemata.mem_outboundLinks`: the links of schemata are the targets that their leaves declare.
* `LinkTarget.HasKind`: the kind of what a target names; `OutboundLink.targetKind_eq_ok`.
* `Schemata.governing?`: the link that counts for an identifier, of those that schemata declare.
* **`LinkKinds.get?_ofSchemata`**: the kind that is kept for an identifier is that of the link that
  counts.
-/

namespace CollectionArchive

/-! ## Links of schemata -/

namespace Schema

theorem mem_outboundLinks {s : Schema} {source : String} {l : OutboundLink} :
    l ∈ s.outboundLinks source ↔ ∃ p ∈ s.main.leaves, l.source = source ∧
      p.ident? = some l.property ∧ p.linkTarget? = some l.target := by
  rw [outboundLinks, Leaves.toList_walk, List.mem_filterMap]
  refine exists_congr fun p => and_congr_right fun _ => ?_
  rw [OutboundLink.ofProperty?]
  constructor
  · intro h
    obtain ⟨i, hi, h⟩ := Option.bind_eq_some_iff.mp h
    obtain ⟨t, ht, h⟩ := Option.bind_eq_some_iff.mp h
    obtain rfl := Option.some.inj h
    exact ⟨rfl, hi, ht⟩
  · rintro ⟨rfl, hi, ht⟩
    rw [hi, ht]
    rfl

end Schema

theorem Schemata.mem_outboundLinks {s : Schemata} {l : OutboundLink} :
    l ∈ s.outboundLinks ↔ ∃ schema, (l.source, schema) ∈ s ∧ l ∈ schema.outboundLinks l.source := by
  rw [outboundLinks, List.mem_flatMap]
  constructor
  · rintro ⟨⟨source, schema⟩, hmem, hl⟩
    obtain ⟨_, _, rfl, _⟩ := Schema.mem_outboundLinks.mp hl
    exact ⟨schema, hmem, hl⟩
  · rintro ⟨schema, hmem, hl⟩
    exact ⟨_, hmem, hl⟩

/-! ## Kinds of targets -/

/-- The kind of what a target names: a string for titles, or the kind of a leaf. -/
inductive LinkTarget.HasKind (s : Schemata) (t : LinkTarget) : Kind → Prop
  | title {schema : Schema} (registered : s.get? t.tag = some schema)
      (title : t.ident = LinkTarget.titleIdent) : HasKind s t .string
  | leaf {schema : Schema} {i : Identifier} {p : Property} (registered : s.get? t.tag = some schema)
      (other : t.ident ≠ LinkTarget.titleIdent) (parse : Identifier.parse t.ident = .ok i)
      (leaf : p ∈ schema.main.leaves) (ident : p.ident? = some i) : HasKind s t p.kind

theorem LinkTarget.HasKind.unique {s : Schemata} {t : LinkTarget} {k k' : Kind}
    (h : t.HasKind s k) (h' : t.HasKind s k') : k = k' := by
  cases h with
  | title _ title =>
    cases h' with
    | title => rfl
    | leaf _ other => exact absurd title other
  | leaf registered other parse leaf ident =>
    cases h' with
    | title _ title => exact absurd title other
    | leaf registered' _ parse' leaf' ident' =>
      obtain rfl := Option.some.inj (registered.symm.trans registered')
      obtain rfl := Except.ok.inj (parse.symm.trans parse')
      rw [Schema.leaf_unique leaf leaf' ident ident']

/-- A link resolves if its target names something of which there are single values. -/
theorem OutboundLink.targetKind_eq_ok {s : Schemata} {l : OutboundLink} {k : Kind} :
    l.targetKind s = .ok k ↔ l.target.HasKind s k ∧ k.isSelectable = true := by
  rw [targetKind, Outcome.mapError_eq_ok]
  cases hschema : s.get? l.target.tag with
  | none =>
    refine ⟨nofun, ?_⟩
    rintro ⟨h, _⟩
    cases h with
    | title registered => exact absurd (hschema.symm.trans registered) nofun
    | leaf registered => exact absurd (hschema.symm.trans registered) nofun
  | some schema =>
    show schema.targetKind l.target = .ok k ↔ _
    rw [Schema.targetKind, LinkTarget.isTitle]
    by_cases htitle : l.target.ident = LinkTarget.titleIdent
    · rw [if_pos (beq_iff_eq.mpr htitle), Except.ok.injEq]
      constructor
      · rintro rfl
        exact ⟨.title hschema htitle, rfl⟩
      · rintro ⟨h, _⟩
        exact h.unique (.title hschema htitle) |>.symm
    · rw [if_neg (mt beq_iff_eq.mp htitle)]
      cases hfind : schema.findText l.target.ident with
      | error e =>
        refine ⟨nofun, ?_⟩
        rintro ⟨h, _⟩
        cases h with
        | title _ title => exact absurd title htitle
        | leaf registered _ parse leaf ident =>
          obtain rfl := Option.some.inj (hschema.symm.trans registered)
          rw [Schema.findText_eq_ok.mpr ⟨_, parse, leaf, ident⟩] at hfind
          cases hfind
      | ok p =>
        obtain ⟨i, hparse, hleaf, hident⟩ := Schema.findText_eq_ok.mp hfind
        have hkind : l.target.HasKind s p.kind := .leaf hschema htitle hparse hleaf hident
        by_cases hselectable : p.kind.isSelectable = true
        · simp only [hselectable, if_true, Except.ok.injEq]
          constructor
          · rintro rfl
            exact ⟨hkind, hselectable⟩
          · exact fun h => hkind.unique h.1
        · simp only [hselectable]
          refine ⟨nofun, fun ⟨h, hk⟩ => ?_⟩
          exact absurd (hkind.unique h ▸ hk) hselectable

/-! ## Kinds of links -/

/-- The link that counts for an identifier: the last that is declared under it. -/
def Schemata.governing? (s : Schemata) (i : Identifier) : Option OutboundLink :=
  s.outboundLinks.reverse.find? fun l => l.property == i

theorem Schemata.governing?_eq_none {s : Schemata} {i : Identifier} :
    s.governing? i = none ↔ ∀ l ∈ s.outboundLinks, l.property ≠ i := by
  simp [governing?, List.find?_eq_none]

namespace LinkKinds

/-- Resolving links keeps, for each identifier, the kind of the last of its links. -/
theorem get?_addAll {s : Schemata} {kinds kinds' : LinkKinds} {ls : List OutboundLink}
    (h : addAll s kinds ls = .ok kinds') (i : Identifier) (k : Kind) : kinds'.get? i = some k ↔
      match ls.reverse.find? (fun l => l.property == i) with
      | some l => l.targetKind s = .ok k
      | none => kinds.get? i = some k := by
  induction ls generalizing kinds with
  | nil =>
    obtain rfl := Except.ok.inj h
    exact Iff.rfl
  | cons l ls ih =>
    obtain ⟨kind, hkind, h⟩ := Outcome.bind_eq_ok.mp h
    -- A later link with the identifier hides this one; else this one hides what was kept.
    rw [ih h, List.reverse_cons, List.find?_append, Table.get?_insert]
    cases ls.reverse.find? (fun l => l.property == i) with
    | some later => rfl
    | none =>
      rw [Option.none_or, List.find?_singleton]
      by_cases hi : l.property = i
      · simp [hi, hkind]
      · simp [hi]

theorem targetKind_of_addAll {s : Schemata} {kinds kinds' : LinkKinds} {ls : List OutboundLink}
    (h : addAll s kinds ls = .ok kinds') : ∀ l ∈ ls, ∃ k, l.targetKind s = .ok k := by
  induction ls generalizing kinds with
  | nil => exact fun _ hl => absurd hl List.not_mem_nil
  | cons l ls ih =>
    obtain ⟨kind, hkind, h⟩ := Outcome.bind_eq_ok.mp h
    intro m hm
    rcases List.mem_cons.mp hm with rfl | hm
    · exact ⟨kind, hkind⟩
    · exact ih h m hm

/-- **The kind that is kept for an identifier is that of the link that counts.** -/
theorem get?_ofSchemata {s : Schemata} {kinds : LinkKinds} (h : ofSchemata s = .ok kinds)
    (i : Identifier) (k : Kind) :
    kinds.get? i = some k ↔ ∃ l, s.governing? i = some l ∧ l.targetKind s = .ok k := by
  rw [get?_addAll h i k, ← Schemata.governing?]
  cases s.governing? i with
  | none => exact ⟨nofun, nofun⟩
  | some l => simp

theorem get?_ofSchemata_eq_none {s : Schemata} {kinds : LinkKinds} (h : ofSchemata s = .ok kinds)
    (i : Identifier) : kinds.get? i = none ↔ ∀ l ∈ s.outboundLinks, l.property ≠ i := by
  rw [← Schemata.governing?_eq_none]
  cases hg : s.governing? i with
  | none =>
    refine iff_of_true (Option.eq_none_iff_forall_ne_some.mpr fun k hk => ?_) rfl
    obtain ⟨l, hl, _⟩ := (get?_ofSchemata h i k).mp hk
    exact absurd (hg.symm.trans hl) nofun
  | some l =>
    have hl : l ∈ s.outboundLinks := List.mem_reverse.mp (List.mem_of_find?_eq_some hg)
    obtain ⟨k, hk⟩ := targetKind_of_addAll h l hl
    rw [(get?_ofSchemata h i k).mpr ⟨l, hg, hk⟩]
    exact iff_of_false nofun nofun

end LinkKinds

/-! ## Schemata of at most one leaf -/

/-- The identifier made from sixteen zero bytes. -/
def Identifier.zero : Identifier :=
  ⟨⟨stamp (List.replicate 16 0), rfl⟩, rfl, rfl⟩

/-- The kind of links, which are leaves. -/
def LeafKind.link : LeafKind :=
  ⟨.link, rfl⟩

/-- The config of a link to a target. -/
def LinkTarget.config (t : LinkTarget) : Json.Object :=
  [("target", .object [("target_ident", .text t.ident), ("target_tag", .text t.tag)])]

theorem LinkTarget.leaf?_config (t : LinkTarget) (title : String) (i : Identifier) :
    Property.leaf? title i .link (some t.config) =
        .ok (.leaf title i .link (some t.config) false) ∧
      (Property.leaf title i .link (some t.config) false).linkTarget? = some t :=
  ⟨rfl, rfl⟩

namespace Schema

/-- The schema of one leaf. -/
def single (i : Identifier) (kind : LeafKind) (config : Option Json.Object) : Schema :=
  { empty with
    main := .boxed "" [.leaf "" i kind config false]
    table := [(i, .leaf "" i kind config false)]
    main_isBox := rfl
    addAll_main := by rw [Leaves.toList_walk]; rfl }

/-- The schema of one link. -/
def link (i : Identifier) (t : LinkTarget) : Schema :=
  single i .link (some t.config)

theorem leaves_single (i : Identifier) (kind : LeafKind) (config : Option Json.Object) :
    (single i kind config).main.leaves = [.leaf "" i kind config false] :=
  rfl

theorem outboundLinks_single (source : String) (i : Identifier) (kind : LeafKind)
    (config : Option Json.Object) : (single i kind config).outboundLinks source =
      ((Property.leaf "" i kind config false).linkTarget?.map fun t => ⟨source, i, t⟩).toList := by
  rw [outboundLinks, Leaves.toList_walk, leaves_single, List.filterMap_cons,
    OutboundLink.ofProperty?]
  cases (Property.leaf "" i kind config false).linkTarget? <;> rfl

theorem outboundLinks_link (source : String) (i : Identifier) (t : LinkTarget) :
    (link i t).outboundLinks source = [⟨source, i, t⟩] := by
  rw [link, outboundLinks_single]
  rfl

theorem outboundLinks_empty (source : String) : empty.outboundLinks source = [] := by
  rw [outboundLinks, Leaves.toList_walk]
  rfl

end Schema

theorem Schemata.outboundLinks_cons (source : String) (schema : Schema) (s : Schemata) :
    outboundLinks ((source, schema) :: s) = schema.outboundLinks source ++ s.outboundLinks :=
  List.flatMap_cons

end CollectionArchive
