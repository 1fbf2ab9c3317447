import CollectionArchive.Proofs.Link.Kinds
import CollectionArchive.Proofs.Schema.Written

/-!
# Targets of links

A link leads where its config says. Whether it says so is read from the config by the grammar when
the link is built, and by the walk over the links when they are resolved; the two agree, and so no
link is passed over.

* `Property.DeclaresTarget`: the target that a config declares; `Property.linkTarget?_eq_some`.
* `Property.IsValid.declaresTarget`: a valid link with a target in its config declares one.
* `LinkTarget.Resolves`, `LinkTarget.Fails`: a target leads to something that can be selected, or
  why it does not.
* `Schemata.targeted`: the links that are to be resolved.
* **`LinkKinds.resolves_of_ofSchemata`**, **`LinkKinds.first_of_ofSchemata_error`**: all of them
  resolve, or the first that does not is told.
-/

namespace CollectionArchive

open Json (Value)

/-! ## Configs that are checked -/

theorem Grammar.checkParameter_eq_ok {config : Json.Object} {property : String} {p : Parameter} :
    checkParameter config property p = .ok () ↔
      (present? config p.name = none → p.isOptional = true) ∧
        ∀ v, present? config p.name = some v → p.shape.accepts v = true := by
  rw [checkParameter]
  cases present? config p.name with
  | none => simp
  | some v => simp

/-- A config that is accepted has all parameters in their shapes. -/
theorem Grammar.validate_eq_ok {g : Grammar} {config : Json.Object} {property : String} :
    g.validate config property = .ok () ↔
      ∀ p ∈ g.parameters, checkParameter config property p = .ok () := by
  rw [validate]
  induction g.parameters with
  | nil => exact iff_of_true rfl (List.forall_mem_nil _)
  | cons p ps ih =>
    rw [List.forM_eq_forM, List.forM_cons, Outcome.bind_eq_ok, List.forall_mem_cons, ← ih]
    exact ⟨fun ⟨_, hp, hps⟩ => ⟨hp, hps⟩, fun ⟨hp, hps⟩ => ⟨(), hp, hps⟩⟩

theorem Shape.hasText_iff {o : Json.Object} {key : String} :
    hasText o key = true ↔ ∃ s, o.get? key = some (.text s) := by
  rw [hasText, Option.any_eq_true]
  constructor
  · rintro ⟨v, hv, htext⟩
    obtain ⟨s, rfl⟩ := Value.isText_iff.mp htext
    exact ⟨s, hv⟩
  · rintro ⟨s, hs⟩
    exact ⟨.text s, hs, rfl⟩

namespace Property

/-! ## Leaves -/

theorem mem_leavesOf {ps : List Property} {q : Property} :
    q ∈ leavesOf ps ↔ ∃ p ∈ ps, q ∈ p.leaves := by
  induction ps with
  | nil => simp [leavesOf]
  | cons p ps ih => simp [leavesOf, ih]

/-- The leaves of what is valid are valid. -/
theorem IsValid.of_mem_leaves {p q : Property} (h : p.IsValid) (hq : q ∈ p.leaves) :
    q.IsValid := by
  induction h with
  | leaf h =>
    obtain rfl := List.mem_singleton.mp hq
    exact .leaf h
  | box _ ih =>
    obtain ⟨c, hc, hq⟩ := mem_leavesOf.mp hq
    exact ih c hc hq

mutual

theorem isLeaf_of_mem_leaves {p q : Property} (hq : q ∈ p.leaves) :
    ∃ title i kind config hidden, q = .leaf title i kind config hidden := by
  cases p with
  | leaf title i kind config hidden => exact ⟨_, _, _, _, _, List.mem_singleton.mp hq⟩
  | box => exact isLeaf_of_mem_leavesOf hq

theorem isLeaf_of_mem_leavesOf {ps : List Property} {q : Property} (hq : q ∈ leavesOf ps) :
    ∃ title i kind config hidden, q = .leaf title i kind config hidden := by
  cases ps with
  | nil => cases hq
  | cons p ps =>
    rcases List.mem_append.mp hq with hq | hq
    · exact isLeaf_of_mem_leaves hq
    · exact isLeaf_of_mem_leavesOf hq

end

/-! ## Targets that are declared -/

/-- The property is a link, and its config has an object with the parts of the target. -/
structure DeclaresTarget (p : Property) (t : LinkTarget) : Prop where
  isLink : p.kind = .link
  declared : ∃ config o : Json.Object, p.config? = some config ∧
    config.get? "target" = some (.object o) ∧ o.get? "target_tag" = some (.text t.tag) ∧
      o.get? "target_ident" = some (.text t.ident)

theorem readTarget?_eq_some {v : Value} {t : LinkTarget} :
    readTarget? v = some t ↔ ∃ o : Json.Object, v = .object o ∧
      o.get? "target_tag" = some (.text t.tag) ∧ o.get? "target_ident" = some (.text t.ident) := by
  obtain ⟨tag, ident⟩ := t
  simp only [readTarget?, Option.bind_eq_bind, Option.bind_eq_some_iff,
    Value.object?_eq_some, Value.text?_eq_some, Option.pure_def, Option.some.injEq,
    LinkTarget.mk.injEq]
  constructor
  · rintro ⟨o, ho, _, ⟨_, htag, rfl⟩, _, ⟨_, hident, rfl⟩, rfl, rfl⟩
    exact ⟨o, ho, htag, hident⟩
  · rintro ⟨o, ho, htag, hident⟩
    exact ⟨o, ho, tag, ⟨_, htag, rfl⟩, ident, ⟨_, hident, rfl⟩, rfl, rfl⟩

/-- **The grammar and the walk read targets alike.** -/
theorem accepts_linkTarget (v : Value) :
    Shape.linkTarget.accepts v = true ↔ ∃ t, readTarget? v = some t := by
  simp only [readTarget?_eq_some]
  cases v with
  | object o =>
    show (Shape.hasText o "target_tag" && Shape.hasText o "target_ident") = true ↔ _
    rw [Bool.and_eq_true, Shape.hasText_iff, Shape.hasText_iff]
    constructor
    · rintro ⟨⟨tag, htag⟩, ident, hident⟩
      exact ⟨⟨tag, ident⟩, o, rfl, htag, hident⟩
    · rintro ⟨t, o', ho, htag, hident⟩
      obtain rfl := Value.object.inj ho
      exact ⟨⟨_, htag⟩, _, hident⟩
  | _ =>
    refine iff_of_false Bool.false_ne_true ?_
    rintro ⟨_, _, h, _⟩
    cases h

theorem isOutboundLink_iff {p : Property} :
    p.isOutboundLink = true ↔ p.kind = .link ∧ ∃ v, p.configValue? "target" = some v := by
  rw [isOutboundLink, Bool.and_eq_true, Option.isSome_iff_exists, Kind.isLink, beq_iff_eq]

theorem linkTarget?_eq_some {p : Property} {t : LinkTarget} :
    p.linkTarget? = some t ↔ p.DeclaresTarget t := by
  rw [linkTarget?]
  constructor
  · intro h
    split_ifs at h with hlink
    obtain ⟨v, hv, h⟩ := Option.bind_eq_some_iff.mp h
    obtain ⟨o, rfl, htag, hident⟩ := readTarget?_eq_some.mp h
    obtain ⟨config, hconfig, hv⟩ := Option.bind_eq_some_iff.mp hv
    obtain ⟨hv, _⟩ := Option.filter_eq_some_iff.mp hv
    exact ⟨(isOutboundLink_iff.mp hlink).1, config, o, hconfig, hv, htag, hident⟩
  · rintro ⟨hlink, config, o, hconfig, ho, htag, hident⟩
    have hvalue : p.configValue? "target" = some (.object o) := by
      rw [configValue?, hconfig]
      show Grammar.present? config "target" = _
      rw [Grammar.present?, ho]
      rfl
    rw [if_pos (isOutboundLink_iff.mpr ⟨hlink, _, hvalue⟩), hvalue]
    exact readTarget?_eq_some.mpr ⟨o, rfl, htag, hident⟩

theorem DeclaresTarget.unique {p : Property} {t u : LinkTarget} (ht : p.DeclaresTarget t)
    (hu : p.DeclaresTarget u) : t = u :=
  Option.some.inj ((linkTarget?_eq_some.mpr ht).symm.trans (linkTarget?_eq_some.mpr hu))

/-- **A valid link with a target in its config declares one.** -/
theorem IsValid.declaresTarget {p : Property} (h : p.IsValid) (hlink : p.isOutboundLink = true) :
    ∃ t, p.DeclaresTarget t := by
  obtain ⟨hkind, v, hv⟩ := isOutboundLink_iff.mp hlink
  cases h with
  | box => cases hkind
  | @leaf title i kind config hidden hconfig =>
    obtain ⟨o, rfl, hpresent⟩ := Option.bind_eq_some_iff.mp hv
    rw [checkConfig, show kind.val = .link from hkind] at hconfig
    have hparameter := Grammar.validate_eq_ok.mp hconfig (.optional "target" .linkTarget)
      (List.mem_cons_of_mem _ List.mem_cons_self)
    have haccepted := (Grammar.checkParameter_eq_ok.mp hparameter).2 v hpresent
    obtain ⟨t, ht⟩ := (accepts_linkTarget v).mp haccepted
    refine ⟨t, linkTarget?_eq_some.mp ?_⟩
    rw [linkTarget?, if_pos hlink, hv]
    exact ht

end Property

/-! ## Targets that resolve -/

namespace LinkTarget

variable {s : Schemata} {t : LinkTarget}

/-- The target names something of which single values can be selected. -/
def Resolves (s : Schemata) (t : LinkTarget) : Prop :=
  ∃ k, t.HasKind s k ∧ k ≠ .list ∧ k ≠ .link

/-- Why a target leads nowhere: its collection has no schema, no leaf of the schema has its
identifier, or there are no single values to select. -/
inductive Fails (s : Schemata) (t : LinkTarget) : LinkFault → Prop
  | unknownCollection (unregistered : s.get? t.tag = none) : Fails s t .unknownCollection
  | unknownProperty {schema : Schema} (registered : s.get? t.tag = some schema)
    (other : t.ident ≠ titleIdent)
    (unknown : ∀ i, Identifier.parse t.ident = .ok i →
      ∀ p ∈ schema.main.leaves, p.ident? ≠ some i) : Fails s t .unknownProperty
  | unselectable {k : Kind} (kind : t.HasKind s k) (several : k = .list ∨ k = .link) :
    Fails s t (.unselectable k)

theorem HasKind.ne_box {k : Kind} (h : t.HasKind s k) : k ≠ .box := by
  cases h with
  | title => nofun
  | leaf _ _ _ leaf =>
    obtain ⟨_, _, kind, _, _, rfl⟩ := Property.isLeaf_of_mem_leaves leaf
    intro hbox
    have hleaf := kind.property
    rw [show kind.val = .box from hbox] at hleaf
    cases hleaf

theorem HasKind.isSelectable_iff {k : Kind} (h : t.HasKind s k) :
    k.isSelectable = true ↔ k ≠ .list ∧ k ≠ .link := by
  have hbox := h.ne_box
  cases k <;> simp [Kind.isSelectable] at hbox ⊢

theorem Fails.not_resolves {fault : LinkFault} (h : t.Fails s fault) : ¬ t.Resolves s := by
  rintro ⟨k, hk, hlist, hlink⟩
  cases h with
  | unknownCollection unregistered =>
    cases hk with
    | title registered => exact absurd (unregistered.symm.trans registered) nofun
    | leaf registered => exact absurd (unregistered.symm.trans registered) nofun
  | unknownProperty registered other unknown =>
    cases hk with
    | title _ title => exact other title
    | leaf registered' _ parse leaf ident =>
      obtain rfl := Option.some.inj (registered.symm.trans registered')
      exact unknown _ parse _ leaf ident
  | unselectable kind several =>
    obtain rfl := hk.unique kind
    exact several.elim hlist hlink

end LinkTarget

namespace OutboundLink

variable {s : Schemata} {l : OutboundLink}

theorem exists_targetKind_iff : (∃ k, l.targetKind s = .ok k) ↔ l.target.Resolves s := by
  refine exists_congr fun k => ?_
  rw [targetKind_eq_ok]
  exact and_congr_right fun h => h.isSelectable_iff

/-- The error of a link that does not resolve tells why. -/
theorem fails_of_targetKind {e : UnresolvedLink} (h : l.targetKind s = .error e) :
    ∃ fault, l.target.Fails s fault ∧ ⟨l, fault⟩ = e := by
  obtain ⟨fault, hfault, he⟩ := Outcome.mapError_eq_error.mp h
  refine ⟨fault, ?_, he⟩
  cases hschema : s.get? l.target.tag with
  | none =>
    rw [hschema] at hfault
    obtain rfl := Except.error.inj hfault
    exact .unknownCollection hschema
  | some schema =>
    rw [hschema] at hfault
    change schema.targetKind l.target = .error fault at hfault
    rw [Schema.targetKind] at hfault
    split_ifs at hfault with htitle
    have other : l.target.ident ≠ LinkTarget.titleIdent := mt beq_iff_eq.mpr htitle
    cases hfind : schema.findText l.target.ident with
    | error e =>
      rw [hfind] at hfault
      obtain rfl := Except.error.inj hfault
      refine .unknownProperty hschema other fun i hparse p hleaf hident => ?_
      rw [Schema.findText_eq_ok.mpr ⟨i, hparse, hleaf, hident⟩] at hfind
      cases hfind
    | ok p =>
      rw [hfind] at hfault
      obtain ⟨i, hparse, hleaf, hident⟩ := Schema.findText_eq_ok.mp hfind
      have kind : l.target.HasKind s p.kind := .leaf hschema other hparse hleaf hident
      simp only at hfault
      split_ifs at hfault with hselectable
      obtain rfl := Except.error.inj hfault
      refine .unselectable kind ?_
      by_contra! hsingle
      exact hselectable (kind.isSelectable_iff.mpr hsingle)

end OutboundLink

/-! ## Links that are resolved -/

/-- The property declares a target that resolves. -/
def Property.Resolves (s : Schemata) (p : Property) : Prop :=
  ∃ t, p.DeclaresTarget t ∧ t.Resolves s

namespace Schemata

/-- The links with a target in their config, each with its collection: in the order of the
collections and, in each of them, in that of the leaves. -/
def targeted (s : Schemata) : List (String × Property) :=
  s.flatMap fun e => (e.2.main.leaves.filter Property.isOutboundLink).map fun p => (e.1, p)

/-- The properties in the schemata are built. -/
def IsBuilt (s : Schemata) : Prop :=
  ∀ e ∈ s, e.2.main.IsBuilt

theorem mem_targeted {s : Schemata} {e : String × Property} : e ∈ s.targeted ↔
    ∃ schema, (e.1, schema) ∈ s ∧ e.2 ∈ schema.main.leaves ∧ e.2.isOutboundLink = true := by
  rw [targeted, List.mem_flatMap]
  constructor
  · rintro ⟨⟨name, schema⟩, hmem, he⟩
    obtain ⟨p, hp, rfl⟩ := List.mem_map.mp he
    exact ⟨schema, hmem, List.mem_filter.mp hp⟩
  · rintro ⟨schema, hmem, hp⟩
    exact ⟨_, hmem, List.mem_map.mpr ⟨e.2, List.mem_filter.mpr hp, rfl⟩⟩

/-- Links with targets are in the order of their collections. -/
theorem pairwise_targeted {s : Schemata} (ascending : Table.Ascending s) :
    s.targeted.Pairwise fun d e => Text.precedes e.1 d.1 = false := by
  rw [targeted, List.pairwise_flatMap]
  refine ⟨fun e _ => ?_, ascending.imp fun {d e} hlt => ?_⟩
  · rw [List.pairwise_map]
    exact List.pairwise_of_forall fun _ _ => Ordered.irrefl e.1
  · intro x hx y hy
    obtain ⟨_, _, rfl⟩ := List.mem_map.mp hx
    obtain ⟨_, _, rfl⟩ := List.mem_map.mp hy
    exact Ordered.asymm hlt

theorem outboundLinks_eq (s : Schemata) :
    s.outboundLinks = s.targeted.filterMap fun e => OutboundLink.ofProperty? e.1 e.2 := by
  rw [outboundLinks, targeted, List.filterMap_flatMap]
  congr 1
  funext e
  obtain ⟨source, schema⟩ := e
  show schema.outboundLinks source = _
  rw [Schema.outboundLinks, Leaves.toList_walk, List.filterMap_map, List.filterMap_filter]
  refine List.filterMap_congr fun p _ => ?_
  by_cases hlink : p.isOutboundLink = true
  · rw [if_pos hlink]
    rfl
  · rw [if_neg hlink, OutboundLink.ofProperty?, Property.linkTarget?, if_neg hlink]
    cases p.ident? <;> rfl

/-- Each of the links has an identifier and declares a target. -/
theorem IsBuilt.ofProperty? {s : Schemata} (h : s.IsBuilt) {e : String × Property}
    (he : e ∈ s.targeted) : ∃ i t, e.2.ident? = some i ∧ e.2.DeclaresTarget t ∧
      OutboundLink.ofProperty? e.1 e.2 = some ⟨e.1, i, t⟩ := by
  obtain ⟨schema, hmem, hleaf, hlink⟩ := mem_targeted.mp he
  obtain ⟨t, ht⟩ := ((h _ hmem).isValid.of_mem_leaves hleaf).declaresTarget hlink
  obtain ⟨_, i, _, _, _, hp⟩ := Property.isLeaf_of_mem_leaves hleaf
  have hident : e.2.ident? = some i := by rw [hp]; rfl
  refine ⟨i, t, hident, ht, ?_⟩
  rw [OutboundLink.ofProperty?, hident, Property.linkTarget?_eq_some.mpr ht]
  rfl

end Schemata

namespace LinkKinds

variable {s : Schemata}

/-- Resolving fails at the first link that leads nowhere. -/
theorem first_of_addAll_error {kinds : LinkKinds} {ls : List OutboundLink} {e : UnresolvedLink}
    (h : addAll s kinds ls = .error e) : ∃ before l after, ls = before ++ l :: after ∧
      (∀ m ∈ before, ∃ k, m.targetKind s = .ok k) ∧ l.targetKind s = .error e := by
  induction ls generalizing kinds with
  | nil => cases h
  | cons l ls ih =>
    rcases Outcome.bind_eq_error.mp h with herror | ⟨k, hk, h⟩
    · exact ⟨[], l, ls, rfl, List.forall_mem_nil _, herror⟩
    · obtain ⟨before, m, after, rfl, hbefore, hm⟩ := ih h
      exact ⟨l :: before, m, after, rfl, List.forall_mem_cons.mpr ⟨⟨k, hk⟩, hbefore⟩, hm⟩

/-- **If the links are resolved, each of them leads somewhere**, and kinds are kept exactly for
their identifiers. -/
theorem resolves_of_ofSchemata {kinds : LinkKinds} (built : s.IsBuilt)
    (h : ofSchemata s = .ok kinds) : (∀ e ∈ s.targeted, e.2.Resolves s) ∧
      ∀ i, kinds.has i = true ↔ ∃ e ∈ s.targeted, e.2.ident? = some i := by
  have hlinks := s.outboundLinks_eq
  constructor
  · intro e he
    obtain ⟨i, t, _, ht, hlink⟩ := built.ofProperty? he
    have hmem : ⟨e.1, i, t⟩ ∈ s.outboundLinks := by
      rw [hlinks]
      exact List.mem_filterMap.mpr ⟨e, he, hlink⟩
    exact ⟨t, ht, OutboundLink.exists_targetKind_iff.mp (targetKind_of_addAll h _ hmem)⟩
  · intro i
    rw [Table.has, Option.isSome_iff_ne_none, ne_eq, get?_ofSchemata_eq_none h i]
    simp only [not_forall, not_not, hlinks, List.mem_filterMap, exists_prop]
    constructor
    · rintro ⟨l, ⟨e, he, hl⟩, rfl⟩
      obtain ⟨i, t, hident, _, hlink⟩ := built.ofProperty? he
      obtain rfl := Option.some.inj (hlink.symm.trans hl)
      exact ⟨e, he, hident⟩
    · rintro ⟨e, he, hident⟩
      obtain ⟨j, t, hj, _, hlink⟩ := built.ofProperty? he
      exact ⟨_, ⟨e, he, hlink⟩, Option.some.inj (hj.symm.trans hident)⟩

/-- **If the links are not resolved, the first that leads nowhere is told**, and why. -/
theorem first_of_ofSchemata_error {e : UnresolvedLink} (built : s.IsBuilt)
    (h : ofSchemata s = .error e) : ∃ before name p after i t fault,
      s.targeted = before ++ (name, p) :: after ∧ (∀ d ∈ before, d.2.Resolves s) ∧
        p.ident? = some i ∧ p.DeclaresTarget t ∧ t.Fails s fault ∧ ⟨⟨name, i, t⟩, fault⟩ = e := by
  obtain ⟨before, l, after, hsplit, hbefore, hl⟩ := first_of_addAll_error h
  obtain ⟨fault, hfails, he⟩ := OutboundLink.fails_of_targetKind hl
  rw [s.outboundLinks_eq] at hsplit
  obtain ⟨ds, es, hds, hfirst, hrest⟩ := List.filterMap_eq_append_iff.mp hsplit
  obtain ⟨skipped, ⟨name, p⟩, later, rfl, hskipped, hp, _⟩ := List.filterMap_eq_cons_iff.mp hrest
  have hmem : ∀ d ∈ ds ++ skipped, d ∈ s.targeted := by
    intro d hd
    rw [hds, ← List.append_assoc]
    exact List.mem_append_left _ hd
  obtain ⟨i, t, hident, ht, hlink⟩ := built.ofProperty? (e := (name, p)) (by rw [hds]; simp)
  obtain rfl := Option.some.inj (hlink.symm.trans hp)
  refine ⟨ds ++ skipped, name, p, later, i, t, fault, by rw [hds, List.append_assoc], ?_, hident,
    ht, hfails, he⟩
  intro d hd
  obtain ⟨j, u, _, hu, hdlink⟩ := built.ofProperty? (hmem d hd)
  rcases List.mem_append.mp hd with hd | hd
  · have hresolved := hbefore _ (hfirst ▸ List.mem_filterMap.mpr ⟨d, hd, hdlink⟩)
    exact ⟨u, hu, OutboundLink.exists_targetKind_iff.mp hresolved⟩
  · rw [hskipped d hd] at hdlink
    cases hdlink

/-- The links are resolved if each of them leads somewhere. -/
theorem exists_ofSchemata (built : s.IsBuilt) (h : ∀ e ∈ s.targeted, e.2.Resolves s) :
    ∃ kinds, ofSchemata s = .ok kinds := by
  cases hkinds : ofSchemata s with
  | ok kinds => exact ⟨kinds, rfl⟩
  | error e =>
    obtain ⟨before, name, p, after, _, t, _, hsplit, _, _, ht, hfails, _⟩ :=
      first_of_ofSchemata_error built hkinds
    obtain ⟨u, hu, hresolves⟩ := h (name, p) (by rw [hsplit]; simp)
    exact absurd (ht.unique hu ▸ hresolves) hfails.not_resolves

end LinkKinds

end CollectionArchive
