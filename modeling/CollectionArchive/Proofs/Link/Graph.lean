import CollectionArchive.Proofs.Archive.Listing
import CollectionArchive.Proofs.Link.Targets
import CollectionArchive.Proofs.Schema.Parameters
import CollectionArchive.Proofs.Schema.Walks

/-!
# Listing links

A link is read twice: the grammar looks at its target when it is built, and the target is read when
links are listed. The second reading takes more than the first, two texts in a row instead of an
object, but such a target is in no property that was built.

* `LinkTarget.ofJson?`: all that is read as a target.
* `Property.HasTarget`: a link with a target that is not null;
  `Property.IsBuilt.linkTarget?_eq`: the target of a link that was built.
* `OutboundLink.IsOf`, `Schema.targeted`: the links that are to be listed.
* `Schemata.gathered`: the graph, gathered from the links one by one.
* **`links_of_built`**: each link with a target is listed once, and no collection is missing from
  the graph.
-/

namespace CollectionArchive

open Json (Value)

/-! ## Targets -/

/-- The target that a value stands for: texts under the names of its parts, whatever else the object
has, or the two texts in a row. -/
def LinkTarget.ofJson? : Value → Option LinkTarget
  | .object members => Property.readTarget? (.object members)
  | .array [.text tag, .text ident] => some ⟨tag, ident⟩
  | _ => none

namespace Property

variable {p : Property}

/-- The property is a link, and its config has a target that is not null. -/
def HasTarget (p : Property) : Prop :=
  p.kind = .link ∧ ∃ config v, p.config? = some config ∧ config.get? "target" = some v ∧ v ≠ .null

theorem configValue?_eq_some {key : String} {v : Value} : p.configValue? key = some v ↔
    ∃ config, p.config? = some config ∧ config.get? key = some v ∧ v ≠ .null := by
  rw [configValue?, Option.bind_eq_some_iff]
  exact exists_congr fun config => and_congr_right fun _ => Grammar.present?_eq_some

theorem isOutboundLink_iff_hasTarget : p.isOutboundLink = true ↔ p.HasTarget := by
  rw [isOutboundLink_iff, HasTarget]
  simp only [configValue?_eq_some]
  exact and_congr_right fun _ => exists_comm

/-- A link that was built has a target exactly if one is read from it. -/
theorem IsBuilt.exists_linkTarget?_iff (h : p.IsBuilt) :
    (∃ t, p.linkTarget? = some t) ↔ p.isOutboundLink = true := by
  simp only [linkTarget?_eq_some]
  refine ⟨?_, h.isValid.declaresTarget⟩
  rintro ⟨t, hkind, config, o, hconfig, hvalue, _⟩
  refine isOutboundLink_iff_hasTarget.mpr ⟨hkind, config, _, hconfig, hvalue, ?_⟩
  rintro ⟨⟩

/-- **All that is read as a target is read alike** in a link that was built. -/
theorem IsBuilt.linkTarget?_eq (h : p.IsBuilt) : p.linkTarget? =
    if p.isOutboundLink then p.configValue? "target" >>= LinkTarget.ofJson? else none := by
  cases hlink : p.isOutboundLink with
  | false =>
    rw [linkTarget?, hlink]
    rfl
  | true =>
    obtain ⟨t, ht⟩ := h.isValid.declaresTarget hlink
    obtain ⟨_, config, o, hconfig, hvalue, htag, hident⟩ := ht
    have hv : p.configValue? "target" = some (.object o) := by
      refine configValue?_eq_some.mpr ⟨config, hconfig, hvalue, ?_⟩
      rintro ⟨⟩
    rw [linkTarget?, hlink, hv]
    rfl

end Property

/-! ## Links that are listed -/

/-- What is listed for a property of a collection. -/
structure OutboundLink.IsOf (l : OutboundLink) (e : String × Property) : Prop where
  source : l.source = e.1
  property : e.2.ident? = some l.property
  target : e.2.DeclaresTarget l.target

/-- The links of a schema with a target in their config, in the order of its properties. -/
def Schema.targeted (s : Schema) : List Property :=
  s.main.preorder.filter Property.isOutboundLink

theorem Property.isBox_of_isOutboundLink {p : Property} (h : p.isOutboundLink = true) :
    p.isBox = false := by
  rw [isBox, (isOutboundLink_iff.mp h).1]
  rfl

theorem Schema.targeted_eq (s : Schema) :
    s.targeted = s.main.leaves.filter Property.isOutboundLink := by
  rw [targeted, Property.leaves_eq_filter, List.filter_filter]
  refine List.filter_congr fun p _ => ?_
  cases hlink : p.isOutboundLink with
  | false => rfl
  | true => rw [Property.isBox_of_isOutboundLink hlink]; rfl

/-- If something is made of each item, the results are related to the items one by one. -/
theorem forall₂_filterMap {α β : Type} {R : β → α → Prop} {f : α → Option β} {as : List α}
    (h : ∀ a ∈ as, ∃ b, f a = some b ∧ R b a) : List.Forall₂ R (as.filterMap f) as := by
  induction as with
  | nil => exact .nil
  | cons a as ih =>
    obtain ⟨⟨b, hb, hrel⟩, hrest⟩ := List.forall_mem_cons.mp h
    rw [List.filterMap_cons_some hb]
    exact .cons hrel (ih hrest)

namespace Schemata

variable {s : Schemata}

theorem targeted_eq (s : Schemata) :
    s.targeted = s.flatMap fun e => e.2.targeted.map fun p => (e.1, p) := by
  simp only [targeted, Schema.targeted_eq]

/-- Each link with a target is listed, once and in its place. -/
theorem IsBuilt.forall₂_outboundLinks (h : s.IsBuilt) :
    List.Forall₂ OutboundLink.IsOf s.outboundLinks s.targeted := by
  rw [outboundLinks_eq]
  refine forall₂_filterMap fun e he => ?_
  obtain ⟨i, t, hident, ht, hlink⟩ := h.ofProperty? he
  exact ⟨_, hlink, rfl, hident, ht⟩

/-- The tags that are listed for a schema are those that its links declare. -/
theorem forall₂_tags {schema : Schema} (h : schema.main.IsBuilt) (source : String) :
    List.Forall₂ (fun tag p => ∃ ident, p.DeclaresTarget ⟨tag, ident⟩)
      ((schema.outboundLinks source).map fun l => l.target.tag) schema.targeted := by
  have hbuilt : IsBuilt [(source, schema)] := List.forall_mem_singleton.mpr h
  have hlinks := hbuilt.forall₂_outboundLinks
  rw [outboundLinks, targeted_eq, List.flatMap_singleton, List.flatMap_singleton,
    List.forall₂_map_right_iff] at hlinks
  rw [List.forall₂_map_left_iff]
  exact hlinks.imp fun l p hl => ⟨l.target.ident, hl.target⟩

/-- The tags that properties declare are determined. -/
theorem tags_unique {tags tags' : List String} {ps : List Property}
    (h : List.Forall₂ (fun tag p => ∃ ident, p.DeclaresTarget ⟨tag, ident⟩) tags ps)
    (h' : List.Forall₂ (fun tag p => ∃ ident, p.DeclaresTarget ⟨tag, ident⟩) tags' ps) :
    tags = tags' :=
  List.left_unique_forall₂'
    (fun _ _ _ ⟨_, ht⟩ ⟨_, hu⟩ => congrArg LinkTarget.tag (ht.unique hu)) h h'

/-! ## The graph -/

theorem linkGraph_eq (s : Schemata) : s.linkGraph = s.filterMap fun e =>
    if (e.2.outboundLinks e.1).map (fun l => l.target.tag) = [] then none
    else some (e.1, (e.2.outboundLinks e.1).map fun l => l.target.tag) := by
  rw [linkGraph]
  simp only [List.isEmpty_iff]

/-- The collections of the graph are in order. -/
theorem ascending_linkGraph (ascending : Table.Ascending s) : Table.Ascending s.linkGraph := by
  rw [linkGraph_eq]
  refine List.Pairwise.filterMap _ (fun d e hlt => ?_) ascending
  intro d' hd e' he
  split_ifs at hd he
  cases hd
  cases he
  exact hlt

theorem get?_linkGraph (ascending : Table.Ascending s) {source : String} {tags : List String} :
    Table.get? s.linkGraph source = some tags ↔ ∃ schema, s.get? source = some schema ∧
      tags ≠ [] ∧ tags = (schema.outboundLinks source).map fun l => l.target.tag := by
  rw [Table.get?_eq_some_iff (ascending_linkGraph ascending), linkGraph_eq, List.mem_filterMap]
  simp only [Table.get?_eq_some_iff ascending]
  constructor
  · rintro ⟨⟨name, schema⟩, hmem, he⟩
    split_ifs at he with hempty
    cases he
    exact ⟨schema, hmem, hempty, rfl⟩
  · rintro ⟨schema, hmem, hne, rfl⟩
    exact ⟨(source, schema), hmem, if_neg hne⟩

/-- The graph with one more link. -/
def gather (graph : Table String (List String)) (l : OutboundLink) : Table String (List String) :=
  graph.insert l.source ((graph.get? l.source).getD [] ++ [l.target.tag])

/-- The graph of links, gathered one by one. -/
def gathered (ls : List OutboundLink) : Table String (List String) :=
  ls.foldl gather []

theorem ascending_foldl_gather {graph : Table String (List String)} (h : graph.Ascending)
    (ls : List OutboundLink) : Table.Ascending (ls.foldl gather graph) := by
  induction ls generalizing graph with
  | nil => exact h
  | cons l ls ih => exact ih (Table.ascending_insert h _ _)

/-- What is gathered for a collection is what was there, with the tags of its links after it. -/
theorem get?_foldl_gather (graph : Table String (List String)) (ls : List OutboundLink)
    (source : String) : Table.get? (ls.foldl gather graph) source =
      if ls.filter (·.source = source) = [] then graph.get? source
      else some ((graph.get? source).getD [] ++
        (ls.filter (·.source = source)).map fun l => l.target.tag) := by
  induction ls generalizing graph with
  | nil => rfl
  | cons l ls ih =>
    rw [List.foldl_cons, ih, gather, Table.get?_insert]
    by_cases hsource : l.source = source
    · subst hsource
      by_cases hrest : ls.filter (·.source = l.source) = [] <;> simp [hrest]
    · simp [hsource]

/-- The links of a collection are those that its schema declares. -/
theorem filter_outboundLinks (ascending : Table.Ascending s) (source : String) :
    s.outboundLinks.filter (·.source = source) =
      (s.get? source).elim [] fun schema => schema.outboundLinks source := by
  induction s with
  | nil => rfl
  | cons e s ih =>
    obtain ⟨name, schema⟩ := e
    obtain ⟨hless, ascending⟩ := List.pairwise_cons.mp ascending
    rw [outboundLinks_cons, List.filter_append, ih ascending, Table.get?_cons]
    by_cases hname : name = source
    · subst hname
      have hnone : Table.get? s name = none := by
        refine Table.get?_eq_none_of_forall fun e he heq => ?_
        have hlt := hless e he
        rw [heq, Ordered.irrefl] at hlt
        cases hlt
      rw [if_pos rfl, hnone, Option.elim_none, List.append_nil]
      refine List.filter_eq_self.mpr fun l hl => ?_
      obtain ⟨_, _, hsource, _⟩ := Schema.mem_outboundLinks.mp hl
      exact decide_eq_true hsource
    · rw [if_neg hname]
      have hother : (schema.outboundLinks name).filter (·.source = source) = [] := by
        refine List.filter_eq_nil_iff.mpr fun l hl => ?_
        obtain ⟨_, _, hsource, _⟩ := Schema.mem_outboundLinks.mp hl
        rw [hsource, decide_eq_true_eq]
        exact hname
      rw [hother, List.nil_append]

/-- **The graph is what is gathered from the links.** -/
theorem linkGraph_eq_gathered (ascending : Table.Ascending s) :
    s.linkGraph = gathered s.outboundLinks := by
  refine Table.eq_of_get? (ascending_linkGraph ascending)
    (ascending_foldl_gather .nil _) fun source => Option.ext fun tags => ?_
  rw [get?_linkGraph ascending, gathered, get?_foldl_gather, filter_outboundLinks ascending]
  cases s.get? source with
  | none => simp [Table.get?]
  | some schema =>
    rw [Option.elim_some]
    split_ifs with hempty
    · simp [hempty, Table.get?]
    · constructor
      · rintro ⟨_, ⟨⟩, _, rfl⟩
        rfl
      · rintro ⟨⟩
        exact ⟨schema, rfl, mt List.map_eq_nil_iff.mp hempty, rfl⟩

end Schemata

/-! ## All links -/

/-- **Each link with a target is listed once, and no collection is missing from the graph.** In a
property that was built a target is read exactly if there is one that is not null, and it is the one
that the config declares. So each of the links of schemata is listed in its place, and the graph has
the collections with such links under their names, with the tags of all their links in order. -/
theorem links_of_built :
    (∀ p : Property, p.IsBuilt → (p.isOutboundLink = true ↔ p.HasTarget) ∧
      ((∃ t, p.linkTarget? = some t) ↔ p.isOutboundLink = true) ∧
      (∀ t, p.linkTarget? = some t ↔ p.DeclaresTarget t) ∧
      p.linkTarget? =
        if p.isOutboundLink then p.configValue? "target" >>= LinkTarget.ofJson? else none) ∧
    ∀ s : Schemata, Table.Ascending s → s.IsBuilt →
      List.Forall₂ OutboundLink.IsOf s.outboundLinks
        (s.flatMap fun e => e.2.targeted.map fun p => (e.1, p)) ∧
      s.linkGraph = Schemata.gathered s.outboundLinks ∧ Table.Ascending s.linkGraph ∧
      ∀ source tags, Table.get? s.linkGraph source = some tags ↔
        ∃ schema, s.get? source = some schema ∧ schema.targeted ≠ [] ∧
          List.Forall₂ (fun tag p => ∃ ident, p.DeclaresTarget ⟨tag, ident⟩) tags
            schema.targeted := by
  refine ⟨fun p built => ⟨Property.isOutboundLink_iff_hasTarget, built.exists_linkTarget?_iff,
    fun t => Property.linkTarget?_eq_some, built.linkTarget?_eq⟩, fun s ascending built => ?_⟩
  refine ⟨s.targeted_eq ▸ built.forall₂_outboundLinks, Schemata.linkGraph_eq_gathered ascending,
    Schemata.ascending_linkGraph ascending, fun source tags => ?_⟩
  rw [Schemata.get?_linkGraph ascending]
  refine exists_congr fun schema => and_congr_right fun hschema => ?_
  have htags := Schemata.forall₂_tags (built _ (Table.mem_of_get? hschema)) source
  constructor
  · rintro ⟨hne, rfl⟩
    exact ⟨fun hnil => hne (List.forall₂_nil_right_iff.mp (hnil ▸ htags)), htags⟩
  · rintro ⟨hne, hdeclared⟩
    obtain rfl : tags = _ := Schemata.tags_unique hdeclared htags
    exact ⟨fun hnil => hne (List.forall₂_nil_left_iff.mp (hnil ▸ htags)), rfl⟩

/-- A link with a note beside the parts of its target, and a link whose target is null. -/
def Schemata.annotated : Schemata :=
  [("a", .single .zero .link (some [("target", .object [("note", .null),
      ("target_ident", .text "title"), ("target_tag", .text "b")])])),
    ("b", .single .zero .link (some [("target", .null)]))]

theorem Schemata.isBuilt_annotated : annotated.IsBuilt := by
  have hbuilt : ∀ {config : Json.Object}, Property.leaf? "" .zero .link (some config) =
        .ok (.leaf "" .zero .link (some config) false) →
      (Schema.single .zero .link (some config)).main.IsBuilt := by
    intro config hleaf
    refine .boxed "" fun c hc => ?_
    rw [List.mem_singleton.mp hc]
    exact .leaf hleaf
  exact List.forall_mem_cons.mpr ⟨hbuilt rfl, List.forall_mem_singleton.mpr (hbuilt rfl)⟩

/-- The note does not keep the link from being listed, and the other link is not listed. -/
theorem links_of_built_annotated : Schemata.annotated.IsBuilt ∧
    Table.get? Schemata.annotated.linkGraph "a" = some ["b"] ∧
      Table.get? Schemata.annotated.linkGraph "b" = none := by
  have built := Schemata.isBuilt_annotated
  obtain ⟨_, _, _, hgraph⟩ := links_of_built.2 Schemata.annotated (by decide) built
  refine ⟨built, ?_, ?_⟩
  · refine (hgraph "a" ["b"]).mpr ⟨_, rfl, List.cons_ne_nil _ _, .cons ⟨"title", ?_⟩ .nil⟩
    exact ⟨rfl, _, _, rfl, rfl, rfl, rfl⟩
  · refine Option.eq_none_iff_forall_ne_some.mpr fun tags htags => ?_
    obtain ⟨schema, hschema, hne, _⟩ := (hgraph "b" tags).mp htags
    cases hschema
    exact hne rfl

end CollectionArchive
