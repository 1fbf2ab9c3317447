import CollectionArchive.Proofs.Link.Targets

/-!
# Properties and their definitions

* `Grammar.Accepts`: the parameters that a config must have are there, and all have their shapes.
* `Definition.IsWellFormed`: the definitions from which something is built.
* `Definition.Mirrors`: the property says what the definition says.
* `Property.IsSound`: a property has what its kind asks for.
* **`Property.exists_ofDefinition`**, **`Property.mirrors_of_ofDefinition`**: what is built from a
  definition.
* **`Property.builds_from_definition`**: definitions and what is built from them; whatever is built
  is sound in all its parts and built again from its own definition.
-/

namespace CollectionArchive

/-! ## Configs -/

/-- The config has the parameters that the grammar requires, and those that it has are of their
shapes. A parameter that is null counts as missing. -/
def Grammar.Accepts (g : Grammar) (config : Json.Object) : Prop :=
  ∀ p ∈ g.parameters, (present? config p.name = none → p.isOptional = true) ∧
    ∀ v, present? config p.name = some v → p.shape.accepts v = true

theorem Property.checkConfig_eq_ok {title : String} {kind : Kind} {config : Option Json.Object} :
    checkConfig title kind config = .ok () ↔ kind.grammar.Accepts (config.getD []) := by
  rw [checkConfig, Grammar.validate_eq_ok]
  simp only [Grammar.checkParameter_eq_ok, Grammar.Accepts]

theorem Grammar.accepts_box (config : Json.Object) : Kind.box.grammar.Accepts config := by
  intro p hp
  cases hp

/-! ## Kinds -/

theorem Kind.eq_name_of_ofName? {s : String} {k : Kind} (h : ofName? s = some k) :
    s = k.name := by
  have hname := List.find?_some h
  exact (beq_iff_eq.mp hname).symm

/-! ## Definitions -/

namespace Definition

/-- The kind that a definition declares: a box as its type, any other as its type of property. -/
inductive Declares (d : Definition) : Kind → Prop
  | box (type : d.type = some Kind.box.name) (propType : d.propType = none) : Declares d .box
  | leaf {kind : Kind} (isLeaf : kind ≠ .box) (type : d.type = none)
    (propType : d.propType = some kind.name) : Declares d kind

/-- Whatever is read of a definition is well formed: a leaf has a written identifier and a box a
list of definitions, each of them well formed in turn. -/
inductive IsWellFormed : Definition → Prop
  | leaf {d : Definition} {kind : Kind} {s : String} {i : Identifier} (isLeaf : kind ≠ .box)
    (declares : d.Declares kind) (ident : d.ident = some s) (parses : Identifier.parse s = .ok i)
    (config : kind.grammar.Accepts (d.config.getD [])) : IsWellFormed d
  | box {d : Definition} {ds : List Definition} (declares : d.Declares .box)
    (ident : d.ident = none) (children : d.children = some ds) (each : ∀ c ∈ ds, IsWellFormed c)
    (config : Kind.box.grammar.Accepts (d.config.getD [])) : IsWellFormed d

/-- The property says of itself what the definition says. It is not hidden unless the definition
says so. -/
structure Describes (d : Definition) (p : Property) : Prop where
  title : p.title = d.title
  ident : p.ident?.map Identifier.text = d.ident
  kind : d.Declares p.kind
  config : p.config? = d.config
  hidden : p.isHidden = d.hidden.getD false

/-- The property says what the definition says, and so do its children, in their order. -/
inductive Mirrors : Definition → Property → Prop
  | leaf {d : Definition} {p : Property} (describes : d.Describes p) (isLeaf : p.kind ≠ .box)
    (children : p.children = []) : Mirrors d p
  | box {d : Definition} {p : Property} {ds : List Definition} (describes : d.Describes p)
    (isBox : p.kind = .box) (children : d.children = some ds)
    (each : List.Forall₂ Mirrors ds p.children) : Mirrors d p

end Definition

namespace Property

open Definition (Declares IsWellFormed Describes Mirrors)

theorem resolveKind_eq_ok {name : String} {kind : Kind} :
    resolveKind name = .ok kind ↔ name = kind.name := by
  rw [resolveKind, Outcome.elim_eq_ok]
  constructor
  · exact Kind.eq_name_of_ofName?
  · rintro rfl
    exact kind.ofName?_name

theorem definedKind_eq_ok {title : String} {d : Definition} {kind : Kind} :
    definedKind title d.type d.propType = .ok kind ↔ d.Declares kind := by
  constructor
  · intro h
    cases htype : d.type with
    | some name =>
      cases hpropType : d.propType with
      | some name' =>
        rw [htype, hpropType] at h
        cases h
      | none =>
        rw [htype, hpropType, definedKind] at h
        obtain ⟨k, hname, h⟩ := Outcome.bind_eq_ok.mp h
        split_ifs at h with hbox
        cases h
        obtain rfl : kind = Kind.box := beq_iff_eq.mp hbox
        rw [resolveKind_eq_ok.mp hname] at htype
        exact .box htype hpropType
    | none =>
      cases hpropType : d.propType with
      | some name =>
        rw [htype, hpropType, definedKind] at h
        obtain ⟨k, hname, h⟩ := Outcome.bind_eq_ok.mp h
        split_ifs at h with hbox
        cases h
        rw [resolveKind_eq_ok.mp hname] at hpropType
        exact .leaf (fun hk => hbox (beq_iff_eq.mpr hk)) htype hpropType
      | none =>
        rw [htype, hpropType] at h
        cases h
  · intro h
    cases h with
    | box type propType =>
      rw [type, propType, definedKind, resolveKind_eq_ok.mpr rfl]
      rfl
    | leaf isLeaf type propType =>
      have hbox : ¬ kind.isBox = true := fun hk => isLeaf (beq_iff_eq.mp hk)
      rw [type, propType, definedKind, resolveKind_eq_ok.mpr rfl]
      exact if_neg hbox

theorem leafOfDefinition_eq_ok {title : String} {ident : Option String} {kind : LeafKind}
    {config : Option Json.Object} {hidden : Option Bool} {p : Property} :
    leafOfDefinition title ident kind config hidden = .ok p ↔
      ∃ s i, ident = some s ∧ Identifier.parse s = .ok i ∧
        kind.val.grammar.Accepts (config.getD []) ∧
          p = leaf title i kind config (hidden.getD false) := by
  cases ident with
  | none =>
    constructor
    · intro h
      cases h
    · rintro ⟨_, _, hs, _⟩
      cases hs
  | some s =>
    simp only [leafOfDefinition, Outcome.bind_eq_ok, Outcome.mapError_eq_ok, Outcome.pure_eq_ok]
    constructor
    · rintro ⟨i, hi, _, hconfig, hp⟩
      exact ⟨s, i, rfl, hi, checkConfig_eq_ok.mp hconfig, hp.symm⟩
    · rintro ⟨_, i, ⟨⟩, hi, hconfig, hp⟩
      exact ⟨i, hi, (), checkConfig_eq_ok.mpr hconfig, hp.symm⟩

mutual

/-- **What is built from a definition mirrors it**, and the definition was well formed. -/
theorem mirrors_of_ofDefinition {d : Definition} {p : Property} (h : ofDefinition d = .ok p) :
    d.IsWellFormed ∧ d.Mirrors p := by
  obtain ⟨title, ident, children, config, hidden, type, propType⟩ := d
  rw [ofDefinition, Outcome.bind_eq_ok] at h
  obtain ⟨kind, hkind, h⟩ := h
  have hdeclares : Declares ⟨title, ident, children, config, hidden, type, propType⟩ kind :=
    definedKind_eq_ok.mp hkind
  split_ifs at h with hleaf hident
  · obtain ⟨s, i, rfl, hi, hconfig, rfl⟩ := leafOfDefinition_eq_ok.mp h
    have hne : kind ≠ .box := by
      rintro rfl
      cases hleaf
    refine ⟨.leaf hne hdeclares rfl hi hconfig, .leaf ?_ hne rfl⟩
    exact ⟨rfl, congrArg some (Identifier.text_of_parse hi), hdeclares, rfl, rfl⟩
  · obtain rfl : kind = .box := beq_iff_eq.mp (Bool.of_not_eq_false hleaf)
    obtain rfl : ident = none := by simpa using hident
    obtain ⟨built, hbuilt, hbox⟩ := Outcome.bind_eq_ok.mp h
    obtain ⟨_, hconfig, hbox⟩ := Outcome.bind_eq_ok.mp hbox
    cases hbox
    cases children with
    | none => cases hbuilt
    | some ds =>
      obtain ⟨hformed, hmirrors⟩ := mirrors_of_ofDefinitions hbuilt
      refine ⟨.box hdeclares rfl rfl hformed (checkConfig_eq_ok.mp hconfig), ?_⟩
      exact .box ⟨rfl, rfl, hdeclares, rfl, rfl⟩ rfl rfl hmirrors

theorem mirrors_of_ofDefinitions {ds : List Definition} {ps : List Property}
    (h : ofDefinitions ds = .ok ps) :
    (∀ d ∈ ds, d.IsWellFormed) ∧ List.Forall₂ Mirrors ds ps := by
  cases ds with
  | nil =>
    cases h
    exact ⟨List.forall_mem_nil _, .nil⟩
  | cons d ds =>
    rw [ofDefinitions] at h
    obtain ⟨p, hp, h⟩ := Outcome.bind_eq_ok.mp h
    obtain ⟨ps, hps, h⟩ := Outcome.bind_eq_ok.mp h
    cases h
    obtain ⟨hformed, hmirrors⟩ := mirrors_of_ofDefinition hp
    obtain ⟨hformeds, hmirrorss⟩ := mirrors_of_ofDefinitions hps
    exact ⟨List.forall_mem_cons.mpr ⟨hformed, hformeds⟩, .cons hmirrors hmirrorss⟩

end

/-- **From every well formed definition a property is built.** -/
theorem exists_ofDefinition {d : Definition} (h : d.IsWellFormed) :
    ∃ p, ofDefinition d = .ok p := by
  induction h with
  | @leaf d kind s i isLeaf declares ident parses config =>
    obtain ⟨title, ident', children, config', hidden, type, propType⟩ := d
    have hkind : definedKind title type propType = .ok kind := definedKind_eq_ok.mpr declares
    have hleaf : kind.isBox = false := by
      cases hbox : kind.isBox
      · rfl
      · exact absurd (beq_iff_eq.mp hbox) isLeaf
    refine ⟨leaf title i ⟨kind, hleaf⟩ config' (hidden.getD false), ?_⟩
    rw [ofDefinition, hkind]
    change (if h : kind.isBox = false then _ else _) = _
    rw [dif_pos hleaf]
    exact leafOfDefinition_eq_ok.mpr ⟨s, i, ident, parses, config, rfl⟩
  | @box d ds declares ident children each config ih =>
    obtain ⟨title, ident', children', config', hidden, type, propType⟩ := d
    obtain rfl : ident' = none := ident
    obtain rfl : children' = some ds := children
    have hkind : definedKind title type propType = .ok .box := definedKind_eq_ok.mpr declares
    have hconfig : checkConfig title .box config' = .ok () := checkConfig_eq_ok.mpr config
    obtain ⟨ps, hps⟩ : ∃ ps, ofDefinitions ds = .ok ps := by
      clear hkind hconfig each declares config
      induction ds with
      | nil => exact ⟨[], rfl⟩
      | cons d ds ihds =>
        obtain ⟨p, hp⟩ := ih d List.mem_cons_self
        obtain ⟨ps, hps⟩ := ihds fun c hc => ih c (List.mem_cons_of_mem d hc)
        refine ⟨p :: ps, ?_⟩
        rw [ofDefinitions, hp, hps]
        rfl
    refine ⟨box title config' (hidden.getD false) ps, ?_⟩
    rw [ofDefinition, hkind]
    simp only [bind, Except.bind, ofChildren, hps, hconfig]
    rfl

/-! ## Parts -/

/-- The property is the other one or lies inside it. -/
inductive IsPart (q : Property) : Property → Prop
  | self : IsPart q q
  | child {c p : Property} (mem : c ∈ p.children) (part : IsPart q c) : IsPart q p

/-- The property has what its kind asks for. -/
structure IsSound (p : Property) : Prop where
  ident : p.ident?.isSome = true ↔ p.kind ≠ .box
  children : p.children ≠ [] → p.kind = .box
  config : p.kind.grammar.Accepts (p.config?.getD [])

theorem IsValid.of_isPart {p q : Property} (h : p.IsValid) (part : q.IsPart p) : q.IsValid := by
  induction part with
  | self => exact h
  | child mem _ ih =>
    cases h with
    | leaf _ => cases mem
    | box each => exact ih (each _ mem)

theorem IsValid.isSound {p : Property} (h : p.IsValid) : p.IsSound := by
  cases h with
  | @leaf title ident kind config hidden hconfig =>
    have hne : kind.val ≠ .box := by
      intro hbox
      have hleaf := kind.property
      rw [hbox] at hleaf
      cases hleaf
    exact ⟨iff_of_true rfl hne, fun hchildren => absurd rfl hchildren, checkConfig_eq_ok.mp hconfig⟩
  | box _ =>
    exact ⟨iff_of_false Bool.false_ne_true fun hne => hne rfl, fun _ => rfl, Grammar.accepts_box _⟩

/-- **A property is built from exactly the well formed definitions, and mirrors its definition.
Whatever way a property was built, it is sound in all its parts, and built again from its own
definition.** -/
theorem builds_from_definition (d : Definition) (p : Property) :
    ((∃ q, ofDefinition d = .ok q) ↔ d.IsWellFormed) ∧
      (ofDefinition d = .ok p → d.Mirrors p) ∧
      (p.IsBuilt →
        (∀ q : Property, q.IsPart p → q.IsSound) ∧ ofDefinition p.definition = .ok p) := by
  refine ⟨⟨?_, exists_ofDefinition⟩, ?_, ?_⟩
  · rintro ⟨q, hq⟩
    exact (mirrors_of_ofDefinition hq).1
  · intro h
    exact (mirrors_of_ofDefinition h).2
  · intro h
    refine ⟨?_, h.isValid.ofDefinition_definition⟩
    intro q hq
    exact (h.isValid.of_isPart hq).isSound

/-- A box around a leaf for one of two texts, which is hidden, and an empty box. -/
def nestedDefinition : Definition :=
  ⟨"", none, some
    [⟨"kind", some Identifier.zero.text, none,
      some [("variants", .array [.text "a", .text "b"])], some true, none, some "KubunEnum"⟩,
      ⟨"more", none, some [], none, some false, some "KubunBox", none⟩],
    none, none, some "KubunBox", none⟩

/-- What is built from it. -/
def nested : Property :=
  box "" none false
    [leaf "kind" .zero ⟨.enumeration, rfl⟩ (some [("variants", .array [.text "a", .text "b"])])
      true,
      box "more" none false []]

theorem ofDefinition_nested : ofDefinition nestedDefinition = .ok nested :=
  rfl

theorem builds_from_definition_nested :
    nestedDefinition.IsWellFormed ∧ nestedDefinition.Mirrors nested ∧ nested.IsBuilt ∧
      (∀ q : Property, q.IsPart nested → q.IsSound) ∧
        ofDefinition nested.definition = .ok nested := by
  obtain ⟨hformed, hmirrors, hbuilt⟩ := builds_from_definition nestedDefinition nested
  have hnested : nested.IsBuilt := .ofDefinition ofDefinition_nested
  exact ⟨hformed.mp ⟨nested, ofDefinition_nested⟩, hmirrors ofDefinition_nested, hnested,
    hbuilt hnested⟩

end Property

end CollectionArchive
