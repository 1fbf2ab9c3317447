import CollectionArchive.Proofs.Link.Kinds
import CollectionArchive.Value.Cast

/-!
# What counts in a config

A config counts by the values that it has under the keys which the grammar of a kind declares. Null
is no value, so a parameter that is null counts as one that is missing.

* `Grammar.present?_insert_null`: a key that is set to null has as little a value as one that is
  removed.
* `Grammar.Agree`: configs with the same values under the declared keys.
* **`Grammar.validate_of_agree`**: such configs are checked alike.
* **`Property.readsAlike_of_agree`**: the same links and casts are read from leaves with them.
* **`configs_of_grammar`**: what counts in the config of a leaf.
-/

namespace CollectionArchive

open Json (Value)

/-! ## Values that are present -/

theorem Table.get?_erase {κ α : Type} [DecidableEq κ] (t : Table κ α) (key other : κ) :
    (t.erase key).get? other = if key = other then none else t.get? other := by
  induction t with
  | nil => simp [erase, get?]
  | cons e t ih =>
    obtain ⟨k, a⟩ := e
    by_cases hk : k = key
    · have herase : erase ((k, a) :: t) key = erase t key := by simp [erase, hk]
      rw [herase, ih, get?_cons, hk]
      by_cases hkey : key = other <;> simp [hkey]
    · have herase : erase ((k, a) :: t) key = (k, a) :: erase t key := by simp [erase, hk]
      rw [herase, get?_cons, get?_cons, ih]
      by_cases hother : k = other
      · have hkey : key ≠ other := fun h => hk (hother.trans h.symm)
        simp [hother, hkey]
      · simp [hother]

namespace Grammar

/-- **A key that is set to null has as little a value as one that is removed**, and the other keys
keep theirs. -/
theorem present?_insert_null (c : Json.Object) (key name : String) :
    present? (c.insert key .null) name = present? (c.erase key) name := by
  unfold present?
  rw [Table.get?_insert, Table.get?_erase]
  by_cases hkey : key = name
  · simp [hkey, Value.isNull]
  · simp [hkey]

/-- Two configs have the same values under the keys that a grammar declares. -/
def Agree (g : Grammar) (c c' : Json.Object) : Prop :=
  ∀ p ∈ g.parameters, present? c p.name = present? c' p.name

theorem agree_insert_null (g : Grammar) (c : Json.Object) (key : String) :
    g.Agree (c.insert key .null) (c.erase key) :=
  fun p _ => present?_insert_null c key p.name

section

variable {g : Grammar} {key : String} (undeclared : ∀ p ∈ g.parameters, p.name ≠ key)
  (c : Json.Object)

include undeclared

/-- A key that is not declared may have any value. -/
theorem agree_insert (v : Value) : g.Agree (c.insert key v) c := by
  intro p hp
  have hkey : key ≠ p.name := Ne.symm (undeclared p hp)
  unfold present?
  rw [Table.get?_insert, if_neg hkey]

/-- A key that is not declared may be removed. -/
theorem agree_erase : g.Agree (c.erase key) c := by
  intro p hp
  rw [← present?_insert_null]
  exact agree_insert undeclared c .null p hp

end

/-- **Configs that agree are checked alike**, and the same is told if they are refused. -/
theorem validate_of_agree {g : Grammar} {c c' : Json.Object} (agree : g.Agree c c')
    (property : String) : g.validate c property = g.validate c' property := by
  have hparameter : ∀ p ∈ g.parameters,
      checkParameter c property p = checkParameter c' property p := by
    intro p hp
    unfold checkParameter
    rw [agree p hp]
  unfold validate
  -- One parameter after the other is checked, so it is an induction on the parameters.
  generalize g.parameters = ps at hparameter
  simp only [List.forM_eq_forM]
  induction ps with
  | nil => rfl
  | cons p ps ih =>
    have hps := ih fun q hq => hparameter q (List.mem_cons_of_mem p hq)
    rw [List.forM_cons, List.forM_cons, hparameter p List.mem_cons_self, hps]

end Grammar

/-! ## What is read from leaves -/

namespace Property

/-- The same link and the same casts are read from two properties. -/
structure ReadsAlike (p q : Property) : Prop where
  isOutboundLink : p.isOutboundLink = q.isOutboundLink
  linkTarget? : p.linkTarget? = q.linkTarget?
  forProperty (v : Value) : Cast.forProperty p v = Cast.forProperty q v

/-- The same values are found in the configs of two properties. -/
structure SameValues (p q : Property) : Prop extends ReadsAlike p q where
  configValue? (name : String) : p.configValue? name = q.configValue? name
  subtype : Cast.subtype p = Cast.subtype q

/-- The same is read from two properties, and if they are lists, the same kind of elements. -/
structure SameUse (p q : Property) : Prop extends ReadsAlike p q where
  subtype (list : p.kind = .list) : Cast.subtype p = Cast.subtype q

/-- Two attempts to build a property end alike: they are refused with the same error, or the
properties that they build are related. -/
inductive EndAlike (R : Property → Property → Prop) :
    Except SchemaError Property → Except SchemaError Property → Prop
  | refused (e : SchemaError) : EndAlike R (.error e) (.error e)
  | built {p q : Property} (related : R p q) : EndAlike R (.ok p) (.ok q)

theorem subtype_of_configValue? {p q : Property}
    (same : p.configValue? "subtype" = q.configValue? "subtype") :
    Cast.subtype p = Cast.subtype q := by
  unfold Cast.subtype
  rw [same]

variable {title : String} {i : Identifier} {k : LeafKind} {c c' : Json.Object}

/-- The grammar of links declares where a link leads. -/
theorem target_of_agree (link : k.val = .link) (agree : k.val.grammar.Agree c c') :
    Grammar.present? c "target" = Grammar.present? c' "target" := by
  rw [link] at agree
  exact agree (.optional "target" .linkTarget) (by simp [Kind.grammar, Grammar.link])

/-- The grammar of lists declares the kind of the elements. -/
theorem subtype_of_agree (list : k.val = .list) (agree : k.val.grammar.Agree c c') :
    Grammar.present? c "subtype" = Grammar.present? c' "subtype" := by
  rw [list] at agree
  exact agree (.required "subtype" .kindName) (by simp [Kind.grammar, Grammar.list])

/-- **The same is read from leaves of one kind whose configs agree.** Only links have a target, and
only lists are cast by their config. -/
theorem readsAlike_of_agree (agree : k.val.grammar.Agree c c') (title : String) (i : Identifier)
    (hidden : Bool) :
    ReadsAlike (leaf title i k (some c) hidden) (leaf title i k (some c') hidden) := by
  have hlink : (leaf title i k (some c) hidden).isOutboundLink =
      (leaf title i k (some c') hidden).isOutboundLink := by
    by_cases link : k.val = .link
    · have htarget := target_of_agree link agree
      simp [isOutboundLink, configValue?, config?, kind, htarget]
    · have hnone : (k.val == Kind.link) = false := beq_false_of_ne link
      simp [isOutboundLink, Kind.isLink, kind, hnone]
  refine ⟨hlink, ?_, fun v => ?_⟩
  · unfold linkTarget?
    rw [hlink]
    by_cases link : k.val = .link
    · have htarget := target_of_agree link agree
      simp [configValue?, config?, htarget]
    · have hnone : (k.val == Kind.link) = false := beq_false_of_ne link
      simp [isOutboundLink, Kind.isLink, kind, hnone]
  · unfold Cast.forProperty
    by_cases list : k.val = .list
    · have hsubtype := subtype_of_agree list agree
      have hsame : Cast.subtype (leaf title i k (some c) hidden) =
          Cast.subtype (leaf title i k (some c') hidden) :=
        subtype_of_configValue? hsubtype
      simp [kind, list, hsame]
    · have hkind : ∀ c, (leaf title i k c hidden).kind = k.val := fun _ => rfl
      simp only [hkind]

/-- Leaves whose configs agree are built or refused alike. -/
theorem endAlike_of_agree {R : Property → Property → Prop} (agree : k.val.grammar.Agree c c')
    (related : R (leaf title i k (some c) false) (leaf title i k (some c') false)) :
    EndAlike R (leaf? title i k (some c)) (leaf? title i k (some c')) := by
  have hchecked : checkConfig title k (some c) = checkConfig title k (some c') :=
    Grammar.validate_of_agree agree title
  unfold leaf?
  rw [dif_pos k.property, dif_pos k.property, hchecked]
  cases checkConfig title k (some c') with
  | error e => exact .refused e
  | ok _ => exact .built related

end Property

/-- **What counts in the config of a leaf.** To set a key to null comes to the same as to remove it:
the config is checked alike, a leaf is built or refused alike, and the same is found in it. Configs
that differ only under keys which a grammar does not declare are checked alike, and leaves of a kind
with this grammar are built or refused alike, with the same links, casts and kinds of elements. -/
theorem configs_of_grammar :
    (∀ (g : Grammar) (c : Json.Object) (key property : String),
      g.validate (c.insert key .null) property = g.validate (c.erase key) property) ∧
    (∀ (title : String) (i : Identifier) (k : LeafKind) (c : Json.Object) (key : String),
      Property.EndAlike Property.SameValues (Property.leaf? title i k (some (c.insert key .null)))
        (Property.leaf? title i k (some (c.erase key)))) ∧
    (∀ (g : Grammar) (c c' : Json.Object) (property : String), g.Agree c c' →
      g.validate c property = g.validate c' property) ∧
    (∀ (title : String) (i : Identifier) (k : LeafKind) (c c' : Json.Object),
      k.val.grammar.Agree c c' →
        Property.EndAlike Property.SameUse (Property.leaf? title i k (some c))
          (Property.leaf? title i k (some c'))) ∧
    ∀ (g : Grammar) (key : String), (∀ p ∈ g.parameters, p.name ≠ key) →
      ∀ c : Json.Object, g.Agree (c.erase key) c ∧ ∀ v, g.Agree (c.insert key v) c := by
  refine ⟨fun g c key property => ?_, fun title i k c key => ?_,
    fun g c c' property agree => Grammar.validate_of_agree agree property,
    fun title i k c c' agree => ?_, fun g key undeclared c =>
      ⟨Grammar.agree_erase undeclared c, Grammar.agree_insert undeclared c⟩⟩
  · exact Grammar.validate_of_agree (g.agree_insert_null c key) property
  · have agree := k.val.grammar.agree_insert_null c key
    have hvalue : ∀ name, (Property.leaf title i k (some (c.insert key .null)) false).configValue?
        name = (Property.leaf title i k (some (c.erase key)) false).configValue? name :=
      Grammar.present?_insert_null c key
    exact Property.endAlike_of_agree agree
      ⟨Property.readsAlike_of_agree agree title i false, hvalue,
        Property.subtype_of_configValue? (hvalue "subtype")⟩
  · refine Property.endAlike_of_agree agree
      ⟨Property.readsAlike_of_agree agree title i false, fun list => ?_⟩
    exact Property.subtype_of_configValue? (Property.subtype_of_agree list agree)

/-- The config of lists of integers, with a parameter of no meaning. -/
def Json.Object.coloured : Json.Object :=
  [("colour", .text "red"), ("subtype", .text Kind.integer.name)]

/-- A list of integers is the same whatever its colour is. -/
theorem configs_of_grammar_coloured :
    (∀ p ∈ Kind.list.grammar.parameters, p.name ≠ "colour") ∧
      ∃ p q, Property.leaf? "" .zero .list
          (some (Table.insert Json.Object.coloured "colour" (.bool true))) = .ok p ∧
        Property.leaf? "" .zero .list (some Json.Object.coloured) = .ok q ∧ p.SameUse q ∧
          Cast.subtype p = .ok .integer := by
  have undeclared : ∀ p ∈ Kind.list.grammar.parameters, p.name ≠ "colour" := by decide
  obtain ⟨-, -, -, hleaf, hagree⟩ := configs_of_grammar
  have hsame := hleaf "" .zero ⟨.list, rfl⟩ _ _
    ((hagree _ _ undeclared Json.Object.coloured).2 (.bool true))
  obtain ⟨p, hp⟩ : ∃ p, Property.leaf? "" .zero .list
      (some (Table.insert Json.Object.coloured "colour" (.bool true))) = .ok p := ⟨_, rfl⟩
  obtain ⟨q, hq⟩ : ∃ q, Property.leaf? "" .zero .list (some Json.Object.coloured) = .ok q :=
    ⟨_, rfl⟩
  refine ⟨undeclared, p, q, hp, hq, ?_, ?_⟩
  · rw [hp, hq] at hsame
    cases hsame with
    | built related => exact related
  · obtain rfl := Except.ok.inj hp
    rfl

end CollectionArchive
