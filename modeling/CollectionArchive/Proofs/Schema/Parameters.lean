import CollectionArchive.Proofs.Schema.Building

/-!
# Parameters of configs

A grammar declares parameters in an order, and a config has values under keys. The parameters are
looked at in the order of the grammar, whatever the order of the keys is.

* `Shape.Fits`: the values of a shape; **`Shape.accepts_iff`**: they are those that are accepted.
* `Parameter.Holds`, `Parameter.Fails`: the config has what a parameter asks for, or what is wrong
  with it.
* `Grammar.checkParameter_eq_error`: the error is that of the parameter.
* **`Grammar.validate_of_parameters`**: when a config is accepted, and which error is told.
-/

namespace CollectionArchive

open Json (Value)

/-! ## Shapes -/

namespace Shape

/-- The values of a shape. A list has the shape if all of its items are as they should be. -/
inductive Fits : Shape → Value → Prop
  | string (s : String) : Fits .string (.text s)
  | bool (b : Bool) : Fits .bool (.bool b)
  | stringList {items : List Value} (each : ∀ v ∈ items, ∃ s, v = .text s) :
    Fits .stringList (.array items)
  | optionalStringList {items : List Value} (each : ∀ v ∈ items, v = .null ∨ ∃ s, v = .text s) :
    Fits .optionalStringList (.array items)
  | dateFormat {s : String} (known : s ∈ dateFormats) : Fits .dateFormat (.text s)
  | linkTarget {o : Json.Object} {tag ident : String}
    (hasTag : o.get? "target_tag" = some (.text tag))
    (hasIdent : o.get? "target_ident" = some (.text ident)) : Fits .linkTarget (.object o)
  | kindName (k : Kind) : Fits .kindName (.text k.name)
  | object (o : Json.Object) : Fits .object (.object o)

theorem fits_of_accepts {shape : Shape} {v : Value} (h : shape.accepts v = true) :
    shape.Fits v := by
  cases shape with
  | string =>
    obtain ⟨s, rfl⟩ := Value.isText_iff.mp h
    exact .string s
  | bool =>
    cases v with
    | bool b => exact .bool b
    | _ => cases h
  | stringList =>
    cases v with
    | array items => exact .stringList fun v hv => Value.isText_iff.mp (List.all_eq_true.mp h v hv)
    | _ => cases h
  | optionalStringList =>
    cases v with
    | array items =>
      refine .optionalStringList fun v hv => ?_
      rcases Bool.or_eq_true_iff.mp (List.all_eq_true.mp h v hv) with htext | hnull
      · exact .inr (Value.isText_iff.mp htext)
      · exact .inl (Value.isNull_iff.mp hnull)
    | _ => cases h
  | dateFormat =>
    cases v with
    | text s => exact .dateFormat (List.contains_iff_mem.mp h)
    | _ => cases h
  | linkTarget =>
    cases v with
    | object o =>
      obtain ⟨htag, hident⟩ := Bool.and_eq_true_iff.mp h
      obtain ⟨tag, htag⟩ := hasText_iff.mp htag
      obtain ⟨ident, hident⟩ := hasText_iff.mp hident
      exact .linkTarget htag hident
    | _ => cases h
  | kindName =>
    cases v with
    | text s =>
      obtain ⟨k, hk⟩ := Option.isSome_iff_exists.mp h
      rw [Kind.eq_name_of_ofName? hk]
      exact .kindName k
    | _ => cases h
  | object =>
    cases v with
    | object o => exact .object o
    | _ => cases h

/-- **The values of a shape are those that are accepted.** -/
theorem accepts_iff {shape : Shape} {v : Value} : shape.accepts v = true ↔ shape.Fits v := by
  refine ⟨fits_of_accepts, fun h => ?_⟩
  cases h with
  | string | bool | object => rfl
  | stringList each =>
    refine List.all_eq_true.mpr fun v hv => ?_
    exact Value.isText_iff.mpr (each v hv)
  | optionalStringList each =>
    refine List.all_eq_true.mpr fun v hv => Bool.or_eq_true_iff.mpr ?_
    exact (each v hv).symm.imp Value.isText_iff.mpr Value.isNull_iff.mpr
  | dateFormat known => exact List.contains_iff_mem.mpr known
  | linkTarget hasTag hasIdent =>
    exact Bool.and_eq_true_iff.mpr ⟨hasText_iff.mpr ⟨_, hasTag⟩, hasText_iff.mpr ⟨_, hasIdent⟩⟩
  | kindName k => exact Option.isSome_iff_exists.mpr ⟨k, k.ofName?_name⟩

end Shape

/-! ## Parameters -/

/-- There is no value under the key, or null in its place. -/
def Json.Object.Lacks (config : Json.Object) (key : String) : Prop :=
  config.get? key = none ∨ config.get? key = some .null

namespace Parameter

/-- The config has what a parameter asks for: a value of its shape, or none if it is optional. -/
inductive Holds (config : Json.Object) (p : Parameter) : Prop
  | lacking (lacks : config.Lacks p.name) (optional : p.isOptional = true)
  | present {v : Value} (value : config.get? p.name = some v) (notNull : v ≠ .null)
    (fits : p.shape.Fits v)

/-- What is wrong with a parameter in the config of a property. -/
inductive Fails (config : Json.Object) (property : String) (p : Parameter) : SchemaError → Prop
  | missing (lacks : config.Lacks p.name) (required : p.isOptional = false) :
    Fails config property p (.missingParameter property p.name)
  | misshapen {v : Value} (value : config.get? p.name = some v) (notNull : v ≠ .null)
    (unfit : ¬ p.shape.Fits v) :
    Fails config property p (.invalidParameter property p.name v p.shape)

end Parameter

namespace Grammar

variable {g : Grammar} {config : Json.Object} {property : String} {p : Parameter}

theorem present?_eq_none {key : String} : present? config key = none ↔ config.Lacks key := by
  rw [present?, Option.filter_eq_none_iff, Json.Object.Lacks]
  cases config.get? key with
  | none => simp
  | some v => simp [Value.isNull_iff]

theorem present?_eq_some {key : String} {v : Value} :
    present? config key = some v ↔ config.get? key = some v ∧ v ≠ .null := by
  rw [present?, Option.filter_eq_some_iff, Bool.not_eq_true', ← Bool.not_eq_true, Value.isNull_iff]

/-- A parameter is accepted if the config has what it asks for. -/
theorem checkParameter_iff : checkParameter config property p = .ok () ↔ p.Holds config := by
  rw [checkParameter]
  cases hvalue : present? config p.name with
  | none =>
    have hlacks := present?_eq_none.mp hvalue
    constructor
    · intro h
      dsimp only at h
      split_ifs at h with hoptional
      exact .lacking hlacks hoptional
    · rintro (⟨_, optional⟩ | ⟨value, notNull, _⟩)
      · exact if_pos optional
      · cases hvalue.symm.trans (present?_eq_some.mpr ⟨value, notNull⟩)
  | some v =>
    obtain ⟨hv, hnull⟩ := present?_eq_some.mp hvalue
    constructor
    · intro h
      dsimp only at h
      split_ifs at h with haccepts
      exact .present hv hnull (Shape.accepts_iff.mp haccepts)
    · rintro (⟨lacks, _⟩ | ⟨value, _, fits⟩)
      · cases hvalue.symm.trans (present?_eq_none.mpr lacks)
      · obtain rfl := Option.some.inj (hv.symm.trans value)
        exact if_pos (Shape.accepts_iff.mpr fits)

/-- **The error is that of the parameter.** -/
theorem checkParameter_eq_error {e : SchemaError} :
    checkParameter config property p = .error e ↔ p.Fails config property e := by
  rw [checkParameter]
  cases hvalue : present? config p.name with
  | none =>
    have hlacks := present?_eq_none.mp hvalue
    constructor
    · intro h
      dsimp only at h
      split_ifs at h with hoptional
      cases h
      exact .missing hlacks ((Bool.not_eq_true _).mp hoptional)
    · rintro (⟨_, required⟩ | ⟨value, notNull, _⟩)
      · exact if_neg (ne_true_of_eq_false required)
      · cases hvalue.symm.trans (present?_eq_some.mpr ⟨value, notNull⟩)
  | some v =>
    obtain ⟨hv, hnull⟩ := present?_eq_some.mp hvalue
    constructor
    · intro h
      dsimp only at h
      split_ifs at h with haccepts
      cases h
      exact .misshapen hv hnull (mt Shape.accepts_iff.mpr haccepts)
    · rintro (⟨lacks, _⟩ | ⟨value, _, unfit⟩)
      · cases hvalue.symm.trans (present?_eq_none.mpr lacks)
      · obtain rfl := Option.some.inj (hv.symm.trans value)
        exact if_neg (mt Shape.accepts_iff.mp unfit)

/-- **When a config is accepted, and which error is told.** It is accepted if it has what each
parameter of the grammar asks for. Otherwise the error is that of the first parameter for which it
has not, in the order of the grammar, whatever the parameters after it are. -/
theorem validate_of_parameters (g : Grammar) (config : Json.Object) (property : String) :
    (g.validate config property = .ok () ↔ ∀ p ∈ g.parameters, p.Holds config) ∧
    ∀ e, g.validate config property = .error e ↔
      ∃ front p back, g.parameters = front ++ p :: back ∧ (∀ q ∈ front, q.Holds config) ∧
        p.Fails config property e := by
  constructor
  · rw [validate_eq_ok]
    exact forall₂_congr fun p _ => checkParameter_iff
  · intro e
    rw [validate, Outcome.forM_eq_error]
    simp only [checkParameter_iff, checkParameter_eq_error]

/-- A config in which no parameter of an enumeration is as it should be. -/
def unsuited : Json.Object :=
  [("logos", .bool true), ("ordered", .text "yes"), ("variants", .null)]

/-- The variants come first in the grammar, though their key is the last one. -/
theorem validate_of_parameters_unsuited :
    enumeration.validate unsuited "kind" = .error (.missingParameter "kind" "variants") ∧
      ¬ ∀ p ∈ enumeration.parameters, p.Holds unsuited := by
  obtain ⟨haccepted, herror⟩ := validate_of_parameters enumeration unsuited "kind"
  have hfirst : enumeration.validate unsuited "kind" =
      .error (.missingParameter "kind" "variants") :=
    (herror _).mpr ⟨[], .required "variants" .stringList, _, rfl, List.forall_mem_nil _,
      .missing (.inr rfl) rfl⟩
  refine ⟨hfirst, fun h => ?_⟩
  cases hfirst.symm.trans (haccepted.mpr h)

end Grammar

end CollectionArchive
