import CollectionArchive.Proofs.Link.Targets
import CollectionArchive.Proofs.Registry.Assignment
import CollectionArchive.Proofs.Value.Elements

/-!
# Why casts fail

A cast fails because of the value, unless the property itself takes none. The grammar of configs and
the walk over the links keep such properties out.

* `CastError.IsOfValue`: the errors that are about the value.
* **`Cast.isOfValue_of_value`**: casting to a kind that can be selected fails because of the value.
* **`Cast.isOfValue_of_forProperty`**: so does casting for a valid leaf that is no link.
* `Cast.kind?_of_forProperty`: what is cast for a property is of its kind.
-/

namespace CollectionArchive

open Json (Value)

/-- The error is about the value, and not about the property. -/
def CastError.IsOfValue (e : CastError) : Prop :=
  e ≠ .missingSubtype ∧ ∀ k, e ≠ .notAssignable k

theorem CastError.IsOfValue.mismatch (expected : Expectation) (found : String) :
    IsOfValue (.mismatch expected found) :=
  ⟨nofun, fun _ => nofun⟩

theorem CastError.IsOfValue.invalid (flaw : CastFlaw) : IsOfValue (.invalid flaw) :=
  ⟨nofun, fun _ => nofun⟩

namespace Cast

variable {α : Type} {v : Value} {reason : CastError}

/-! ## Single values -/

theorem isOfValue_of_orFlaw {flaw : CastFlaw} {x : Option α}
    (h : orFlaw flaw x = .error reason) : reason.IsOfValue := by
  cases x with
  | none => cases h; exact .invalid flaw
  | some a => cases h

theorem isOfValue_of_integer (h : integer v = .error reason) : reason.IsOfValue := by
  cases v with
  | number n => exact isOfValue_of_orFlaw h
  | text s => exact isOfValue_of_orFlaw h
  | _ => cases h; exact .mismatch _ _

theorem isOfValue_of_float (h : float v = .error reason) : reason.IsOfValue := by
  cases v with
  | number n => exact isOfValue_of_orFlaw h
  | text s => exact isOfValue_of_orFlaw h
  | _ => cases h; exact .mismatch _ _

theorem isOfValue_of_text {expected : Expectation} (h : text expected v = .error reason) :
    reason.IsOfValue := by
  cases v <;> cases h <;> exact .mismatch _ _

theorem isOfValue_of_boolean (h : boolean v = .error reason) : reason.IsOfValue := by
  cases v with
  | bool b => cases h
  | number n => exact isOfValue_of_orFlaw h
  | text s => exact isOfValue_of_orFlaw h
  | _ => cases h; exact .mismatch _ _

theorem isOfValue_of_date (h : date v = .error reason) : reason.IsOfValue := by
  cases v with
  | number n => exact isOfValue_of_orFlaw h
  | text s =>
    rw [date] at h
    obtain ⟨fault, _, rfl⟩ := Outcome.mapError_eq_error.mp h
    exact .invalid _
  | _ => cases h; exact .mismatch _ _

theorem isOfValue_of_url (h : url v = .error reason) : reason.IsOfValue := by
  cases v with
  | text s =>
    rw [url] at h
    obtain ⟨fault, _, rfl⟩ := Outcome.mapError_eq_error.mp h
    exact .invalid _
  | _ => cases h; exact .mismatch _ _

/-! ## Arrays -/

theorem isOfValue_of_plainText (h : plainText v = .error reason) : reason.IsOfValue := by
  cases v <;> cases h <;> exact .mismatch _ _

theorem isOfValue_of_plainBool (h : plainBool v = .error reason) : reason.IsOfValue := by
  cases v <;> cases h <;> exact .mismatch _ _

theorem isOfValue_of_array {expected : Expectation} {item : Value → Except CastError α}
    (each : ∀ {v : Value} {reason : CastError}, item v = .error reason → reason.IsOfValue)
    (h : array expected item v = .error reason) : reason.IsOfValue := by
  cases v with
  | array items =>
    obtain ⟨w, _, hw⟩ := Outcome.exists_of_mapM_eq_error h
    exact each hw
  | _ => cases h; exact .mismatch _ _

theorem isOfValue_of_texts (h : texts v = .error reason) : reason.IsOfValue :=
  isOfValue_of_array isOfValue_of_plainText h

/-! ## Kinds -/

/-- **Casting to a kind that can be selected fails because of the value.** -/
theorem isOfValue_of_value {k : Kind} (selectable : k.isSelectable = true)
    (h : value k v = .error reason) : reason.IsOfValue := by
  cases k with
  | integer => exact isOfValue_of_integer (Outcome.map_eq_error.mp h)
  | float => exact isOfValue_of_float (Outcome.map_eq_error.mp h)
  | string => exact isOfValue_of_text (Outcome.map_eq_error.mp h)
  | textArea => exact isOfValue_of_text (Outcome.map_eq_error.mp h)
  | enumeration => exact isOfValue_of_text (Outcome.map_eq_error.mp h)
  | boolean => exact isOfValue_of_boolean (Outcome.map_eq_error.mp h)
  | date => exact isOfValue_of_date (Outcome.map_eq_error.mp h)
  | url => exact isOfValue_of_url (Outcome.map_eq_error.mp h)
  | tags => exact isOfValue_of_texts (Outcome.map_eq_error.mp h)
  | featureList => exact isOfValue_of_array isOfValue_of_plainBool (Outcome.map_eq_error.mp h)
  | hierarchies => exact isOfValue_of_array isOfValue_of_texts (Outcome.map_eq_error.mp h)
  | location => cases v <;> cases h <;> exact .mismatch _ _
  | box => cases selectable
  | link => cases selectable
  | list => cases selectable

theorem isOfValue_of_list {k : Kind} (h : list k v = .error reason) : reason.IsOfValue := by
  rw [list] at h
  split_ifs at h with hselectable
  · exact isOfValue_of_array (isOfValue_of_value hselectable) (Outcome.map_eq_error.mp h)
  · cases h
    exact .invalid _

/-! ## Properties -/

/-- The grammar of lists asks for the name of a kind, so a valid list has one for its elements. -/
theorem exists_subtype {p : Property} (valid : p.IsValid) (hlist : p.kind = .list) :
    ∃ k, subtype p = .ok k := by
  cases valid with
  | box => cases hlist
  | @leaf title i kind config hidden hconfig =>
    rw [Property.checkConfig, show kind.val = .list from hlist] at hconfig
    have hparameter := Grammar.validate_eq_ok.mp hconfig (.required "subtype" .kindName)
      List.mem_cons_self
    obtain ⟨hrequired, hshape⟩ := Grammar.checkParameter_eq_ok.mp hparameter
    cases hpresent : Grammar.present? (config.getD []) "subtype" with
    | none => cases hrequired hpresent
    | some w =>
      have hvalue : (Property.leaf title i kind config hidden).configValue? "subtype" = some w := by
        cases config with
        | none => cases hpresent
        | some o => exact hpresent
      have haccepted := hshape w hpresent
      cases w with
      | text s =>
        obtain ⟨k, hk⟩ := Option.isSome_iff_exists.mp haccepted
        refine ⟨k, ?_⟩
        rw [subtype, hvalue]
        exact Outcome.elim_eq_ok.mpr hk
      | _ => cases haccepted

/-- **Casting for a valid leaf that is no link fails because of the value.** -/
theorem isOfValue_of_forProperty {p : Property} (valid : p.IsValid) (leaf : p.kind ≠ .box)
    (single : p.kind ≠ .link) (h : forProperty p v = .error reason) : reason.IsOfValue := by
  rw [forProperty] at h
  split at h
  next hlist =>
    obtain ⟨k, hk⟩ := exists_subtype valid hlist
    rw [hk] at h
    exact isOfValue_of_list h
  next hlist =>
    refine isOfValue_of_value ?_ h
    rw [Kind.isSelectable, Bool.and_eq_true, Bool.and_eq_true]
    exact ⟨⟨bne_iff_ne.mpr leaf, bne_iff_ne.mpr single⟩, bne_iff_ne.mpr hlist⟩

/-- What is cast for a property is of its kind. -/
theorem kind?_of_forProperty {p : Property} {x : PropertyValue} (h : forProperty p v = .ok x) :
    x.kind? = some p.kind := by
  rw [forProperty] at h
  split at h
  next hlist =>
    obtain ⟨k, _, h⟩ := Outcome.bind_eq_ok.mp h
    obtain ⟨_, _, xs, _, _, rfl⟩ := list_eq_ok h
    rw [hlist]
    rfl
  next => exact kind?_of_value h

end Cast

end CollectionArchive
