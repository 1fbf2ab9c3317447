import CollectionArchive.Schema.Basic

/-!
# Equality of schemata

Schemata are compared as their trees are, and the doubles in their configs by value, so that a zero
equals a zero of the other sign.

* `Schema.equal_self`: a schema equals itself.
* `Schema.equal_trans`: what equals an equal schema is equal.
-/

namespace CollectionArchive

open Json (Value)

/-! ## A schema equals itself -/

theorem Json.Number.equal_self (n : Number) : n.equal n = true := by
  cases n with
  | integer i => exact beq_self_eq_true i
  | double x => simp [equal, Binary64.Finite.equal]

mutual

theorem Json.Value.equal_self (v : Value) : v.equal v = true := by
  cases v with
  | null => rfl
  | bool b => exact beq_self_eq_true b
  | number n => exact n.equal_self
  | text s => exact beq_self_eq_true s
  | array items => exact equalItems_self items
  | object members => exact equalMembers_self members

theorem Json.Value.equalItems_self (items : List Value) : equalItems items items = true := by
  cases items with
  | nil => rfl
  | cons v vs => rw [equalItems, equal_self v, equalItems_self vs, Bool.true_and]

theorem Json.Value.equalMembers_self (members : List (String × Value)) :
    equalMembers members members = true := by
  cases members with
  | nil => rfl
  | cons m ms =>
    obtain ⟨key, v⟩ := m
    rw [equalMembers, beq_self_eq_true, equal_self v, equalMembers_self ms, Bool.true_and,
      Bool.true_and]

end

theorem Property.equalConfig_self (config : Option Json.Object) :
    equalConfig config config = true := by
  cases config with
  | none => rfl
  | some o => exact Value.equalMembers_self o

mutual

theorem Property.equal_self (p : Property) : p.equal p = true := by
  cases p with
  | leaf title ident kind config hidden => simp [equal, equalConfig_self]
  | box title config hidden children =>
    simp [equal, equalConfig_self, equalList_self children]

theorem Property.equalList_self (ps : List Property) : equalList ps ps = true := by
  cases ps with
  | nil => rfl
  | cons p ps => rw [equalList, equal_self p, equalList_self ps, Bool.true_and]

end

/-- A schema equals itself. -/
theorem Schema.equal_self (s : Schema) : s.equal s = true := by
  rw [equal, Property.equal_self, Property.equal_self, Bool.true_and]

/-! ## Equal schemata -/

theorem Binary64.Finite.equal_trans {x y z : Finite} (h : x.equal y = true)
    (h' : y.equal z = true) : x.equal z = true := by
  simp only [equal, Bool.and_eq_true, Bool.or_eq_true, beq_iff_eq] at h h' ⊢
  obtain ⟨⟨hsignificand, hexponent⟩, hsign⟩ := h
  obtain ⟨⟨hsignificand', hexponent'⟩, hsign'⟩ := h'
  refine ⟨⟨hsignificand.trans hsignificand', hexponent.trans hexponent'⟩, ?_⟩
  rcases hsign with hsign | hzero
  · rcases hsign' with hsign' | hzero
    · exact .inl (hsign.trans hsign')
    · exact .inr (hsignificand.trans hzero)
  · exact .inr hzero

theorem Json.Number.equal_trans {m n o : Number} (h : m.equal n = true) (h' : n.equal o = true) :
    m.equal o = true := by
  cases m with
  | integer i =>
    cases n with
    | integer j => exact beq_iff_eq.mp h ▸ h'
    | double => cases h
  | double x =>
    cases n with
    | integer => cases h
    | double y =>
      cases o with
      | integer => cases h'
      | double z => exact Binary64.Finite.equal_trans h h'

mutual

theorem Json.Value.equal_trans {u v w : Value} (h : u.equal v = true) (h' : v.equal w = true) :
    u.equal w = true := by
  cases u with
  | null =>
    cases v with
    | null => exact h'
    | _ => cases h
  | bool a =>
    cases v with
    | bool b => exact beq_iff_eq.mp h ▸ h'
    | _ => cases h
  | number m =>
    cases v with
    | number n =>
      cases w with
      | number o => exact Number.equal_trans h h'
      | _ => cases h'
    | _ => cases h
  | text s =>
    cases v with
    | text t => exact beq_iff_eq.mp h ▸ h'
    | _ => cases h
  | array as =>
    cases v with
    | array bs =>
      cases w with
      | array cs => exact equalItems_trans h h'
      | _ => cases h'
    | _ => cases h
  | object as =>
    cases v with
    | object bs =>
      cases w with
      | object cs => exact equalMembers_trans h h'
      | _ => cases h'
    | _ => cases h
termination_by structural u

theorem Json.Value.equalItems_trans {as bs cs : List Value} (h : equalItems as bs = true)
    (h' : equalItems bs cs = true) : equalItems as cs = true := by
  cases as with
  | nil =>
    cases bs with
    | nil => exact h'
    | cons => cases h
  | cons a as =>
    cases bs with
    | nil => cases h
    | cons b bs =>
      cases cs with
      | nil => cases h'
      | cons c cs =>
        rw [equalItems, Bool.and_eq_true] at *
        exact ⟨equal_trans h.1 h'.1, equalItems_trans h.2 h'.2⟩
termination_by structural as

theorem Json.Value.equalMembers_trans {as bs cs : List (String × Value)}
    (h : equalMembers as bs = true) (h' : equalMembers bs cs = true) :
    equalMembers as cs = true := by
  cases as with
  | nil =>
    cases bs with
    | nil => exact h'
    | cons => cases h
  | cons a as =>
    cases bs with
    | nil => cases h
    | cons b bs =>
      cases cs with
      | nil => cases h'
      | cons c cs =>
        obtain ⟨k, a⟩ := a
        obtain ⟨l, b⟩ := b
        obtain ⟨m, c⟩ := c
        rw [equalMembers, Bool.and_eq_true, Bool.and_eq_true, beq_iff_eq] at *
        exact ⟨⟨h.1.1.trans h'.1.1, equal_trans h.1.2 h'.1.2⟩, equalMembers_trans h.2 h'.2⟩
termination_by structural as

end

theorem Property.equalConfig_trans {a b c : Option Json.Object} (h : equalConfig a b = true)
    (h' : equalConfig b c = true) : equalConfig a c = true := by
  cases a with
  | none =>
    cases b with
    | none => exact h'
    | some => cases h
  | some o =>
    cases b with
    | none => cases h
    | some o' =>
      cases c with
      | none => cases h'
      | some o'' => exact Value.equalMembers_trans h h'

mutual

theorem Property.equal_trans {p q r : Property} (h : p.equal q = true) (h' : q.equal r = true) :
    p.equal r = true := by
  cases p with
  | leaf =>
    cases q with
    | box => cases h
    | leaf =>
      cases r with
      | box => cases h'
      | leaf =>
        simp only [equal, Bool.and_eq_true, beq_iff_eq] at *
        obtain ⟨⟨⟨⟨rfl, rfl⟩, rfl⟩, hconfig⟩, rfl⟩ := h
        obtain ⟨⟨⟨⟨rfl, rfl⟩, rfl⟩, hconfig'⟩, rfl⟩ := h'
        exact ⟨⟨⟨⟨rfl, rfl⟩, rfl⟩, equalConfig_trans hconfig hconfig'⟩, rfl⟩
  | box =>
    cases q with
    | leaf => cases h
    | box =>
      cases r with
      | leaf => cases h'
      | box =>
        simp only [equal, Bool.and_eq_true, beq_iff_eq] at *
        obtain ⟨⟨⟨rfl, hconfig⟩, rfl⟩, hchildren⟩ := h
        obtain ⟨⟨⟨rfl, hconfig'⟩, rfl⟩, hchildren'⟩ := h'
        exact ⟨⟨⟨rfl, equalConfig_trans hconfig hconfig'⟩, rfl⟩,
          equalList_trans hchildren hchildren'⟩
termination_by structural p

theorem Property.equalList_trans {ps qs rs : List Property} (h : equalList ps qs = true)
    (h' : equalList qs rs = true) : equalList ps rs = true := by
  cases ps with
  | nil =>
    cases qs with
    | nil => exact h'
    | cons => cases h
  | cons p ps =>
    cases qs with
    | nil => cases h
    | cons q qs =>
      cases rs with
      | nil => cases h'
      | cons r rs =>
        rw [equalList, Bool.and_eq_true] at *
        exact ⟨equal_trans h.1 h'.1, equalList_trans h.2 h'.2⟩
termination_by structural ps

end

/-- **What equals an equal schema is equal.** -/
theorem Schema.equal_trans {s t u : Schema} (h : s.equal t = true) (h' : t.equal u = true) :
    s.equal u = true := by
  rw [equal, Bool.and_eq_true] at *
  exact ⟨Property.equal_trans h.1 h'.1, Property.equal_trans h.2 h'.2⟩

end CollectionArchive
