import CollectionArchive.Proofs.Json.Values

/-!
# Records and objects

A record is read member by member as the text goes on. An object has the values of all members under
their keys. What the two have in common is kept with each member that is read.

* `Json.Tells`: the values of members in the order of the text, some of those that are not read left
  out; `Json.tells_of_memberValues`: the values of all of them.
* `Json.Record.exists_tells`: members that are read have values.
* **`Json.Record.of_tells`**: what each member keeps holds of the record and the object that are
  read from the same members.
* `Json.Record.readMembers_optional`: a member that may be missing is read.
-/

namespace CollectionArchive.Json

/-- The values of members in the order of the text. Each is what its tree tells under its key; some
members that need not be read may be left out. -/
inductive Tells (told : String → Tree → Value → Prop) (unread : String → Prop) :
    List (Option String × Tree) → List (String × Value) → Prop
  | nil : Tells told unread [] []
  | told {key : String} {t : Tree} {v : Value} {ms : List (Option String × Tree)}
    {vs : List (String × Value)} (value : told key t v) (rest : Tells told unread ms vs) :
    Tells told unread ((some key, t) :: ms) ((key, v) :: vs)
  | unread {key : String} {t : Tree} {ms : List (Option String × Tree)}
    {vs : List (String × Value)} (other : unread key) (rest : Tells told unread ms vs) :
    Tells told unread ((some key, t) :: ms) vs

section

variable {told : String → Tree → Value → Prop} {unread : String → Prop}
  {ms : List (Option String × Tree)} {vs : List (String × Value)}

/-- The values of all members are what the members tell. -/
theorem tells_of_memberValues {room : Nat} (h : Tree.memberValues room ms = .ok vs)
    (htold : ∀ key t v, t.value room = .ok v → told key t v) : Tells told unread ms vs := by
  induction ms generalizing vs with
  | nil =>
    cases h
    exact .nil
  | cons m ms ih =>
    obtain ⟨key, t⟩ := m
    obtain ⟨name, hname, h⟩ := Outcome.bind_eq_ok.mp h
    obtain ⟨v, hv, h⟩ := Outcome.bind_eq_ok.mp h
    obtain ⟨rest, hrest, h⟩ := Outcome.bind_eq_ok.mp h
    cases h
    cases key with
    | none => cases hname
    | some key =>
      cases hname
      exact .told (htold _ t v hv) (ih hrest)

/-- What holds of all that is told holds of all values. -/
theorem Tells.forall_values {P : Value → Prop} (h : Tells told unread ms vs)
    (htold : ∀ key t v, told key t v → P v) : ∀ e ∈ vs, P e.2 := by
  induction h with
  | nil => exact List.forall_mem_nil _
  | told value _ ih => exact List.forall_mem_cons.mpr ⟨htold _ _ _ value, ih⟩
  | unread _ _ ih => exact ih

end

namespace Record

variable {σ α : Type} {r : Record σ α} {other : String → σ → Reader σ} {room : Nat}

variable {told : String → Tree → Value → Prop} {unread : String → Prop}

/-- Members that are read have values. -/
theorem exists_tells
    (hfield : ∀ f ∈ r.fields, ∀ s s' t, f.fill s room t = .ok s' → ∃ v, told f.name t v)
    (hother : ∀ key s s' t, (∀ f ∈ r.fields, f.name ≠ key) → other key s room t = .ok s' →
      unread key ∨ ∃ v, told key t v)
    {ms : List (Option String × Tree)} {seen : List String} {s s' : σ}
    (h : r.readMembers other room seen s ms = .ok s') : ∃ vs, Tells told unread ms vs := by
  induction ms generalizing seen s with
  | nil => exact ⟨[], .nil⟩
  | cons m ms ih =>
    obtain ⟨key, t⟩ := m
    obtain ⟨name, seen', next, rfl, hrest, hstep⟩ := readMembers_cons_eq_ok h
    obtain ⟨vs, hvs⟩ := ih hrest
    rcases hstep with ⟨f, hf, rfl, hfill⟩ | ⟨hname, hread⟩
    · obtain ⟨v, hv⟩ := hfield f hf _ _ _ hfill
      exact ⟨_, .told hv hvs⟩
    · rcases hother name _ _ _ hname hread with hunread | ⟨v, hv⟩
      · exact ⟨vs, .unread hunread hvs⟩
      · exact ⟨_, .told hv hvs⟩

/-- **What each member keeps holds of what is read.** If the state of the record and the object so
far have something in common, and each member that is read keeps it, the record and the object that
are read from the same members have it in common. -/
theorem of_tells {R : σ → Object → Prop}
    (hfield : ∀ f ∈ r.fields, ∀ s s' t v o, f.fill s room t = .ok s' → told f.name t v → R s o →
      R s' (o.insert f.name v))
    (hother : ∀ key s s' t v o, (∀ f ∈ r.fields, f.name ≠ key) → other key s room t = .ok s' →
      told key t v → R s o → R s' (o.insert key v))
    (hunread : ∀ key s s' t o, unread key → (∀ f ∈ r.fields, f.name ≠ key) →
      other key s room t = .ok s' → R s o → R s' o)
    (hnames : ∀ f ∈ r.fields, ¬ unread f.name)
    {ms : List (Option String × Tree)} {vs : List (String × Value)}
    (htells : Tells told unread ms vs) {seen : List String} {s s' : σ} {o : Object} (hs : R s o)
    (h : r.readMembers other room seen s ms = .ok s') :
    R s' (vs.foldl (fun o e => o.insert e.1 e.2) o) := by
  induction htells generalizing seen s o with
  | nil =>
    cases h
    exact hs
  | told value _ ih =>
    obtain ⟨name, seen', next, hname, hrest, hstep⟩ := readMembers_cons_eq_ok h
    cases hname
    rcases hstep with ⟨f, hf, rfl, hfill⟩ | ⟨hother', hread⟩
    · exact ih (hfield f hf _ _ _ _ _ hfill value hs) hrest
    · exact ih (hother _ _ _ _ _ _ hother' hread value hs) hrest
  | unread skipped _ ih =>
    obtain ⟨name, seen', next, hname, hrest, hstep⟩ := readMembers_cons_eq_ok h
    cases hname
    rcases hstep with ⟨f, hf, rfl, hfill⟩ | ⟨hother', hread⟩
    · exact absurd skipped (hnames f hf)
    · exact ih (hunread _ _ _ _ _ skipped hother' hread hs) hrest

/-- A member that may be missing. -/
def optionalTree (key : String) (t : Option Tree) : List (Option String × Tree) :=
  t.toList.map fun t => (some key, t)

/-- A member that may be missing is read, if it was not before. -/
theorem readMembers_optional (r : Record σ α) (other : String → σ → Reader σ) (room : Nat)
    (key : String) {f : Field σ} (hf : (r.fields.find? fun f => f.name == key) = some f)
    {before seen : List String} (hbefore : key ∉ before) (hseen : ∀ name ∈ seen, name ∈ before)
    {t : Option Tree} {s e : σ} (hread : t.elim (.ok s) (f.fill s room) = .ok e) : ∃ seen',
      (∀ name ∈ seen', name ∈ key :: before) ∧ ∀ rest,
        r.readMembers other room seen s (optionalTree key t ++ rest) =
          r.readMembers other room seen' e rest := by
  cases t with
  | none =>
    cases hread
    exact ⟨seen, fun name hname => List.mem_cons_of_mem key (hseen name hname), fun _ => rfl⟩
  | some t =>
    have hmem : ∀ name ∈ key :: seen, name ∈ key :: before := fun name hname =>
      (List.mem_cons.mp hname).elim (fun h => h ▸ List.mem_cons_self)
        fun h => List.mem_cons_of_mem key (hseen name h)
    refine ⟨key :: seen, hmem, fun rest => ?_⟩
    have hcontains : seen.contains key = false := by
      rw [← Bool.not_eq_true, List.contains_iff_mem]
      exact fun h => hbefore (hseen key h)
    have hfill : f.fill s room t = .ok e := hread
    rw [optionalTree, Option.toList_some, List.map_singleton, List.singleton_append, readMembers]
    simp only [Tree.content, bind, Except.bind, hf, hcontains, hfill]
    rfl

end Record

end CollectionArchive.Json
