import CollectionArchive.Json.Reader
import CollectionArchive.Proofs.Outcome

/-!
# What is read from JSON

* `Json.Tree.isLike_of_value`: what is read is of the kind of its text.
* `Json.Reader.parse_eq_ok`: when a whole text is read.
* `Json.Record.readMembers_cons_eq_ok`, `Json.Record.openReader_eq_ok`: when a record is read from
  an object.
* `Json.Record.Filled`: the states of a record that its fields make up.
* **`Json.Record.reader_eq_ok`**: what is read of a record was filled by its fields.
* `Json.Record.reader_object`: a record is read from an object with its fields.
-/

namespace CollectionArchive.Json

theorem Tree.enter_eq_ok {room inside : Nat} : enter room = .ok inside ↔ room = inside + 1 := by
  cases room <;> simp [enter]

theorem Tree.finish_eq_ok {ending : Option Flaw} : finish ending = .ok () ↔ ending = none := by
  cases ending <;> simp [finish]

/-- The tree and the value are of one kind, and of one number. -/
def Tree.IsLike : Tree → Value → Prop
  | null, .null | bool _, .bool _ | text _, .text _ => True
  | array _ _, .array _ | object _ _, .object _ => True
  | number l, .number n => l.number? = some n
  | _, _ => False

/-- What is read is like the tree of which it is read. -/
theorem Tree.isLike_of_value {room : Nat} {t : Tree} {v : Value} (h : t.value room = .ok v) :
    t.IsLike v := by
  cases t with
  | null =>
    cases h
    trivial
  | bool b =>
    cases h
    trivial
  | number l =>
    rw [value, Outcome.elim_eq_ok, Option.map_eq_some_iff] at h
    obtain ⟨n, hn, rfl⟩ := h
    exact hn
  | text s =>
    rw [value] at h
    obtain ⟨s', _, h⟩ := Outcome.bind_eq_ok.mp h
    cases h
    trivial
  | array items ending =>
    rw [value] at h
    obtain ⟨inside, _, h⟩ := Outcome.bind_eq_ok.mp h
    obtain ⟨vs, _, h⟩ := Outcome.bind_eq_ok.mp h
    obtain ⟨_, _, h⟩ := Outcome.bind_eq_ok.mp h
    cases h
    trivial
  | object members ending =>
    rw [value] at h
    obtain ⟨inside, _, h⟩ := Outcome.bind_eq_ok.mp h
    obtain ⟨ms, _, h⟩ := Outcome.bind_eq_ok.mp h
    obtain ⟨_, _, h⟩ := Outcome.bind_eq_ok.mp h
    cases h
    trivial
  | broken f => cases h

/-- Only a literal is read as a number. -/
theorem Tree.value_eq_number {room : Nat} {t : Tree} {n : Number}
    (h : t.value room = .ok (.number n)) : ∃ l, t = .number l ∧ l.number? = some n := by
  have hlike := isLike_of_value h
  cases t with
  | number l => exact ⟨l, rfl, hlike⟩
  | null | bool | text | array | object | broken => exact hlike.elim

namespace Reader

theorem parse_eq_ok {α : Type} {read : Reader α} {s : String} {a : α} :
    read.parse s = .ok a ↔ read maxDepth (Tree.ofText s).1 = .ok a ∧ (Tree.ofText s).2 = false := by
  rw [parse, Outcome.bind_eq_ok]
  constructor
  · rintro ⟨found, hread, h⟩
    cases hmore : (Tree.ofText s).2 with
    | false =>
      rw [hmore] at h
      cases h
      exact ⟨hread, rfl⟩
    | true =>
      rw [hmore] at h
      cases h
  · rintro ⟨hread, hmore⟩
    refine ⟨a, hread, ?_⟩
    rw [hmore]
    rfl

/-- Something is read, or null in its place. -/
theorem null_or_of_optional {α : Type} {read : Reader α} {room : Nat} {t : Tree}
    {o : Option α} (h : read.optional room t = .ok o) :
    (t = .null ∧ o = none) ∨ ∃ a, read room t = .ok a ∧ o = some a := by
  unfold optional at h
  split at h
  · cases h
    exact .inl ⟨rfl, rfl⟩
  · obtain ⟨a, hread, ho⟩ := Outcome.map_eq_ok.mp h
    exact .inr ⟨a, hread, ho.symm⟩

theorem of_optional {α : Type} {read : Reader α} {room : Nat} {t : Tree} {o : Option α}
    (h : read.optional room t = .ok o) : ∀ a ∈ o, read room t = .ok a := by
  rcases null_or_of_optional h with ⟨_, rfl⟩ | ⟨a, hread, rfl⟩
  · rintro a ⟨⟩
  · rintro _ ⟨⟩
    exact hread

/-- Each thing in a list is read from an item inside its brackets. -/
theorem exists_of_list {α : Type} {read : Reader α} {room : Nat} {t : Tree} {as : List α}
    (h : read.list room t = .ok as) :
    ∃ inside, room = inside + 1 ∧ ∀ a ∈ as, ∃ item, read inside item = .ok a := by
  unfold list at h
  split at h
  · obtain ⟨inside, hinside, h⟩ := Outcome.bind_eq_ok.mp h
    obtain ⟨found, hfound, h⟩ := Outcome.bind_eq_ok.mp h
    obtain ⟨_, _, h⟩ := Outcome.bind_eq_ok.mp h
    cases h
    refine ⟨inside, Tree.enter_eq_ok.mp hinside, fun a ha => ?_⟩
    obtain ⟨item, _, hitem⟩ := Outcome.exists_of_mapM_eq_ok hfound ha
    exact ⟨item, hitem⟩
  · cases h

/-- An object is read as the value that it is. -/
theorem object_eq_ok {room : Nat} {t : Tree} {o : Object} :
    Reader.object room t = .ok o ↔ t.value room = .ok (.object o) := by
  cases t with
  | object ms ending =>
    rw [object, members, Tree.value, Outcome.map_eq_ok]
    simp only [Outcome.bind_eq_ok, Outcome.pure_eq_ok, Value.object.injEq]
    constructor
    · rintro ⟨_, ⟨inside, hinside, read, hread, _, hfinish, rfl⟩, rfl⟩
      exact ⟨inside, hinside, read, hread, _, hfinish, rfl⟩
    · rintro ⟨inside, hinside, read, hread, _, hfinish, rfl⟩
      exact ⟨read, ⟨inside, hinside, read, hread, _, hfinish, rfl⟩, rfl⟩
  | null | bool | number | text | array | broken =>
    exact ⟨nofun, fun h => (Tree.isLike_of_value h).elim⟩

end Reader

namespace Record

variable {σ α : Type}

/-- One member is read into its field, or by `other` if it is no field. -/
theorem readMembers_cons_eq_ok {r : Record σ α} {other : String → σ → Reader σ} {room : Nat}
    {seen : List String} {s s' : σ} {key : Option String} {t : Tree}
    {ms : List (Option String × Tree)}
    (h : r.readMembers other room seen s ((key, t) :: ms) = .ok s') :
    ∃ name seen' next, key = some name ∧ r.readMembers other room seen' next ms = .ok s' ∧
      ((∃ f ∈ r.fields, f.name = name ∧ f.fill s room t = .ok next) ∨
        (∀ f ∈ r.fields, f.name ≠ name) ∧ other name s room t = .ok next) := by
  rw [readMembers] at h
  obtain ⟨name, hname, hrest⟩ := Outcome.bind_eq_ok.mp h
  obtain rfl : key = some name := by
    cases key with
    | none => cases hname
    | some key => exact congrArg some (Except.ok.inj hname)
  split at hrest
  · rename_i hnone
    obtain ⟨next, hnext, hrest⟩ := Outcome.bind_eq_ok.mp hrest
    exact ⟨name, seen, next, rfl, hrest, .inr ⟨by simpa using hnone, hnext⟩⟩
  · rename_i f hf
    split at hrest
    · cases hrest
    · obtain ⟨next, hnext, hrest⟩ := Outcome.bind_eq_ok.mp hrest
      refine ⟨name, name :: seen, next, rfl, hrest,
        .inl ⟨f, List.mem_of_find?_eq_some hf, ?_, hnext⟩⟩
      simpa using List.find?_some hf

/-- When a record is read from an object. -/
theorem openReader_eq_ok {r : Record σ α} {other : String → σ → Reader σ} {room : Nat} {t : Tree}
    {a : α} : r.openReader other room t = .ok a ↔ ∃ inside ms s, t = .object ms none ∧
      room = inside + 1 ∧ r.readMembers other inside [] r.start ms = .ok s ∧
        r.build? s = some a := by
  constructor
  · intro h
    cases t with
    | object ms ending =>
      obtain ⟨inside, hinside, h⟩ := Outcome.bind_eq_ok.mp h
      obtain ⟨s, hmembers, h⟩ := Outcome.bind_eq_ok.mp h
      obtain ⟨⟨⟩, hending, hfinish⟩ := Outcome.bind_eq_ok.mp h
      obtain rfl := Tree.finish_eq_ok.mp hending
      exact ⟨inside, ms, s, rfl, Tree.enter_eq_ok.mp hinside, hmembers,
        Outcome.elim_eq_ok.mp hfinish⟩
    | null | bool | number | text | array | broken => cases h
  · rintro ⟨inside, ms, s, rfl, rfl, hmembers, hbuild⟩
    simp only [openReader, Tree.enter, bind, Except.bind, hmembers]
    simp only [Tree.finish, finish, hbuild, Option.elim]

/-- The states of a record that its fields make up one after the other, where there is so much
room. -/
inductive Filled (r : Record σ α) (room : Nat) : σ → Prop
  | start : r.Filled room r.start
  | fill {f : Field σ} {s s' : σ} {t : Tree} (before : r.Filled room s) (mem : f ∈ r.fields)
    (read : f.fill s room t = .ok s') : r.Filled room s'

theorem Filled.readMembers {r : Record σ α} {room : Nat} {members : List (Option String × Tree)}
    {seen : List String} {s s' : σ} (hs : r.Filled room s)
    (h : r.readMembers (fun _ s _ t => do Tree.skip t; return s) room seen s members = .ok s') :
    r.Filled room s' := by
  induction members generalizing seen s with
  | nil =>
    cases h
    exact hs
  | cons m members ih =>
    obtain ⟨key, t⟩ := m
    obtain ⟨name, seen', next, _, hrest, ⟨f, hf, _, hfill⟩ | ⟨_, hskip⟩⟩ :=
      readMembers_cons_eq_ok h
    · exact ih (hs.fill hf hfill) hrest
    · obtain ⟨_, _, hsame⟩ := Outcome.bind_eq_ok.mp hskip
      cases hsame
      exact ih hs hrest

theorem Filled.readItems {r : Record σ α} {room : Nat} {ending : Option Flaw}
    {fields : List (Field σ)} {items : List Tree} {s s' : σ} (hfields : fields ⊆ r.fields)
    (hs : r.Filled room s) (h : Record.readItems room ending s fields items = .ok s') :
    r.Filled room s' := by
  induction items generalizing fields s with
  | nil =>
    rw [Record.readItems] at h
    obtain ⟨_, _, h⟩ := Outcome.bind_eq_ok.mp h
    cases h
    exact hs
  | cons t items ih =>
    cases fields with
    | nil => cases h
    | cons f fields =>
      rw [Record.readItems] at h
      obtain ⟨s₁, hfill, h⟩ := Outcome.bind_eq_ok.mp h
      obtain ⟨hf, hrest⟩ := List.cons_subset.mp hfields
      exact ih hrest (hs.fill hf hfill) h

/-- **What is read of a record was filled by its fields**, in an object or an array. -/
theorem reader_eq_ok {r : Record σ α} {room : Nat} {t : Tree} {a : α}
    (h : r.reader room t = .ok a) :
    ∃ inside s, room = inside + 1 ∧ r.Filled inside s ∧ r.build? s = some a := by
  unfold reader at h
  split at h
  · obtain ⟨inside, hinside, h⟩ := Outcome.bind_eq_ok.mp h
    obtain ⟨s, hitems, hfinish⟩ := Outcome.bind_eq_ok.mp h
    exact ⟨inside, s, Tree.enter_eq_ok.mp hinside, Filled.start.readItems (fun _ hf => hf) hitems,
      Outcome.elim_eq_ok.mp hfinish⟩
  · obtain ⟨inside, ms, s, rfl, hroom, hmembers, hbuild⟩ := openReader_eq_ok.mp h
    exact ⟨inside, s, hroom, Filled.start.readMembers hmembers, hbuild⟩

/-- A record is read from an object with its fields. -/
theorem reader_object {r : Record σ α} {room : Nat} {members : List (Option String × Tree)} {s : σ}
    {a : α}
    (h : r.readMembers (fun _ s _ t => do Tree.skip t; return s) room [] r.start members = .ok s)
    (hbuild : r.build? s = some a) : r.reader (room + 1) (.object members none) = .ok a :=
  openReader_eq_ok.mpr ⟨room, members, s, rfl, rfl, h, hbuild⟩

end Record

end CollectionArchive.Json
