import CollectionArchive.Proofs.Json.Writing

/-!
# Values are read back

* `Json.Value.IsProper`: keys ascend in all objects, and integers have 64 bits.
* `Json.Value.depth`, `Json.Value.doubles`: how deep brackets are nested, and the doubles in a
  value.
* `Json.Value.IsReadBack`: all doubles in a proper value are read back from their texts.
* **`Json.Tree.isProper_of_value`**: what is read is proper, and nested no deeper than there was
  room.
-/

namespace CollectionArchive

theorem Table.foldl_insert {κ α : Type} [DecidableEq κ] [Ordered κ] {front t : Table κ α}
    (h : Ascending (front ++ t)) : t.foldl (fun t e => insert t e.1 e.2) front = front ++ t := by
  induction t generalizing front with
  | nil => exact (List.append_nil front).symm
  | cons e t ih =>
    have hsplit : front ++ e :: t = (front ++ [e]) ++ t := by simp
    rw [hsplit] at h ⊢
    rw [List.foldl_cons, insert_last (List.Pairwise.sublist (List.sublist_append_left _ t) h), ih h]

/-- A table is made of its own entries. -/
theorem Table.ofList_of_ascending {κ α : Type} [DecidableEq κ] [Ordered κ] {t : Table κ α}
    (h : t.Ascending) : ofList t = t :=
  @foldl_insert κ α _ _ [] t h

theorem Table.ascending_ofList {κ α : Type} [DecidableEq κ] [Ordered κ] (entries : List (κ × α)) :
    (ofList entries).Ascending := by
  have hfold : ∀ t : Table κ α, t.Ascending →
      Ascending (entries.foldl (fun t e => insert t e.1 e.2) t) := by
    induction entries with
    | nil => exact fun t h => h
    | cons e entries ih => exact fun t h => ih _ (ascending_insert h e.1 e.2)
  exact hfold [] .nil

theorem Table.mem_ofList {κ α : Type} [DecidableEq κ] [Ordered κ] {entries : List (κ × α)}
    {e : κ × α} (h : e ∈ ofList entries) : e ∈ entries := by
  have hfold : ∀ t : Table κ α, e ∈ entries.foldl (fun t e => insert t e.1 e.2) t →
      e ∈ t ∨ e ∈ entries := by
    clear h
    induction entries with
    | nil => exact fun t h => .inl h
    | cons b entries ih =>
      intro t h
      rcases ih _ h with h | h
      · rcases mem_insert h with rfl | h
        · exact .inr List.mem_cons_self
        · exact .inl h
      · exact .inr (List.mem_cons_of_mem _ h)
  exact (hfold [] h).resolve_left (List.not_mem_nil)

namespace Json

open Binary64 (Finite)

/-- The number is read back from its text. -/
def Number.IsReadBack (n : Number) : Prop :=
  Json.parse n.text = .ok (.number n)

/-- **Integers of 64 bits are read back.** -/
theorem Number.isReadBack_integer {i : Int} (h : IsWord i) : (integer i).IsReadBack := by
  obtain ⟨l, hwrites, hl⟩ := Tree.Writes.number (isWritten_integer h)
  refine Reader.parse_eq_ok.mpr ?_
  rw [text, Tree.ofText_of_writes hwrites]
  exact ⟨by simp [Reader.value, Tree.value, hl], rfl⟩

namespace Value

/-- Keys ascend in all objects of the value, and its integers have 64 bits. -/
inductive IsProper : Value → Prop
  | null : IsProper null
  | bool (b : Bool) : IsProper (bool b)
  | integer {i : Int} (h : Number.IsWord i) : IsProper (number (.integer i))
  | double (x : Finite) : IsProper (number (.double x))
  | text (s : String) : IsProper (text s)
  | array {items : List Value} (h : ∀ v ∈ items, IsProper v) : IsProper (array items)
  | object {members : Object} (keys : members.Ascending) (h : ∀ m ∈ members, IsProper m.2) :
    IsProper (object members)

mutual

/-- How many brackets of the value are open at once. -/
def depth : Value → Nat
  | array items => itemDepth items + 1
  | object members => memberDepth members + 1
  | _ => 0

def itemDepth : List Value → Nat
  | [] => 0
  | v :: vs => max (depth v) (itemDepth vs)

def memberDepth : List (String × Value) → Nat
  | [] => 0
  | (_, v) :: ms => max (depth v) (memberDepth ms)

end

mutual

/-- The doubles in the value. -/
def doubles : Value → List Finite
  | number (.double x) => [x]
  | array items => itemDoubles items
  | object members => memberDoubles members
  | _ => []

def itemDoubles : List Value → List Finite
  | [] => []
  | v :: vs => doubles v ++ itemDoubles vs

def memberDoubles : List (String × Value) → List Finite
  | [] => []
  | (_, v) :: ms => doubles v ++ memberDoubles ms

end

theorem text?_eq_some {v : Value} {s : String} : v.text? = some s ↔ v = .text s := by
  cases v <;> simp [text?]

theorem object?_eq_some {v : Value} {o : Object} : v.object? = some o ↔ v = .object o := by
  cases v <;> simp [object?]

theorem isText_iff {v : Value} : v.isText = true ↔ ∃ s, v = .text s := by
  cases v <;> simp [isText]

theorem isNull_iff {v : Value} : v.isNull = true ↔ v = .null := by
  cases v <;> simp [isNull]

theorem itemDepth_le {vs : List Value} {n : Nat} : itemDepth vs ≤ n ↔ ∀ v ∈ vs, v.depth ≤ n := by
  induction vs with
  | nil => simp [itemDepth]
  | cons v vs ih => rw [itemDepth, Nat.max_le, ih, List.forall_mem_cons]

theorem memberDepth_le {ms : List (String × Value)} {n : Nat} :
    memberDepth ms ≤ n ↔ ∀ m ∈ ms, m.2.depth ≤ n := by
  induction ms with
  | nil => simp [memberDepth]
  | cons m ms ih => rw [memberDepth, Nat.max_le, ih, List.forall_mem_cons]

/-! ## Values that are read back -/

/-- What is read where there is room for the brackets of the value. -/
def IsReadFrom (v : Value) (t : Tree) : Prop :=
  ∀ room, v.depth ≤ room → t.value room = .ok v

/-- A proper value of which all doubles are read back. -/
def IsReadBack (v : Value) : Prop :=
  v.IsProper ∧ ∀ x ∈ v.doubles, (Number.double x).IsReadBack

end Value

/-! ## From a text to its value -/

theorem Literal.isWord_of_number? {l : Literal} {i : Int} (h : l.number? = some (.integer i)) :
    Number.IsWord i := by
  unfold Literal.number? at h
  dsimp only at h
  split_ifs at h with hplain hminus
  · cases h
    simp only [Bool.and_eq_true, decide_eq_true_eq] at hplain
    obtain ⟨_, hbound⟩ := hplain
    constructor <;> omega
  · cases h
    simp only [Bool.and_eq_true, decide_eq_true_eq] at hminus
    obtain ⟨_, hbound⟩ := hminus
    constructor <;> omega
  · obtain ⟨x, _, hx⟩ := Option.map_eq_some_iff.mp h
    cases hx

theorem Value.isProper_number {n : Number} (h : ∀ i, n = .integer i → Number.IsWord i) :
    (number n).IsProper := by
  cases n with
  | integer i => exact .integer (h i rfl)
  | double x => exact .double x

namespace Tree

mutual

/-- **What is read is proper**, and nested no deeper than there was room. -/
theorem isProper_of_value {room : Nat} {t : Tree} {v : Value} (h : t.value room = .ok v) :
    v.IsProper ∧ v.depth ≤ room := by
  cases t with
  | null =>
    cases h
    exact ⟨.null, Nat.zero_le _⟩
  | bool b =>
    cases h
    exact ⟨.bool b, Nat.zero_le _⟩
  | number l =>
    rw [value, Outcome.elim_eq_ok, Option.map_eq_some_iff] at h
    obtain ⟨n, hn, rfl⟩ := h
    refine ⟨Value.isProper_number ?_, Nat.zero_le _⟩
    rintro i rfl
    exact Literal.isWord_of_number? hn
  | text s =>
    rw [value] at h
    obtain ⟨s', _, h⟩ := Outcome.bind_eq_ok.mp h
    cases h
    exact ⟨.text s', Nat.zero_le _⟩
  | array items ending =>
    rw [value] at h
    obtain ⟨inside, hinside, h⟩ := Outcome.bind_eq_ok.mp h
    obtain ⟨vs, hvs, h⟩ := Outcome.bind_eq_ok.mp h
    obtain ⟨_, _, h⟩ := Outcome.bind_eq_ok.mp h
    cases h
    rw [enter_eq_ok.mp hinside]
    have hitems := isProper_of_itemValues hvs
    refine ⟨.array fun v hv => (hitems v hv).1, ?_⟩
    exact Nat.succ_le_succ (Value.itemDepth_le.mpr fun v hv => (hitems v hv).2)
  | object members ending =>
    rw [value] at h
    obtain ⟨inside, hinside, h⟩ := Outcome.bind_eq_ok.mp h
    obtain ⟨ms, hms, h⟩ := Outcome.bind_eq_ok.mp h
    obtain ⟨_, _, h⟩ := Outcome.bind_eq_ok.mp h
    cases h
    rw [enter_eq_ok.mp hinside]
    have hmembers := isProper_of_memberValues hms
    constructor
    · exact .object (Table.ascending_ofList ms) fun m hm => (hmembers m (Table.mem_ofList hm)).1
    · refine Nat.succ_le_succ (Value.memberDepth_le.mpr fun m hm => ?_)
      exact (hmembers m (Table.mem_ofList hm)).2
  | broken f => cases h

theorem isProper_of_itemValues {room : Nat} {ts : List Tree} {vs : List Value}
    (h : itemValues room ts = .ok vs) : ∀ v ∈ vs, v.IsProper ∧ v.depth ≤ room := by
  cases ts with
  | nil =>
    cases h
    exact fun v hv => absurd hv List.not_mem_nil
  | cons t ts =>
    rw [itemValues] at h
    obtain ⟨v, hv, h⟩ := Outcome.bind_eq_ok.mp h
    obtain ⟨vs, hvs, h⟩ := Outcome.bind_eq_ok.mp h
    cases h
    exact List.forall_mem_cons.mpr ⟨isProper_of_value hv, isProper_of_itemValues hvs⟩

theorem isProper_of_memberValues {room : Nat} {ms : List (Option String × Tree)}
    {vs : List (String × Value)} (h : memberValues room ms = .ok vs) :
    ∀ m ∈ vs, m.2.IsProper ∧ m.2.depth ≤ room := by
  cases ms with
  | nil =>
    cases h
    exact fun v hv => absurd hv List.not_mem_nil
  | cons m ms =>
    rw [memberValues] at h
    obtain ⟨key, _, h⟩ := Outcome.bind_eq_ok.mp h
    obtain ⟨v, hv, h⟩ := Outcome.bind_eq_ok.mp h
    obtain ⟨vs, hvs, h⟩ := Outcome.bind_eq_ok.mp h
    cases h
    exact List.forall_mem_cons.mpr ⟨isProper_of_value hv, isProper_of_memberValues hvs⟩

end

end Tree

end Json

end CollectionArchive
