import CollectionArchive.Proofs.Json.Values

/-!
# Values of any depth are read back

The readers of an archive give up on texts that are nested too deeply, and may round a double. A
reader without these limits is given by the number that it takes each literal for.

* `Json.readBy`: what such a reader reads, with all members in the order of the text.
* `Json.Value.numbers`: the numbers in a value.
* **`Json.readBy_compact`**: the reader inverts the writer if it does so on the numbers.
-/

namespace CollectionArchive.Json

variable {numberOf : Literal → Option Number}

namespace Tree

mutual

/-- Any value, however deep it is nested. Its members stay in the order of the text. -/
def value? (numberOf : Literal → Option Number) : Tree → Option Value
  | .null => some .null
  | .bool b => some (.bool b)
  | .number l => (numberOf l).map Value.number
  | .text s => s.map Value.text
  | .array items none => (itemValues? numberOf items).map Value.array
  | .object members none => (memberValues? numberOf members).map Value.object
  | _ => none

def itemValues? (numberOf : Literal → Option Number) : List Tree → Option (List Value)
  | [] => some []
  | t :: ts => do return (← value? numberOf t) :: (← itemValues? numberOf ts)

def memberValues? (numberOf : Literal → Option Number) :
    List (Option String × Tree) → Option (List (String × Value))
  | [] => some []
  | (key, t) :: ms => do return (← key, ← value? numberOf t) :: (← memberValues? numberOf ms)

end

end Tree

/-- The value that a whole text holds. -/
def readBy (numberOf : Literal → Option Number) (s : String) : Option Value :=
  match Tree.ofText s with
  | (t, false) => t.value? numberOf
  | (_, true) => none

/-- The number is read back from its text. -/
def Number.IsReadBy (numberOf : Literal → Option Number) (n : Number) : Prop :=
  readBy numberOf n.text = some (.number n)

namespace Value

mutual

/-- The numbers in the value. -/
def numbers : Value → List Number
  | number n => [n]
  | array items => itemNumbers items
  | object members => memberNumbers members
  | _ => []

def itemNumbers : List Value → List Number
  | [] => []
  | v :: vs => numbers v ++ itemNumbers vs

def memberNumbers : List (String × Value) → List Number
  | [] => []
  | (_, v) :: ms => numbers v ++ memberNumbers ms

end

end Value

/-- Numbers that are read back where texts may not be nested too deeply are read back anyway. -/
theorem Number.IsReadBack.isReadBy {n : Number} (h : n.IsReadBack) :
    n.IsReadBy Literal.number? := by
  obtain ⟨hvalue, hmore⟩ := Reader.parse_eq_ok.mp h
  obtain ⟨l, htree, hl⟩ := Tree.value_eq_number hvalue
  have htext : Tree.ofText n.text = (.number l, false) := Prod.ext htree hmore
  rw [IsReadBy, readBy, htext]
  show (l.number?.map Value.number) = _
  rw [hl]
  rfl

/-- A number that is read back is a literal of its own. -/
theorem Number.IsReadBy.exists_writes {n : Number} (h : n.IsReadBy numberOf) :
    ∃ l, Tree.Writes n.chars (.number l) ∧ numberOf l = some n := by
  rw [IsReadBy, readBy] at h
  cases htext : Tree.ofText n.text with
  | mk t more =>
    rw [htext] at h
    cases more with
    | true => cases h
    | false =>
      obtain ⟨l, rfl, hl⟩ : ∃ l, t = .number l ∧ numberOf l = some n := by
        cases t with
        | number l =>
          obtain ⟨m, hm, hmn⟩ := Option.map_eq_some_iff.mp h
          exact ⟨l, rfl, hm.trans (congrArg some (Value.number.inj hmn))⟩
        | array items ending =>
          cases ending with
          | some f => cases h
          | none =>
            obtain ⟨_, _, heq⟩ := Option.map_eq_some_iff.mp h
            cases heq
        | object members ending =>
          cases ending with
          | some f => cases h
          | none =>
            obtain ⟨_, _, heq⟩ := Option.map_eq_some_iff.mp h
            cases heq
        | text s =>
          obtain ⟨_, _, heq⟩ := Option.map_eq_some_iff.mp h
          cases heq
        | null | bool | broken => cases h
      obtain ⟨negative, cs, hchars, hread⟩ := Number.exists_readLiteral htext
      exact ⟨l, hchars ▸ .literal hread, hl⟩

namespace Value

mutual

/-- The text of a value writes a tree of which the value is read. -/
theorem exists_writes (v : Value) (h : ∀ n ∈ v.numbers, n.IsReadBy numberOf) :
    ∃ t, Tree.Writes v.chars t ∧ t.value? numberOf = some v := by
  cases v with
  | null => exact ⟨.null, .null, rfl⟩
  | bool b => exact ⟨.bool b, .bool b, rfl⟩
  | number n =>
    obtain ⟨l, hwrites, hl⟩ := (h n List.mem_cons_self).exists_writes
    exact ⟨.number l, hwrites, by rw [Tree.value?, hl]; rfl⟩
  | text s => exact ⟨.text (some s), .text s, rfl⟩
  | array items =>
    obtain ⟨ts, hwrites, hread⟩ := exists_writes_itemChars items h
    exact ⟨.array ts none, .bracketed hwrites, by rw [Tree.value?, hread]; rfl⟩
  | object members =>
    obtain ⟨ms, hwrites, hread⟩ := exists_writes_memberChars members h
    exact ⟨.object ms none, .braced hwrites, by rw [Tree.value?, hread]; rfl⟩

theorem exists_writes_itemChars (items : List Value)
    (h : ∀ n ∈ itemNumbers items, n.IsReadBy numberOf) :
    ∃ ts, List.Forall₂ Tree.Writes (itemChars items) ts ∧
      Tree.itemValues? numberOf ts = some items := by
  cases items with
  | nil => exact ⟨[], .nil, rfl⟩
  | cons v vs =>
    obtain ⟨hv, hvs⟩ := List.forall_mem_append.mp h
    obtain ⟨t, hwrites, hread⟩ := exists_writes v hv
    obtain ⟨ts, hrest, hreads⟩ := exists_writes_itemChars vs hvs
    exact ⟨t :: ts, .cons hwrites hrest, by rw [Tree.itemValues?, hread, hreads]; rfl⟩

theorem exists_writes_memberChars (members : List (String × Value))
    (h : ∀ n ∈ memberNumbers members, n.IsReadBy numberOf) :
    ∃ ms, List.Forall₂ Tree.Writes.Member (memberChars members) ms ∧
      Tree.memberValues? numberOf ms = some members := by
  cases members with
  | nil => exact ⟨[], .nil, rfl⟩
  | cons m ms =>
    obtain ⟨key, v⟩ := m
    obtain ⟨hv, hms⟩ := List.forall_mem_append.mp h
    obtain ⟨t, hwrites, hread⟩ := exists_writes v hv
    obtain ⟨ts, hrest, hreads⟩ := exists_writes_memberChars ms hms
    exact ⟨(some key, t) :: ts, .cons ⟨rfl, hwrites⟩ hrest,
      by rw [Tree.memberValues?, hread, hreads]; rfl⟩

end

end Value

/-- **The reader inverts the writer** on a value if it does so on the numbers in it. -/
theorem readBy_compact {v : Value} (h : ∀ n ∈ v.numbers, n.IsReadBy numberOf) :
    readBy numberOf v.compact = some v := by
  obtain ⟨t, hwrites, hread⟩ := v.exists_writes h
  rw [readBy, Value.compact, Tree.ofText_of_writes hwrites]
  exact hread

end CollectionArchive.Json
