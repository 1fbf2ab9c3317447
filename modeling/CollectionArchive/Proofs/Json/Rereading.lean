import CollectionArchive.Proofs.Json.Literals

/-!
# What is read of what is written

The reader rounds where a literal has many digits or a large exponent, so a double need not be read
back from its text. All else in a value is.

* `Binary64.Finite.reread?`: the double that is read from the text of a double.
* `Json.Value.reread?`: the value with each double replaced by the one that is read from its text.
* **`Json.Value.IsProper.exists_writes_reread`**: this is what is read from the text of a value.
* `Json.Value.reread?_eq_some_self`, **`Json.Value.IsReadBack.exists_writes`**: a value is read back
  if its doubles are.
* `Json.Value.get?_rereadMembers?`: what is under a key is read from what was under it.
-/

namespace CollectionArchive

open Binary64 (Finite)

/-- The double that is read from the text of a double; none if the text is out of range. -/
def Binary64.Finite.reread? (x : Finite) : Option Finite :=
  match Json.parse (Json.Number.double x).text with
  | .ok (.number (.double y)) => some y
  | _ => none

namespace Json

/-- What is read where something may be out of range. -/
def orMalformed {α : Type} (found : Option α) : Except Fault α :=
  found.elim (.error .malformed) .ok

/-! ## Numbers -/

namespace Number

/-- A literal with a point or an exponent is a double, if it is in range. -/
theorem number?_of_isFloat {l : Literal} (h : (l.fraction.isNone && l.exponent.isNone) = false) :
    l.number? = l.toDouble?.map .double := by
  simp [Literal.number?, h]

theorem parse_of_writes {n : Number} {l : Literal} (h : Tree.Writes n.chars (.number l)) :
    Json.parse n.text = orMalformed (l.number?.map .number) := by
  rw [Json.parse, Reader.parse, text, Tree.ofText_of_writes h]
  simp only [Reader.value, Tree.value, bind, Except.bind]
  cases l.number? <;> rfl

/-- The text of a double is a literal of what is read from it. -/
theorem exists_writes_double (x : Finite) :
    ∃ l, Tree.Writes (double x).chars (.number l) ∧ l.number? = x.reread?.map .double := by
  obtain ⟨negative, cs, hchars, l, hread, hfloat⟩ := exists_isFloatLiteral x
  have hwrites : Tree.Writes (double x).chars (.number l) := hchars ▸ .literal hread
  refine ⟨l, hwrites, ?_⟩
  rw [Finite.reread?, parse_of_writes hwrites, number?_of_isFloat hfloat]
  cases l.toDouble? <;> rfl

theorem isReadBack_iff {x : Finite} : (double x).IsReadBack ↔ x.reread? = some x := by
  obtain ⟨l, hwrites, hl⟩ := exists_writes_double x
  rw [IsReadBack, parse_of_writes hwrites, hl]
  cases x.reread? with
  | none => exact ⟨nofun, nofun⟩
  | some y => simp [orMalformed]

end Number

/-! ## Values -/

namespace Value

mutual

/-- The value with each double replaced by the one that is read from its text; none if one of these
texts is out of range. -/
def reread? : Value → Option Value
  | number (.double x) => x.reread?.map fun y => number (.double y)
  | array items => (rereadItems? items).map array
  | object members => (rereadMembers? members).map object
  | v => some v

def rereadItems? : List Value → Option (List Value)
  | [] => some []
  | v :: vs => do return (← reread? v) :: (← rereadItems? vs)

def rereadMembers? : List (String × Value) → Option (List (String × Value))
  | [] => some []
  | (k, v) :: ms => do return (k, ← reread? v) :: (← rereadMembers? ms)

end

/-- What is read where there is room for the brackets of the value. -/
def IsRereadFrom (v : Value) (t : Tree) : Prop :=
  ∀ room, v.depth ≤ room → t.value room = orMalformed v.reread?

theorem exists_writes_rereadItems {items : List Value}
    (h : ∀ v ∈ items, ∃ t, Tree.Writes v.chars t ∧ v.IsRereadFrom t) :
    ∃ ts, List.Forall₂ Tree.Writes (itemChars items) ts ∧ ∀ room, itemDepth items ≤ room →
      Tree.itemValues room ts = orMalformed (rereadItems? items) := by
  induction items with
  | nil => exact ⟨[], .nil, fun _ _ => rfl⟩
  | cons v items ih =>
    obtain ⟨t, hwrites, hread⟩ := h v List.mem_cons_self
    obtain ⟨ts, hwritten, hreads⟩ := ih fun w hw => h w (List.mem_cons_of_mem v hw)
    refine ⟨t :: ts, .cons hwrites hwritten, fun room hroom => ?_⟩
    rw [itemDepth, Nat.max_le] at hroom
    rw [Tree.itemValues, hread room hroom.1, hreads room hroom.2, rereadItems?]
    cases v.reread? with
    | none => rfl
    | some _ => cases rereadItems? items <;> rfl

theorem exists_writes_rereadMembers {members : List (String × Value)}
    (h : ∀ m ∈ members, ∃ t, Tree.Writes m.2.chars t ∧ m.2.IsRereadFrom t) :
    ∃ ms, List.Forall₂ Tree.Writes.Member (memberChars members) ms ∧
      ∀ room, memberDepth members ≤ room →
        Tree.memberValues room ms = orMalformed (rereadMembers? members) := by
  induction members with
  | nil => exact ⟨[], .nil, fun _ _ => rfl⟩
  | cons m members ih =>
    obtain ⟨key, v⟩ := m
    obtain ⟨t, hwrites, hread⟩ := h (key, v) List.mem_cons_self
    obtain ⟨ms, hwritten, hreads⟩ := ih fun w hw => h w (List.mem_cons_of_mem (key, v) hw)
    refine ⟨(some key, t) :: ms, .cons ⟨rfl, hwrites⟩ hwritten, fun room hroom => ?_⟩
    rw [memberDepth, Nat.max_le] at hroom
    rw [Tree.memberValues, hread room hroom.1, hreads room hroom.2, rereadMembers?]
    cases v.reread? with
    | none => rfl
    | some _ => cases rereadMembers? members <;> rfl

theorem keys_rereadMembers? {members read : List (String × Value)}
    (h : rereadMembers? members = some read) : read.map Prod.fst = members.map Prod.fst := by
  induction members generalizing read with
  | nil =>
    cases h
    rfl
  | cons m members ih =>
    obtain ⟨v, _, h⟩ := Option.bind_eq_some_iff.mp h
    obtain ⟨rest, hrest, h⟩ := Option.bind_eq_some_iff.mp h
    cases h
    rw [List.map_cons, List.map_cons, ih hrest]

/-- What is under a key is read from what was under it. -/
theorem get?_rereadMembers? {members read : Object} (h : rereadMembers? members = some read)
    (key : String) : read.get? key = (members.get? key).bind reread? := by
  induction members generalizing read with
  | nil =>
    cases h
    rfl
  | cons m members ih =>
    obtain ⟨v, hv, h⟩ := Option.bind_eq_some_iff.mp h
    obtain ⟨rest, hrest, h⟩ := Option.bind_eq_some_iff.mp h
    cases h
    rw [Table.get?_cons, Table.get?_cons, ih hrest]
    split_ifs
    · exact hv.symm
    · rfl

theorem ascending_rereadMembers? {members read : Object} (h : rereadMembers? members = some read)
    (ascending : members.Ascending) : Table.Ascending read := by
  have hkeys := keys_rereadMembers? h
  rw [Table.Ascending, ← List.pairwise_map (f := Prod.fst)
    (R := fun a b : String => Ordered.precedes a b = true)] at ascending ⊢
  rwa [hkeys]

/-- **This is what is read from the text of a proper value**, where there is room for its
brackets. -/
theorem IsProper.exists_writes_reread {v : Value} (h : v.IsProper) :
    ∃ t, Tree.Writes v.chars t ∧ v.IsRereadFrom t := by
  induction h with
  | null => exact ⟨.null, .null, fun _ _ => rfl⟩
  | bool b => exact ⟨.bool b, .bool b, fun _ _ => rfl⟩
  | integer h =>
    obtain ⟨l, hwrites, hl⟩ := Tree.Writes.number (Number.isWritten_integer h)
    refine ⟨.number l, hwrites, fun room _ => ?_⟩
    rw [Tree.value, hl]
    rfl
  | double x =>
    obtain ⟨l, hwrites, hl⟩ := Number.exists_writes_double x
    refine ⟨.number l, hwrites, fun room _ => ?_⟩
    rw [Tree.value, hl, Option.map_map]
    rfl
  | text s => exact ⟨.text (some s), .text s, fun _ _ => rfl⟩
  | @array items _ ih =>
    obtain ⟨ts, hwrites, hread⟩ := exists_writes_rereadItems ih
    refine ⟨.array ts none, .bracketed hwrites, fun room hroom => ?_⟩
    rw [depth] at hroom
    cases room with
    | zero => exact absurd hroom (Nat.not_succ_le_zero _)
    | succ room =>
      have hitems := hread room (Nat.le_of_succ_le_succ hroom)
      simp only [Tree.value, Tree.enter, bind, Except.bind, hitems]
      rw [reread?]
      cases rereadItems? items <;> rfl
  | @object members hkeys _ ih =>
    obtain ⟨ms, hwrites, hread⟩ := exists_writes_rereadMembers ih
    refine ⟨.object ms none, .braced hwrites, fun room hroom => ?_⟩
    rw [depth] at hroom
    cases room with
    | zero => exact absurd hroom (Nat.not_succ_le_zero _)
    | succ room =>
      have hmembers := hread room (Nat.le_of_succ_le_succ hroom)
      simp only [Tree.value, Tree.enter, bind, Except.bind, hmembers]
      rw [reread?]
      cases hreread : rereadMembers? members with
      | none => rfl
      | some read =>
        have hread := Table.ofList_of_ascending (ascending_rereadMembers? hreread hkeys)
        simp only [orMalformed, Option.elim_some, Tree.finish, hread]
        rfl

/-! ## Values that are read back -/

mutual

/-- A value is read back if its doubles are. -/
theorem reread?_eq_some_self (v : Value) :
    v.reread? = some v ↔ ∀ x ∈ v.doubles, (Number.double x).IsReadBack := by
  cases v with
  | null | bool | text => exact iff_of_true rfl (List.forall_mem_nil _)
  | number n =>
    cases n with
    | integer i => exact iff_of_true rfl (List.forall_mem_nil _)
    | double x =>
      rw [doubles, List.forall_mem_singleton, Number.isReadBack_iff, reread?,
        Option.map_eq_some_iff]
      simp
  | array items =>
    rw [reread?, doubles, ← rereadItems?_eq_some_self items]
    simp
  | object members =>
    rw [reread?, doubles, ← rereadMembers?_eq_some_self members]
    simp

theorem rereadItems?_eq_some_self (vs : List Value) :
    rereadItems? vs = some vs ↔ ∀ x ∈ itemDoubles vs, (Number.double x).IsReadBack := by
  cases vs with
  | nil => exact iff_of_true rfl (List.forall_mem_nil _)
  | cons v vs =>
    rw [itemDoubles, List.forall_mem_append, ← reread?_eq_some_self v,
      ← rereadItems?_eq_some_self vs, rereadItems?]
    simp [Option.bind_eq_some_iff]

theorem rereadMembers?_eq_some_self (ms : List (String × Value)) :
    rereadMembers? ms = some ms ↔ ∀ x ∈ memberDoubles ms, (Number.double x).IsReadBack := by
  cases ms with
  | nil => exact iff_of_true rfl (List.forall_mem_nil _)
  | cons m ms =>
    obtain ⟨key, v⟩ := m
    rw [memberDoubles, List.forall_mem_append, ← reread?_eq_some_self v,
      ← rereadMembers?_eq_some_self ms, rereadMembers?]
    simp [Option.bind_eq_some_iff]

end

/-- **The text of a proper value is read back**, if its doubles are, where there is room for its
brackets. -/
theorem IsReadBack.exists_writes {v : Value} (h : v.IsReadBack) :
    ∃ t, Tree.Writes v.chars t ∧ v.IsReadFrom t := by
  obtain ⟨t, hwrites, hread⟩ := h.1.exists_writes_reread
  refine ⟨t, hwrites, fun room hroom => ?_⟩
  rw [hread room hroom, (reread?_eq_some_self v).mpr h.2]
  rfl

end Value

end Json

end CollectionArchive
