import CollectionArchive.Schema.Property

/-!
# Walking over leaves

A walk yields the leaves of a property one by one. It keeps the properties that it has yet to visit,
the next one first, and opens a box when it comes to one.

* `Leaves`: the state of a walk; `Property.walk` starts one.
* `Leaves.next?`: the next leaf, and the rest of the walk.
* `Leaves.toList`: all leaves that are still to come.
-/

namespace CollectionArchive

namespace Property

mutual

/-- The number of properties in a tree. -/
def count : Property → Nat
  | leaf _ _ _ _ _ => 1
  | box _ _ _ cs => 1 + countOf cs

def countOf : List Property → Nat
  | [] => 0
  | p :: ps => count p + countOf ps

end

theorem countOf_append (ps qs : List Property) : countOf (ps ++ qs) = countOf ps + countOf qs := by
  induction ps with
  | nil => simp [countOf]
  | cons p ps ih => simp [countOf, ih, Nat.add_assoc]

end Property

/-- A walk over leaves: the properties that it has yet to visit. -/
structure Leaves where
  pending : List Property

/-- A walk over the leaves of a property. -/
def Property.walk (p : Property) : Leaves :=
  ⟨[p]⟩

namespace Leaves

/-- The next leaf among properties to visit, and what is left to visit after it. -/
def pop? (pending : List Property) : Option (Property × List Property) :=
  match pending with
  | [] => none
  | .leaf t i k c h :: rest => some (.leaf t i k c h, rest)
  | .box _ _ _ cs :: rest => pop? (cs ++ rest)
termination_by Property.countOf pending
decreasing_by simp [Property.countOf, Property.count, Property.countOf_append]

/-- The next leaf, and the rest of the walk. -/
def next? (w : Leaves) : Option (Property × Leaves) :=
  (pop? w.pending).map fun (p, rest) => (p, ⟨rest⟩)

theorem countOf_of_pop? {pending rest : List Property} {p : Property}
    (h : pop? pending = some (p, rest)) : Property.countOf rest < Property.countOf pending := by
  fun_induction pop? pending with
  | case1 => simp at h
  | case2 t i k c hid rest' =>
    simp only [Option.some.injEq, Prod.mk.injEq] at h
    simp [← h.2, Property.countOf, Property.count]
  | case3 t c hid cs rest' ih =>
    have := ih h
    simp only [Property.countOf_append, Property.countOf, Property.count] at *
    omega

/-- All leaves that are still to come. -/
def collect (pending : List Property) : List Property :=
  match _h : pop? pending with
  | none => []
  | some (p, rest) => p :: collect rest
termination_by Property.countOf pending
decreasing_by exact countOf_of_pop? _h

/-- All leaves that are still to come. -/
def toList (w : Leaves) : List Property :=
  collect w.pending

/-! ## Walks and trees -/

theorem leavesOf_append (ps qs : List Property) :
    Property.leavesOf (ps ++ qs) = Property.leavesOf ps ++ Property.leavesOf qs := by
  induction ps with
  | nil => rfl
  | cons p ps ih => simp [Property.leavesOf, ih]

theorem leavesOf_of_pop?_none {pending : List Property} (h : pop? pending = none) :
    Property.leavesOf pending = [] := by
  fun_induction pop? pending with
  | case1 => rfl
  | case2 => simp at h
  | case3 t c hid cs rest ih =>
    rw [Property.leavesOf, Property.leaves, ← leavesOf_append]
    exact ih h

theorem leavesOf_of_pop?_some {pending rest : List Property} {p : Property}
    (h : pop? pending = some (p, rest)) :
    Property.leavesOf pending = p :: Property.leavesOf rest := by
  fun_induction pop? pending with
  | case1 => simp at h
  | case2 t i k c hid rest' =>
    simp only [Option.some.injEq, Prod.mk.injEq] at h
    obtain ⟨rfl, rfl⟩ := h
    rfl
  | case3 t c hid cs rest' ih =>
    rw [Property.leavesOf, Property.leaves, ← leavesOf_append]
    exact ih h

/-- A walk yields the leaves of what it has yet to visit, in their order. -/
theorem collect_eq_leavesOf (pending : List Property) :
    collect pending = Property.leavesOf pending := by
  fun_induction collect pending with
  | case1 pending h => exact (leavesOf_of_pop?_none h).symm
  | case2 pending p rest h ih => rw [leavesOf_of_pop?_some h, ih]

theorem toList_walk (p : Property) : p.walk.toList = p.leaves := by
  rw [toList, Property.walk, collect_eq_leavesOf, Property.leavesOf, Property.leavesOf,
    List.append_nil]

end Leaves

end CollectionArchive
