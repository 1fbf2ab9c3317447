import CollectionArchive.Proofs.Link.Kinds
import CollectionArchive.Proofs.Schema.Leaves

/-!
# Walks

A walk goes over a tree without recursion. It keeps a stack of the properties that it has yet to
visit. In one turn it takes the last of them off: a leaf is yielded, and a box puts its children on
the stack, its last child first.

* `Property.preorder`: all properties of a tree; `Property.leaves_eq_filter`: its leaves are those
  among them that are no boxes.
* `Leaves.Turn`, `Leaves.Call`: a turn, and the turns that yield the next leaf.
* `Turn.leavesOf_eq`, `Turn.countOf_eq`: what a turn preserves, and what it uses up.
* **`Leaves.call_iff`**: the next leaf of a walk is that of the turns, however they are made.
* **`Leaves.yields_iff`**: a walk comes to its end, after as many turns as properties are left.
* `Property.Walks`: the walks under way over a tree, which are started, continued and copied in any
  order.
* **`Property.leaves_of_walks`**: each of them yields all leaves of the tree, once and in order.
-/

namespace CollectionArchive

/-! ## All properties of a tree -/

namespace Property

mutual

/-- The properties of a tree, each box before what is inside of it. -/
def preorder : Property → List Property
  | leaf t i k c h => [leaf t i k c h]
  | box t c h cs => box t c h cs :: preorderOf cs

def preorderOf : List Property → List Property
  | [] => []
  | p :: ps => preorder p ++ preorderOf ps

end

theorem isBox_leaf (t : String) (i : Identifier) (k : LeafKind) (c : Option Json.Object)
    (h : Bool) : (leaf t i k c h).isBox = false :=
  k.property

theorem isBox_box (t : String) (c : Option Json.Object) (h : Bool) (cs : List Property) :
    (box t c h cs).isBox = true :=
  rfl

mutual

/-- The leaves are the properties that are no boxes. -/
theorem leaves_eq_filter (p : Property) : p.leaves = p.preorder.filter (!·.isBox) := by
  cases p with
  | leaf => simp [leaves, preorder, isBox_leaf]
  | box t c h cs => simp [leaves, preorder, isBox_box, leavesOf_eq_filter cs]

theorem leavesOf_eq_filter (ps : List Property) :
    leavesOf ps = (preorderOf ps).filter (!·.isBox) := by
  cases ps with
  | nil => rfl
  | cons p ps =>
    simp [leavesOf, preorderOf, leaves_eq_filter p, leavesOf_eq_filter ps]

end

end Property

namespace Leaves

open Property (countOf leavesOf)

/-! ## Turns -/

/-- The properties that a walk has yet to visit, the next one last. -/
def stack (w : Leaves) : List Property :=
  w.pending.reverse

/-- A turn takes the last property off the stack. -/
inductive Turn : List Property → Option Property → List Property → Prop
  | yields (below : List Property) (t : String) (i : Identifier) (k : LeafKind)
    (c : Option Json.Object) (h : Bool) :
    Turn (below ++ [.leaf t i k c h]) (some (.leaf t i k c h)) below
  | opens (below : List Property) (t : String) (c : Option Json.Object) (h : Bool)
    (cs : List Property) : Turn (below ++ [.box t c h cs]) none (below ++ cs.reverse)

/-- The turns of a call for the next leaf: boxes are opened until a leaf comes or the stack is
empty. -/
inductive Call : List Property → Nat → Option Property → List Property → Prop
  | ended : Call [] 0 none []
  | found {s s' : List Property} {p : Property} (turn : Turn s (some p) s') : Call s 1 (some p) s'
  | goesOn {s s' s'' : List Property} {n : Nat} {next : Option Property} (turn : Turn s none s')
    (call : Call s' n next s'') : Call s (n + 1) next s''

variable {w : Leaves} {s s' : List Property} {next : Option Property} {n : Nat}

/-- What is yielded in a turn and what is left after it are the leaves that were left before. -/
theorem Turn.leavesOf_eq (h : Turn s next s') :
    leavesOf s.reverse = next.toList ++ leavesOf s'.reverse := by
  cases h with
  | yields => simp [leavesOf, Property.leaves]
  | opens => simp [leavesOf, Property.leaves, leavesOf_append]

/-- A turn uses up one property, however many it puts on the stack. -/
theorem Turn.countOf_eq (h : Turn s next s') : countOf s.reverse = 1 + countOf s'.reverse := by
  cases h with
  | yields => simp [countOf, Property.count]
  | opens => simp [countOf, Property.count, Property.countOf_append, Nat.add_assoc]

theorem Call.leavesOf_eq (h : Call s n next s') :
    leavesOf s.reverse = next.toList ++ leavesOf s'.reverse := by
  induction h with
  | ended => rfl
  | found turn => exact turn.leavesOf_eq
  | goesOn turn _ ih => rw [turn.leavesOf_eq, ih, Option.toList_none, List.nil_append]

theorem Call.countOf_eq (h : Call s n next s') :
    countOf s.reverse = n + countOf s'.reverse := by
  induction h with
  | ended => rfl
  | found turn => exact turn.countOf_eq
  | goesOn turn _ ih => rw [turn.countOf_eq, ih, ← Nat.add_assoc, Nat.add_comm 1]

/-! ## Calls -/

/-- The walk after a call for its next leaf. -/
def rest (w : Leaves) : Leaves :=
  w.next?.elim ⟨[]⟩ Prod.snd

theorem next?_nil : next? ⟨[]⟩ = none := by
  rw [next?, pop?]
  rfl

theorem next?_leaf (t : String) (i : Identifier) (k : LeafKind) (c : Option Json.Object) (h : Bool)
    (ps : List Property) : next? ⟨.leaf t i k c h :: ps⟩ = some (.leaf t i k c h, ⟨ps⟩) := by
  rw [next?, pop?]
  rfl

theorem next?_box (t : String) (c : Option Json.Object) (h : Bool) (cs ps : List Property) :
    next? ⟨.box t c h cs :: ps⟩ = next? ⟨cs ++ ps⟩ := by
  rw [next?, pop?, next?]

/-- A call for the next leaf comes to its end. -/
theorem exists_call (w : Leaves) : ∃ n, Call w.stack n (w.next?.map Prod.fst) w.rest.stack := by
  obtain ⟨pending⟩ := w
  fun_induction pop? pending with
  | case1 =>
    rw [rest, next?_nil]
    exact ⟨0, .ended⟩
  | case2 t i k c h ps =>
    rw [rest, next?_leaf, stack, List.reverse_cons]
    exact ⟨1, .found (.yields _ t i k c h)⟩
  | case3 t c h cs ps ih =>
    obtain ⟨n, hcall⟩ := ih
    rw [stack, List.reverse_append] at hcall
    rw [rest, next?_box, stack, List.reverse_cons]
    exact ⟨n + 1, .goesOn (.opens _ t c h cs) hcall⟩

/-- The turns of a call are determined. -/
theorem Call.unique (h : Call s n next s') :
    next = (next? ⟨s.reverse⟩).map Prod.fst ∧ s' = (rest ⟨s.reverse⟩).stack := by
  induction h with
  | ended => simp [rest, next?_nil, stack]
  | found turn =>
    cases turn with
    | yields below t i k c h => simp [rest, next?_leaf, stack]
  | goesOn turn _ ih =>
    cases turn with
    | opens below t c h cs => simpa [rest, next?_box] using ih

/-- **A call for the next leaf does what the turns do**: it comes to its end, and each property
that is gone from the stack after it has had its turn. -/
theorem call_iff : Call w.stack n next s' ↔ next = w.next?.map Prod.fst ∧ s' = w.rest.stack ∧
    n + countOf w.rest.pending = countOf w.pending := by
  have hcount {n : Nat} (h : Call w.stack n (w.next?.map Prod.fst) w.rest.stack) :
      n + countOf w.rest.pending = countOf w.pending := by
    simpa [stack] using h.countOf_eq.symm
  constructor
  · intro h
    obtain ⟨hnext, hrest⟩ := h.unique
    have hw : ⟨w.stack.reverse⟩ = w := congrArg Leaves.mk (List.reverse_reverse w.pending)
    rw [hw] at hnext hrest
    subst hnext hrest
    exact ⟨rfl, rfl, hcount h⟩
  · rintro ⟨rfl, rfl, hn⟩
    obtain ⟨m, h⟩ := w.exists_call
    obtain rfl : n = m := by have := hcount h; omega
    exact h

/-! ## Whole walks -/

/-- The leaves that come from a stack until a call yields none, and the turns that it takes. -/
inductive Yields : List Property → Nat → List Property → Prop
  | nil {s s' : List Property} {n : Nat} (call : Call s n none s') : Yields s n []
  | cons {s s' ps : List Property} {n m : Nat} {p : Property} (call : Call s n (some p) s')
    (rest : Yields s' m ps) : Yields s (n + m) (p :: ps)

theorem toList_eq (w : Leaves) : w.toList = leavesOf w.pending :=
  collect_eq_leavesOf w.pending

/-- What a call yields and what is still to come after it was still to come before. -/
theorem toList_rest (w : Leaves) : w.toList = (w.next?.map Prod.fst).toList ++ w.rest.toList := by
  obtain ⟨n, h⟩ := w.exists_call
  simpa [stack, toList_eq] using h.leavesOf_eq

theorem pending_rest (h : w.next? = none) : w.rest.pending = [] := by
  rw [rest, h]
  rfl

theorem Yields.eq_leavesOf {turns : Nat} {ps : List Property} (h : Yields s turns ps) :
    turns = countOf s.reverse ∧ ps = leavesOf s.reverse := by
  induction h with
  | @nil s s' n call =>
    have hrest : s' = [] := by
      obtain ⟨hnext, hrest⟩ := call.unique
      have hpending := pending_rest (Option.map_eq_none_iff.mp hnext.symm)
      rw [hrest, stack, hpending, List.reverse_nil]
    subst hrest
    exact ⟨by simpa [countOf] using call.countOf_eq.symm,
      by simpa [leavesOf] using call.leavesOf_eq.symm⟩
  | cons call _ ih =>
    obtain ⟨rfl, rfl⟩ := ih
    exact ⟨call.countOf_eq.symm, call.leavesOf_eq.symm⟩

theorem yields (w : Leaves) : Yields w.stack (countOf w.pending) w.toList := by
  obtain ⟨n, hcall⟩ := w.exists_call
  have hturns := (call_iff.mp hcall).2.2
  cases hnext : w.next? with
  | none =>
    rw [hnext] at hcall
    rw [toList_rest, hnext, toList_eq, pending_rest hnext, ← hturns, pending_rest hnext]
    exact .nil hcall
  | some next =>
    obtain ⟨p, w'⟩ := next
    obtain rfl : w.rest = w' := by rw [rest, hnext]; rfl
    have hless : countOf w.rest.pending < countOf w.pending := by
      obtain ⟨⟨q, ps⟩, hpop, heq⟩ := Option.map_eq_some_iff.mp hnext
      rw [← (Prod.mk.inj heq).2]
      exact countOf_of_pop? hpop
    rw [hnext] at hcall
    rw [toList_rest, hnext, ← hturns]
    exact .cons hcall (yields w.rest)
termination_by countOf w.pending

/-- **A walk comes to its end**, after as many turns as there are properties left, and it yields
the leaves that were still to come. -/
theorem yields_iff {turns : Nat} {ps : List Property} :
    Yields w.stack turns ps ↔ turns = countOf w.pending ∧ ps = w.toList := by
  constructor
  · intro h
    simpa [stack, toList_eq] using h.eq_leavesOf
  · rintro ⟨rfl, rfl⟩
    exact w.yields

end Leaves

/-! ## Walks under way -/

namespace Property

/-- The walks under way over a tree, each with the leaves that it has yielded so far. A copy of a
walk has yielded what the walk itself has. -/
inductive Walks (p : Property) : List (List Property × Leaves) → Prop
  | none : Walks p []
  | start {ws : List (List Property × Leaves)} (walks : Walks p ws) : Walks p (([], p.walk) :: ws)
  | copy {ws : List (List Property × Leaves)} {x : List Property × Leaves} (walks : Walks p ws)
    (mem : x ∈ ws) : Walks p (x :: ws)
  | advance {front back : List (List Property × Leaves)} {seen : List Property} {w : Leaves}
    (walks : Walks p (front ++ (seen, w) :: back)) :
    Walks p (front ++ (seen ++ (w.next?.map Prod.fst).toList, w.rest) :: back)

/-- What a walk has yielded and what it has still to yield are the leaves of the tree. -/
theorem Walks.leaves_eq {p : Property} {ws : List (List Property × Leaves)} (h : p.Walks ws) :
    ∀ x ∈ ws, x.1 ++ x.2.toList = p.leaves := by
  induction h with
  | none => exact List.forall_mem_nil _
  | start _ ih => exact List.forall_mem_cons.mpr ⟨Leaves.toList_walk p, ih⟩
  | copy _ mem ih => exact List.forall_mem_cons.mpr ⟨ih _ mem, ih⟩
  | @advance front back seen w _ ih =>
    rw [List.forall_mem_append, List.forall_mem_cons] at ih ⊢
    obtain ⟨hfront, hw, hback⟩ := ih
    refine ⟨hfront, ?_, hback⟩
    rw [List.append_assoc, ← Leaves.toList_rest]
    exact hw

/-- **Each walk yields all leaves of the tree, once and in order.** Whichever walks were started,
continued and copied, each of them comes to its end, and what it has yielded so far, with what it
then yields, are the properties of the tree that are no boxes. -/
theorem leaves_of_walks {p : Property} {walks : List (List Property × Leaves)} {w : Leaves}
    {seen : List Property} (h : p.Walks walks) (hw : (seen, w) ∈ walks) :
    ∃ rest, seen ++ rest = p.preorder.filter (!·.isBox) ∧
      ∀ turns later, Leaves.Yields w.stack turns later ↔
        turns = countOf w.pending ∧ later = rest := by
  refine ⟨w.toList, ?_, fun turns later => Leaves.yields_iff⟩
  rw [← leaves_eq_filter]
  exact h.leaves_eq _ hw

/-- A leaf of a title. -/
def titled (title : String) : Property :=
  leaf title .zero .link none false

/-- Boxes in a box, the first one empty. -/
def branched : Property :=
  boxed "" [boxed "" [], titled "a", boxed "" [titled "b"]]

/-- After its first call a walk over the boxes has yet to open the last of them. -/
theorem next?_walk_branched :
    branched.walk.next? = some (titled "a", ⟨[boxed "" [titled "b"]]⟩) := by
  simp only [branched, walk, boxed, titled, Leaves.next?_box, List.cons_append, List.nil_append,
    Leaves.next?_leaf]

/-- A walk and its copy both yield the leaf of the last box. -/
theorem leaves_of_walks_branched : ∃ w,
    branched.Walks [([titled "a"], w), ([titled "a"], w)] ∧
      Leaves.Yields w.stack 2 [titled "b"] := by
  have hrest : branched.walk.rest = ⟨[boxed "" [titled "b"]]⟩ := by
    rw [Leaves.rest, next?_walk_branched]
    rfl
  have hwalks : branched.Walks [([titled "a"], branched.walk.rest)] := by
    have hstart : branched.Walks ([] ++ ([], branched.walk) :: []) := .start .none
    have hnext := hstart.advance
    rwa [next?_walk_branched] at hnext
  refine ⟨_, hwalks.copy List.mem_cons_self, ?_⟩
  obtain ⟨rest, hleaves, hyields⟩ := leaves_of_walks (hwalks.copy List.mem_cons_self)
    List.mem_cons_self
  obtain rfl : [titled "b"] = rest := (List.cons.inj hleaves).2.symm
  exact (hyields _ _).mpr ⟨by rw [hrest]; rfl, rfl⟩

end Property

end CollectionArchive
