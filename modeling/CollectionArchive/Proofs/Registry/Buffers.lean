import CollectionArchive.Proofs.Node.Text
import CollectionArchive.Proofs.Registry.Calls

/-!
# Buffers that can fail

A node that is staged puts its line at the end of a buffer. Where that fails, a part of the line may
be left behind. It is never the whole line, so a line that is ended is the line of a node that was
staged and counted.

* `LawfulBuffer`, `LawfulSource`: buffers that start empty and keep what they are given.
* `LawfulFile`: files of this kind; `LimitedFile`: a file with room for so many bytes.
* `CheckedRegistry.HasStaged`: a registry with more nodes that wait for a collection.
* `CheckedRegistry.addNode_succeeds`, `CheckedRegistry.addNode_fails`: when a node is taken.
* **`CheckedRegistry.hasStaged_of_addNodes`**: a batch that fails has staged the nodes before the
  one that failed.
-/

namespace CollectionArchive

/-! ## Buffers -/

/-- A buffer that keeps the lines it is given. -/
class LawfulBuffer (β : Type) [Buffer β] where
  /-- All that is in the buffer. -/
  lines : β → Bytes
  append_ok {b b' : β} {n : Node} (h : Buffer.append b n = (.ok (), b')) :
    lines b' = lines b ++ nodeLines [n]
  /-- Where a node is not added, a part of its text may be. -/
  append_error {b b' : β} {n : Node} {e : RegistryError} (h : Buffer.append b n = (.error e, b')) :
    ∃ part, part <+: Bytes.ofText n.json ∧ lines b' = lines b ++ part
  content_ok {b : β} {data : Bytes} (h : Buffer.content b = .ok data) : data = lines b

/-- New buffers are empty. -/
class LawfulSource (δ : Type) {β : Type} [BufferSource δ β] [Buffer β] [LawfulBuffer β] : Prop where
  create_ok {d d' : δ} {b : β} (h : BufferSource.create d = (.ok b, d')) : LawfulBuffer.lines b = []

theorem nodeLines_append (ns ms : List Node) : nodeLines (ns ++ ms) = nodeLines ns ++ nodeLines ms :=
  List.flatMap_append

theorem nodeLines_singleton (n : Node) :
    nodeLines [n] = Bytes.ofText n.json ++ [Bytes.lineFeed] :=
  List.flatMap_singleton _ _

instance : LawfulBuffer (List Node) where
  lines := nodeLines
  append_ok {ns ns' n} h := by
    obtain rfl := (Prod.mk.inj h).2
    exact nodeLines_append ns [n]
  append_error h := nomatch (Prod.mk.inj h).1
  content_ok h := (Except.ok.inj h).symm

instance : LawfulSource Unit where
  create_ok h := by
    obtain rfl := Except.ok.inj (Prod.mk.inj h).1
    rfl

/-! ## Files -/

/-- A file that keeps what is written to it. What fails has written less than it was given. -/
class LawfulFile (φ : Type) [TemporaryFile φ] where
  contents : φ → Bytes
  write_ok {f f' : φ} {data : Bytes} (h : TemporaryFile.write f data = (.ok (), f')) :
    contents f' = contents f ++ data
  write_error {f f' : φ} {data : Bytes} {reason : String}
    (h : TemporaryFile.write f data = (.error reason, f')) :
    ∃ part, part <+: data ∧ part.length < data.length ∧ contents f' = contents f ++ part
  read_ok {f : φ} {data : Bytes} (h : TemporaryFile.read f = .ok data) : data = contents f

namespace StagingFile

variable {φ : Type} [TemporaryFile φ] [LawfulFile φ] {b b' : StagingFile φ} {n : Node}

theorem contents_of_append (h : b.append n = (.ok (), b')) :
    LawfulFile.contents b'.file = LawfulFile.contents b.file ++ nodeLines [n] := by
  rw [append] at h
  rcases htext : TemporaryFile.write b.file (Bytes.ofText n.json) with ⟨_ | ⟨⟩, file⟩
  · rw [htext] at h
    cases h
  · rw [htext] at h
    rcases hend : TemporaryFile.write file [Bytes.lineFeed] with ⟨_ | ⟨⟩, file'⟩
    · simp [hend, Except.mapError] at h
    · simp only [hend, Except.mapError, Prod.mk.injEq, true_and] at h
      subst h
      rw [LawfulFile.write_ok hend, LawfulFile.write_ok htext, nodeLines_singleton,
        List.append_assoc]

/-- What fails stops inside of the text, or right behind it. -/
theorem exists_contents_of_append {e : RegistryError} (h : b.append n = (.error e, b')) :
    ∃ part, part <+: Bytes.ofText n.json ∧
      LawfulFile.contents b'.file = LawfulFile.contents b.file ++ part := by
  rw [append] at h
  rcases htext : TemporaryFile.write b.file (Bytes.ofText n.json) with ⟨_ | ⟨⟩, file⟩
  · rw [htext] at h
    obtain rfl := (Prod.mk.inj h).2
    obtain ⟨part, hpart, -, hcontents⟩ := LawfulFile.write_error htext
    exact ⟨part, hpart, hcontents⟩
  · rw [htext] at h
    rcases hend : TemporaryFile.write file [Bytes.lineFeed] with ⟨_ | ⟨⟩, file'⟩
    · simp only [hend, Prod.mk.injEq] at h
      obtain rfl := h.2
      obtain ⟨part, -, hlength, hcontents⟩ := LawfulFile.write_error hend
      obtain rfl : part = [] := List.eq_nil_of_length_eq_zero (Nat.lt_one_iff.mp hlength)
      refine ⟨Bytes.ofText n.json, List.prefix_rfl, ?_⟩
      rw [hcontents, List.append_nil, LawfulFile.write_ok htext]
    · simp [hend, Except.mapError] at h

instance : LawfulBuffer (StagingFile φ) where
  lines b := LawfulFile.contents b.file
  append_ok := contents_of_append
  append_error := exists_contents_of_append
  content_ok := LawfulFile.read_ok

end StagingFile

/-- A file with room for so many bytes more. -/
structure LimitedFile where
  data : Bytes
  room : Nat

namespace LimitedFile

instance : TemporaryFile LimitedFile where
  write f data :=
    if data.length ≤ f.room then (.ok (), ⟨f.data ++ data, f.room - data.length⟩)
    else (.error "no space left", ⟨f.data ++ data.take f.room, 0⟩)
  read f := .ok f.data

instance : LawfulFile LimitedFile where
  contents := data
  write_ok {f f' data} h := by
    simp only [TemporaryFile.write] at h
    split at h
    · obtain rfl := (Prod.mk.inj h).2
      rfl
    · cases h
  write_error {f f' data reason} h := by
    simp only [TemporaryFile.write] at h
    split at h
    · cases h
    next hroom =>
      obtain rfl := (Prod.mk.inj h).2
      exact ⟨data.take f.room, List.take_prefix _ _, by rw [List.length_take]; omega, rfl⟩
  read_ok h := (Except.ok.inj h).symm

variable {b : StagingFile LimitedFile} {n : Node}

/-- A node is added if there is room for its line. -/
theorem append_of_le (h : (nodeLines [n]).length ≤ b.file.room) : Buffer.append b n =
    (.ok (), ⟨⟨b.file.data ++ nodeLines [n], b.file.room - (nodeLines [n]).length⟩⟩) := by
  rw [nodeLines_singleton, List.length_append, List.length_singleton] at h ⊢
  have htext : (Bytes.ofText n.json).length ≤ b.file.room := by omega
  have hend : 1 ≤ b.file.room - (Bytes.ofText n.json).length := by omega
  simp only [Buffer.append, StagingFile.append, TemporaryFile.write, if_pos htext, if_pos hend,
    Except.mapError, List.append_assoc, List.length_singleton, Nat.sub_sub]

/-- Where the room ends inside of a text, what fits is left behind. -/
theorem append_of_lt (h : b.file.room < (Bytes.ofText n.json).length) : Buffer.append b n =
    (.error (.serialization "no space left"),
      ⟨⟨b.file.data ++ (Bytes.ofText n.json).take b.file.room, 0⟩⟩) := by
  simp only [Buffer.append, StagingFile.append, TemporaryFile.write, if_neg (Nat.not_le.mpr h)]

/-- Files with the rooms of a list, and none after that. -/
instance : BufferSource (List Nat) (StagingFile LimitedFile) where
  create rooms := match rooms with
    | [] => (.error "no file left", [])
    | room :: rooms => (.ok ⟨[], room⟩, rooms)

instance : LawfulSource (List Nat) where
  create_ok {rooms _ b} h := by
    cases rooms with
    | nil => cases h
    | cons room rooms =>
      obtain rfl := Except.ok.inj (Prod.mk.inj h).1
      rfl

end LimitedFile

namespace CheckedRegistry

variable {σ δ β : Type}

/-! ## Nodes that are added -/

section

variable [BufferSource δ β] [Buffer β]

/-- Why a node is not taken, and what the registry then is. -/
inductive AddFails (r : CheckedRegistry σ δ β) (collection : String) (n : Node) :
    RegistryError → CheckedRegistry σ δ β → Prop
  | unknown (h : r.schemata.has collection = false) :
      AddFails r collection n (.unknownCollection collection) r
  /-- There is no buffer yet, and none can be made. -/
  | unmade {reason : String} {buffers : δ} (known : r.schemata.has collection = true)
      (free : r.staged.get? collection = none)
      (h : BufferSource.create r.buffers = (.error reason, buffers)) :
      AddFails r collection n (.io reason) { r with buffers }
  /-- The buffer does not take the node. -/
  | refused {b b' : β} {buffers : δ} {e : RegistryError}
      (known : r.schemata.has collection = true) (made : r.buffer collection = (.ok b, buffers))
      (h : Buffer.append b n = (.error e, b')) :
      AddFails r collection n e ({ r with buffers }.withBuffer collection b')

variable {r r' : CheckedRegistry σ δ β} {collection : String} {n : Node} {e : RegistryError}

omit [Buffer β] in
theorem buffer_eq_error {reason : String} {buffers : δ} :
    r.buffer collection = (.error reason, buffers) ↔
      r.staged.get? collection = none ∧
        BufferSource.create r.buffers = (.error reason, buffers) := by
  rw [buffer]
  cases r.staged.get? collection with
  | none => simp
  | some b => simp

theorem addNode_fails :
    r.addNode collection n = (.error e, r') ↔ r.AddFails collection n e r' := by
  constructor
  · intro h
    rw [addNode] at h
    split at h
    next known =>
      rcases hmade : r.buffer collection with ⟨reason | b, buffers⟩
      · rw [hmade] at h
        obtain ⟨he, rfl⟩ := Prod.mk.inj h
        obtain rfl := Except.error.inj he
        obtain ⟨free, hcreate⟩ := buffer_eq_error.mp hmade
        exact .unmade known free hcreate
      · rw [hmade] at h
        rcases hadd : Buffer.append b n with ⟨_ | ⟨⟩, b'⟩
        · simp only [hadd] at h
          obtain ⟨he, rfl⟩ := Prod.mk.inj h
          obtain rfl := Except.error.inj he
          exact .refused known hmade hadd
        · simp [hadd] at h
    next unknown =>
      obtain ⟨he, rfl⟩ := Prod.mk.inj h
      obtain rfl := Except.error.inj he
      exact .unknown (Bool.eq_false_iff.mpr unknown)
  · intro h
    cases h with
    | unknown h => rw [addNode, h, if_neg Bool.false_ne_true]
    | unmade known free h => rw [addNode, if_pos known, buffer_eq_error.mpr ⟨free, h⟩]
    | refused known made h => rw [addNode, if_pos known, made]; simp [h]

/-- A node that is taken is in the buffer, and is counted. -/
theorem addNode_succeeds : r.addNode collection n = (.ok (), r') ↔ ∃ b b' buffers,
    r.schemata.has collection = true ∧ r.buffer collection = (.ok b, buffers) ∧
      Buffer.append b n = (.ok (), b') ∧
        ({ r with buffers }.withBuffer collection b').count collection = r' := by
  constructor
  · intro h
    rw [addNode] at h
    split at h
    next known =>
      rcases hmade : r.buffer collection with ⟨_ | b, buffers⟩
      · simp [hmade] at h
      · rw [hmade] at h
        rcases hadd : Buffer.append b n with ⟨_ | ⟨⟩, b'⟩
        · simp [hadd] at h
        · simp only [hadd, Prod.mk.injEq, true_and] at h
          exact ⟨b, b', buffers, known, rfl, hadd, h⟩
    next => cases h
  · rintro ⟨b, b', buffers, known, made, hadd, rfl⟩
    rw [addNode, if_pos known, made]
    simp [hadd]

end

/-! ## What is staged -/

variable [Buffer β] [LawfulBuffer β]

/-- All that waits for a collection. -/
def lines (r : CheckedRegistry σ δ β) (collection : String) : Bytes :=
  ((r.staged.get? collection).map LawfulBuffer.lines).getD []

/-- Behind what waited for a collection are the lines of more nodes, which are counted, and then a
part of a line that has no end. Nothing else of the registry changes. -/
structure HasStaged (r : CheckedRegistry σ δ β) (collection : String) (ns : List Node) (part : Bytes)
    (r' : CheckedRegistry σ δ β) : Prop where
  lines : r'.lines collection = r.lines collection ++ nodeLines ns ++ part
  staged {c : String} (other : collection ≠ c) : r'.staged.get? c = r.staged.get? c
  nodeCounts (c : String) : r'.nodeCounts.get? c =
    if collection = c ∧ ns ≠ [] then some (r.nodeCount c + ns.length) else r.nodeCounts.get? c
  schemata : r'.schemata = r.schemata
  kinds : r'.kinds = r.kinds
  archive : r'.archive = r.archive

variable {r r' r'' : CheckedRegistry σ δ β} {collection : String} {ns ms : List Node} {part : Bytes}

theorem HasStaged.refl (r : CheckedRegistry σ δ β) (collection : String) :
    r.HasStaged collection [] [] r where
  lines := by simp [nodeLines]
  staged _ := rfl
  nodeCounts c := by simp
  schemata := rfl
  kinds := rfl
  archive := rfl

theorem HasStaged.nodeCount (h : r.HasStaged collection ns part r') (c : String) :
    r'.nodeCount c = r.nodeCount c + if collection = c then ns.length else 0 := by
  rw [Registry.nodeCount, h.nodeCounts]
  by_cases hc : collection = c
  · by_cases hns : ns = []
    · simp [hns, Registry.nodeCount]
    · simp [hc, hns]
  · simp [hc, Registry.nodeCount]

/-- What is finalized is what was staged. -/
theorem HasStaged.content {b : β} {data : Bytes} (h : r.HasStaged collection ns part r')
    (made : r'.staged.get? collection = some b) (hread : Buffer.content b = .ok data) :
    data = r.lines collection ++ nodeLines ns ++ part := by
  rw [LawfulBuffer.content_ok hread, ← h.lines, CheckedRegistry.lines, made]
  rfl

theorem HasStaged.trans (h : r.HasStaged collection ns [] r')
    (h' : r'.HasStaged collection ms part r'') : r.HasStaged collection (ns ++ ms) part r'' where
  lines := by
    rw [h'.lines, h.lines, nodeLines_append, List.append_nil, List.append_assoc (r.lines collection)]
  staged other := (h'.staged other).trans (h.staged other)
  nodeCounts c := by
    rw [h'.nodeCounts, h.nodeCount, h.nodeCounts]
    by_cases hc : collection = c
    · by_cases hms : ms = []
      · simp [hms]
      · simp [hc, hms, Nat.add_assoc]
    · simp [hc]
  schemata := h'.schemata.trans h.schemata
  kinds := h'.kinds.trans h.kinds
  archive := h'.archive.trans h.archive

variable [BufferSource δ β] [LawfulSource δ]

/-- The buffer of a collection has all that waits for it, also if it is made just now. -/
theorem lines_of_buffer {b : β} {buffers : δ} (h : r.buffer collection = (.ok b, buffers)) :
    LawfulBuffer.lines b = r.lines collection := by
  rw [buffer] at h
  rw [lines]
  cases hstaged : r.staged.get? collection with
  | some known =>
    rw [hstaged] at h
    obtain rfl := Except.ok.inj (Prod.mk.inj h).1
    rfl
  | none =>
    rw [hstaged] at h
    exact LawfulSource.create_ok h

theorem hasStaged_withBuffer {b b' : β} {buffers : δ} (made : r.buffer collection = (.ok b, buffers))
    (h : LawfulBuffer.lines b' = LawfulBuffer.lines b ++ part) :
    r.HasStaged collection [] part ({ r with buffers }.withBuffer collection b') where
  lines := by
    rw [lines, withBuffer, Table.get?_insert, if_pos rfl, Option.map_some, Option.getD_some, h,
      lines_of_buffer made, nodeLines, List.flatMap_nil, List.append_nil]
  staged other := by rw [withBuffer, Table.get?_insert, if_neg other]
  nodeCounts c := by simp [withBuffer]
  schemata := rfl
  kinds := rfl
  archive := rfl

theorem hasStaged_of_addNode {n : Node} (h : r.addNode collection n = (.ok (), r')) :
    r.HasStaged collection [n] [] r' := by
  obtain ⟨b, b', buffers, -, made, hadd, rfl⟩ := addNode_succeeds.mp h
  have hbuffer := hasStaged_withBuffer made (LawfulBuffer.append_ok hadd)
  refine ⟨?_, hbuffer.staged, fun c => ?_, rfl, rfl, rfl⟩
  · have hlines := hbuffer.lines
    rw [nodeLines, List.flatMap_nil, List.append_nil] at hlines
    rw [List.append_nil]
    exact hlines
  · rw [count, Table.get?_insert]
    by_cases hc : collection = c
    · simp [hc, Registry.nodeCount, withBuffer]
    · simp [hc, withBuffer]

/-- **A node that is not taken leaves no more than a part of its text.** -/
theorem AddFails.hasStaged {n : Node} {e : RegistryError} (h : r.AddFails collection n e r') :
    ∃ part, part <+: Bytes.ofText n.json ∧ r.HasStaged collection [] part r' := by
  cases h with
  | unknown => exact ⟨[], List.nil_prefix, .refl r collection⟩
  | unmade known free h =>
    exact ⟨[], List.nil_prefix, by simp [lines, nodeLines], fun _ => rfl, by simp, rfl, rfl, rfl⟩
  | refused known made h =>
    obtain ⟨part, hpart, hlines⟩ := LawfulBuffer.append_error h
    exact ⟨part, hpart, hasStaged_withBuffer made hlines⟩

/-- **Nodes that are taken one after the other wait in their order.** -/
theorem hasStaged_of_addNodes (h : r.addNodes collection ns = (.ok (), r')) :
    r.HasStaged collection ns [] r' := by
  rw [addNodes] at h
  induction ns generalizing r with
  | nil =>
    obtain rfl := (Prod.mk.inj h).2
    exact .refl r collection
  | cons n ns ih =>
    rcases hn : r.addNode collection n with ⟨_ | ⟨⟩, r₁⟩
    · rw [Steps.run_cons_of_error hn] at h
      cases h
    · rw [Steps.run_cons_of_ok hn] at h
      exact (hasStaged_of_addNode hn).trans (ih h)

/-- **A batch that fails has staged the nodes before the first that is not taken.** -/
theorem exists_of_addNodes {e : RegistryError} (h : r.addNodes collection ns = (.error e, r')) :
    ∃ front n back r₁ part, ns = front ++ n :: back ∧
      r.addNodes collection front = (.ok (), r₁) ∧ r₁.AddFails collection n e r' ∧
        part <+: Bytes.ofText n.json ∧ r.HasStaged collection front part r' := by
  obtain ⟨front, n, back, r₁, hns, hfront, hn⟩ := Steps.run_eq_error.mp h
  have hfails := addNode_fails.mp hn
  obtain ⟨part, hpart, hstaged⟩ := hfails.hasStaged
  have hall := (hasStaged_of_addNodes hfront).trans hstaged
  rw [List.append_nil] at hall
  exact ⟨front, n, back, r₁, part, hns, hfront, hfails, hpart, hall⟩

end CheckedRegistry

end CollectionArchive
