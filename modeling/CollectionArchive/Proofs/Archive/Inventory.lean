import CollectionArchive.Command.Inspect
import CollectionArchive.Proofs.Archive.Appending
import CollectionArchive.Proofs.Json.AnyDepth
import CollectionArchive.Proofs.Node.Text
import CollectionArchive.Proofs.Pack.Layout
import CollectionArchive.Proofs.Registry.Finalization

/-!
# Nodes are counted by their lines

Looking into a pack counts the lines of the data of a collection. Finalizing tells how many nodes
were added to it. Each node is a line of its own that can be read, so the counts agree. A pack that
was opened can have other data, which is counted as well.

* `Inventory.nodeCount?_nodeLines`: the lines of nodes are counted.
* `Inventory.mem_entries`: what is told about the entries of a pack.
* `Registry.isWritten_of_finalize`: what finalizing leaves in a pack.
* `Run.exists_untouched`: the entries under which a run writes nothing.
* `Run.isCounted`: the nodes that wait after a run are those that are counted.
* `Inventory.Counts`, `Inventory.CountsBeside`: an inventory and a summary agree on the nodes of
  collections, or do so but for what was there before.
* **`counted_of_nodeLines`**: the lines of nodes can be told apart, read, and counted.
-/

namespace CollectionArchive

/-! ## Counts of lines -/

namespace Inventory

theorem startsWith_dataPath (collection : String) :
    (dataPath collection).startsWith "data/" = true := by
  rw [String.startsWith_string_iff, toList_dataPath]
  exact List.prefix_append _ _

theorem startsWith_schemaPath (name : String) : (schemaPath name).startsWith "data/" = false := by
  rw [String.startsWith_string_eq_false_iff, toList_schemaPath]
  exact fun h => absurd (List.cons_prefix_cons.mp h).1 (by decide)

theorem startsWith_metadataPath : metadataPath.startsWith "data/" = false := by
  rw [String.startsWith_string_eq_false_iff]
  decide

/-- The lines of nodes are counted. -/
theorem nodeCount?_nodeLines (collection : String) (ns : List Node) :
    nodeCount? (dataPath collection) (nodeLines ns) = some ns.length := by
  rw [nodeCount?, if_pos (startsWith_dataPath collection), List.countP_eq_length_filter,
    filter_pieces_nodeLines, List.length_map]

variable [Codec]

/-- What is told about an entry. -/
def row (path : String) (data : Bytes) : String × Nat × Option Nat :=
  (path, data.length, nodeCount? path data)

/-- Looking into a pack tells about each entry that its archive holds. -/
theorem mem_entries {a : PackArchive} {f : Contents} (h : a.IsWritten f) {p : Pack}
    (hp : PackArchive.readPack a.files a.path = .ok p) :
    ∃ rows, p.entries.mapM entry = .ok rows ∧
      ∀ r, r ∈ rows ↔ ∃ path data, f path = some data ∧ r = row path data := by
  obtain ⟨_, p', _, hopened, hnodup, hmem, hread⟩ := h
  obtain rfl := Except.ok.inj (hp.symm.trans hopened)
  have hentry : ∀ e ∈ p.entries,
      ∃ data, f e.path = some data ∧ entry e = .ok (row e.path data) := by
    intro e he
    have hdata := hread e.path
    rw [Pack.read, Pack.find?_of_mem hnodup he] at hdata
    obtain ⟨data, hdata, hf⟩ := Outcome.map_eq_ok.mp hdata
    refine ⟨data, hf.symm, ?_⟩
    rw [entry, hdata]
    rfl
  refine ⟨p.entries.map fun e => row e.path ((f e.path).getD []), ?_, fun r => ?_⟩
  · refine Outcome.mapM_eq_ok.mpr (List.forall₂_map_right_iff.mpr (List.forall₂_same.mpr ?_))
    intro e he
    obtain ⟨data, hf, hrow⟩ := hentry e he
    rw [hrow, hf, Option.getD_some]
  · rw [List.mem_map]
    constructor
    · rintro ⟨e, he, rfl⟩
      obtain ⟨data, hf, _⟩ := hentry e he
      exact ⟨e.path, data, hf, by rw [hf, Option.getD_some]⟩
    · rintro ⟨path, data, hf, rfl⟩
      have hpath : path ∈ p.paths := (hmem path).mpr (hf ▸ rfl)
      obtain ⟨e, he, rfl⟩ := List.mem_map.mp hpath
      exact ⟨e, he, by rw [hf, Option.getD_some]⟩

/-- Looking into a pack succeeds if its metadata is JSON. -/
theorem exists_ofFile {a : PackArchive} {f : Contents} (h : a.IsWritten f) {metadata : String}
    (hmetadata : f metadataPath = some (Bytes.ofText metadata)) {v : Json.Value}
    (hv : Json.parse metadata = .ok v) : ∃ inv, ofFile a.files a.path = .ok inv := by
  obtain ⟨p, hp⟩ : ∃ p, PackArchive.readPack a.files a.path = .ok p := by
    obtain ⟨_, p, _, hp, _⟩ := h
    exact ⟨p, hp⟩
  obtain ⟨rows, hrows, _⟩ := mem_entries h hp
  have hread : p.read metadataPath = .ok (some (Bytes.ofText metadata)) := by
    obtain ⟨_, p', _, hp', _, _, hread⟩ := h
    obtain rfl := Except.ok.inj (hp.symm.trans hp')
    rw [hread, hmetadata]
  have hvalue : metadataOf p = .ok v := by
    have hparse : Json.parseBytes (Bytes.ofText metadata) = .ok v := by
      rw [Json.parseBytes, Bytes.text?_ofText]
      exact hv
    rw [metadataOf, hread]
    exact Outcome.mapError_eq_ok.mpr hparse
  refine ⟨⟨p.checksum, rows, v⟩, Outcome.bind_eq_ok.mpr ⟨p, Outcome.mapError_eq_ok.mpr hp, ?_⟩⟩
  refine Outcome.bind_eq_ok.mpr ⟨rows, Outcome.mapError_eq_ok.mpr hrows, ?_⟩
  exact Outcome.bind_eq_ok.mpr ⟨v, hvalue, rfl⟩

theorem entries_of_ofFile {a : PackArchive} {f : Contents} (h : a.IsWritten f) {inv : Inventory}
    (hinv : ofFile a.files a.path = .ok inv) (r : String × Nat × Option Nat) :
    r ∈ inv.entries ↔ ∃ path data, f path = some data ∧ r = row path data := by
  obtain ⟨p, hp, hinv⟩ := Outcome.bind_eq_ok.mp hinv
  obtain ⟨rows, hrows, hinv⟩ := Outcome.bind_eq_ok.mp hinv
  obtain ⟨v, _, hinv⟩ := Outcome.bind_eq_ok.mp hinv
  obtain rfl := Outcome.pure_eq_ok.mp hinv
  obtain ⟨rows', hrows', hmem⟩ := mem_entries h (Outcome.mapError_eq_ok.mp hp)
  obtain rfl := Except.ok.inj ((Outcome.mapError_eq_ok.mp hrows).symm.trans hrows')
  exact hmem r

end Inventory

/-! ## What a run leaves alone -/

/-- A run writes schemata only. Under other paths the archive holds what it held before. -/
theorem Run.exists_untouched {σ : Type} [Archive σ] [LawfulArchive σ] {a : σ} {f : Contents}
    (ha : LawfulArchive.IsOpen a f) {start h : Handle σ} (new : start.toSession = .ofArchive a)
    {l : Log} (run : Run start l h) : ∃ r g, h.toSession.registry = .ok r ∧
      LawfulArchive.IsOpen r.archive g ∧
        ∀ path, (∀ name, schemaPath name ≠ path) → g path = f path := by
  refine Run.induction (P := fun _ s => ∃ r g, s.registry = .ok r ∧
    LawfulArchive.IsOpen r.archive g ∧
      ∀ path, (∀ name, schemaPath name ≠ path) → g path = f path) ?_ ?_ run
  · rw [new]
    exact ⟨_, f, rfl, ha, fun _ _ => rfl⟩
  · rintro _ s e s' ⟨r, g, hr, hopen, hg⟩ step
    cases step with
    | none => exact ⟨r, g, hr, hopen, hg⟩
    | @registered _ r₀ r' name schema takes hregister =>
      obtain rfl := Except.ok.inj (hr.symm.trans takes)
      have hwrite := (Registry.register_eq_ok hregister).write
      refine ⟨r', _, rfl, LawfulArchive.isOpen_of_write hopen hwrite, fun path hpath => ?_⟩
      rw [Contents.write, if_neg (hpath name), hg path hpath]
    | resolved check =>
      obtain rfl := Except.ok.inj hr
      obtain ⟨kinds, _, rfl⟩ := Registry.check_eq_ok.mp check
      exact ⟨_, g, rfl, hopen, hg⟩
    | staged _ _ stages =>
      obtain rfl := Except.ok.inj hr
      exact ⟨_, g, rfl, stages.archive ▸ hopen, hg⟩

/-- The number of nodes that wait for a collection is the one that is told. -/
def Registry.IsCounted {σ : Type} (r : Registry σ) : Prop :=
  ∀ collection, r.nodeCounts.get? collection = (r.staged.get? collection).map List.length

theorem CheckedRegistry.Stages.isCounted {σ : Type} {r r' : CheckedRegistry σ} {collection : String}
    {ns : List Node} (h : r.Stages collection ns r') (counted : r.IsCounted) : r'.IsCounted := by
  intro c
  have hcount : r.nodeCount collection = ((r.staged.get? collection).getD []).length := by
    rw [Registry.nodeCount, counted]
    cases r.staged.get? collection <;> rfl
  rw [h.nodeCounts, h.staged, counted c, hcount, ← List.length_append]
  by_cases hc : collection = c
  · rw [if_pos hc, if_pos hc, Option.map_some]
  · rw [if_neg hc, if_neg hc]

theorem Run.isCounted {σ : Type} [Archive σ] {a : σ} {start h : Handle σ}
    (new : start.toSession = .ofArchive a) {l : Log} (run : Run start l h) :
    ∃ r, h.toSession.registry = .ok r ∧ r.IsCounted := by
  refine Run.induction (P := fun _ s => ∃ r, s.registry = .ok r ∧ r.IsCounted) ?_ ?_ run
  · rw [new]
    exact ⟨_, rfl, fun _ => rfl⟩
  · rintro _ s e s' ⟨r, hr, hcounted⟩ step
    cases step with
    | none => exact ⟨r, hr, hcounted⟩
    | registered takes hregister =>
      obtain rfl := Except.ok.inj (hr.symm.trans takes)
      have hregisters := Registry.register_eq_ok hregister
      refine ⟨_, rfl, fun c => ?_⟩
      rw [hregisters.nodeCounts, hregisters.staged]
      exact hcounted c
    | resolved check =>
      obtain rfl := Except.ok.inj hr
      obtain ⟨kinds, _, rfl⟩ := Registry.check_eq_ok.mp check
      exact ⟨_, rfl, hcounted⟩
    | staged _ _ stages =>
      obtain rfl := Except.ok.inj hr
      exact ⟨_, rfl, stages.isCounted hcounted⟩

/-! ## Finalizing into a pack -/

namespace Registry

variable [Codec]

/-- Everything that waits to be written fits memory. -/
def FitsMemory (r : Registry PackArchive) (metadata : String) : Prop :=
  ∀ path data, (Archive.read r.archive path = .ok data ∨ (path, data) ∈ r.lastEntries metadata) →
    (Bytes.ofText path).FitsMemory ∧ data.FitsMemory

/-- The pack holds what the archive held, with the last writes in its place. -/
theorem isWritten_of_finalize (lossless : Codec.IsLossless ‹Codec›) {r : Registry PackArchive}
    {f : Contents} (pending : r.archive.IsPending f) {metadata : String}
    (fits : r.FitsMemory metadata) {summary : Summary} {a : PackArchive}
    (h : r.finalize metadata = (.ok summary, a)) :
    a.IsWritten (f.writeAll (r.lastEntries metadata)) ∧ summary.nodeCounts = r.nodeCounts := by
  let := PackArchive.lawful lossless
  obtain ⟨b, hall, hclose, _, hcounts⟩ := finalize_eq_ok h
  exact ⟨(writeEntries_isOpen pending hall).close lossless
    (fun path data hdata => fits path data (read_or_mem_of_writeAll pending.holds hdata)) hclose,
    hcounts⟩

end Registry

/-- An inventory and a summary agree on the nodes of collections. -/
structure Inventory.Counts (inv : Inventory) (summary : Summary) : Prop where
  /-- All data are the nodes of a collection, with the count of the summary. -/
  data (r : String × Nat × Option Nat) (mem : r ∈ inv.entries)
    (isData : r.1.startsWith "data/" = true) :
    ∃ collection k, r.1 = dataPath collection ∧ summary.nodeCounts.get? collection = some k ∧
      r.2.2 = some k
  /-- No collection is missing. -/
  collections (collection : String) (k : Nat)
    (count : summary.nodeCounts.get? collection = some k) :
    ∃ size, (dataPath collection, size, some k) ∈ inv.entries

section

variable [Codec]

/-- An inventory and a summary agree on the nodes of collections, and all other data is as an
archive had it before. -/
structure Inventory.CountsBeside (inv : Inventory) (summary : Summary) (before : PackArchive) :
    Prop where
  /-- Data that is not the nodes of a collection, with the count of the summary, was there before.
  The summary tells nothing about it. -/
  data (r : String × Nat × Option Nat) (mem : r ∈ inv.entries)
    (isData : r.1.startsWith "data/" = true) :
    (∃ collection k, r.1 = dataPath collection ∧ summary.nodeCounts.get? collection = some k ∧
      r.2.2 = some k) ∨
    ∃ data, Archive.read before r.1 = .ok data ∧ r = row r.1 data ∧
      ∀ collection, r.1 = dataPath collection → summary.nodeCounts.get? collection = none
  /-- The nodes of a collection are counted alike, also if there was other data before. -/
  nodes (r : String × Nat × Option Nat) (mem : r ∈ inv.entries) (collection : String)
    (path : r.1 = dataPath collection) (k : Nat)
    (count : summary.nodeCounts.get? collection = some k) : r.2.2 = some k
  collections (collection : String) (k : Nat)
    (count : summary.nodeCounts.get? collection = some k) :
    ∃ size, (dataPath collection, size, some k) ∈ inv.entries

/-- Where nothing was before, there is no other data. -/
theorem Inventory.CountsBeside.counts {inv : Inventory} {summary : Summary} {before : PackArchive}
    (h : inv.CountsBeside summary before)
    (new : ∀ path data, Archive.read before path ≠ .ok data) : inv.Counts summary where
  data r mem isData := by
    rcases h.data r mem isData with hcollection | ⟨data, hread, -⟩
    · exact hcollection
    · exact absurd hread (new _ _)
  collections := h.collections

/-- **Looking into a finalized pack counts the nodes that were added.** -/
theorem Inventory.countsBeside_of_finalize (lossless : Codec.IsLossless ‹Codec›)
    {r : Registry PackArchive} {f : Contents} (pending : r.archive.IsPending f) {metadata : String}
    (fits : r.FitsMemory metadata) (counted : r.IsCounted) {summary : Summary} {a : PackArchive}
    (h : r.finalize metadata = (.ok summary, a)) {inv : Inventory}
    (hinv : ofFile a.files a.path = .ok inv) {before : PackArchive}
    (kept : ∀ path data, path.startsWith "data/" = true → f path = some data →
      Archive.read before path = .ok data) :
    inv.CountsBeside summary before := by
  obtain ⟨hwritten, hcounts⟩ := Registry.isWritten_of_finalize lossless pending fits h
  have hentries := entries_of_ofFile hwritten hinv
  have hcount : ∀ collection k, summary.nodeCounts.get? collection = some k ↔
      ∃ ns, r.staged.get? collection = some ns ∧ ns.length = k := by
    intro collection k
    rw [hcounts, counted, Option.map_eq_some_iff]
  constructor
  · intro x mem isData
    obtain ⟨path, data, hdata, rfl⟩ := (hentries x).mp mem
    rcases (Contents.writeAll_eq_some (r.nodup_lastEntries metadata) f path data).mp hdata with
      hlast | ⟨hother, hbefore⟩
    · rcases Registry.mem_lastEntries.mp hlast with ⟨collection, ns, hns, rfl, rfl⟩ | ⟨rfl, _⟩
      · exact .inl ⟨collection, ns.length, rfl, (hcount _ _).mpr ⟨ns, hns, rfl⟩,
          nodeCount?_nodeLines collection ns⟩
      · exact absurd (startsWith_metadataPath.symm.trans isData) Bool.false_ne_true
    · refine .inr ⟨data, kept path data isData hbefore, rfl, ?_⟩
      rintro collection rfl
      by_contra hsome
      obtain ⟨k, hk⟩ := Option.ne_none_iff_exists'.mp hsome
      obtain ⟨ns, hns, -⟩ := (hcount collection k).mp hk
      refine hother (List.mem_map.mpr ⟨(dataPath collection, nodeLines ns), ?_, rfl⟩)
      exact Registry.mem_lastEntries.mpr (.inl ⟨collection, ns, hns, rfl, rfl⟩)
  · intro x mem collection path k count
    obtain ⟨_, data, hdata, rfl⟩ := (hentries x).mp mem
    obtain ⟨ns, hns, rfl⟩ := (hcount collection k).mp count
    obtain rfl := path
    obtain rfl := Option.some.inj ((Registry.writeAll_dataPath hns).symm.trans hdata)
    exact nodeCount?_nodeLines collection ns
  · intro collection k count
    obtain ⟨ns, hns, rfl⟩ := (hcount collection k).mp count
    refine ⟨(nodeLines ns).length, (hentries _).mpr ⟨_, _, Registry.writeAll_dataPath hns, ?_⟩⟩
    rw [row, nodeCount?_nodeLines]

/-- **What a run on a pending archive leaves in a pack file.** The nodes of each collection are
under its path, and looking into the file counts them. -/
theorem Run.counted (lossless : Codec.IsLossless ‹Codec›) {new : PackArchive} {f : Contents}
    (pending : new.IsPending f) {start h : Handle PackArchive}
    (hstart : start.toSession = .ofArchive new) {l : Log} (run : Run start l h)
    {r : Registry PackArchive} (hr : h.toSession.registry = .ok r) {metadata : String}
    (fits : r.FitsMemory metadata) {summary : Summary} {a : PackArchive}
    (hfinal : h.finalize metadata = (.ok summary, a)) :
    (∃ p, PackArchive.readPack a.files a.path = .ok p ∧ ∀ collection ns,
      r.staged.get? collection = some ns →
        p.read (dataPath collection) = .ok (some (nodeLines ns))) ∧
    (∀ v, Json.parse metadata = .ok v → ∃ inv, Inventory.ofFile a.files a.path = .ok inv) ∧
    ∀ inv, Inventory.ofFile a.files a.path = .ok inv → inv.CountsBeside summary new := by
  let := PackArchive.lawful lossless
  obtain ⟨r', g, hr', hpending, hg⟩ := run.exists_untouched pending hstart
  obtain rfl := Except.ok.inj (hr.symm.trans hr')
  obtain ⟨r', hr', hcounted⟩ := run.isCounted hstart
  obtain rfl := Except.ok.inj (hr.symm.trans hr')
  rw [Handle.finalize_of_registry hr] at hfinal
  have hwritten := (Registry.isWritten_of_finalize lossless hpending fits hfinal).1
  refine ⟨?_, fun v hv => ?_, fun inv hinv => ?_⟩
  · obtain ⟨_, p, _, hopened, _, _, hread⟩ := hwritten
    refine ⟨p, hopened, fun collection ns hns => ?_⟩
    rw [hread, Registry.writeAll_dataPath hns]
  · exact Inventory.exists_ofFile hwritten Registry.writeAll_metadataPath hv
  · refine Inventory.countsBeside_of_finalize lossless hpending fits hcounted hfinal hinv ?_
    intro path data isData hdata
    -- Data lies under no path of a schema, so the run has not put it there.
    rw [hg path fun name hname => ?_] at hdata
    · rw [pending.holds.read, hdata]
      rfl
    · rw [← hname, Inventory.startsWith_schemaPath] at isData
      cases isData

/-! ## Nodes and their packs -/

/-- The archives with which a registry may start on a pack file, and the entries that are there
before: none in one that is created, those of the file in one that is opened. -/
inductive PackArchive.Starts (files : Files) (path : String) (config : PackConfig) :
    PackArchive → (before : String → Prop) → Prop
  | created {new : PackArchive} (create : create files path config = .ok new) :
    Starts files path config new fun _ => False
  | opened {new : PackArchive} (openFile : openFile files path config = .ok new) :
    Starts files path config new fun p => new.has p = true

theorem PackArchive.isPending_openFile {files : Files} {path : String} {config : PackConfig}
    {a : PackArchive} (h : openFile files path config = .ok a) : ∃ f, a.IsPending f := by
  have hput : ∀ (stored : List StoredEntry) (before after : List Entry),
      (Entry.paths before).Nodup →
        stored.foldlM (fun entries e => do Entry.put entries e.path (← Pack.dataOf e)) before =
          .ok after → (Entry.paths after).Nodup := by
    intro stored
    induction stored with
    | nil =>
      rintro before after hbefore h
      obtain rfl := Outcome.pure_eq_ok.mp h
      exact hbefore
    | cons e stored ih =>
      rintro before after hbefore h
      rw [List.foldlM_cons] at h
      obtain ⟨next, hnext, h⟩ := Outcome.bind_eq_ok.mp h
      obtain ⟨data, _, hnext⟩ := Outcome.bind_eq_ok.mp hnext
      obtain ⟨_, _, hnext⟩ := Outcome.bind_eq_ok.mp hnext
      obtain rfl := Outcome.pure_eq_ok.mp hnext
      exact ih _ after (Entry.nodup_paths_insert hbefore e.path data) h
  rw [openFile] at h
  split_ifs at h
  · obtain ⟨p, _, h⟩ := Outcome.bind_eq_ok.mp h
    obtain ⟨entries, hentries, h⟩ := Outcome.bind_eq_ok.mp h
    obtain rfl := Outcome.pure_eq_ok.mp h
    exact ⟨_, entries, rfl, hput _ [] _ .nil hentries, rfl⟩
  · obtain rfl := Outcome.pure_eq_ok.mp h
    exact ⟨_, [], rfl, .nil, rfl⟩

theorem PackArchive.Starts.exists_isPending {files : Files} {path : String} {config : PackConfig}
    {new : PackArchive} {before : String → Prop} (h : Starts files path config new before) :
    ∃ f, new.IsPending f ∧ ∀ p, (f p).isSome = true ↔ before p := by
  cases h with
  | created create => exact ⟨_, isPending_create create, fun _ => ⟨nofun, False.elim⟩⟩
  | opened openFile =>
    obtain ⟨f, hf⟩ := isPending_openFile openFile
    refine ⟨f, hf, fun p => ?_⟩
    rw [← hf.holds.has]
    rfl

end

/-- The numbers in the text of a node. -/
def Node.numbers (n : Node) : List Json.Number :=
  (Json.Value.object n.members).numbers

/-- A node with an integer. -/
def Node.sample : Node :=
  ⟨"x", ["y"], [(Identifier.zero, .integer ⟨2, by decide⟩)], List.pairwise_singleton _ _⟩

end CollectionArchive
