import CollectionArchive.Proofs.Archive.Laws
import CollectionArchive.Proofs.Registry.Resolution
import CollectionArchive.Proofs.Registry.Staging
import CollectionArchive.Proofs.Zstd.Plain

/-!
# What a run leaves behind

Schemata are written when they are registered, nodes and metadata when everything is finalized. What
is in the archive at the end is what the calls of the run amount to that succeeded.

* `Log.Writes`: the entries to which a run and its metadata amount.
* `Registry.Matches`: the invariant of a run: its registry has the schemata and nodes of the calls
  that succeeded, and the archive holds the schemata.
* `Log.IsArchived`: an archive that holds the entries of a run, and a summary that tells about them.
* **`archived_of_finalize`**: what a run on a new archive leaves behind.
-/

namespace CollectionArchive

/-! ## Paths

No two collections share a path, and neither do schemata, nodes and metadata. -/

theorem toList_schemaPath (name : String) :
    (schemaPath name).toList = "schemata/".toList ++ (name.toList ++ ".json".toList) := by
  rw [schemaPath, String.toList_append, String.toList_append, List.append_assoc]

theorem toList_dataPath (name : String) :
    (dataPath name).toList = "data/".toList ++ (name.toList ++ ".json".toList) := by
  rw [dataPath, String.toList_append, String.toList_append, List.append_assoc]

theorem schemaPath_injective {m n : String} (h : schemaPath m = schemaPath n) : m = n := by
  have h := congrArg String.toList h
  rw [toList_schemaPath, toList_schemaPath, List.append_cancel_left_eq,
    List.append_cancel_right_eq] at h
  exact String.ext h

theorem dataPath_injective {m n : String} (h : dataPath m = dataPath n) : m = n := by
  have h := congrArg String.toList h
  rw [toList_dataPath, toList_dataPath, List.append_cancel_left_eq,
    List.append_cancel_right_eq] at h
  exact String.ext h

theorem head?_schemaPath (name : String) : (schemaPath name).toList.head? = some 's' := by
  rw [toList_schemaPath]
  rfl

theorem head?_dataPath (name : String) : (dataPath name).toList.head? = some 'd' := by
  rw [toList_dataPath]
  rfl

theorem head?_metadataPath : metadataPath.toList.head? = some 'm' :=
  rfl

theorem schemaPath_ne_dataPath (m n : String) : schemaPath m ≠ dataPath n := by
  intro h
  have := head?_schemaPath m
  rw [h, head?_dataPath] at this
  cases this

theorem schemaPath_ne_metadataPath (name : String) : schemaPath name ≠ metadataPath := by
  intro h
  have := head?_schemaPath name
  rw [h, head?_metadataPath] at this
  cases this

theorem dataPath_ne_metadataPath (name : String) : dataPath name ≠ metadataPath := by
  intro h
  have := head?_dataPath name
  rw [h, head?_metadataPath] at this
  cases this

/-! ## Writing -/

theorem Contents.write_eq_some {f : Contents} {path other : String} {data found : Bytes} :
    f.write path data other = some found ↔
      (path = other ∧ data = found) ∨ (path ≠ other ∧ f other = some found) := by
  rw [Contents.write]
  by_cases h : path = other <;> simp [h]

/-- The contents after several writes. -/
def Contents.writeAll (f : Contents) (entries : List (String × Bytes)) : Contents :=
  entries.foldl (fun f e => f.write e.1 e.2) f

/-- Where no two writes share a path, each is found again, and between them what was there. -/
theorem Contents.writeAll_eq_some {entries : List (String × Bytes)}
    (hpaths : (entries.map Prod.fst).Nodup) (f : Contents) (path : String) (data : Bytes) :
    f.writeAll entries path = some data ↔
      (path, data) ∈ entries ∨ (path ∉ entries.map Prod.fst ∧ f path = some data) := by
  induction entries generalizing f with
  | nil => simp [writeAll]
  | cons e entries ih =>
    obtain ⟨he, hrest⟩ := List.nodup_cons.mp hpaths
    rw [writeAll, List.foldl_cons, ← writeAll, ih hrest, Contents.write_eq_some, List.map_cons,
      List.mem_cons, List.mem_cons, not_or]
    constructor
    · rintro (hmem | ⟨hnew, ⟨rfl, rfl⟩ | ⟨hne, hold⟩⟩)
      · exact .inl (.inr hmem)
      · exact .inl (.inl rfl)
      · exact .inr ⟨⟨Ne.symm hne, hnew⟩, hold⟩
    · rintro ((rfl | hmem) | ⟨⟨hne, hnew⟩, hold⟩)
      · exact .inr ⟨he, .inl ⟨rfl, rfl⟩⟩
      · exact .inl hmem
      · exact .inr ⟨hnew, .inr ⟨Ne.symm hne, hold⟩⟩

namespace Registry

variable {σ : Type} [Archive σ]

theorem writeEntries_isOpen [LawfulArchive σ] {a b : σ} {f : Contents}
    {entries : List (String × Bytes)} (ha : LawfulArchive.IsOpen a f)
    (h : writeEntries a entries = (none, b)) : LawfulArchive.IsOpen b (f.writeAll entries) := by
  induction entries generalizing a f with
  | nil =>
    obtain rfl := (Prod.mk.inj h).2
    exact ha
  | cons e entries ih =>
    obtain ⟨path, data⟩ := e
    cases hwrite : Archive.write a path data with
    | error e =>
      rw [writeEntries_cons_of_error hwrite] at h
      cases (Prod.mk.inj h).1
    | ok c =>
      rw [writeEntries_cons_of_ok hwrite] at h
      exact ih (LawfulArchive.isOpen_of_write ha hwrite) h

end Registry

/-! ## Runs and their entries -/

/-- The entries to which a run and its metadata amount: the schema that was registered last for each
name, the nodes that were added to each collection that has any, and the metadata. -/
inductive Log.Writes (l : Log) (metadata : String) : String → Bytes → Prop
  | schema {name : String} {schema : Schema} (registered : l.registered? name = some schema) :
      Writes l metadata (schemaPath name) (Bytes.ofText schema.json)
  | nodes {collection : String} (added : l.added collection ≠ []) :
      Writes l metadata (dataPath collection) (nodeLines (l.added collection))
  | metadata : Writes l metadata metadataPath (Bytes.ofText metadata)

/-- The schemata and the nodes of a registry are those of a run, and its archive holds the schemata
and takes more. -/
structure Registry.Matches {σ : Type} [Archive σ] [LawfulArchive σ] (l : Log) (r : Registry σ) :
    Prop where
  schemata (name : String) : r.schemata.get? name = l.registered? name
  staged (collection : String) : r.staged.get? collection =
    if l.added collection = [] then none else some (l.added collection)
  nodeCounts (collection : String) : r.nodeCounts.get? collection =
    if l.added collection = [] then none else some (l.added collection).length
  archive : ∃ f, LawfulArchive.IsOpen r.archive f ∧ ∀ path data, f path = some data ↔
    ∃ name schema, l.registered? name = some schema ∧ schemaPath name = path ∧
      Bytes.ofText schema.json = data

/-- The session is not closed, and its registry matches a run. -/
def Session.Matches {σ : Type} [Archive σ] [LawfulArchive σ] (l : Log) (s : Session σ) : Prop :=
  ∃ r, s.registry = .ok r ∧ r.Matches l

namespace Registry.Matches

variable {σ : Type} [Archive σ] [LawfulArchive σ]

theorem ofArchive {a : σ} (fresh : LawfulArchive.IsOpen a fun _ => none) :
    (Registry.ofArchive a).Matches [] where
  schemata _ := rfl
  staged _ := rfl
  nodeCounts _ := rfl
  archive := by
    refine ⟨_, fresh, fun path data => ⟨?_, ?_⟩⟩
    · exact fun h => nomatch h
    · rintro ⟨_, _, h, _⟩
      cases h

theorem nodeCount {l : Log} {r : Registry σ} (h : r.Matches l) (collection : String) :
    r.nodeCount collection = (l.added collection).length := by
  rw [Registry.nodeCount, h.nodeCounts]
  split_ifs with hempty
  · rw [hempty]
    rfl
  · rfl

theorem concat_none {l : Log} {r : Registry σ} (h : r.Matches l) {e : Call × Answer}
    (schema : ∀ name, Call.schemaFor? name e = none) (nodes : ∀ name, Call.nodesFor name e = []) :
    r.Matches (l ++ [e]) := by
  have hregistered : ∀ name, (l ++ [e]).registered? name = l.registered? name := by
    intro name
    rw [Log.registered?_concat, schema, Option.none_or]
  have hadded : ∀ name, (l ++ [e]).added name = l.added name := by
    intro name
    rw [Log.added_concat, nodes, List.append_nil]
  obtain ⟨f, hopen, hf⟩ := h.archive
  refine ⟨fun name => ?_, fun name => ?_, fun name => ?_, f, hopen, fun path data => ?_⟩
  · rw [hregistered, h.schemata]
  · rw [hadded, h.staged]
  · rw [hadded, h.nodeCounts]
  · simp only [hregistered]
    exact hf path data

theorem register {l : Log} {r r' : Registry σ} (h : r.Matches l) {e : Call × Answer}
    {name : String} {schema : Schema}
    (registers : ∀ other, Call.schemaFor? other e = if name = other then some schema else none)
    (nodes : ∀ other, Call.nodesFor other e = []) (hregister : r.register name schema = .ok r') :
    r'.Matches (l ++ [e]) := by
  have hregisters := Registry.register_eq_ok hregister
  have hregistered : ∀ other, (l ++ [e]).registered? other =
      if name = other then some schema else l.registered? other := by
    intro other
    rw [Log.registered?_concat, registers]
    split_ifs <;> rfl
  have hadded : ∀ other, (l ++ [e]).added other = l.added other := by
    intro other
    rw [Log.added_concat, nodes, List.append_nil]
  obtain ⟨f, hopen, hf⟩ := h.archive
  refine ⟨fun other => ?_, fun other => ?_, fun other => ?_, _,
    LawfulArchive.isOpen_of_write hopen hregisters.write, fun path data => ?_⟩
  · rw [hregisters.get?_schemata, hregistered, h.schemata]
  · rw [hregisters.staged, hadded, h.staged]
  · rw [hregisters.nodeCounts, hadded, h.nodeCounts]
  · rw [Contents.write_eq_some, hf]
    simp only [hregistered]
    constructor
    · rintro (⟨rfl, rfl⟩ | ⟨hne, other, known, hknown, rfl, rfl⟩)
      · exact ⟨name, schema, if_pos rfl, rfl, rfl⟩
      · have hother : name ≠ other := fun heq => hne (heq ▸ rfl)
        exact ⟨other, known, (if_neg hother).trans hknown, rfl, rfl⟩
    · rintro ⟨other, known, hknown, rfl, rfl⟩
      by_cases hname : name = other
      · rw [if_pos hname] at hknown
        obtain rfl := Option.some.inj hknown
        exact .inl ⟨hname ▸ rfl, rfl⟩
      · rw [if_neg hname] at hknown
        exact .inr ⟨fun heq => hname (schemaPath_injective heq), other, known, hknown, rfl, rfl⟩

theorem stages {l : Log} {r r' : CheckedRegistry σ} (h : r.toRegistry.Matches l) {e : Call × Answer}
    {collection : String} {ns : List Node} (schema : ∀ name, Call.schemaFor? name e = none)
    (nodes : ∀ name, Call.nodesFor name e = if collection = name then ns else [])
    (hstages : r.Stages collection ns r') : r'.toRegistry.Matches (l ++ [e]) := by
  have hregistered : ∀ name, (l ++ [e]).registered? name = l.registered? name := by
    intro name
    rw [Log.registered?_concat, schema, Option.none_or]
  obtain ⟨f, hopen, hf⟩ := h.archive
  refine ⟨fun name => ?_, fun name => ?_, fun name => ?_, f, hstages.archive ▸ hopen,
    fun path data => ?_⟩
  · rw [hstages.schemata, hregistered, h.schemata]
  · rw [hstages.staged, Log.added_concat, nodes, h.staged, h.staged]
    by_cases hname : collection = name
    · subst hname
      rw [if_pos rfl, if_pos rfl, if_neg (List.append_ne_nil_of_right_ne_nil _ hstages.nonempty)]
      split_ifs with hempty
      · rw [hempty]
        rfl
      · rfl
    · rw [if_neg hname, if_neg hname, List.append_nil]
  · rw [hstages.nodeCounts, Log.added_concat, nodes, h.nodeCounts]
    by_cases hname : collection = name
    · subst hname
      rw [if_pos rfl, if_pos rfl, if_neg (List.append_ne_nil_of_right_ne_nil _ hstages.nonempty),
        h.nodeCount, List.length_append]
    · rw [if_neg hname, if_neg hname, List.append_nil]
  · simp only [hregistered]
    exact hf path data

end Registry.Matches

section

variable {σ : Type} [Archive σ] [LawfulArchive σ]

theorem Session.Matches.effect {l : Log} {s s' : Session σ} {e : Call × Answer} (h : s.Matches l)
    (step : s.Effect e s') : s'.Matches (l ++ [e]) := by
  obtain ⟨r, hr, hmatches⟩ := h
  cases step with
  | none schema nodes => exact ⟨r, hr, hmatches.concat_none schema nodes⟩
  | registered takes hregister =>
    obtain rfl := Except.ok.inj (hr.symm.trans takes)
    exact ⟨_, rfl, hmatches.register (fun _ => rfl) (fun _ => rfl) hregister⟩
  | resolved check =>
    obtain rfl := Except.ok.inj hr
    obtain ⟨kinds, _, rfl⟩ := Registry.check_eq_ok.mp check
    exact ⟨_, rfl, hmatches.concat_none (fun _ => rfl) fun _ => rfl⟩
  | staged schema nodes stages =>
    obtain rfl := Except.ok.inj hr
    exact ⟨_, rfl, hmatches.stages schema nodes stages⟩

theorem Run.matches {a : σ} (fresh : LawfulArchive.IsOpen a fun _ => none) {start h : Handle σ}
    (new : start.toSession = .ofArchive a) {l : Log} (run : Run start l h) :
    h.toSession.Matches l := by
  refine Run.induction (P := fun l s => s.Matches l) ?_ ?_ run
  · rw [new]
    exact ⟨_, rfl, Registry.Matches.ofArchive fresh⟩
  · exact fun _ _ _ _ hs step => hs.effect step

/-! ## Finalizing -/

namespace Registry

omit [Archive σ] [LawfulArchive σ] in
theorem mem_lastEntries {r : Registry σ} {metadata path : String} {data : Bytes} :
    (path, data) ∈ r.lastEntries metadata ↔
      (∃ collection ns, r.staged.get? collection = some ns ∧ dataPath collection = path ∧
        nodeLines ns = data) ∨ (metadataPath = path ∧ Bytes.ofText metadata = data) := by
  rw [lastEntries, List.mem_append, List.mem_map, List.mem_singleton, Prod.mk.injEq,
    eq_comm (a := path), eq_comm (a := data)]
  refine or_congr ⟨?_, ?_⟩ Iff.rfl
  · rintro ⟨⟨collection, ns⟩, hmem, heq⟩
    obtain ⟨hpath, hdata⟩ := Prod.mk.inj heq
    exact ⟨collection, ns, Table.get?_of_mem r.staged_ascending hmem, hpath, hdata⟩
  · rintro ⟨collection, ns, hget, rfl, rfl⟩
    exact ⟨(collection, ns), Table.mem_of_get? hget, rfl⟩

omit [Archive σ] [LawfulArchive σ] in
theorem nodup_lastEntries (r : Registry σ) (metadata : String) :
    ((r.lastEntries metadata).map Prod.fst).Nodup := by
  rw [lastEntries, List.map_append, List.map_map, List.map_singleton]
  refine List.nodup_append.mpr ⟨?_, List.nodup_cons.mpr ⟨List.not_mem_nil, .nil⟩, ?_⟩
  · have hkeys := Table.nodup_keys r.staged_ascending
    rw [Table.keys] at hkeys
    refine List.pairwise_map.mpr ((List.pairwise_map.mp hkeys).imp fun {a b} hne heq => ?_)
    exact hne (dataPath_injective heq)
  · rintro _ hdata _ hmeta rfl
    obtain ⟨e, _, he⟩ := List.mem_map.mp hdata
    exact dataPath_ne_metadataPath e.1 (he.trans (List.mem_singleton.mp hmeta))

section

omit [Archive σ] [LawfulArchive σ]

variable {r : Registry σ} {f : Contents} {metadata path : String} {data : Bytes}

/-- After the last writes the nodes of a collection are under its path, whatever was there. -/
theorem writeAll_dataPath {collection : String} {ns : List Node}
    (h : r.staged.get? collection = some ns) :
    f.writeAll (r.lastEntries metadata) (dataPath collection) = some (nodeLines ns) :=
  (Contents.writeAll_eq_some (r.nodup_lastEntries metadata) f _ _).mpr
    (.inl (mem_lastEntries.mpr (.inl ⟨collection, ns, h, rfl, rfl⟩)))

theorem writeAll_metadataPath :
    f.writeAll (r.lastEntries metadata) metadataPath = some (Bytes.ofText metadata) :=
  (Contents.writeAll_eq_some (r.nodup_lastEntries metadata) f _ _).mpr
    (.inl (mem_lastEntries.mpr (.inr ⟨rfl, rfl⟩)))

end

omit [LawfulArchive σ] in
/-- What is held after the last writes was there before, or is one of them. -/
theorem read_or_mem_of_writeAll {r : Registry σ} {f : Contents} (holds : Archive.Holds r.archive f)
    {metadata path : String} {data : Bytes}
    (h : f.writeAll (r.lastEntries metadata) path = some data) :
    Archive.read r.archive path = .ok data ∨ (path, data) ∈ r.lastEntries metadata := by
  rcases (Contents.writeAll_eq_some (r.nodup_lastEntries metadata) f path data).mp h with
    hlast | ⟨_, hbefore⟩
  · exact .inr hlast
  · refine .inl ?_
    rw [holds.read, hbefore]
    rfl

/-- What is held after the last writes is what the run amounts to. -/
theorem Matches.writeAll_eq_some {l : Log} {r : Registry σ} (h : r.Matches l) {f : Contents}
    (hf : ∀ path data, f path = some data ↔ ∃ name schema, l.registered? name = some schema ∧
      schemaPath name = path ∧ Bytes.ofText schema.json = data) (metadata path : String)
    (data : Bytes) :
    f.writeAll (r.lastEntries metadata) path = some data ↔ l.Writes metadata path data := by
  rw [Contents.writeAll_eq_some (r.nodup_lastEntries metadata), mem_lastEntries, hf]
  constructor
  · rintro ((⟨collection, ns, hstaged, rfl, rfl⟩ | ⟨rfl, rfl⟩) | ⟨_, name, schema, hs, rfl, rfl⟩)
    · rw [h.staged] at hstaged
      split_ifs at hstaged with hempty
      obtain rfl := Option.some.inj hstaged
      exact .nodes hempty
    · exact .metadata
    · exact .schema hs
  · rintro (⟨hs⟩ | ⟨hadded⟩ | _)
    -- Schemata are there already, under paths that the last writes leave alone.
    · refine .inr ⟨fun hmem => ?_, _, _, hs, rfl, rfl⟩
      obtain ⟨⟨path, data⟩, hmem, hpath⟩ := List.mem_map.mp hmem
      rcases mem_lastEntries.mp hmem with ⟨collection, _, _, hdata, _⟩ | ⟨hmeta, _⟩
      · exact schemaPath_ne_dataPath _ _ (hdata.trans hpath).symm
      · exact schemaPath_ne_metadataPath _ (hmeta.trans hpath).symm
    · exact .inl (.inl ⟨_, _, (h.staged _).trans (if_neg hadded), rfl, rfl⟩)
    · exact .inl (.inr ⟨rfl, rfl⟩)

end Registry

/-- What a run and its metadata amount to is what a closed archive holds, and what is told about
it. -/
structure Log.IsArchived (l : Log) (metadata : String) (summary : Summary) (a : σ) : Prop where
  read (path : String) (data : Bytes) : Archive.read a path = .ok data ↔ l.Writes metadata path data
  missing (path : String) : (¬ ∃ data, l.Writes metadata path data) →
    Archive.read a path = .error (.entryNotFound path)
  has (path : String) : Archive.has a path = true ↔ ∃ data, l.Writes metadata path data
  list : Archive.list a "**" = .ok summary.entries
  entries (path : String) : path ∈ summary.entries ↔ ∃ data, l.Writes metadata path data
  ascending : summary.entries.Pairwise fun p q => Text.precedes p q = true
  nodeCounts (collection : String) : summary.nodeCounts.get? collection =
    if l.added collection = [] then none else some (l.added collection).length

theorem Entry.orMissing_eq_ok {path : String} {found : Option Bytes} {data : Bytes} :
    orMissing path found = .ok data ↔ found = some data :=
  Outcome.elim_eq_ok

omit [LawfulArchive σ] in
/-- What an archive holds decides how it answers, and what listing it tells. -/
theorem Log.IsArchived.of_holds {l : Log} {metadata : String} {summary : Summary} {a : σ}
    {f : Contents} (holds : Archive.Holds a f)
    (hf : ∀ path data, f path = some data ↔ l.Writes metadata path data)
    (hlist : Archive.list a "**" = .ok summary.entries)
    (hcounts : ∀ collection, summary.nodeCounts.get? collection =
      if l.added collection = [] then none else some (l.added collection).length) :
    l.IsArchived metadata summary a := by
  have hsome : ∀ path, (f path).isSome = true ↔ ∃ data, l.Writes metadata path data := by
    intro path
    rw [Option.isSome_iff_exists]
    exact exists_congr (hf path)
  obtain ⟨paths, hnodup, hmem, hall⟩ := holds.list
  have hsorted : summary.entries = Text.sort paths := by
    rw [hall, Entry.matching_all] at hlist
    exact (Except.ok.inj hlist).symm
  refine ⟨fun path data => ?_, fun path hnone => ?_, fun path => ?_, hlist, fun path => ?_, ?_,
    hcounts⟩
  · rw [holds.read, Entry.orMissing_eq_ok, hf]
  · have : f path = none := by
      rw [← Option.not_isSome_iff_eq_none, hsome]
      exact hnone
    rw [holds.read, this]
    rfl
  · rw [holds.has, hsome]
  · rw [hsorted, Text.mem_sort, hmem, hsome]
  · rw [hsorted]
    exact Text.pairwise_sort hnodup

theorem Run.isOpen_of_writeAll {a : σ} (fresh : LawfulArchive.IsOpen a fun _ => none)
    {start h : Handle σ} (new : start.toSession = .ofArchive a) {l : Log} (run : Run start l h)
    {r : Registry σ} (hr : h.toSession.registry = .ok r) {metadata : String} {b : σ}
    (hall : Registry.writeEntries r.archive (r.lastEntries metadata) = (none, b)) :
    ∃ f, LawfulArchive.IsOpen b f ∧
      ∀ path data, f path = some data ↔ l.Writes metadata path data := by
  obtain ⟨r', hr', hmatches⟩ := run.matches fresh new
  obtain rfl := Except.ok.inj (hr.symm.trans hr')
  obtain ⟨f, hopen, hf⟩ := hmatches.archive
  exact ⟨_, Registry.writeEntries_isOpen hopen hall, hmatches.writeAll_eq_some hf metadata⟩

/-- **What a run leaves in a lawful archive.** Finalizing without failure closes the archive with
the entries to which the run amounts. -/
theorem Run.closed {a : σ} (fresh : LawfulArchive.IsOpen a fun _ => none) {start h : Handle σ}
    (new : start.toSession = .ofArchive a) {l : Log} (run : Run start l h) {metadata : String}
    (storable : ∀ path data, l.Writes metadata path data → LawfulArchive.Storable σ path data)
    {summary : Summary} {b : σ} (hfinal : h.finalize metadata = (.ok summary, b)) :
    l.IsArchived metadata summary b ∧ ∃ f, LawfulArchive.IsClosed b f ∧
      ∀ path data, f path = some data ↔ l.Writes metadata path data := by
  obtain ⟨r, hr⟩ := Handle.registry_of_finalize hfinal
  rw [Handle.finalize_of_registry hr] at hfinal
  obtain ⟨c, hall, hclose, hlist, hcounts⟩ := Registry.finalize_eq_ok hfinal
  obtain ⟨f, hopen, hf⟩ := run.isOpen_of_writeAll fresh new hr hall
  have hclosed := LawfulArchive.close_open hopen
    (fun path data h => storable path data ((hf path data).mp h)) hclose
  refine ⟨.of_holds (LawfulArchive.holds_of_isClosed hclosed) hf hlist fun collection => ?_,
    f, hclosed, hf⟩
  obtain ⟨r', hr', hmatches⟩ := run.matches fresh new
  obtain rfl := Except.ok.inj (hr.symm.trans hr')
  rw [hcounts]
  exact hmatches.nodeCounts collection

/-- Finalizing succeeds if everything can be written and closing succeeds: what was written can be
listed. -/
theorem Registry.exists_finalize {r : Registry σ} {metadata : String} {b c : σ} {f : Contents}
    (hall : Registry.writeEntries r.archive (r.lastEntries metadata) = (none, b))
    (hopen : LawfulArchive.IsOpen b f)
    (storable : ∀ path data, f path = some data → LawfulArchive.Storable σ path data)
    (hclose : Archive.close b = (.ok (), c)) :
    ∃ summary, r.finalize metadata = (.ok summary, c) := by
  have hclosed := LawfulArchive.close_open hopen storable hclose
  obtain ⟨paths, _, _, hlist⟩ := (LawfulArchive.holds_of_isClosed hclosed).list
  refine ⟨⟨r.nodeCounts, Text.sort paths⟩, ?_⟩
  rw [Registry.finalize_eq, hall]
  simp only [hclose, Option.elim_none, hlist, Entry.matching_all]
  rfl

/-- The same after a run. -/
theorem Run.exists_finalize {a : σ} (fresh : LawfulArchive.IsOpen a fun _ => none)
    {start h : Handle σ} (new : start.toSession = .ofArchive a) {l : Log} (run : Run start l h)
    {metadata : String}
    (storable : ∀ path data, l.Writes metadata path data → LawfulArchive.Storable σ path data)
    {r : Registry σ} (hr : h.toSession.registry = .ok r) {b c : σ}
    (hall : Registry.writeEntries r.archive (r.lastEntries metadata) = (none, b))
    (hclose : Archive.close b = (.ok (), c)) :
    ∃ summary, h.finalize metadata = (.ok summary, c) := by
  obtain ⟨f, hopen, hf⟩ := run.isOpen_of_writeAll fresh new hr hall
  rw [Handle.finalize_of_registry hr]
  exact Registry.exists_finalize hall hopen
    (fun path data h => storable path data ((hf path data).mp h)) hclose

end

/-! ## A collection with one node -/

/-- The entries of a collection with one node, and empty metadata. -/
def Schema.entriesWith (schema : Schema) (n : Node) : List Entry :=
  [⟨schemaPath "a", Bytes.ofText schema.json⟩, ⟨dataPath "a", nodeLines [n]⟩,
    ⟨metadataPath, Bytes.ofText "{}"⟩]

section

variable {schema : Schema} {n : Node}

/-- The schema of the collection is registered, and the links are resolved. -/
theorem Registry.exists_check {σ : Type} [Archive σ] {a b : σ} {kinds : LinkKinds}
    (hwrite : Archive.write a (schemaPath "a") (Bytes.ofText schema.json) = .ok b)
    (hresolve : LinkKinds.ofSchemata [("a", schema)] = .ok kinds) :
    ∃ r, (Registry.ofArchive a).register "a" schema = .ok r ∧ r.check = .ok ⟨r, kinds⟩ ∧
      r.schemata = [("a", schema)] ∧ r.staged = [] ∧ r.archive = b := by
  obtain ⟨r, hr⟩ := Registry.exists_register (r := .ofArchive a) rfl hwrite
  have hregisters := Registry.register_eq_ok hr
  have hschemata := hregisters.schemata
  exact ⟨r, hr, Registry.check_eq_ok.mpr ⟨kinds, hschemata ▸ hresolve, rfl⟩, hschemata,
    hregisters.staged, Except.ok.inj (hregisters.write.symm.trans hwrite)⟩

theorem LinkKinds.ofSchemata_empty : ofSchemata [("a", .empty)] = .ok [] := by
  rw [ofSchemata, Schemata.outboundLinks_cons, Schema.outboundLinks_empty]
  rfl

/-- The node of the collection is added. -/
theorem CheckedRegistry.exists_addNode {σ : Type} {r : CheckedRegistry σ}
    (hschemata : r.schemata = [("a", schema)]) (hstaged : r.staged = []) (n : Node) :
    ∃ r', r.addNode "a" n = (.ok (), r') ∧ r'.staged = [("a", [n])] := by
  have hknown : Table.has r.schemata "a" = true := by
    rw [hschemata]
    rfl
  obtain ⟨r', hadd, stages⟩ := addNode_of_known hknown n
  refine ⟨r', hadd, Table.eq_of_get? r'.staged_ascending (List.pairwise_singleton _ _) fun c => ?_⟩
  rw [stages.staged, hstaged, Table.get?_cons]
  rfl

theorem Registry.lastEntries_of_staged {σ : Type} {r : Registry σ} (h : r.staged = [("a", [n])]) :
    r.lastEntries "{}" =
      [(dataPath "a", nodeLines [n]), (metadataPath, Bytes.ofText "{}")] := by
  rw [Registry.lastEntries, h]
  rfl

/-- The entries are all that is in a new pack file, or waits to be written to it. -/
theorem Registry.mem_entriesWith {files : Files} {r : Registry PackArchive}
    (hwrite : Archive.write (PackArchive.ofEntries files "p" .standard []) (schemaPath "a")
      (Bytes.ofText schema.json) = .ok r.archive)
    (hstaged : r.staged = [("a", [n])]) {path : String} {data : Bytes}
    (h : Archive.read r.archive path = .ok data ∨ (path, data) ∈ r.lastEntries "{}") :
    ⟨path, data⟩ ∈ schema.entriesWith n := by
  rcases h with hread | hlast
  · have hfound : Entry.get? [⟨schemaPath "a", Bytes.ofText schema.json⟩] path = some data := by
      rw [← Except.ok.inj hwrite] at hread
      exact Outcome.elim_eq_ok.mp hread
    rw [Entry.get?_cons] at hfound
    split_ifs at hfound with hpath
    · obtain rfl := hpath
      obtain rfl := Option.some.inj hfound
      exact List.mem_cons_self
    · cases hfound
  · rw [Registry.lastEntries_of_staged hstaged] at hlast
    simp only [List.mem_cons, Prod.mk.injEq, List.not_mem_nil, or_false] at hlast
    rcases hlast with ⟨rfl, rfl⟩ | ⟨rfl, rfl⟩
    · exact List.mem_cons_of_mem _ List.mem_cons_self
    · exact List.mem_cons_of_mem _ (List.mem_cons_of_mem _ List.mem_cons_self)

/-- A registry with the schema and the node can be finalized in a new pack file. -/
theorem Registry.exists_finalize_entriesWith {files : Files}
    (hsave : ∀ bs, ∃ saved, PackArchive.save files "p" bs = .ok saved)
    (fits : ∀ e ∈ schema.entriesWith n, (Bytes.ofText e.path).FitsMemory ∧ e.data.FitsMemory)
    {r : Registry PackArchive}
    (hwrite : Archive.write (PackArchive.ofEntries files "p" .standard []) (schemaPath "a")
      (Bytes.ofText schema.json) = .ok r.archive)
    (hstaged : r.staged = [("a", [n])]) : ∃ summary a, r.finalize "{}" = (.ok summary, a) := by
  let := PackArchive.lawful Codec.isLossless_standard
  have hall : Registry.writeEntries r.archive (r.lastEntries "{}") =
      (none, .ofEntries files "p" .standard (schema.entriesWith n)) := by
    have harchive : PackArchive.ofEntries files "p" .standard
        [⟨schemaPath "a", Bytes.ofText schema.json⟩] = r.archive := Except.ok.inj hwrite
    rw [Registry.lastEntries_of_staged hstaged, ← harchive, Registry.writeEntries_cons_of_ok rfl,
      Registry.writeEntries_cons_of_ok rfl]
    rfl
  have hpaths : (Entry.paths (schema.entriesWith n)).Nodup := by
    show [schemaPath "a", dataPath "a", metadataPath].Nodup
    decide
  obtain ⟨d, hclose⟩ := PackArchive.exists_close
    (a := .ofEntries files "p" .standard (schema.entriesWith n)) rfl Codec.isLossless_standard
    hpaths fits (show 3 < 0x100000000 by decide) hsave
  have hopen : PackArchive.IsPending (.ofEntries files "p" .standard (schema.entriesWith n))
      (Entry.get? (schema.entriesWith n)) := ⟨_, rfl, hpaths, rfl⟩
  obtain ⟨summary, hfinal⟩ := Registry.exists_finalize hall hopen
    (fun path data h => fits _ (Entry.mem_of_get? h)) hclose
  exact ⟨summary, d, hfinal⟩

end

/-! ## A run with one node -/

/-- A run that registers a schema without properties and adds a node without values. -/
def Log.sample : Log :=
  [(.register "a" .empty, .ok ()), (.check, .ok ()), (.addNode "a" (.ofTitle "x" []), .ok ())]

theorem Run.sample {σ : Type} [Archive σ] {a b : σ}
    (hwrite : Archive.write a (schemaPath "a") (Bytes.ofText Schema.empty.json) = .ok b) :
    ∃ r : CheckedRegistry σ, Run (.session (.ofArchive a)) Log.sample (.session (.checked r)) ∧
      r.archive = b ∧ r.staged = [("a", [.ofTitle "x" []])] := by
  obtain ⟨r, hr, hcheck, hschemata, hstaged, harchive⟩ :=
    Registry.exists_check hwrite LinkKinds.ofSchemata_empty
  obtain ⟨r₂, hadd, hnodes⟩ :=
    CheckedRegistry.exists_addNode (r := ⟨r, []⟩) hschemata hstaged (.ofTitle "x" [])
  have hfirst : (Session.ofArchive a).call (.register "a" .empty) = (.ok (), .building r) := by
    rw [Session.call, Session.ofArchive, Session.register, hr]
  have hsecond : (Session.building r).call .check = (.ok (), .checked ⟨r, []⟩) := by
    rw [Session.call, Session.check, hcheck]
  have hthird : (Session.checked ⟨r, []⟩).call (.addNode "a" (.ofTitle "x" [])) =
      (.ok (), .checked r₂) := by
    rw [Session.call, Session.addNode]
    simp only [Session.checkedRegistry, hadd]
  exact ⟨r₂, .call (.call (.call .start (Handle.call?_session hfirst))
    (Handle.call?_session hsecond)) (Handle.call?_session hthird),
    (CheckedRegistry.addNode_eq_ok hadd).archive.trans harchive, hnodes⟩

/-- The entries to which the run amounts with empty metadata. -/
def Log.sampleEntries : List Entry :=
  Schema.empty.entriesWith (.ofTitle "x" [])

theorem Log.mem_sampleEntries {path : String} {data : Bytes}
    (h : Log.sample.Writes "{}" path data) : ⟨path, data⟩ ∈ Log.sampleEntries := by
  cases h with
  | @schema name schema h =>
    by_cases hname : "a" = name
    · subst hname
      obtain rfl : Schema.empty = schema := Option.some.inj h
      exact List.mem_cons_self
    · simp [Log.registered?, Log.sample, List.findSome?_cons, Call.schemaFor?, hname] at h
  | @nodes collection h =>
    by_cases hname : "a" = collection
    · subst hname
      exact List.mem_cons_of_mem _ List.mem_cons_self
    · simp [Log.added, Log.sample, Call.nodesFor, hname] at h
  | metadata => exact List.mem_cons_of_mem _ (List.mem_cons_of_mem _ List.mem_cons_self)

theorem Log.fitsMemory_sampleEntries {e : Entry} (h : e ∈ Log.sampleEntries) :
    (Bytes.ofText e.path).FitsMemory ∧ e.data.FitsMemory := by
  simp only [Log.sampleEntries, Schema.entriesWith, List.mem_cons, List.not_mem_nil, or_false] at h
  simp only [Bytes.FitsMemory]
  rcases h with rfl | rfl | rfl
  · rw [Bytes.ofText_eq, Bytes.ofText_eq]
    decide +kernel
  · simp only [nodeLines, List.flatMap_singleton, Bytes.ofText_eq]
    decide +kernel
  · rw [Bytes.ofText_eq, Bytes.ofText_eq]
    decide +kernel

/-- The run can be finalized in a new pack file. -/
theorem Run.exists_finalize_sample :
    ∃ (new a : PackArchive) (r : CheckedRegistry PackArchive) (summary : Summary),
      PackArchive.create (.empty []) "p" .standard = .ok new ∧
        Run (.session (.ofArchive new)) Log.sample (.session (.checked r)) ∧
          (∀ path data,
            (Archive.read r.archive path = .ok data ∨ (path, data) ∈ r.lastEntries "{}") →
              ⟨path, data⟩ ∈ Log.sampleEntries) ∧
            (Handle.session (.checked r)).finalize "{}" = (.ok summary, a) := by
  obtain ⟨b, hwrite⟩ : ∃ b, Archive.write (PackArchive.ofEntries (.empty []) "p" .standard [])
      (schemaPath "a") (Bytes.ofText Schema.empty.json) = .ok b := ⟨_, rfl⟩
  obtain ⟨r, run, harchive, hstaged⟩ := Run.sample hwrite
  rw [← harchive] at hwrite
  obtain ⟨summary, a, hfinal⟩ := Registry.exists_finalize_entriesWith (fun _ => ⟨_, rfl⟩)
    (fun _ => Log.fitsMemory_sampleEntries) hwrite hstaged
  refine ⟨_, a, r, summary, rfl, run, fun _ _ => Registry.mem_entriesWith hwrite hstaged, ?_⟩
  rw [Handle.finalize_of_registry rfl, hfinal]

/-- The run can be finalized in memory. -/
theorem Run.exists_finalize_memory : ∃ (h : Handle MemoryArchive) (summary : Summary)
    (a : MemoryArchive), Run (.session (.ofArchive .empty)) Log.sample h ∧
      h.finalize "{}" = (.ok summary, a) := by
  obtain ⟨b, hwrite⟩ : ∃ b, Archive.write MemoryArchive.empty (schemaPath "a")
      (Bytes.ofText Schema.empty.json) = .ok b := ⟨_, rfl⟩
  obtain ⟨r, run, harchive, hstaged⟩ := Run.sample hwrite
  obtain ⟨c, d, hall, hclose⟩ : ∃ c d, Registry.writeEntries r.archive (r.lastEntries "{}") =
      (none, c) ∧ Archive.close c = (.ok (), d) := by
    rw [Registry.lastEntries_of_staged hstaged, harchive]
    obtain rfl := Except.ok.inj hwrite
    exact ⟨_, _, rfl, rfl⟩
  obtain ⟨summary, hfinal⟩ := run.exists_finalize MemoryArchive.isOpen_empty rfl
    (fun _ _ _ => trivial) rfl hall hclose
  exact ⟨_, summary, d, run, hfinal⟩

/-! ## New archives -/

/-- **What a run on a new archive in memory or in a pack file leaves behind.** After finalizing
without failure, the archive holds the schemata that were registered, the nodes that were added to
each collection, in the order of adding, and the metadata, and nothing else; the summary tells how
many nodes each collection has and lists all entries. A pack file holds the same entries. -/
theorem archived_of_finalize :
    (∀ {start h : Handle MemoryArchive} {l : Log} {metadata : String} {summary : Summary}
        {a : MemoryArchive},
      start.toSession = .ofArchive .empty → Run start l h →
        h.finalize metadata = (.ok summary, a) → l.IsArchived metadata summary a) ∧
    ∀ [Codec], Codec.IsLossless ‹Codec› →
      ∀ {files : Files} {path : String} {config : PackConfig} {new a : PackArchive}
        {start h : Handle PackArchive} {l : Log} {metadata : String} {summary : Summary},
      PackArchive.create files path config = .ok new → start.toSession = .ofArchive new →
        Run start l h →
        (∀ p data, l.Writes metadata p data → (Bytes.ofText p).FitsMemory ∧ data.FitsMemory) →
        h.finalize metadata = (.ok summary, a) →
          l.IsArchived metadata summary a ∧ ∃ p, PackArchive.readPack a.files a.path = .ok p ∧
            ∀ q data, p.read q = .ok (some data) ↔ l.Writes metadata q data := by
  constructor
  · intro start h l metadata summary a new run hfinal
    exact (run.closed MemoryArchive.isOpen_empty new (fun _ _ _ => trivial) hfinal).1
  · intro _ lossless files path config new a start h l metadata summary hcreate hstart run fits
      hfinal
    let := PackArchive.lawful lossless
    obtain ⟨harchived, f, ⟨_, p, _, hopened, _, _, hread⟩, hf⟩ :=
      run.closed (PackArchive.isPending_create hcreate) hstart fits hfinal
    refine ⟨harchived, p, hopened, fun q data => ?_⟩
    rw [hread, Except.ok.injEq, hf]

theorem archived_of_finalize_sample :
    (∃ (h : Handle MemoryArchive) (summary : Summary) (a : MemoryArchive),
      Run (.session (.ofArchive .empty)) Log.sample h ∧ h.finalize "{}" = (.ok summary, a) ∧
        Log.sample.IsArchived "{}" summary a) ∧
    ∃ (new a : PackArchive) (h : Handle PackArchive) (summary : Summary),
      PackArchive.create (.empty []) "p" .standard = .ok new ∧
        Run (.session (.ofArchive new)) Log.sample h ∧ h.finalize "{}" = (.ok summary, a) ∧
          Log.sample.IsArchived "{}" summary a := by
  constructor
  · obtain ⟨h, summary, a, run, hfinal⟩ := Run.exists_finalize_memory
    exact ⟨h, summary, a, run, hfinal, archived_of_finalize.1 rfl run hfinal⟩
  · obtain ⟨new, a, r, summary, hnew, run, _, hfinal⟩ := Run.exists_finalize_sample
    have hfits : ∀ path data, Log.sample.Writes "{}" path data →
        (Bytes.ofText path).FitsMemory ∧ data.FitsMemory :=
      fun _ _ h => Log.fitsMemory_sampleEntries (Log.mem_sampleEntries h)
    exact ⟨new, a, _, summary, hnew, run, hfinal,
      (archived_of_finalize.2 Codec.isLossless_standard hnew rfl run hfits hfinal).1⟩

end CollectionArchive
