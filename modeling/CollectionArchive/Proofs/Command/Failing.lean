import CollectionArchive.Command.Run
import CollectionArchive.Proofs.Command.Records
import CollectionArchive.Proofs.Files
import CollectionArchive.Proofs.Registry.Finalization
import CollectionArchive.Proofs.Schema.Written

/-!
# Builds that fail

What is written to an archive waits in memory until the archive is closed. So a build that fails
before it is finalized has made directories, and has changed no file, though it may have written
schemata. If a record is to blame, the error tells which one: that of the first line that cannot be
taken.

* `PackArchive.keepsFiles_of_create`: creating an archive changes no file.
* `PackArchive.files_of_write`: neither does writing to it; **`Manifest.files_collect`**: nor does
  collecting what a manifest names, whatever fails.
* `Manifest.checkedRegistry`: the registry of all schemata of a manifest.
* `Request.Collects`, `Request.ReachesFinalize`: only finalizing is left to do.
* **`Request.runBuild_eq`**: all that a build can do.
* **`kept_of_failed_build`**: what a build that fails earlier leaves behind, and its error.
-/

namespace CollectionArchive

/-! ## Archives until they are closed -/

namespace PackArchive

/-- Creating an archive changes no file. -/
theorem keepsFiles_of_create {f : Files} {path : String} {config : PackConfig}
    {a : PackArchive} (h : create f path config = .ok a) : f.KeepsFiles a.files := by
  rw [create] at h
  split_ifs at h
  obtain ⟨made, hmade, h⟩ := Outcome.bind_eq_ok.mp h
  obtain rfl := Outcome.pure_eq_ok.mp h
  exact Files.keepsFiles_of_makeDirectories? (Outcome.elim_eq_ok.mp hmade)

variable [Codec] {a b : PackArchive} {path : String} {data : Bytes}

/-- What is written waits, and the files around the archive stay as they are. -/
theorem files_of_write (h : Archive.write a path data = .ok b) : b.files = a.files := by
  obtain ⟨entries, _, h⟩ := Outcome.bind_eq_ok.mp h
  obtain ⟨_, _, h⟩ := Outcome.bind_eq_ok.mp h
  obtain rfl := Outcome.pure_eq_ok.mp h
  rfl

theorem files_of_register {δ β : Type} {r r' : Registry PackArchive δ β} {name : String}
    {schema : Schema} (h : r.register name schema = .ok r') :
    r'.archive.files = r.archive.files := by
  rw [Registry.register] at h
  split_ifs at h
  obtain ⟨b, hb, h⟩ := Outcome.bind_eq_ok.mp h
  obtain rfl := Outcome.pure_eq_ok.mp h
  exact files_of_write (Outcome.mapError_eq_ok.mp hb)

theorem files_of_registerFile {δ β : Type} {f : Files} {r r' : Registry PackArchive δ β}
    {name path : String} (h : r.registerFile f name path = .ok r') :
    r'.archive.files = r.archive.files := by
  obtain ⟨schema, _, h⟩ := Outcome.bind_eq_ok.mp h
  exact files_of_register (Outcome.mapError_eq_ok.mp h)

end PackArchive

/-! ## Steps of a build -/

namespace Manifest

section

variable {σ δ β : Type} [Archive σ]

/-- The registry of all schemata of a manifest. Their links are resolved. -/
def checkedRegistry (f : Files) (archive : σ) (buffers : δ) (m : Manifest) :
    Except CommandError (CheckedRegistry σ δ β) := do
  let register (r : Registry σ δ β) (c : CollectionSource) := r.registerFile f c.name c.schema
  (← m.collections.foldlM register (.new archive buffers)).checkAll

variable [BufferSource δ β] [Buffer β]

/-- The records are added to the registry of all schemata. Without that, the archive is left as the
schemata have left it that were registered. -/
theorem collect_eq (f : Files) (archive : σ) (buffers : δ) (m : Manifest) :
    (m.collect f archive buffers : Except CommandError (CheckedRegistry σ δ β) × σ) =
      match m.checkedRegistry f archive buffers with
      | .ok r =>
        let (added, r) := Steps.run (CheckedRegistry.addRecords f m.rejectNull) r m.collections
        (added.map fun _ => r, r.archive)
      | .error e => (.error e, (Steps.run (Steps.keeping fun (r : Registry σ δ β) c =>
          r.registerFile f c.name c.schema) (.new archive buffers) m.collections).2.archive) := by
  rw [checkedRegistry, ← Steps.run_keeping_bind, collect]
  rcases Steps.run _ _ m.collections with ⟨registered, r⟩
  cases registered with
  | error e => rfl
  | ok =>
    simp only [bind, Except.bind]
    cases r.checkAll <;> rfl

variable {f : Files} {archive : σ} {buffers : δ} {m : Manifest} {r : CheckedRegistry σ δ β}

/-- Collecting succeeds if the records can be added to the registry of all schemata. -/
theorem collect_eq_ok : (m.collect f archive buffers).1 = .ok r ↔
    ∃ r₀, m.checkedRegistry f archive buffers = .ok r₀ ∧
      Steps.run (CheckedRegistry.addRecords f m.rejectNull) r₀ m.collections = (.ok (), r) := by
  rw [collect_eq]
  cases hr₀ : (m.checkedRegistry f archive buffers : Except _ (CheckedRegistry σ δ β)) with
  | error e => simp
  | ok r₀ =>
    rcases hadded : Steps.run (CheckedRegistry.addRecords f m.rejectNull) r₀ m.collections with
      ⟨e | ⟨⟩, r₁⟩
    · simp [hadded, Except.map]
    · simp [hadded, Except.map]

/-- Once all schemata are registered, nothing but records can fail. -/
theorem collect_fails {r₀ : CheckedRegistry σ δ β}
    (hr₀ : m.checkedRegistry f archive buffers = .ok r₀) {e : CommandError} :
    (m.collect f archive buffers : Except _ (CheckedRegistry σ δ β) × σ).1 = .error e ↔
      ∃ front c back before, m.collections = front ++ c :: back ∧
        Steps.run (CheckedRegistry.addRecords f m.rejectNull) r₀ front = (.ok (), before) ∧
          before.SourceFails f m.rejectNull c e := by
  rw [collect_eq, hr₀]
  simp only [← CheckedRegistry.addRecords_fails]
  rw [← Steps.run_fails]
  cases (Steps.run (CheckedRegistry.addRecords f m.rejectNull) r₀ m.collections).1 <;>
    simp [Except.map]

end

/-- **Whatever fails while collecting, no file changes.** What is written to the archive waits there
until it is closed. -/
theorem files_collect [Codec] {δ β : Type} [BufferSource δ β] [Buffer β] (f : Files)
    (archive : PackArchive) (buffers : δ) (m : Manifest) :
    (m.collect f archive buffers :
      Except CommandError (CheckedRegistry PackArchive δ β) × PackArchive).2.files =
        archive.files := by
  let register (r : Registry PackArchive δ β) (c : CollectionSource) :=
    r.registerFile f c.name c.schema
  have hregister : ∀ (r : Registry PackArchive δ β) c r', r.archive.files = archive.files →
      register r c = .ok r' → r'.archive.files = archive.files :=
    fun _ _ _ hr h => (PackArchive.files_of_registerFile h).trans hr
  have hregistered : (Steps.run (Steps.keeping register) (.new archive buffers)
      m.collections).2.archive.files = archive.files :=
    Steps.run_keeping_preserves
      (P := fun r : Registry PackArchive δ β => r.archive.files = archive.files) hregister rfl
  rw [collect_eq]
  cases hr : (m.checkedRegistry f archive buffers : Except _ (CheckedRegistry _ δ β)) with
  | error e => exact hregistered
  | ok r =>
    obtain ⟨r₀, hr₀, hcheck⟩ := Outcome.bind_eq_ok.mp hr
    obtain ⟨kinds, _, rfl⟩ := Registry.check_eq_ok.mp (Outcome.mapError_eq_ok.mp hcheck)
    rw [Steps.run_keeping_eq_ok.mpr hr₀] at hregistered
    let start : CheckedRegistry PackArchive δ β := ⟨r₀, kinds⟩
    have hadded : start.OnlyStages
        (Steps.run (CheckedRegistry.addRecords f m.rejectNull) start m.collections).2 :=
      Steps.run_preserves
        (fun r c hr => hr.trans (CheckedRegistry.addRecords_onlyStages f m.rejectNull r c)) (.refl _)
    exact (congrArg PackArchive.files hadded.archive).trans hregistered

end Manifest

/-! ## Builds -/

section

variable [Codec] {δ β : Type}

/-- The manifest `m` is read, and the registry `r` of its schemata and records is collected on the
new archive `a`. -/
structure Request.Collects [BufferSource δ β] [Buffer β] (f : Files) (buffers : δ)
    (manifest : String) (output? : Option String) (m : Manifest) (a : PackArchive)
    (r : CheckedRegistry PackArchive δ β) : Prop where
  load : Manifest.load f manifest = .ok m
  create : PackArchive.create f (output?.getD m.archive) m.packConfig = .ok a
  collect : (m.collect a.files a buffers).1 = .ok r

variable [BufferSource δ β] [Buffer β] {f : Files} {buffers : δ} {manifest : String}
  {output? : Option String}

theorem Request.Collects.unique {m m' : Manifest} {a a' : PackArchive}
    {r r' : CheckedRegistry PackArchive δ β} (h : Collects f buffers manifest output? m a r)
    (h' : Collects f buffers manifest output? m' a' r') : m = m' ∧ a = a' ∧ r = r' := by
  obtain rfl := Except.ok.inj (h.load.symm.trans h'.load)
  obtain rfl := Except.ok.inj (h.create.symm.trans h'.create)
  exact ⟨rfl, rfl, Except.ok.inj (h.collect.symm.trans h'.collect)⟩

/-- All schemata and records have been collected, and only finalizing is left to do. -/
def Request.ReachesFinalize (f : Files) (buffers : δ) (manifest : String)
    (output? : Option String) : Prop :=
  ∃ m a r, Collects f buffers manifest output? m a r

/-- All that a build can do: it fails with the first of its steps that does, or goes as far as
finalizing. The files afterwards are those around its archive, as the last step has left them. -/
inductive Request.Builds (format : ReportFormat) (f : Files) (buffers : δ) (manifest : String)
    (output? : Option String) : Except CommandError String × Files → Prop
  | noManifest {e : CommandError} (load : Manifest.load f manifest = .error e) :
    Builds format f buffers manifest output? (.error e, f)
  | noArchive {m : Manifest} {e : PackError} (load : Manifest.load f manifest = .ok m)
    (create : PackArchive.create f (output?.getD m.archive) m.packConfig = .error e) :
    Builds format f buffers manifest output?
      (.error ⟨[s!"creating archive {output?.getD m.archive}"], some (.registry (.archive e))⟩, f)
  | noRegistry {m : Manifest} {a b : PackArchive} {e : CommandError}
    (load : Manifest.load f manifest = .ok m)
    (create : PackArchive.create f (output?.getD m.archive) m.packConfig = .ok a)
    (collect : m.collect a.files a buffers = (.error e, b)) :
    Builds format f buffers manifest output? (.error e, b.files)
  | finalized {m : Manifest} {a b : PackArchive} {r : CheckedRegistry PackArchive δ β}
    {ending : Except RegistryError Summary} {outcome : Except CommandError String}
    (collects : Collects f buffers manifest output? m a r)
    (finalize : r.toRegistry.finalize m.metadata.json = (ending, b))
    (told : (CommandError.causedBy .registry "finalizing archive" ending).map
      (Report.built format (output?.getD m.archive)) = outcome) :
    Builds format f buffers manifest output? (outcome, b.files)

variable {format : ReportFormat}

/-- **All that a build can do.** -/
theorem Request.runBuild_eq {out : Except CommandError String × Files} :
    runBuild format f buffers manifest output? = out ↔
      Builds format f buffers manifest output? out := by
  constructor
  · rintro rfl
    rw [runBuild]
    cases hload : Manifest.load f manifest with
    | error e => exact .noManifest hload
    | ok m =>
      simp only [Manifest.build]
      cases hcreate : PackArchive.create f (output?.getD m.archive) m.packConfig with
      | error e => exact .noArchive hload hcreate
      | ok a =>
        simp only [CommandError.causedBy, Except.mapError]
        rcases hcollect : m.collect a.files a buffers with ⟨e | r, b⟩
        · exact .noRegistry hload hcreate hcollect
        · exact .finalized ⟨hload, hcreate, by rw [hcollect]⟩ rfl rfl
  · rintro (load | ⟨load, create⟩ | ⟨load, create, collect⟩ | @⟨m, a, b, r, _, _, collects, finalize,
      rfl⟩)
    · rw [runBuild, load]
    · simp only [runBuild, load, Manifest.build, create]
      rfl
    · simp only [runBuild, load, Manifest.build, create, CommandError.causedBy, Except.mapError,
        collect]
      rfl
    · obtain ⟨c, hcollect⟩ : ∃ c, m.collect a.files a buffers = (.ok r, c) :=
        ⟨_, Prod.ext collects.collect rfl⟩
      simp only [runBuild, collects.load, Manifest.build, collects.create, CommandError.causedBy,
        Except.mapError, hcollect, finalize]

/-- Finalizing apart, no step of a build writes a file. -/
theorem Request.Builds.keepsFiles {out : Except CommandError String × Files}
    (h : Builds format f buffers manifest output? out)
    (early : ¬ ReachesFinalize f buffers manifest output?) : f.KeepsFiles out.2 := by
  cases h with
  | noManifest => exact .refl f
  | noArchive => exact .refl f
  | @noRegistry m a b e _ create collect =>
    have hfiles := m.files_collect a.files a buffers
    rw [collect] at hfiles
    exact hfiles ▸ PackArchive.keepsFiles_of_create create
  | finalized collects => exact absurd ⟨_, _, _, collects⟩ early

/-- **A build that fails before everything is finalized changes no file**, that of the archive
included: all files stay where they are with the content that they have, and what is read at a path
afterwards was there before. If all schemata are registered and all links resolved, the error is
that of the first line of records that cannot be taken, in the order of the manifest and of the
files, after all lines before have been taken. Where such a line is no record or does not fit its
collection, or its node cannot be staged, the outermost context of the error is the path of the file
with the number of the line. -/
theorem kept_of_failed_build {g : Files} {e : CommandError}
    (failed : Request.runBuild format f buffers manifest output? = (.error e, g))
    (early : ¬ Request.ReachesFinalize f buffers manifest output?) :
    (∀ place, g.content? place = f.content? place) ∧
    (∀ path, g.read? path = (g.resolve? path).bind f.content? ∧
      ((f.resolve? path).isSome = true ∨ (∀ segment ∈ FilePath.segments path, segment ≠ "..") →
        g.read? path = f.read? path)) ∧
    ∀ m a (r : CheckedRegistry PackArchive δ β), Manifest.load f manifest = .ok m →
      PackArchive.create f (output?.getD m.archive) m.packConfig = .ok a →
        m.checkedRegistry a.files a buffers = .ok r →
          ∃ front c back before, m.collections = front ++ c :: back ∧
            Steps.run (CheckedRegistry.addRecords a.files m.rejectNull) r front =
              (.ok (), before) ∧
            before.SourceFails a.files m.rejectNull c e := by
  have hbuilds := Request.runBuild_eq.mp failed
  have hkeeps := hbuilds.keepsFiles early
  refine ⟨hkeeps.content?, fun path => ⟨hkeeps.read?_eq path, hkeeps.read?⟩, ?_⟩
  intro m a r hload hcreate hr
  cases hbuilds with
  | noManifest load => exact nomatch load.symm.trans hload
  | noArchive load create =>
    obtain rfl := Except.ok.inj (load.symm.trans hload)
    exact nomatch create.symm.trans hcreate
  | noRegistry load create collect =>
    obtain rfl := Except.ok.inj (load.symm.trans hload)
    obtain rfl := Except.ok.inj (create.symm.trans hcreate)
    exact (Manifest.collect_fails hr).mp (congrArg Prod.fst collect)
  | finalized collects => exact absurd ⟨_, _, _, collects⟩ early

end

/-! ## A manifest of one collection -/

/-- A manifest of one collection, which has a file of records. -/
def Manifest.sampleText : String :=
  "archive = \"p\"\n[[collection]]\nname = \"a\"\nschema = \"s\"\nrecords = \"r\"\n"

/-- The files of the manifest, and one where the archive is to be written. -/
def Files.sample (schema : Schema) (records : Bytes) : Files :=
  ⟨.directory [("m", .file (Bytes.ofText Manifest.sampleText)), ("p", .file [7]),
    ("r", .file records), ("s", .file (Bytes.ofText schema.json))], []⟩

theorem Manifest.parse?_sampleText : (Manifest.parse? sampleText).map (fun m =>
    (m.archive, m.compressionLevel, m.rejectNull, m.collections, m.metadata.json)) =
      some ("p", none, false, [⟨"a", "s", some "r"⟩], "{}") := by
  decide +kernel

theorem Schema.parse_json_empty : Schema.parse Schema.empty.json = .ok .empty :=
  parse_json_of_isValid (.box (List.forall_mem_nil _)) (.box (List.forall_mem_nil _)) (by decide)
    (List.forall_mem_nil _)

section

variable {schema : Schema} {records : Bytes}

theorem Schema.load_sample (hparse : Schema.parse schema.json = .ok schema) (records : Bytes) :
    load (.sample schema records) "s" = .ok schema := by
  have hread : (Files.sample schema records).readText? "s" = some schema.json :=
    Option.bind_eq_some_iff.mpr ⟨Bytes.ofText schema.json, rfl, Bytes.text?_ofText _⟩
  refine Outcome.mapError_eq_ok.mpr (Outcome.bind_eq_ok.mpr ⟨schema.json, ?_, ?_⟩)
  · rw [hread, CommandError.orNoFile, Option.elim_some]
  · rw [hparse, Except.mapError]

theorem Manifest.exists_load_sample (schema : Schema) (records : Bytes) :
    ∃ m, load (.sample schema records) "m" = .ok m ∧ m.archive = "p" ∧ m.packConfig = .standard ∧
      m.rejectNull = false ∧ m.collections = [⟨"a", "s", some "r"⟩] ∧ m.metadata.json = "{}" := by
  obtain ⟨m, hm, hmembers⟩ := Option.map_eq_some_iff.mp parse?_sampleText
  simp only [Prod.mk.injEq] at hmembers
  obtain ⟨harchive, hlevel, hreject, hcollections, hmetadata⟩ := hmembers
  have hread : (Files.sample schema records).readText? "m" = some sampleText :=
    Option.bind_eq_some_iff.mpr ⟨Bytes.ofText sampleText, rfl, Bytes.text?_ofText _⟩
  have hbase : (FilePath.parent? "m").getD "" = "" := by decide
  refine ⟨m.rebase "", ?_, ?_, ?_, hreject, ?_, hmetadata⟩
  · refine Outcome.bind_eq_ok.mpr ⟨sampleText, Outcome.mapError_eq_ok.mpr ?_, ?_⟩
    · rw [hread, CommandError.orNoFile, Option.elim_some]
    · refine Outcome.bind_eq_ok.mpr ⟨m, Outcome.mapError_eq_ok.mpr ?_, ?_⟩
      · rw [read, hm, Option.elim_some, CommandError.within, Except.mapError]
      · rw [hbase]
        rfl
  · rw [rebase, harchive]
    rfl
  · rw [rebase, packConfig, hlevel]
    rfl
  · rw [rebase, hcollections]
    rfl

/-- The manifest is read, and its schema registered. -/
theorem Manifest.exists_checkedRegistry_sample [Codec] {kinds : LinkKinds}
    (hparse : Schema.parse schema.json = .ok schema)
    (hresolve : LinkKinds.ofSchemata [("a", schema)] = .ok kinds) (records : Bytes) :
    ∃ (m : Manifest) (a : PackArchive) (r : CheckedRegistry PackArchive),
      load (.sample schema records) "m" = .ok m ∧ m.archive = "p" ∧ m.rejectNull = false ∧
        m.collections = [⟨"a", "s", some "r"⟩] ∧ m.metadata.json = "{}" ∧
          PackArchive.create (.sample schema records) "p" m.packConfig = .ok a ∧
            a = .ofEntries (.sample schema records) "p" .standard [] ∧
              m.checkedRegistry a.files a () = .ok r ∧ r.schemata = [("a", schema)] ∧
                r.kinds = kinds ∧ r.staged = [] ∧ Archive.write a (schemaPath "a") (Bytes.ofText schema.json) =
                  .ok r.archive := by
  obtain ⟨m, hload, harchive, hconfig, hreject, hcollections, hmetadata⟩ :=
    exists_load_sample schema records
  obtain ⟨a, hcreate, ha⟩ : ∃ a,
      PackArchive.create (.sample schema records) "p" .standard = .ok a ∧
        a = .ofEntries (.sample schema records) "p" .standard [] := ⟨_, rfl, rfl⟩
  obtain ⟨b, hwrite⟩ : ∃ b, Archive.write a (schemaPath "a") (Bytes.ofText schema.json) = .ok b :=
    ha ▸ ⟨_, rfl⟩
  obtain ⟨r, hregister, hcheck, hschemata, hstaged, rfl⟩ := Registry.exists_check hwrite hresolve
  refine ⟨m, a, ⟨r, kinds⟩, hload, harchive, hreject, hcollections, hmetadata, hconfig ▸ hcreate,
    ha, ?_, hschemata, rfl, hstaged, hwrite⟩
  have hfile : (Registry.ofArchive a).registerFile (.sample schema records) "a" "s" = .ok r := by
    rw [Registry.registerFile, Schema.load_sample hparse]
    exact Outcome.mapError_eq_ok.mpr hregister
  rw [checkedRegistry, hcollections, show a.files = .sample schema records from ha ▸ rfl]
  simp only [List.foldlM_cons, List.foldlM_nil, bind_pure]
  exact Outcome.bind_eq_ok.mpr ⟨r, hfile, Outcome.mapError_eq_ok.mpr hcheck⟩

end

theorem CheckedRegistry.addLine_empty {σ : Type} (r : CheckedRegistry σ) (collection : String)
    (rejectNull : Bool) (path : String) (k : Nat) :
    addLine collection rejectNull path r ([], k) = (.ok (), r) := by
  have htext : Bytes.text? [] = some "" := by decide +kernel
  exact addLine_of_blank htext (by decide +kernel)

/-- The second line of the records is no JSON. -/
theorem kept_of_failed_build_sample :
    ∃ (e : CommandError) (g : Files) (m : Manifest) (a : PackArchive)
        (r : CheckedRegistry PackArchive),
      Request.runBuild .text (.sample .empty (Bytes.ofText "\n\x7b")) () "m" none =
          (.error e, g) ∧
        e.contexts = ["r:2"] ∧ g.read? "p" = some [7] ∧ m.checkedRegistry a.files a () = .ok r ∧
          ∃ front c back before, m.collections = front ++ c :: back ∧
            Steps.run (CheckedRegistry.addRecords a.files m.rejectNull) r front =
              (.ok (), before) ∧
            before.SourceFails a.files m.rejectNull c e := by
  obtain ⟨m, a, r, hload, harchive, _, hcollections, _, hcreate, ha, hr, _⟩ :=
    Manifest.exists_checkedRegistry_sample Schema.parse_json_empty LinkKinds.ofSchemata_empty
      (Bytes.ofText "\n\x7b")
  have hpath : PackArchive.create (.sample .empty (Bytes.ofText "\n\x7b"))
      ((none : Option String).getD m.archive) m.packConfig = .ok a := by
    rw [Option.getD_none, harchive, hcreate]
  have hblank : Steps.run (CheckedRegistry.addLine "a" m.rejectNull "r") r [([], 1)] =
      (.ok (), r) := by
    rw [Steps.run_singleton, CheckedRegistry.addLine_empty]
  have htext : CheckedRegistry.IsRecordText [0x7b] "\x7b" := ⟨by decide +kernel, by decide +kernel⟩
  have hline : r.LineFails "a" m.rejectNull "r" ([0x7b], 2) ⟨["r:2"], some (.json .endsEarly)⟩ :=
    .parse htext (by cbv)
  have hlines : (Bytes.ofText "\n\x7b").lines.zipIdx 1 = [([], 1)] ++ ([0x7b], 2) :: [] := by
    decide +kernel
  have hfiles : a.files = .sample .empty (Bytes.ofText "\n\x7b") := ha ▸ rfl
  have hsource : r.SourceFails a.files m.rejectNull ⟨"a", "s", some "r"⟩
      ⟨["r:2"], some (.json .endsEarly)⟩ :=
    .line rfl (by rw [hfiles]; rfl) hlines hblank hline
  have hcollect := (Manifest.collect_fails hr).mpr ⟨[], _, [], r, hcollections, rfl, hsource⟩
  have hfails : Request.runBuild .text (.sample .empty (Bytes.ofText "\n\x7b")) () "m" none = _ :=
    Request.runBuild_eq.mpr (.noRegistry hload hpath (Prod.ext hcollect rfl))
  have hearly :
      ¬ Request.ReachesFinalize (.sample .empty (Bytes.ofText "\n\x7b")) () "m" none := by
    rintro ⟨m', a', r', ⟨hload', hpath', hcollect'⟩⟩
    obtain rfl := Except.ok.inj (hload.symm.trans hload')
    obtain rfl := Except.ok.inj (hpath.symm.trans hpath')
    cases hcollect.symm.trans hcollect'
  obtain ⟨_, hread, hfirst⟩ := kept_of_failed_build hfails hearly
  refine ⟨_, _, m, a, r, hfails, rfl, ?_, hr, hfirst m a r hload hpath hr⟩
  rw [(hread "p").2 (.inl rfl)]
  rfl

end CollectionArchive
