import CollectionArchive.Proofs.Archive.Inventory
import CollectionArchive.Proofs.Build.RecordLine
import CollectionArchive.Proofs.Command.Entries
import CollectionArchive.Proofs.Command.Failing
import CollectionArchive.Proofs.Text.Blank

/-!
# Builds that succeed

A build registers the schemata of its manifest, resolves their links, and adds a node for each line
of records that is not blank. This is a run, and so it is known what it leaves in the archive: one
line for each of these lines, in their order.

* `Run.path`: a run stays with the path of its archive.
* `CollectionSource.recordLines`, `Manifest.recordLines`: the lines of records that are not blank.
* `Manifest.schema?`: the schema of a collection.
* `Node.IsOfLine`: the line tells a record as JSON, and the node is what the record says.
* **`Manifest.exists_run`**: collecting what a manifest names is a run.
* **`lines_of_build`**: what a build leaves in the archive.
-/

namespace CollectionArchive

/-! ## The path of an archive -/

theorem PackArchive.path_create {f : Files} {path : String} {config : PackConfig} {a : PackArchive}
    (h : create f path config = .ok a) : a.path = path := by
  rw [create] at h
  split_ifs at h
  obtain ⟨_, _, h⟩ := Outcome.bind_eq_ok.mp h
  obtain rfl := Outcome.pure_eq_ok.mp h
  rfl

theorem Session.archive_of_registry {σ : Type} {s : Session σ} {r : Registry σ}
    (h : s.registry = .ok r) : s.archive = r.archive := by
  cases s with
  | building r' => exact Except.ok.inj h ▸ rfl
  | checked r' => exact Except.ok.inj h ▸ rfl
  | closed a => cases h

section

variable [Codec]

theorem PackArchive.path_of_write {a b : PackArchive} {path : String} {data : Bytes}
    (h : Archive.write a path data = .ok b) : b.path = a.path := by
  obtain ⟨entries, _, h⟩ := Outcome.bind_eq_ok.mp h
  obtain ⟨_, _, h⟩ := Outcome.bind_eq_ok.mp h
  obtain rfl := Outcome.pure_eq_ok.mp h
  rfl

namespace Registry

theorem path_writeEntries (a : PackArchive) (entries : List (String × Bytes)) :
    (writeEntries a entries).2.path = a.path := by
  induction entries generalizing a with
  | nil => rfl
  | cons e entries ih =>
    obtain ⟨path, data⟩ := e
    cases hwrite : Archive.write a path data with
    | error e =>
      rw [writeEntries_cons_of_error hwrite]
      exact ih a
    | ok b =>
      rw [writeEntries_cons_of_ok hwrite]
      exact (ih b).trans (PackArchive.path_of_write hwrite)

/-- Finalizing writes to the path of the archive. -/
theorem path_finalize (r : Registry PackArchive) (metadata : String) :
    (r.finalize metadata).2.path = r.archive.path := by
  rw [finalize_eq]
  exact (PackArchive.path_close _).trans (path_writeEntries _ _)

end Registry

/-- A run stays with its path. -/
theorem Run.path {a : PackArchive} {start h : Handle PackArchive}
    (new : start.toSession = .ofArchive a) {l : Log} (run : Run start l h) :
    h.toSession.archive.path = a.path := by
  refine Run.induction (P := fun _ s => s.archive.path = a.path) ?_ ?_ run
  · rw [new]
    rfl
  · rintro _ s e s' hs step
    cases step with
    | none => exact hs
    | registered takes hregister =>
      rw [Session.archive_of_registry takes] at hs
      exact (PackArchive.path_of_write (Registry.register_eq_ok hregister).write).trans hs
    | resolved check =>
      obtain ⟨kinds, _, rfl⟩ := Registry.check_eq_ok.mp check
      exact hs
    | staged _ _ stages => exact (congrArg PackArchive.path stages.archive).trans hs

end

/-! ## Collecting what a manifest names -/

/-- Whether a line holds nothing but white space. -/
def Bytes.isBlank (line : Bytes) : Bool :=
  (text? line).any fun text => (Text.trim text).isEmpty

/-- The lines of the records of a collection that are not blank. -/
def CollectionSource.recordLines (f : Files) (c : CollectionSource) : List Bytes :=
  c.records.elim [] fun path => ((f.read? path).getD []).lines.filter fun line => !line.isBlank

/-- The lines of records, one after the other with their numbers. -/
theorem CollectionSource.recordLines_of_content {f : Files} {c : CollectionSource} {path : String}
    {content : Bytes} (hrecords : c.records = some path) (hread : f.read? path = some content) :
    c.recordLines f = (content.lines.zipIdx 1).flatMap fun line =>
      [line.1].filter fun line => !line.isBlank := by
  calc c.recordLines f
    _ = content.lines.filter fun line => !line.isBlank := by
      rw [recordLines, hrecords, Option.elim_some, hread, Option.getD_some]
    _ = content.lines.flatMap fun line => [line].filter fun line => !line.isBlank := by
      rw [← List.filter_flatMap, List.flatMap_singleton']
    _ = _ := by
      conv_lhs => rw [← List.zipIdx_map_fst 1 content.lines, List.flatMap_map]

namespace Manifest

/-- The lines of the records of all collections of a name that are not blank. -/
def recordLines (f : Files) (m : Manifest) (name : String) : List Bytes :=
  (m.collections.filter fun c => c.name == name).flatMap (CollectionSource.recordLines f)

/-- The schema that is listed last for a name. -/
def schema? (f : Files) (m : Manifest) (name : String) : Option Schema :=
  m.collections.reverse.findSome? fun c =>
    if c.name = name then (Schema.load f c.schema).toOption else none

end Manifest

namespace CheckedRegistry

variable {σ : Type}

/-- The calls that add nodes to a collection. -/
def additions (collection : String) (ns : List Node) : Log :=
  ns.map fun n => (.addNode collection n, .ok ())

/-- A line adds a node to a collection. -/
structure AddsLine (r : CheckedRegistry σ) (collection : String) (rejectNull : Bool) (line : Bytes)
    (n : Node) : Prop where
  takes : r.TakesLine collection rejectNull line (some n)
  known : r.schemata.has collection = true

/-- The calls add a node to a collection for each of several lines. -/
def AddsLines (r : CheckedRegistry σ) (collection : String) (rejectNull : Bool) (lines : List Bytes)
    (new : Log) : Prop :=
  ∃ ns, List.Forall₂ (r.AddsLine collection rejectNull) lines ns ∧ new = additions collection ns

/-- The calls add the nodes of a collection, whose records are in a file if there are any. -/
structure AddsSource (r : CheckedRegistry σ) (f : Files) (rejectNull : Bool) (c : CollectionSource)
    (new : Log) : Prop where
  present (path : String) (records : c.records = some path) : (f.read? path).isSome = true
  lines : r.AddsLines c.name rejectNull (c.recordLines f) new

variable {r r' : CheckedRegistry σ} {collection : String} {rejectNull : Bool} {f : Files}
  {c : CollectionSource} {lines : List Bytes} {new : Log}

theorem OnlyStages.addsLine (h : r.OnlyStages r') {line : Bytes} {n : Node}
    (adds : r'.AddsLine collection rejectNull line n) :
    r.AddsLine collection rejectNull line n := by
  refine ⟨?_, h.schemata ▸ adds.known⟩
  cases adds.takes with
  | node isText parse describes =>
    rw [Describes, h.describe] at describes
    exact .node isText parse describes

theorem OnlyStages.addsLines (h : r.OnlyStages r')
    (adds : r'.AddsLines collection rejectNull lines new) :
    r.AddsLines collection rejectNull lines new := by
  obtain ⟨ns, hns, heq⟩ := adds
  exact ⟨ns, hns.imp fun _ _ => h.addsLine, heq⟩

theorem OnlyStages.addsSource (h : r.OnlyStages r')
    (adds : r'.AddsSource f rejectNull c new) : r.AddsSource f rejectNull c new :=
  ⟨adds.present, h.addsLines adds.lines⟩

theorem AddsLines.nil : r.AddsLines collection rejectNull [] [] :=
  ⟨[], .nil, rfl⟩

theorem AddsLines.append {others : List Bytes} {rest : Log}
    (h : r.AddsLines collection rejectNull lines new)
    (h' : r.AddsLines collection rejectNull others rest) :
    r.AddsLines collection rejectNull (lines ++ others) (new ++ rest) := by
  obtain ⟨ns, hns, rfl⟩ := h
  obtain ⟨ms, hms, rfl⟩ := h'
  exact ⟨ns ++ ms, List.rel_append hns hms, List.map_append.symm⟩

theorem AddsLines.flatten {α : Type} {linesOf : α → List Bytes} {as : List α} {news : List Log}
    (h : List.Forall₂ (fun a => r.AddsLines collection rejectNull (linesOf a)) as news) :
    r.AddsLines collection rejectNull (as.flatMap linesOf) news.flatten := by
  induction h with
  | nil => exact .nil
  | cons hfirst _ ih => exact hfirst.append ih

theorem AddsLines.registered? (h : r.AddsLines collection rejectNull lines new) (name : String) :
    new.registered? name = none := by
  obtain ⟨ns, _, rfl⟩ := h
  refine List.findSome?_eq_none_iff.mpr fun e he => ?_
  obtain ⟨n, _, rfl⟩ := List.mem_map.mp (List.mem_reverse.mp he)
  rfl

theorem AddsLines.added (h : r.AddsLines collection rejectNull lines new) :
    List.Forall₂ (r.AddsLine collection rejectNull) lines (new.added collection) := by
  obtain ⟨ns, hns, rfl⟩ := h
  have hadded : (additions collection ns).added collection = ns := by
    rw [Log.added, additions, List.flatMap_map]
    simp only [Call.nodesFor, if_true]
    exact List.flatMap_singleton' ns
  rwa [hadded]

theorem AddsLines.added_of_ne (h : r.AddsLines collection rejectNull lines new) {name : String}
    (hname : collection ≠ name) : new.added name = [] := by
  obtain ⟨ns, _, rfl⟩ := h
  refine List.flatMap_eq_nil_iff.mpr fun e he => ?_
  obtain ⟨n, _, rfl⟩ := List.mem_map.mp he
  exact if_neg hname

theorem isBlank_of_takesLine {line : Bytes} {found : Option Node}
    (h : r.TakesLine collection rejectNull line found) : line.isBlank = found.isNone := by
  cases h with
  | blank isText isBlank => rw [Bytes.isBlank, isText, Option.any_some, isBlank, Option.isNone_none]
  | node isText => rw [Bytes.isBlank, isText.1, Option.any_some, isText.2, Option.isNone_some]

variable [Archive σ] {start : Handle σ}

/-- A line adds its node, or is blank. -/
theorem run_addLine {path : String} {line : Bytes × Nat}
    (h : addLine collection rejectNull path r line = (.ok (), r')) :
    ∃ new, r.AddsLines collection rejectNull ([line.1].filter fun line => !line.isBlank) new ∧
      ∀ l, Run start l (.session (.checked r)) → Run start (l ++ new) (.session (.checked r')) := by
  rcases addLine_eq_ok.mp h with ⟨htakes, rfl⟩ | ⟨n, htakes, hadd⟩
  · refine ⟨[], ?_, fun l run => ?_⟩
    · rw [List.filter_singleton, isBlank_of_takesLine htakes]
      exact .nil
    · rwa [List.append_nil]
  · refine ⟨additions collection [n], ⟨[n], ?_, rfl⟩, fun l run => ?_⟩
    · rw [List.filter_singleton, isBlank_of_takesLine htakes]
      exact .cons ⟨htakes, (addNode_eq_ok hadd).known⟩ .nil
    · refine run.call (Handle.call?_session ?_)
      rw [Session.call, Session.addNode]
      simp only [Session.checkedRegistry, hadd]

/-- The records of a collection add a node for each of their lines that is not blank. -/
theorem run_addRecords (h : addRecords f rejectNull r c = (.ok (), r')) :
    ∃ new, r.AddsSource f rejectNull c new ∧
      ∀ l, Run start l (.session (.checked r)) → Run start (l ++ new) (.session (.checked r')) := by
  cases hrecords : c.records with
  | none =>
    obtain rfl := (Prod.mk.inj ((addRecords_of_none hrecords).symm.trans h)).2
    refine ⟨[], ⟨fun _ hpath => (nomatch hrecords.symm.trans hpath), ?_⟩, fun l run => ?_⟩
    · rw [CollectionSource.recordLines, hrecords]
      exact .nil
    · rwa [List.append_nil]
  | some path =>
    obtain ⟨content, hread, h⟩ := exists_content_of_addRecords hrecords h
    have hstep : ∀ (x : CheckedRegistry σ) (line : Bytes × Nat) (x' : CheckedRegistry σ),
        r.OnlyStages x → addLine c.name rejectNull path x line = (.ok (), x') →
          r.OnlyStages x' ∧ ∃ new, r.AddsLines c.name rejectNull
              ([line.1].filter fun line => !line.isBlank) new ∧
            ∀ l, Run start l (.session (.checked x)) →
              Run start (l ++ new) (.session (.checked x')) := by
      intro x line x' hx hline
      obtain ⟨new, hadds, hrun⟩ := run_addLine hline
      have hstages := x.addLine_onlyStages c.name rejectNull path line
      rw [hline] at hstages
      exact ⟨hx.trans hstages, new, hx.addsLines hadds, hrun⟩
    obtain ⟨_, news, hnews, hrun⟩ := Run.steps hstep (.refl r) h
    have hlines := CollectionSource.recordLines_of_content hrecords hread
    refine ⟨news.flatten, ⟨fun _ hpath => ?_, hlines ▸ AddsLines.flatten hnews⟩, hrun⟩
    obtain rfl := Option.some.inj (hrecords.symm.trans hpath)
    rw [hread]
    rfl

end CheckedRegistry

namespace Manifest

open CheckedRegistry

variable {σ : Type} {f : Files} {m : Manifest}

/-- The nodes that are added to a collection are those of its lines. -/
theorem forall₂_added {r : CheckedRegistry σ} {collections : List CollectionSource}
    {news : List Log} {rejectNull : Bool}
    (h : List.Forall₂ (r.AddsSource f rejectNull) collections news) (name : String) :
    Log.registered? news.flatten name = none ∧ List.Forall₂ (r.AddsLine name rejectNull)
      ((collections.filter fun c => c.name == name).flatMap (CollectionSource.recordLines f))
      (Log.added news.flatten name) := by
  induction h with
  | nil => exact ⟨rfl, .nil⟩
  | @cons c new collections news hfirst _ ih =>
    rw [List.flatten_cons, Log.registered?_append, Log.added_append, ih.1,
      hfirst.lines.registered?, List.filter_cons]
    refine ⟨rfl, ?_⟩
    by_cases hname : c.name = name
    · subst hname
      rw [if_pos (beq_self_eq_true c.name), List.flatMap_cons]
      exact List.rel_append hfirst.lines.added ih.2
    · rw [if_neg (mt beq_iff_eq.mp hname), hfirst.lines.added_of_ne hname, List.nil_append]
      exact ih.2

variable [Archive σ] {start : Handle σ}

/-- The records of all collections add a node for each of their lines that is not blank. -/
theorem run_addRecords {r r' : CheckedRegistry σ}
    (h : Steps.run (addRecords f m.rejectNull) r m.collections = (.ok (), r')) :
    r.OnlyStages r' ∧
    (∀ c ∈ m.collections, ∀ path, c.records = some path → (f.read? path).isSome = true) ∧
    ∃ new : Log, (∀ name, new.registered? name = none ∧
        List.Forall₂ (r.AddsLine name m.rejectNull) (m.recordLines f name) (new.added name)) ∧
      ∀ l, Run start l (.session (.checked r)) → Run start (l ++ new) (.session (.checked r')) := by
  have hstep : ∀ (x : CheckedRegistry σ) (c : CollectionSource) (x' : CheckedRegistry σ),
      r.OnlyStages x → addRecords f m.rejectNull x c = (.ok (), x') →
        r.OnlyStages x' ∧ ∃ new, r.AddsSource f m.rejectNull c new ∧
          ∀ l, Run start l (.session (.checked x)) →
            Run start (l ++ new) (.session (.checked x')) := by
    intro x c x' hx hc
    obtain ⟨new, hadds, hrun⟩ := CheckedRegistry.run_addRecords hc
    have hstages := addRecords_onlyStages f m.rejectNull x c
    rw [hc] at hstages
    exact ⟨hx.trans hstages, new, hx.addsSource hadds, hrun⟩
  obtain ⟨hkeeps, news, hnews, hrun⟩ := Run.steps hstep (.refl r) h
  have hpresent := (List.forall₂_and_left _ _).mp (hnews.imp fun _ _ h => ⟨h.present, h.lines⟩)
  exact ⟨hkeeps, hpresent.1, news.flatten, forall₂_added hnews, hrun⟩

/-- The calls register the schema of a collection. -/
def RegistersSource (f : Files) (c : CollectionSource) (new : Log) : Prop :=
  ∃ schema, Schema.load f c.schema = .ok schema ∧ new = [(.register c.name schema, .ok ())]

omit [Archive σ] in
/-- The schema that is registered last for a name is the one that is listed last. -/
theorem registered?_flatten {collections : List CollectionSource} {news : List Log}
    (h : List.Forall₂ (RegistersSource f) collections news) (name : String) :
    Log.added news.flatten name = [] ∧
      Log.registered? news.flatten name = collections.reverse.findSome? fun c =>
        if c.name = name then (Schema.load f c.schema).toOption else none := by
  induction h with
  | nil => exact ⟨rfl, rfl⟩
  | @cons c new collections news hfirst _ ih =>
    obtain ⟨schema, hload, rfl⟩ := hfirst
    rw [List.flatten_cons, Log.registered?_append, Log.added_append, ih.1, ih.2,
      List.reverse_cons, List.findSome?_append]
    refine ⟨rfl, congrArg _ ?_⟩
    rw [List.findSome?_singleton, hload, Log.registered?, List.reverse_singleton,
      List.findSome?_singleton]
    rfl

/-- The schemata of all collections are registered in their order. -/
theorem run_checkedRegistry {archive : σ} {r : CheckedRegistry σ}
    (h : m.checkedRegistry f archive () = .ok r) : LinkKinds.ofSchemata r.schemata = .ok r.kinds ∧
    ∃ l : Log, (∀ name, l.added name = [] ∧ l.registered? name = m.schema? f name) ∧
      Run (.session (.ofArchive archive)) l (.session (.checked r)) := by
  obtain ⟨r₁, hregister, hcheck⟩ := Outcome.bind_eq_ok.mp h
  obtain ⟨kinds, resolved, rfl⟩ := Registry.check_eq_ok.mp (Outcome.mapError_eq_ok.mp hcheck)
  let register (r : Registry σ) (c : CollectionSource) := r.registerFile f c.name c.schema
  have hstep : ∀ (x : Registry σ) (c : CollectionSource) (x' : Registry σ), True →
      Steps.keeping register x c = (.ok (), x') → True ∧ ∃ new, RegistersSource f c new ∧
        ∀ l, Run (.session (.ofArchive archive)) l (.session (.building x)) →
          Run (.session (.ofArchive archive)) (l ++ new) (.session (.building x')) := by
    intro x c x' _ hc
    have hfile : x.registerFile f c.name c.schema = .ok x' := Steps.keeping_eq_ok.mp hc
    obtain ⟨schema, hload, hregister⟩ := Outcome.bind_eq_ok.mp hfile
    refine ⟨trivial, _, ⟨schema, hload, rfl⟩, fun l run => run.call (Handle.call?_session ?_)⟩
    rw [Session.call, Session.register, Outcome.mapError_eq_ok.mp hregister]
  obtain ⟨_, news, hnews, hrun⟩ :=
    Run.steps hstep trivial (Steps.run_keeping_eq_ok.mpr hregister)
  refine ⟨resolved, news.flatten ++ [(.check, .ok ())], fun name => ?_, ?_⟩
  · obtain ⟨hadded, hregistered⟩ := registered?_flatten hnews name
    rw [Log.added_append, Log.registered?_append, hadded, hregistered]
    exact ⟨rfl, rfl⟩
  · refine (hrun [] .start).call (Handle.call?_session ?_)
    rw [Session.call, Session.check, Outcome.mapError_eq_ok.mp hcheck]

/-- **Collecting what a manifest names is a run.** It registers the schemata, and adds a node for
each line of records that is not blank. -/
theorem exists_run {archive : σ} {r : CheckedRegistry σ} (h : (m.collect f archive ()).1 = .ok r) :
    LinkKinds.ofSchemata r.schemata = .ok r.kinds ∧
    (∀ c ∈ m.collections, ∀ path, c.records = some path → (f.read? path).isSome = true) ∧
    ∃ l : Log, Run (.session (.ofArchive archive)) l (.session (.checked r)) ∧
      ∀ name, l.registered? name = m.schema? f name ∧
        List.Forall₂ (r.AddsLine name m.rejectNull) (m.recordLines f name) (l.added name) := by
  obtain ⟨r₀, hr₀, h⟩ := collect_eq_ok.mp h
  obtain ⟨resolved, first, hfirst, run⟩ := run_checkedRegistry hr₀
  obtain ⟨hkeeps, hpresent, rest, hrest, hrun⟩ := run_addRecords h
  refine ⟨?_, hpresent, first ++ rest, hrun first run, fun name => ⟨?_, ?_⟩⟩
  · rw [hkeeps.schemata, hkeeps.kinds]
    exact resolved
  · rw [Log.registered?_append, (hrest name).1, (hfirst name).2, Option.none_or]
  · rw [Log.added_append, (hfirst name).1, List.nil_append]
    exact (hrest name).2.imp fun _ _ => hkeeps.symm.addsLine

end Manifest

/-! ## Builds -/

/-- A line of records is in the archive as a node. -/
inductive Node.IsOfLine (s : Schemata) (collection : String) (rejectNull : Bool) (line : Bytes)
    (n : Node) : Prop
  | intro {text : String} {record : RecordLine} {schema : Schema}
    (isText : Bytes.text? line = some text) (told : record.IsToldBy text)
    (registered : s.get? collection = some schema)
    (reflects : n.Reflects s schema rejectNull record) : IsOfLine s collection rejectNull line n

theorem CheckedRegistry.AddsLine.isOfLine {σ : Type} {r : CheckedRegistry σ} {collection : String}
    {rejectNull : Bool} {line : Bytes} {n : Node} (h : r.AddsLine collection rejectNull line n)
    (resolved : LinkKinds.ofSchemata r.schemata = .ok r.kinds)
    (distinct : r.schemata.HasDistinctLinks) :
    n.IsOfLine r.schemata collection rejectNull line := by
  obtain ⟨schema, registered⟩ := Option.isSome_iff_exists.mp h.known
  cases h.takes with
  | node isText parse describes =>
    exact .intro isText.1 (RecordLine.parse_eq_ok.mp parse) registered (describes.reflects resolved distinct registered)

section

variable [Codec]

theorem Request.Builds.exists_collects {format : ReportFormat} {f g : Files} {manifest : String}
    {output? : Option String} {report : String}
    (h : Builds format f () manifest output? (.ok report, g)) : ∃ m a r summary b,
      Collects f () manifest output? m a r ∧
        r.toRegistry.finalize m.metadata.json = (.ok summary, b) ∧ b.files = g := by
  cases h with
  | @finalized m a b r ending _ collects finalize told =>
    cases ending with
    | error e => cases told
    | ok summary => exact ⟨m, a, r, summary, b, collects, finalize, rfl⟩

/-- What is under the path of a collection after finalizing are the nodes that waited for it. -/
theorem Run.read_dataPath (lossless : Codec.IsLossless ‹Codec›) {new : PackArchive}
    (fresh : new.IsPending fun _ => none) {l : Log} {r : CheckedRegistry PackArchive}
    (run : Run (.session (.ofArchive new)) l (.session (.checked r))) {metadata : String}
    (fits : r.FitsMemory metadata) {summary : Summary} {a : PackArchive}
    (hfinal : r.finalize metadata = (.ok summary, a)) :
    ∃ p, PackArchive.readPack a.files new.path = .ok p ∧ ∀ collection,
      p.read (dataPath collection) = .ok
        (if l.added collection = [] then none else some (nodeLines (l.added collection))) := by
  let := PackArchive.lawful lossless
  obtain ⟨r₁, g, hr₁, hpending, huntouched⟩ := run.exists_untouched fresh rfl
  obtain ⟨r₂, hr₂, hmatches⟩ := run.matches fresh rfl
  obtain rfl : r.toRegistry = r₁ := Except.ok.inj hr₁
  obtain rfl : r.toRegistry = r₂ := Except.ok.inj hr₂
  obtain ⟨⟨_, p, _, hopened, _, _, hread⟩, _⟩ :=
    Registry.isWritten_of_finalize lossless hpending fits hfinal
  have hpath : a.path = new.path := by
    have hlast := r.toRegistry.path_finalize metadata
    rw [hfinal] at hlast
    exact hlast.trans (run.path rfl)
  refine ⟨p, hpath ▸ hopened, fun collection => ?_⟩
  have hbefore : g (dataPath collection) = none :=
    huntouched _ fun name => schemaPath_ne_dataPath name collection
  have hstaged := hmatches.staged collection
  rw [hread, Except.ok.injEq]
  refine Option.ext fun data => ?_
  rw [Contents.writeAll_eq_some (r.nodup_lastEntries metadata), hbefore, Registry.mem_lastEntries]
  constructor
  · rintro ((⟨other, ns, hns, hother, rfl⟩ | ⟨hmeta, _⟩) | ⟨_, hnone⟩)
    · obtain rfl := dataPath_injective hother
      rw [hns] at hstaged
      split_ifs at hstaged ⊢
      rw [Option.some.inj hstaged]
    · exact absurd hmeta.symm (dataPath_ne_metadataPath collection)
    · cases hnone
  · intro hdata
    split_ifs at hdata hstaged
    exact .inl (.inl ⟨collection, _, hstaged, rfl, Option.some.inj hdata⟩)

/-- **What a build leaves in the archive.** If a build succeeds and no two collections have a link
with one identifier, the pack is in the file, and under the path of each collection there is one
line for each line of its records that is not blank, in the order of the manifest and of the files;
there is nothing if there are no such lines. A line is the text of a node, in which no key occurs
twice: the JSON of the line of records tells a record, and the node is what this record says. -/
theorem lines_of_build (lossless : Codec.IsLossless ‹Codec›) {format : ReportFormat} {f g : Files}
    {manifest : String} {output? : Option String} {report : String}
    (built : Request.runBuild format f () manifest output? = (.ok report, g))
    (fits : ∀ m a r, Request.Collects f () manifest output? m a r → r.FitsMemory m.metadata.json)
    (distinct : ∀ m a r, Request.Collects f () manifest output? m a r →
      r.schemata.HasDistinctLinks) :
    ∃ m a r p, Request.Collects f () manifest output? m a r ∧ f.KeepsFiles a.files ∧
      PackArchive.readPack g (output?.getD m.archive) = .ok p ∧
      (∀ c ∈ m.collections, ∀ path, c.records = some path →
        (a.files.read? path).isSome = true) ∧
      ∀ collection, r.schemata.get? collection = m.schema? a.files collection ∧ ∃ ns,
        List.Forall₂ (Node.IsOfLine r.schemata collection m.rejectNull)
          (m.recordLines a.files collection) ns ∧
        p.read (dataPath collection) = .ok (if ns = [] then none else some (nodeLines ns)) ∧
        (nodeLines ns).lines =
          ns.map (fun n => Bytes.ofText (Json.Value.object n.members).compact) ∧
        ∀ n ∈ ns, (n.members.map Prod.fst).Nodup := by
  obtain ⟨m, a, r, summary, b, hcollects, hfinal, rfl⟩ :=
    (Request.runBuild_eq.mp built).exists_collects
  obtain ⟨resolved, hpresent, l, run, hlog⟩ := Manifest.exists_run hcollects.collect
  obtain ⟨p, hopened, hread⟩ := run.read_dataPath lossless
    (PackArchive.isPending_create hcollects.create) (fits m a r hcollects) hfinal
  refine ⟨m, a, r, p, hcollects, PackArchive.keepsFiles_of_create hcollects.create, ?_, hpresent,
    fun collection => ⟨?_, l.added collection, ?_, hread collection, ?_,
      fun n _ => n.nodup_keys_members⟩⟩
  · rw [← PackArchive.path_create hcollects.create]
    exact hopened
  · let := PackArchive.lawful lossless
    obtain ⟨r', hr', hmatches⟩ :=
      run.matches (PackArchive.isPending_create hcollects.create) rfl
    obtain rfl : r.toRegistry = r' := Except.ok.inj hr'
    exact (hmatches.schemata collection).trans (hlog collection).1
  · exact (hlog collection).2.imp fun _ _ h => h.isOfLine resolved (distinct m a r hcollects)
  · rw [lines_nodeLines]
    exact List.map_congr_left fun n _ => congrArg Bytes.ofText n.json_eq

end

/-! ## A record with values -/

theorem Kind.isBox_integer : Kind.integer.isBox = false :=
  rfl

namespace Schema

/-- The schema of an integer, and of a link to the title of the same collection. -/
def numberAndLink : Schema :=
  let number := Property.leaf "" .zero ⟨.integer, Kind.isBox_integer⟩ none false
  let link := Property.leaf "" .ones .link (some (LinkTarget.config ⟨"a", LinkTarget.titleIdent⟩))
    false
  { empty with
    main := .boxed "" [number, link]
    table := [(.ones, link), (.zero, number)]
    main_isBox := rfl
    addAll_main := by rw [Leaves.toList_walk]; rfl }

theorem ofSchemata_numberAndLink :
    LinkKinds.ofSchemata [("a", numberAndLink)] = .ok [(.ones, .string)] := by
  rw [LinkKinds.ofSchemata, Schemata.outboundLinks_cons, outboundLinks, Leaves.toList_walk]
  rfl

theorem parse_json_numberAndLink : parse numberAndLink.json = .ok numberAndLink := by
  refine parse_json_of_isValid (.box ?_) (.box (List.forall_mem_nil _)) (by decide) ?_
  · exact List.forall_mem_cons.mpr ⟨.leaf rfl, List.forall_mem_singleton.mpr (.leaf rfl)⟩
  · intro c hc
    obtain rfl : c = LinkTarget.config ⟨"a", LinkTarget.titleIdent⟩ := List.mem_singleton.mp hc
    refine ⟨.object (by decide) (List.forall_mem_singleton.mpr (.object (by decide) ?_)),
      List.forall_mem_nil _⟩
    exact List.forall_mem_cons.mpr ⟨.text _, List.forall_mem_singleton.mpr (.text _)⟩

end Schema

namespace RecordLine

open Json (Tree Value)

/-- A record of the schema. There is null under a key, and then a number under the same key. -/
def sample : RecordLine :=
  ⟨"x", ["c"], [(Identifier.zero.text, .null), (Identifier.zero.text, .number (.integer 5)),
    (Identifier.ones.text, .array [.text "y"])]⟩

/-- The characters of the record. -/
def sampleChars : List Char :=
  Json.braced [("title", Json.quotedChars "x"), ("coverImages", Json.bracketed [Json.quotedChars "c"]),
    ("properties", Json.braced [(Identifier.zero.text, Value.null.chars),
      (Identifier.zero.text, Tree.signedChars false ['5']),
      (Identifier.ones.text, Json.bracketed [Json.quotedChars "y"])])]

/-- The text of the record. -/
def sampleText : String :=
  String.ofList sampleChars

/-- The record after an empty line. -/
def sampleLines : Bytes :=
  Bytes.lineFeed :: Bytes.ofText sampleText

theorem isToldBy_sampleText : sample.IsToldBy sampleText := by
  have hfive : Tree.Writes (Tree.signedChars false ['5']) (.number ⟨false, [5], none, none⟩) :=
    .literal rfl
  have hproperties := Tree.Writes.braced (.cons (Tree.Writes.member Identifier.zero.text .null)
    (.cons (Tree.Writes.member Identifier.zero.text hfive)
      (.cons (Tree.Writes.member Identifier.ones.text (.bracketed (.cons (.text "y") .nil))) .nil)))
  have hwrites := Tree.Writes.braced (.cons (Tree.Writes.member "title" (.text "x"))
    (.cons (Tree.Writes.member "coverImages" (.bracketed (.cons (.text "c") .nil)))
      (.cons (Tree.Writes.member "properties" hproperties) .nil)))
  refine .object (Tree.ofText_of_writes hwrites) ⟨rfl, .given rfl, .given ⟨_, rfl, ?_⟩⟩
    (by simp [names])
  exact .cons ⟨rfl, rfl⟩ (.cons ⟨rfl, rfl⟩ (.cons ⟨rfl, rfl⟩ .nil))

theorem isRecordText_sampleText :
    CheckedRegistry.IsRecordText (Bytes.ofText sampleText) sampleText := by
  have hfirst : sampleText.toList.head? = some '\x7b' := by
    rw [sampleText, String.toList_ofList]
    rfl
  have hlast : sampleText.toList.getLast? = some '\x7d' := by
    rw [sampleText, String.toList_ofList, sampleChars, Json.braced, List.getLast?_concat]
  have htrim : Text.trim sampleText = sampleText :=
    Text.trim_eq_self_of_ends (fun _ hc => Option.some.inj (hfirst.symm.trans hc) ▸ rfl)
      (Text.endsPlain_of_getLast? hlast rfl)
  refine ⟨Bytes.text?_ofText _, ?_⟩
  rw [htrim, ← Bool.not_eq_true, String.isEmpty_iff]
  intro hempty
  rw [hempty] at hfirst
  cases hfirst

theorem lines_sampleLines : sampleLines.lines = [[], Bytes.ofText sampleText] := by
  have hfeed : Bytes.lineFeed ∉ Bytes.ofText sampleText :=
    Bytes.lineFeed_notMem_ofText (by decide +kernel)
  have hends : sampleLines = [Bytes.lineFeed].intercalate [[], Bytes.ofText sampleText] := by
    rw [List.intercalate_cons_cons, List.intercalate_singleton]
    rfl
  have hpieces : sampleLines.pieces = [[], Bytes.ofText sampleText] := by
    rw [Bytes.pieces, hends, List.splitOn_intercalate]
    · exact List.forall_mem_cons.mpr ⟨List.not_mem_nil, List.forall_mem_singleton.mpr hfeed⟩
    · exact List.cons_ne_nil _ _
  have hne : Bytes.ofText sampleText ≠ [] := by
    intro h
    obtain ⟨htext, hblank⟩ := isRecordText_sampleText
    have hempty : Bytes.text? [] = some "" := by decide +kernel
    rw [h] at htext
    rw [Option.some.inj (htext.symm.trans hempty)] at hblank
    exact absurd hblank (by decide +kernel)
  rw [Bytes.lines, hpieces]
  simp [Bytes.withoutReturn, hne]

end RecordLine

namespace Node

/-- The node of the number of a record. -/
def numbered : Node :=
  ⟨"x", ["c"], [(.zero, .integer ⟨5, by decide⟩)], by decide⟩

/-- The node of the whole record. -/
def numberAndLink : Node :=
  ⟨"x", ["c"], [(.zero, .integer ⟨5, by decide⟩), (.ones, .selector .string [.string "y"])],
    by decide⟩

end Node

theorem CheckedRegistry.describes_sample {σ : Type} {r : CheckedRegistry σ}
    (hschemata : r.schemata = [("a", .numberAndLink)]) (hkinds : r.kinds = [(.ones, .string)]) :
    r.Describes "a" false .sample .numberAndLink := by
  rw [Describes, describe, assignAll, hschemata, hkinds]
  have hnull : Assignment.assignText [("a", .numberAndLink)] [(.ones, .string)] "a" false
      (.ofTitle "x" ["c"]) Identifier.zero.text (.ofJson .null) = .ok (.ofTitle "x" ["c"]) := by
    rw [Assignment.assignText, Identifier.parse_text]
    rfl
  have hnumber : Assignment.assignText [("a", .numberAndLink)] [(.ones, .string)] "a" false
      (.ofTitle "x" ["c"]) Identifier.zero.text (.ofJson (.number (.integer 5))) =
        .ok .numbered := by
    rw [Assignment.assignText, Identifier.parse_text]
    rfl
  have hlink : Assignment.assignText [("a", .numberAndLink)] [(.ones, .string)] "a" false
      .numbered Identifier.ones.text (.ofJson (.array [.text "y"])) = .ok .numberAndLink := by
    rw [Assignment.assignText, Identifier.parse_text]
    rfl
  simp only [RecordLine.sample, List.map_cons, List.map_nil, Assignment.assignAll, hnull, hnumber,
    hlink]

/-- The schema, the node and the metadata fit memory. -/
theorem Schema.fitsMemory_entriesWith_numberAndLink :
    ∀ e ∈ numberAndLink.entriesWith .numberAndLink,
      (Bytes.ofText e.path).FitsMemory ∧ e.data.FitsMemory := by
  have hschema : 4 * (definitionChars numberAndLink.definition).length < 0x8000000000000000 := by
    decide +kernel
  have hnode : 4 * Node.numberAndLink.chars.length + 1 < 0x8000000000000000 := by decide +kernel
  have hshort : ∀ text ∈ [schemaPath "a", dataPath "a", metadataPath, "{}"],
      (Bytes.ofText text).FitsMemory := by
    simp only [List.forall_mem_cons, Bytes.FitsMemory, Bytes.ofText_eq]
    decide +kernel
  intro e he
  simp only [entriesWith, List.mem_cons, List.not_mem_nil, or_false] at he
  rcases he with rfl | rfl | rfl
  · exact ⟨hshort _ (by simp), Nat.lt_of_le_of_lt (Bytes.length_ofText_ofList_le _) hschema⟩
  · refine ⟨hshort _ (by simp), ?_⟩
    have hle := Bytes.length_ofText_ofList_le Node.numberAndLink.chars
    rw [Bytes.FitsMemory, nodeLines, List.flatMap_singleton, List.length_append,
      List.length_singleton, Node.json]
    omega
  · exact ⟨hshort _ (by simp), hshort _ (by simp)⟩

/-- The files of a manifest whose records are the one with values. -/
def Files.ofRecord : Files :=
  .sample .numberAndLink RecordLine.sampleLines

/-- The manifest with the record can be collected, and then finalized. -/
theorem Request.exists_collects_sample : ∃ m a r summary b,
    Collects .ofRecord () "m" none m a r ∧ m.archive = "p" ∧ m.rejectNull = false ∧
      a.files = .ofRecord ∧ m.collections = [⟨"a", "s", some "r"⟩] ∧
        r.schemata = [("a", .numberAndLink)] ∧ r.kinds = [(.ones, .string)] ∧
          r.FitsMemory m.metadata.json ∧ r.toRegistry.finalize m.metadata.json = (.ok summary, b) := by
  obtain ⟨m, a, r, hload, harchive, hreject, hcollections, hmetadata, hcreate, ha, hr, hschemata,
    hkinds, hstaged, hwrite⟩ := Manifest.exists_checkedRegistry_sample
      Schema.parse_json_numberAndLink Schema.ofSchemata_numberAndLink RecordLine.sampleLines
  obtain ⟨r₁, hadd, hnodes⟩ := CheckedRegistry.exists_addNode hschemata hstaged .numberAndLink
  have hstages := CheckedRegistry.addNode_eq_ok hadd
  have hline : r.addLine "a" m.rejectNull "r" (Bytes.ofText RecordLine.sampleText, 2) =
      (.ok (), r₁) := by
    rw [hreject]
    exact CheckedRegistry.addLine_eq_ok.mpr (.inr ⟨_,
      .node RecordLine.isRecordText_sampleText (RecordLine.parse_eq_ok.mpr RecordLine.isToldBy_sampleText)
        (CheckedRegistry.describes_sample hschemata hkinds), hadd⟩)
  have hfiles : a.files = .ofRecord := ha ▸ rfl
  have hread : a.files.read? "r" = some RecordLine.sampleLines := by
    rw [hfiles]
    rfl
  have hrecords : CheckedRegistry.addRecords a.files m.rejectNull r ⟨"a", "s", some "r"⟩ =
      (.ok (), r₁) := by
    rw [CheckedRegistry.addRecords_of_content rfl hread, RecordLine.lines_sampleLines,
      List.zipIdx_cons, List.zipIdx_singleton,
      Steps.run_cons_of_ok (r.addLine_empty "a" m.rejectNull "r" 1), Steps.run_singleton, hline]
  have hcollect : (m.collect a.files a ()).1 = .ok r₁ := by
    refine Manifest.collect_eq_ok.mpr ⟨r, hr, ?_⟩
    rw [hcollections, Steps.run_singleton, hrecords]
  have hpath : PackArchive.create .ofRecord ((none : Option String).getD m.archive) m.packConfig =
      .ok a := by
    rw [Option.getD_none, harchive]
    exact hcreate
  have hwritten : Archive.write (PackArchive.ofEntries .ofRecord "p" .standard []) (schemaPath "a")
      (Bytes.ofText Schema.numberAndLink.json) = .ok r₁.archive := by
    rw [hstages.archive, ← hwrite, ha]
    rfl
  obtain ⟨summary, b, hfinal⟩ := Registry.exists_finalize_entriesWith (fun _ => ⟨_, rfl⟩)
    Schema.fitsMemory_entriesWith_numberAndLink hwritten hnodes
  refine ⟨m, a, r₁, summary, b, ⟨hload, hpath, hcollect⟩, harchive, hreject, hfiles, hcollections,
    hstages.schemata.trans hschemata, hstages.kinds.trans hkinds, ?_, hmetadata ▸ hfinal⟩
  rw [hmetadata]
  exact fun path data h =>
    Schema.fitsMemory_entriesWith_numberAndLink _ (Registry.mem_entriesWith hwritten hnodes h)

/-- The archive has a line for the record. The null is left out, the number is kept, and the link
has the text to which it leads. -/
theorem lines_of_build_sample : ∃ (report : String) (g : Files) (p : Pack),
    Request.runBuild .text .ofRecord () "m" none = (.ok report, g) ∧
      PackArchive.readPack g "p" = .ok p ∧
        p.read (dataPath "a") = .ok (some (nodeLines [.numberAndLink])) := by
  obtain ⟨m, a, r, summary, b, hcollects, harchive, hreject, hfiles, hcollections, hschemata,
    hkinds, hfits, hfinal⟩ := Request.exists_collects_sample
  have hbuilt : Request.runBuild .text .ofRecord () "m" none = _ :=
    Request.runBuild_eq.mpr (.finalized hcollects hfinal rfl)
  have hdistinct : r.schemata.HasDistinctLinks := by
    intro c d schema other p q i hc hd
    rw [hschemata] at hc hd
    have hc := List.mem_singleton.mp (Table.mem_of_get? hc)
    have hd := List.mem_singleton.mp (Table.mem_of_get? hd)
    intros
    exact (Prod.mk.inj hc).1.trans (Prod.mk.inj hd).1.symm
  obtain ⟨m', a', r', p, hcollects', _, hopened, _, hlines⟩ :=
    lines_of_build Codec.isLossless_standard hbuilt
      (fun m' a' r' h => by obtain ⟨rfl, rfl, rfl⟩ := hcollects.unique h; exact hfits)
      (fun m' a' r' h => by obtain ⟨rfl, rfl, rfl⟩ := hcollects.unique h; exact hdistinct)
  obtain ⟨rfl, rfl, rfl⟩ := hcollects.unique hcollects'
  obtain ⟨_, ns, hns, hread, _⟩ := hlines "a"
  have hrecords : m.recordLines a.files "a" = [Bytes.ofText RecordLine.sampleText] := by
    have hlines : m.recordLines a.files "a" =
        CollectionSource.recordLines .ofRecord ⟨"a", "s", some "r"⟩ := by
      unfold Manifest.recordLines
      rw [hcollections, hfiles]
      exact List.append_nil _
    have hfile : Files.ofRecord.read? "r" = some RecordLine.sampleLines := rfl
    have hblank : Bytes.isBlank [] = true := by decide +kernel
    have htext : (Bytes.ofText RecordLine.sampleText).isBlank = false := by
      rw [Bytes.isBlank, RecordLine.isRecordText_sampleText.1, Option.any_some,
        RecordLine.isRecordText_sampleText.2]
    rw [hlines, CollectionSource.recordLines, Option.elim_some, hfile, Option.getD_some,
      RecordLine.lines_sampleLines]
    simp [hblank, htext]
  rw [hrecords] at hns
  obtain ⟨n, _, hn, hnil, rfl⟩ := List.forall₂_cons_left_iff.mp hns
  obtain rfl := List.forall₂_nil_left_iff.mp hnil
  obtain ⟨isText, told, registered, reflects⟩ := hn
  obtain rfl := Option.some.inj ((Bytes.text?_ofText _).symm.trans isText)
  obtain rfl := Except.ok.inj ((RecordLine.parse_eq_ok.mpr RecordLine.isToldBy_sampleText).symm.trans
    (RecordLine.parse_eq_ok.mpr told))
  have hresolved : LinkKinds.ofSchemata r.schemata = .ok r.kinds := by
    rw [hschemata, hkinds, Schema.ofSchemata_numberAndLink]
  rw [hreject] at reflects
  obtain rfl := reflects.unique ((CheckedRegistry.describes_sample hschemata hkinds).reflects
    hresolved hdistinct registered)
  rw [Option.getD_none, harchive] at hopened
  exact ⟨_, b.files, p, hbuilt, hopened, hread⟩

end CollectionArchive
