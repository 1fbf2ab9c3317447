import CollectionArchive.Proofs.Link.Kinds
import CollectionArchive.Proofs.Registry.Finalization
import CollectionArchive.Proofs.Schema.Equality
import CollectionArchive.Proofs.Schema.Written

/-!
# Schemata in archives

The schema that is registered for a name is in the archive as a text, from which it can be read
back and registered again.

* `Archive.schema?`: the schema that is read from an archive.
* `Registry.TakesAll`: the paths of the schemata that are registered can be written.
* **`parse_json_of_built`**: schemata are read back, also from the archive of a run.
-/

namespace CollectionArchive

open Json (Value)

/-! ## Schemata that are registered -/

section

variable {σ : Type} [Archive σ]

/-- The schema that is read from what an archive holds for a collection. -/
def Archive.schema? (a : σ) (name : String) : Option Schema := do
  let data ← (Archive.read a (schemaPath name)).toOption
  let text ← Bytes.text? data
  (Schema.parse text).toOption

theorem Archive.schema?_of_read {a : σ} {name : String} {s : Schema}
    (hread : Archive.read a (schemaPath name) = .ok (Bytes.ofText s.json))
    (hparse : Schema.parse s.json = .ok s) : Archive.schema? a name = some s := by
  rw [schema?, hread]
  simp only [Except.toOption, Option.bind_eq_bind, Option.bind_some, Bytes.text?_ofText, hparse]

variable [LawfulArchive σ]

/-- The archive takes more, and the paths of the schemata that are registered are among those
that it takes. -/
def Registry.TakesAll (r : Registry σ) : Prop :=
  (∃ f, LawfulArchive.IsOpen r.archive f) ∧
    ∀ name s, r.schemata.get? name = some s → Entry.isValidPath (schemaPath name) = true

theorem Registry.TakesAll.register {r r' : Registry σ} {name : String} {schema : Schema}
    (h : r.TakesAll) (hregister : r.register name schema = .ok r') : r'.TakesAll := by
  obtain ⟨⟨f, hopen⟩, hvalid⟩ := h
  have hregisters := Registry.register_eq_ok hregister
  refine ⟨⟨_, LawfulArchive.isOpen_of_write hopen hregisters.write⟩, fun other s hs => ?_⟩
  rw [hregisters.get?_schemata] at hs
  split_ifs at hs with hname
  · obtain rfl := hname
    by_contra hinvalid
    have hrefused := LawfulArchive.write_invalid (Bytes.ofText schema.json) hopen
      ((Bool.not_eq_true _).mp hinvalid)
    rw [hregisters.write] at hrefused
    cases hrefused
  · exact hvalid other s hs

theorem Run.takesAll {a : σ} (fresh : LawfulArchive.IsOpen a fun _ => none) {start h : Handle σ}
    (new : start.toSession = .ofArchive a) {l : Log} (run : Run start l h) {r : Registry σ}
    (hr : h.toSession.registry = .ok r) : r.TakesAll := by
  refine Run.induction (P := fun _ s => ∀ r, s.registry = .ok r → r.TakesAll) ?_ ?_ run r hr
  · rintro r hr
    rw [new] at hr
    cases hr
    exact ⟨⟨_, fresh⟩, fun name s hs => by cases hs⟩
  · intro l s e s' ih step r' hr'
    refine step.registry (P := Registry.TakesAll) (fun r r' name schema h => h.register) ?_ ih hr'
    rintro r r' collection ns ⟨hopen, hvalid⟩ hstages
    rw [Registry.TakesAll, hstages.archive, hstages.schemata]
    exact ⟨hopen, hvalid⟩

/-- A schema that is registered can be registered again. -/
theorem Registry.TakesAll.exists_register {r : Registry σ} (h : r.TakesAll) {name : String}
    {s : Schema} (hs : r.schemata.get? name = some s) : ∃ r', r.register name s = .ok r' := by
  obtain ⟨⟨f, hopen⟩, hvalid⟩ := h
  obtain ⟨b, hwrite, _⟩ := LawfulArchive.write_valid (Bytes.ofText s.json) hopen (hvalid name s hs)
  refine Registry.exists_register_of_agrees (fun known hknown => ?_) hwrite
  obtain rfl := Option.some.inj (hs.symm.trans hknown)
  exact s.equal_self

omit [LawfulArchive σ] in
/-- Whatever is held takes a schema that its registry takes. -/
theorem Handle.exists_register {h : Handle σ} {r r' : Registry σ} {name : String} {s : Schema}
    (hr : h.toSession.registry = .ok r) (hregister : r.register name s = .ok r') :
    ∃ h', h.call? (.register name s) = some (.ok (), h') := by
  cases h with
  | staged staged =>
    cases staged with
    | building r =>
      cases hr
      refine ⟨.staged (.building r'), ?_⟩
      simp only [call?, Staged.call?, Staged.register, hregister, Option.map_some]
    | checked c =>
      cases hr
      refine ⟨.staged (.building r'), ?_⟩
      simp only [call?, Staged.call?, Staged.register, CheckedRegistry.register, hregister,
        Option.map_some]
  | session session =>
    refine ⟨.session (.building r'), ?_⟩
    cases session with
    | building r =>
      cases hr
      simp only [call?, Session.call, Session.register, hregister]
    | checked c =>
      cases hr
      simp only [call?, Session.call, Session.register, CheckedRegistry.register, hregister]
    | closed b => cases hr

end

/-- **Schemata are read back**, however they are built, if their doubles are. The archive of a run
holds each schema that was registered last for its name so that it is read back, also when
everything is finalized, and what is read back can be registered again. -/
theorem parse_json_of_built :
    (∀ s : Schema, s.IsBuilt → s.DoublesReadBack → Schema.parse s.json = .ok s) ∧
    ∀ {σ : Type} [Archive σ] [LawfulArchive σ] {a : σ}, LawfulArchive.IsOpen a (fun _ => none) →
      ∀ {start h : Handle σ} {l : Log}, start.toSession = .ofArchive a → Run start l h →
        ∀ {name : String} {s : Schema}, l.registered? name = some s → s.IsBuilt →
          s.DoublesReadBack →
            (∃ r, h.toSession.registry = .ok r ∧ r.schemata.get? name = some s ∧
              Archive.schema? r.archive name = some s ∧
                ∃ h', h.call? (.register name s) = some (.ok (), h')) ∧
            ∀ {metadata : String} {summary : Summary} {b : σ},
              (∀ path data, l.Writes metadata path data → LawfulArchive.Storable σ path data) →
                h.finalize metadata = (.ok summary, b) → Archive.schema? b name = some s := by
  refine ⟨fun s hbuilt hdoubles => hbuilt.parse_json hdoubles, ?_⟩
  intro σ _ _ a fresh start h l new run name s hs hbuilt hdoubles
  have hparse := hbuilt.parse_json hdoubles
  constructor
  · obtain ⟨r, hr, hmatches⟩ := run.matches fresh new
    obtain ⟨f, hopen, hf⟩ := hmatches.archive
    have hknown : r.schemata.get? name = some s := (hmatches.schemata name).trans hs
    have hwritten : f (schemaPath name) = some (Bytes.ofText s.json) :=
      (hf _ _).mpr ⟨name, s, hs, rfl, rfl⟩
    have hread : Archive.read r.archive (schemaPath name) = .ok (Bytes.ofText s.json) := by
      rw [(LawfulArchive.holds_of_isOpen hopen).read, Entry.orMissing_eq_ok]
      exact hwritten
    obtain ⟨r', hregister⟩ := (run.takesAll fresh new hr).exists_register hknown
    exact ⟨r, hr, hknown, Archive.schema?_of_read hread hparse, Handle.exists_register hr hregister⟩
  · intro metadata summary b storable hfinal
    have harchived := (run.closed fresh new storable hfinal).1
    exact Archive.schema?_of_read ((harchived.read _ _).mpr (.schema hs)) hparse

/-! ### A schema with a double -/

/-- The double `0.5`. -/
def Binary64.Finite.half : Binary64.Finite :=
  ⟨false, 0x10000000000000, -53, by decide⟩

theorem Binary64.Finite.isReadBack_half : (Json.Number.double half).IsReadBack := by
  have hchars : (Json.Number.double half).chars = ['0', '.', '5'] := by decide +kernel
  have htree : Json.Tree.ofText (String.ofList ['0', '.', '5']) =
      (.number ⟨false, [0], some [5], none⟩, false) := by
    rw [Json.Tree.ofText, String.toList_ofList]
    rfl
  have hnumber : (⟨false, [0], some [5], none⟩ : Json.Literal).number? = some (.double half) := by
    decide +kernel
  refine Json.Reader.parse_eq_ok.mpr ?_
  rw [Json.Number.text, hchars, htree]
  simp [Json.Reader.value, Json.Tree.value, hnumber]

/-- The least identifier. -/
def Identifier.least : Identifier :=
  ⟨⟨List.replicate 6 0 ++ [0x40, 0, 0x80] ++ List.replicate 7 0, rfl⟩, by decide, by decide⟩

/-- The kind of leaves for texts. -/
def LeafKind.string : LeafKind :=
  ⟨.string, rfl⟩

/-- A schema of one leaf for texts, whose config has a parameter of no meaning. -/
def Schema.sample : Schema :=
  .single .least .string (some [("w", .number (.double .half))])

theorem Schema.isBuilt_sample : Schema.sample.IsBuilt := by
  have hleaf : Property.leaf? "" .least .string (some [("w", .number (.double .half))]) =
      .ok (.leaf "" .least .string (some [("w", .number (.double .half))]) false) := rfl
  have hmain : Schema.sample.main.IsBuilt := .boxed "" fun c hc => by
    rw [List.mem_singleton.mp hc]
    exact .leaf hleaf
  refine .ofTrees hmain (.boxed "" (List.forall_mem_nil _)) Schema.sample.ofTrees_self
    ⟨by decide, fun c hc => ?_⟩
  obtain rfl : c = [("w", .number (.double .half))] := List.mem_singleton.mp hc
  refine .object (List.pairwise_singleton _ _) fun m hm => ?_
  rw [List.mem_singleton.mp hm]
  exact .double _

theorem Schema.doublesReadBack_sample : Schema.sample.DoublesReadBack := by
  intro c hc x hx
  obtain rfl : c = [("w", .number (.double .half))] := List.mem_singleton.mp hc
  obtain rfl : x = .half := List.mem_singleton.mp hx
  exact Binary64.Finite.isReadBack_half

theorem parse_json_of_built_sample :
    Schema.sample.IsBuilt ∧ Schema.sample.DoublesReadBack ∧
      Schema.parse Schema.sample.json = .ok Schema.sample ∧
        ∃ (r : Registry MemoryArchive) (l : Log) (b : MemoryArchive) (summary : Summary),
          Run (.session (.ofArchive .empty)) l (.session (.building r)) ∧
            l.registered? "a" = some Schema.sample ∧
              Archive.schema? r.archive "a" = some Schema.sample ∧
                Handle.finalize (.session (.building r)) "{}" = (.ok summary, b) ∧
                  Archive.schema? b "a" = some Schema.sample := by
  obtain ⟨hparse, hruns⟩ := parse_json_of_built
  refine ⟨Schema.isBuilt_sample, Schema.doublesReadBack_sample,
    hparse _ Schema.isBuilt_sample Schema.doublesReadBack_sample, ?_⟩
  have hregistered :
      Log.registered? [(.register "a" .sample, .ok ())] "a" = some Schema.sample := rfl
  obtain ⟨r, hr⟩ : ∃ r, (Registry.ofArchive MemoryArchive.empty).register "a" .sample = .ok r :=
    ⟨_, rfl⟩
  have hcall : (Session.ofArchive MemoryArchive.empty).call (.register "a" .sample) =
      (.ok (), .building r) := by
    rw [Session.call, Session.ofArchive, Session.register, hr]
  have hrun : Run (.session (.ofArchive MemoryArchive.empty)) [(.register "a" .sample, .ok ())]
      (.session (.building r)) := .call (l := []) .start (Handle.call?_session hcall)
  obtain ⟨c, b, hall, hclose⟩ : ∃ c b,
      Registry.writeEntries r.archive (r.lastEntries "{}") = (none, c) ∧
        Archive.close c = (.ok (), b) := by
    obtain rfl := Except.ok.inj hr
    exact ⟨_, _, rfl, rfl⟩
  obtain ⟨summary, hfinal⟩ := hrun.exists_finalize MemoryArchive.isOpen_empty rfl
    (fun _ _ _ => trivial) rfl hall hclose
  obtain ⟨⟨r', hr', _, hread, _⟩, hclosed⟩ := hruns MemoryArchive.isOpen_empty rfl hrun hregistered
    Schema.isBuilt_sample Schema.doublesReadBack_sample
  obtain rfl := Except.ok.inj hr'
  exact ⟨r, _, b, summary, hrun, hregistered, hread, hfinal, hclosed (fun _ _ _ => trivial) hfinal⟩

end CollectionArchive
