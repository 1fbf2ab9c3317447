import CollectionArchive.Proofs.Archive.Inventory
import CollectionArchive.Proofs.Metadata.Writing

/-!
# Metadata in archives

What an archive says about itself goes through texts twice: from a text it is read, and to a text it
is written when everything is finalized. Looking into a pack shows what that text holds.

* `Metadata.IsProper.of_object`: metadata of an object that is not nested too deep.
* `Metadata.IsReread`: what is read from the text of metadata.
* `Run.read_metadataPath`, `Run.inspected`: the metadata that finalizing leaves in an archive, and
  the metadata that is shown.
* **`Metadata.kept_of_object`**: nothing of an object is lost but what its metadata leaves out, and
  doubles that are not read back from their texts.
-/

namespace CollectionArchive

open Json (Reader Value)

/-! ## What is read from the text -/

namespace Metadata

variable {j : Json.Object} {m : Metadata}

/-- Metadata of an object that is not nested too deep. -/
theorem IsProper.of_object (proper : (Value.object j).IsProper)
    (shallow : (Value.object j).depth ≤ Reader.maxDepth) (h : ofJson? (.object j) = some m) :
    m.IsProper := by
  cases proper with
  | object ascending each =>
    have hothers : ∀ e ∈ m.others, e ∈ j := by
      intro e he
      rw [(ofJson?_eq_some.mp h).2.2.2.2] at he
      exact List.mem_of_mem_filter he
    have hdepth := Value.memberDepth_le.mp (Nat.le_of_succ_le_succ shallow)
    exact ⟨separates_of_ofJson? ascending h, fun e he => each e (hothers e he),
      Nat.succ_le_succ (Value.memberDepth_le.mpr fun e he => hdepth e (hothers e he))⟩

theorem member?_of_mem (m : Metadata) (others : Json.Object) {key : String}
    (h : key ∈ recommended) : ({ m with others } : Metadata).member? key = m.member? key := by
  rcases List.mem_cons.mp h with rfl | h
  · rfl
  rcases List.mem_cons.mp h with rfl | h
  · rfl
  rcases List.mem_cons.mp h with rfl | h
  · rfl
  obtain rfl := List.mem_singleton.mp h
  rfl

/-- What is kept of an object where doubles are replaced by those that are read from their texts. -/
theorem IsProper.keeps_of_reread? (h : m.IsProper) (hkeeps : Keeps some j m.object) {n : Metadata}
    (hn : m.reread? = some n) : Keeps Value.reread? j n.object := by
  have hseparates := h.reread? hn
  obtain ⟨others, hothers, rfl⟩ := Option.map_eq_some_iff.mp hn
  have hsame : ∀ key ∈ recommended,
      ({ m with others } : Metadata).object.get? key = m.object.get? key := by
    intro key hkey
    rw [hseparates.get?_object, h.get?_object, m.member?_of_mem others hkey]
  constructor
  · intro key hkey
    have hfound : m.others.get? key = j.get? key := by
      rw [← m.member?_of_notMem hkey, ← h.get?_object, hkeeps.others key hkey]
      exact Option.bind_fun_some _
    rw [hseparates.get?_object, member?_of_notMem _ hkey, Value.get?_rereadMembers? hothers, hfound]
  · intro key hkey hne
    rw [hsame key hkey]
    exact hkeeps.plain key hkey hne
  · rw [hsame _ (by decide)]
    exact hkeeps.attribution

/-- What is read from the text of the metadata of an object. -/
structure IsReread (m : Metadata) (j : Json.Object) : Prop where
  value : Json.parse m.json = Json.orMalformed (m.reread?.map toJson)
  metadata : parse m.json = Json.orMalformed m.reread?
  keeps (n : Metadata) (reread : m.reread? = some n) : Keeps Value.reread? j n.object
  same : parse m.json = .ok m ↔
    ∀ x ∈ Value.memberDoubles m.others, (Json.Number.double x).IsReadBack

/-- **What is read from the text of metadata** is what it was, with each double as it is read from
its text. -/
theorem IsProper.isReread (h : m.IsProper) (hkeeps : Keeps some j m.object) : m.IsReread j := by
  refine ⟨h.parse_value, h.parse_json, fun n hn => h.keeps_of_reread? hkeeps hn, ?_⟩
  rw [h.parse_json, ← m.reread?_eq_some_self]
  exact Outcome.elim_eq_ok

end Metadata

/-! ## What archives hold -/

/-- The metadata is in a lawful archive after finalizing. -/
theorem Run.read_metadataPath {σ : Type} [Archive σ] [LawfulArchive σ] {new : σ} {f : Contents}
    (hnew : LawfulArchive.IsOpen new f) {start h : Handle σ}
    (hstart : start.toSession = .ofArchive new) {l : Log} (run : Run start l h) {r : Registry σ}
    (hr : h.toSession.registry = .ok r) {metadata : String}
    (storable : ∀ path data,
      (Archive.read r.archive path = .ok data ∨ (path, data) ∈ r.lastEntries metadata) →
        LawfulArchive.Storable σ path data)
    {summary : Summary} {a : σ} (hfinal : h.finalize metadata = (.ok summary, a)) :
    Archive.read a metadataPath = .ok (Bytes.ofText metadata) := by
  obtain ⟨r', g, hr', hopen, _⟩ := run.exists_untouched hnew hstart
  obtain rfl := Except.ok.inj (hr.symm.trans hr')
  rw [Handle.finalize_of_registry hr] at hfinal
  obtain ⟨b, hall, hclose, _, _⟩ := Registry.finalize_eq_ok hfinal
  have hclosed := LawfulArchive.close_open (Registry.writeEntries_isOpen hopen hall)
    (fun path data hdata => storable path data
      (Registry.read_or_mem_of_writeAll (LawfulArchive.holds_of_isOpen hopen) hdata)) hclose
  rw [(LawfulArchive.holds_of_isClosed hclosed).read, Entry.orMissing_eq_ok]
  exact Registry.writeAll_metadataPath

namespace Inventory

variable [Codec]

/-- The metadata that is shown is what is read from its text. -/
theorem metadata_of_ofFile {a : PackArchive} {f : Contents} (h : a.IsWritten f) {metadata : String}
    (hmetadata : f metadataPath = some (Bytes.ofText metadata)) {inv : Inventory}
    (hinv : ofFile a.files a.path = .ok inv) : Json.parse metadata = .ok inv.metadata := by
  obtain ⟨p, hp, hinv⟩ := Outcome.bind_eq_ok.mp hinv
  obtain ⟨rows, _, hinv⟩ := Outcome.bind_eq_ok.mp hinv
  obtain ⟨v, hv, hinv⟩ := Outcome.bind_eq_ok.mp hinv
  obtain rfl := Outcome.pure_eq_ok.mp hinv
  have hread : p.read metadataPath = .ok (some (Bytes.ofText metadata)) := by
    obtain ⟨_, p', _, hp', _, _, hread⟩ := h
    obtain rfl := Except.ok.inj ((Outcome.mapError_eq_ok.mp hp).symm.trans hp')
    rw [hread, hmetadata]
  rw [metadataOf, hread] at hv
  have hparse : Json.parseBytes (Bytes.ofText metadata) = .ok v := Outcome.mapError_eq_ok.mp hv
  rwa [Json.parseBytes, Bytes.text?_ofText] at hparse

end Inventory

/-- Looking into a finalized pack shows what is read from the text of the metadata, which the pack
holds. -/
theorem Run.inspected [Codec] (lossless : Codec.IsLossless ‹Codec›) {new : PackArchive}
    {f : Contents} (pending : new.IsPending f) {start h : Handle PackArchive}
    (hstart : start.toSession = .ofArchive new) {l : Log} (run : Run start l h)
    {r : Registry PackArchive} (hr : h.toSession.registry = .ok r) {metadata : String}
    (fits : r.FitsMemory metadata) {summary : Summary} {a : PackArchive}
    (hfinal : h.finalize metadata = (.ok summary, a)) :
    (∃ p, PackArchive.readPack a.files a.path = .ok p ∧
      p.read metadataPath = .ok (some (Bytes.ofText metadata))) ∧
    ∀ v, (∃ inv, Inventory.ofFile a.files a.path = .ok inv ∧ inv.metadata = v) ↔
      Json.parse metadata = .ok v := by
  let := PackArchive.lawful lossless
  obtain ⟨r', g, hr', hpending, _⟩ := run.exists_untouched pending hstart
  obtain rfl := Except.ok.inj (hr.symm.trans hr')
  rw [Handle.finalize_of_registry hr] at hfinal
  have hwritten := (Registry.isWritten_of_finalize lossless hpending fits hfinal).1
  have hheld : g.writeAll (r.lastEntries metadata) metadataPath = some (Bytes.ofText metadata) :=
    Registry.writeAll_metadataPath
  constructor
  · obtain ⟨_, p, _, hopened, _, _, hread⟩ := hwritten
    exact ⟨p, hopened, by rw [hread, hheld]⟩
  · intro v
    constructor
    · rintro ⟨inv, hinv, rfl⟩
      exact Inventory.metadata_of_ofFile hwritten hheld hinv
    · intro hv
      obtain ⟨inv, hinv⟩ := Inventory.exists_ofFile hwritten hheld hv
      have hshown := Inventory.metadata_of_ofFile hwritten hheld hinv
      exact ⟨inv, hinv, Except.ok.inj (hshown.symm.trans hv)⟩

/-! ## Nothing else is lost -/

namespace Metadata

/-- **What is kept of an object that is read as metadata.** No recommended member is among the
others. As an object again, the metadata has what the object had but members that are null and
members of the attribution that are not read, and is read back from it. From its text it is read
back but for doubles, each of which is read from its own text. Each text from which metadata is read
tells such an object. Finalizing writes that text, and looking into a pack shows what is read from
it. -/
theorem kept_of_object :
    (∀ (j : Json.Object) (m : Metadata), (Value.object j).IsProper → ofJson? (.object j) = some m →
      (∀ key ∈ recommended, m.others.get? key = none) ∧ Keeps some j m.object ∧
        ofJson? m.toJson = some m ∧
          ((Value.object j).depth ≤ Reader.maxDepth → m.IsReread j)) ∧
    (∀ (s : String) (m : Metadata), parse s = .ok m → (∃ j, IsTextOf s j) ∧
      ∀ j, IsTextOf s j → (Value.object j).IsProper ∧
        (Value.object j).depth ≤ Reader.maxDepth ∧ ofJson? (.object j) = some m) ∧
    (∀ (s : String) (j : Json.Object), Json.parse s = .ok (.object j) → IsTextOf s j) ∧
    (∀ {new a : MemoryArchive} {start h : Handle MemoryArchive} {l : Log} {m : Metadata}
        {summary : Summary},
      new.isClosed = false → start.toSession = .ofArchive new → Run start l h →
        h.finalize m.json = (.ok summary, a) →
          Archive.read a metadataPath = .ok (Bytes.ofText m.json)) ∧
    ∀ [Codec], Codec.IsLossless ‹Codec› →
      ∀ {files : Files} {path : String} {config : PackConfig} {new a : PackArchive}
        {before : String → Prop} {start h : Handle PackArchive} {l : Log}
        {r : Registry PackArchive} {m : Metadata} {summary : Summary},
      PackArchive.Starts files path config new before → start.toSession = .ofArchive new →
        Run start l h → h.toSession.registry = .ok r → r.FitsMemory m.json →
        h.finalize m.json = (.ok summary, a) →
          (∃ p, PackArchive.readPack a.files a.path = .ok p ∧
            p.read metadataPath = .ok (some (Bytes.ofText m.json))) ∧
          ∀ v, (∃ inv, Inventory.ofFile a.files a.path = .ok inv ∧ inv.metadata = v) ↔
            Json.parse m.json = .ok v := by
  refine ⟨fun j m proper h => ?_, fun s m hread => ?_, fun s j => isTextOf_of_parse, ?_, ?_⟩
  · have separates : m.Separates := by
      cases proper with
      | object ascending => exact separates_of_ofJson? ascending h
    have hkeeps := keeps_of_ofJson? proper h
    exact ⟨separates.lacks, hkeeps, separates.ofJson?_toJson, fun shallow =>
      (IsProper.of_object proper shallow h).isReread hkeeps⟩
  · refine ⟨exists_isTextOf hread, fun j hj => ?_⟩
    obtain ⟨proper, shallow⟩ := hj.isProper
    exact ⟨proper, shallow, hj.ofJson?_eq hread⟩
  · intro new a start h l m summary hopen hstart run hfinal
    obtain ⟨r, hr⟩ := Handle.registry_of_finalize hfinal
    have hnew : LawfulArchive.IsOpen new new.entries.get? := ⟨hopen, rfl⟩
    exact run.read_metadataPath hnew hstart hr (fun _ _ _ => trivial) hfinal
  · intro _ lossless files path config new a before start h l r m summary hnew hstart run hr fits
      hfinal
    obtain ⟨f, hf, _⟩ := hnew.exists_isPending
    exact run.inspected lossless hf hstart hr fits hfinal

/-- An object with null under a recommended key, an attribution as an array with null in it, and a
member that is not recommended. -/
def sampleObject : Json.Object :=
  [("attribution", .array [.text "a", .null]), ("public", .null), ("x", .array [.null])]

/-- The metadata of the object. -/
def sample : Metadata :=
  { attribution := some ⟨"a", none, none⟩, others := [("x", .array [.null])] }

/-- A text of the object. -/
def sampleText : String :=
  "\x7b\"x\":[null],\"public\":null,\"attribution\":[\"a\",null]\x7d"

theorem isProper_sampleObject : (Value.object sampleObject).IsProper := by
  have hitems : ∀ v ∈ [Value.text "a", Value.null], v.IsProper :=
    List.forall_mem_cons.mpr ⟨.text "a", List.forall_mem_singleton.mpr .null⟩
  have hothers : ∀ v ∈ [Value.null], v.IsProper := List.forall_mem_singleton.mpr .null
  refine .object (by decide) ?_
  exact List.forall_mem_cons.mpr ⟨.array hitems,
    List.forall_mem_cons.mpr ⟨.null, List.forall_mem_singleton.mpr (.array hothers)⟩⟩

theorem kept_of_object_sample :
    (sample.others.get? "public" = none ∧ Keeps some sampleObject sample.object ∧
      ofJson? sample.toJson = some sample ∧ sample.IsReread sampleObject) ∧
    (∃ m, parse sampleText = .ok m ∧ ∃ j, IsTextOf sampleText j ∧ ofJson? (.object j) = some m) ∧
    IsTextOf "\x7b\x7d" [] ∧
    (∃ (h : Handle MemoryArchive) (summary : Summary) (a : MemoryArchive),
      Run (.session (.ofArchive .empty)) Log.sample h ∧
        h.finalize ({} : Metadata).json = (.ok summary, a) ∧
          Archive.read a metadataPath = .ok (Bytes.ofText ({} : Metadata).json)) ∧
    ∃ (new a : PackArchive) (h : Handle PackArchive) (summary : Summary) (inv : Inventory),
      PackArchive.create (.empty []) "p" .standard = .ok new ∧
        Run (.session (.ofArchive new)) Log.sample h ∧
          h.finalize ({} : Metadata).json = (.ok summary, a) ∧
            Inventory.ofFile a.files a.path = .ok inv ∧ inv.metadata = .object [] := by
  have hjson : ({} : Metadata).json = "\x7b\x7d" := by cbv
  have hsample : (parse sampleText).isOk = true := by decide +kernel
  obtain ⟨m, hm⟩ : ∃ m, parse sampleText = .ok m := by
    cases hread : parse sampleText with
    | ok m => exact ⟨m, rfl⟩
    | error e =>
      rw [hread] at hsample
      cases hsample
  refine ⟨?_, ?_, ?_, ?_, ?_⟩
  · obtain ⟨hlacks, hkeeps, hsame, hreread⟩ :=
      kept_of_object.1 sampleObject sample isProper_sampleObject rfl
    exact ⟨hlacks "public" (by decide), hkeeps, hsame, hreread (by decide)⟩
  · obtain ⟨⟨j, hj⟩, hall⟩ := kept_of_object.2.1 sampleText m hm
    exact ⟨m, hm, j, hj, (hall j hj).2.2⟩
  · exact kept_of_object.2.2.1 _ [] (by cbv)
  · obtain ⟨h, summary, a, run, hfinal⟩ := Run.exists_finalize_memory
    rw [← hjson] at hfinal
    exact ⟨h, summary, a, run, hfinal, kept_of_object.2.2.2.1 rfl rfl run hfinal⟩
  · obtain ⟨new, a, r, summary, hnew, run, hwaits, hfinal⟩ := Run.exists_finalize_sample
    have hfits : r.FitsMemory ({} : Metadata).json := by
      rw [hjson]
      exact fun p d h => Log.fitsMemory_sampleEntries (hwaits p d h)
    rw [← hjson] at hfinal
    obtain ⟨_, hshown⟩ := kept_of_object.2.2.2.2 Codec.isLossless_standard (.created hnew) rfl run
      rfl hfits hfinal
    obtain ⟨inv, hinv, hmetadata⟩ := (hshown (.object [])).mpr (by rw [hjson]; cbv)
    exact ⟨new, a, _, summary, inv, hnew, run, hfinal, hinv, hmetadata⟩

/-- **A double need not be read back**, and then neither is metadata with it. -/
theorem not_parse_json : ¬ ∀ (s : String) (m : Metadata), parse s = .ok m →
    ∃ n, parse m.json = .ok n ∧ n.equal m = true := by
  intro h
  have hdiffers : (match parse "\x7b\"x\":5e32\x7d" with
      | .ok m => match parse m.json with
        | .ok n => n.equal m
        | .error _ => true
      | .error _ => true) = false := by decide +kernel
  split at hdiffers
  · rename_i m hm
    obtain ⟨n, hn, hsame⟩ := h _ m hm
    rw [hn] at hdiffers
    exact Bool.false_ne_true (hdiffers.symm.trans hsame)
  · cases hdiffers

end Metadata

end CollectionArchive
