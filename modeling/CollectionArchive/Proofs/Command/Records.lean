import CollectionArchive.Command.Build
import CollectionArchive.Proofs.Registry.Buffers

/-!
# Lines of records

What a line of records amounts to depends on the schemata and the links of a registry. Whether its
node can be added depends also on where nodes wait, which is as the lines before have left it.

* `CheckedRegistry.OnlyStages`: registries that differ in nothing but nodes.
* `CheckedRegistry.Describes`: a record describes a node.
* `CheckedRegistry.LineFails`, **`CheckedRegistry.addLine_fails`**: the lines that cannot be taken,
  and the errors.
* `CheckedRegistry.TakesLine`, **`CheckedRegistry.addLine_eq_ok`**: the lines that are taken, and
  what they add.
* `CheckedRegistry.SourceFails`, **`CheckedRegistry.addRecords_fails`**: the records that cannot be
  taken.
-/

namespace CollectionArchive

open CommandError

namespace CheckedRegistry

variable {σ δ β : Type} {r r' r'' : CheckedRegistry σ δ β} {collection : String} {rejectNull : Bool}

/-- The second registry has the schemata, the links and the archive of the first. -/
structure OnlyStages (r r' : CheckedRegistry σ δ β) : Prop where
  schemata : r'.schemata = r.schemata
  kinds : r'.kinds = r.kinds
  archive : r'.archive = r.archive

theorem OnlyStages.refl (r : CheckedRegistry σ δ β) : r.OnlyStages r :=
  ⟨rfl, rfl, rfl⟩

theorem OnlyStages.symm (h : r.OnlyStages r') : r'.OnlyStages r :=
  ⟨h.schemata.symm, h.kinds.symm, h.archive.symm⟩

theorem OnlyStages.trans (h : r.OnlyStages r') (h' : r'.OnlyStages r'') : r.OnlyStages r'' :=
  ⟨h'.schemata.trans h.schemata, h'.kinds.trans h.kinds, h'.archive.trans h.archive⟩

/-! ## Records -/

/-- What a record assigns to its node, and how the first assignment that fails does. -/
def describe (r : CheckedRegistry σ δ β) (collection : String) (rejectNull : Bool)
    (record : RecordLine) : Except RegistryError Unit × Node :=
  r.assignAll collection rejectNull (.ofTitle record.title record.coverImages)
    (record.properties.map fun e => (e.1, Input.ofJson e.2))

/-- The record describes the node. -/
def Describes (r : CheckedRegistry σ δ β) (collection : String) (rejectNull : Bool)
    (record : RecordLine) (n : Node) : Prop :=
  r.describe collection rejectNull record = (.ok (), n)

theorem OnlyStages.describe (h : r.OnlyStages r') (record : RecordLine) :
    r'.describe collection rejectNull record = r.describe collection rejectNull record := by
  rw [CheckedRegistry.describe, CheckedRegistry.describe, assignAll, assignAll, h.schemata, h.kinds]

/-- A record describes a node, or some assignment fails. -/
theorem exists_describes (r : CheckedRegistry σ δ β) (collection : String) (rejectNull : Bool)
    (record : RecordLine) : (∃ n, r.Describes collection rejectNull record n) ∨
      ∃ e, (r.describe collection rejectNull record).1 = .error e := by
  rcases h : r.describe collection rejectNull record with ⟨e | ⟨⟩, n⟩
  · exact .inr ⟨e, rfl⟩
  · exact .inl ⟨n, h⟩

variable [BufferSource δ β] [Buffer β]

theorem addNode_onlyStages (r : CheckedRegistry σ δ β) (collection : String) (n : Node) :
    r.OnlyStages (r.addNode collection n).2 := by
  rcases h : r.addNode collection n with ⟨e | ⟨⟩, r'⟩
  · cases addNode_fails.mp h <;> exact ⟨rfl, rfl, rfl⟩
  · obtain ⟨_, _, _, -, -, -, rfl⟩ := addNode_succeeds.mp h
    exact ⟨rfl, rfl, rfl⟩

theorem addRecord_of_describes {record : RecordLine} {n : Node}
    (h : r.Describes collection rejectNull record n) :
    r.addRecord collection rejectNull record = r.addNode collection n := by
  rw [Describes, describe] at h
  simp only [addRecord, h]

theorem addRecord_of_error {record : RecordLine} {e : RegistryError}
    (h : (r.describe collection rejectNull record).1 = .error e) :
    r.addRecord collection rejectNull record = (.error e, r) := by
  rcases hdescribe : r.describe collection rejectNull record with ⟨outcome, n⟩
  obtain rfl : outcome = .error e := by rw [hdescribe] at h; exact h
  rw [describe] at hdescribe
  simp only [addRecord, hdescribe]

/-- The record cannot be added: an assignment fails, or the node is not taken. -/
inductive RecordFails (r : CheckedRegistry σ δ β) (collection : String) (rejectNull : Bool)
    (record : RecordLine) : RegistryError → Prop
  | assign {e : RegistryError} (fails : (r.describe collection rejectNull record).1 = .error e) :
    RecordFails r collection rejectNull record e
  | add {n : Node} {e : RegistryError} {r' : CheckedRegistry σ δ β}
    (describes : r.Describes collection rejectNull record n)
    (fails : r.AddFails collection n e r') : RecordFails r collection rejectNull record e

theorem addRecord_fails {record : RecordLine} {e : RegistryError} :
    (r.addRecord collection rejectNull record).1 = .error e ↔
      r.RecordFails collection rejectNull record e := by
  constructor
  · intro h
    rcases r.exists_describes collection rejectNull record with ⟨n, hn⟩ | ⟨e', he'⟩
    · rw [addRecord_of_describes hn] at h
      exact .add hn (addNode_fails.mp (Prod.ext h rfl))
    · rw [addRecord_of_error he'] at h
      exact .assign (h ▸ he')
  · rintro (hassign | ⟨hdescribes, hfails⟩)
    · rw [addRecord_of_error hassign]
    · rw [addRecord_of_describes hdescribes, addNode_fails.mpr hfails]

theorem addRecord_eq_ok {record : RecordLine} :
    r.addRecord collection rejectNull record = (.ok (), r') ↔
      ∃ n, r.Describes collection rejectNull record n ∧ r.addNode collection n = (.ok (), r') := by
  constructor
  · intro h
    rcases r.exists_describes collection rejectNull record with ⟨n, hn⟩ | ⟨e, he⟩
    · exact ⟨n, hn, (addRecord_of_describes hn).symm.trans h⟩
    · rw [addRecord_of_error he] at h
      cases h
  · rintro ⟨n, hdescribes, hadd⟩
    rw [addRecord_of_describes hdescribes, hadd]

theorem addRecord_onlyStages (r : CheckedRegistry σ δ β) (collection : String) (rejectNull : Bool)
    (record : RecordLine) : r.OnlyStages (r.addRecord collection rejectNull record).2 := by
  rcases r.exists_describes collection rejectNull record with ⟨n, hn⟩ | ⟨e, he⟩
  · rw [addRecord_of_describes hn]
    exact r.addNode_onlyStages collection n
  · rw [addRecord_of_error he]
    exact .refl r

/-! ## Lines -/

/-- The text of a line that is not blank. -/
def IsRecordText (line : Bytes) (text : String) : Prop :=
  Bytes.text? line = some text ∧ (Text.trim text).isEmpty = false

/-- The line cannot be taken. If it is a text, the error tells where it is. -/
inductive LineFails (r : CheckedRegistry σ δ β) (collection : String) (rejectNull : Bool)
    (path : String) (line : Bytes × Nat) : CommandError → Prop
  | read (noText : Bytes.text? line.1 = none) :
    LineFails r collection rejectNull path line (of .file)
  | parse {text : String} {fault : Json.Fault} (isText : IsRecordText line.1 text)
    (parse : RecordLine.parse text = .error fault) :
    LineFails r collection rejectNull path line ⟨[s!"{path}:{line.2}"], some (.json fault)⟩
  | add {text : String} {record : RecordLine} {e : RegistryError}
    (isText : IsRecordText line.1 text) (parse : RecordLine.parse text = .ok record)
    (fails : r.RecordFails collection rejectNull record e) :
    LineFails r collection rejectNull path line ⟨[s!"{path}:{line.2}"], some (.registry e)⟩

/-- The line is taken: it is blank, or there is a node in it. -/
inductive TakesLine (r : CheckedRegistry σ δ β) (collection : String) (rejectNull : Bool)
    (line : Bytes) : Option Node → Prop
  | blank {text : String} (isText : Bytes.text? line = some text)
    (isBlank : (Text.trim text).isEmpty = true) : TakesLine r collection rejectNull line none
  | node {text : String} {record : RecordLine} {n : Node} (isText : IsRecordText line text)
    (parse : RecordLine.parse text = .ok record)
    (describes : r.Describes collection rejectNull record n) :
    TakesLine r collection rejectNull line (some n)

section

variable {path : String} {line : Bytes × Nat} {text : String}

theorem addLine_of_none (h : Bytes.text? line.1 = none) :
    addLine collection rejectNull path r line = (.error (of .file), r) := by
  simp only [addLine, RecordLine.ofLine?, h, orNoFile, Option.elim_none, bind, Except.bind]

theorem addLine_of_blank (htext : Bytes.text? line.1 = some text)
    (hblank : (Text.trim text).isEmpty = true) :
    addLine collection rejectNull path r line = (.ok (), r) := by
  simp only [addLine, RecordLine.ofLine?, htext, hblank, orNoFile, Option.elim_some, bind,
    Except.bind, if_true, pure, Except.pure]

theorem addLine_of_fault {fault : Json.Fault} (h : IsRecordText line.1 text)
    (hparse : RecordLine.parse text = .error fault) :
    addLine collection rejectNull path r line =
      (.error ⟨[s!"{path}:{line.2}"], some (.json fault)⟩, r) := by
  simp only [addLine, RecordLine.ofLine?, h.1, h.2, hparse, orNoFile, Option.elim_some, bind,
    Except.bind, Bool.false_eq_true, if_false, causedBy, Except.mapError]
  rfl

theorem addLine_of_record {record : RecordLine} (h : IsRecordText line.1 text)
    (hparse : RecordLine.parse text = .ok record) :
    addLine collection rejectNull path r line =
      (causedBy .registry s!"{path}:{line.2}" (r.addRecord collection rejectNull record).1,
        (r.addRecord collection rejectNull record).2) := by
  simp only [addLine, RecordLine.ofLine?, h.1, h.2, hparse, orNoFile, Option.elim_some, bind,
    Except.bind, Bool.false_eq_true, if_false, causedBy, Except.mapError, pure, Except.pure]

/-- A line is no text, blank, no record, or a record. -/
theorem line_cases (line : Bytes) : Bytes.text? line = none ∨
    (∃ text, Bytes.text? line = some text ∧ (Text.trim text).isEmpty = true) ∨
      ∃ text, IsRecordText line text ∧ ((∃ fault, RecordLine.parse text = .error fault) ∨
        ∃ record, RecordLine.parse text = .ok record) := by
  cases htext : Bytes.text? line with
  | none => exact .inl rfl
  | some text =>
    cases hblank : (Text.trim text).isEmpty with
    | true => exact .inr (.inl ⟨text, rfl, hblank⟩)
    | false =>
      refine .inr (.inr ⟨text, ⟨htext, hblank⟩, ?_⟩)
      cases RecordLine.parse text with
      | error fault => exact .inl ⟨fault, rfl⟩
      | ok record => exact .inr ⟨record, rfl⟩

/-- **A line that cannot be taken is told by its path and number**, but for one that is no text. -/
theorem addLine_fails {e : CommandError} :
    (addLine collection rejectNull path r line).1 = .error e ↔
      r.LineFails collection rejectNull path line e := by
  constructor
  · intro h
    rcases line_cases line.1 with hnone | ⟨text, htext, hblank⟩ | ⟨text, htext,
      ⟨fault, hparse⟩ | ⟨record, hparse⟩⟩
    · rw [addLine_of_none hnone] at h
      exact Except.error.inj h ▸ .read hnone
    · rw [addLine_of_blank htext hblank] at h
      cases h
    · rw [addLine_of_fault htext hparse] at h
      exact Except.error.inj h ▸ .parse htext hparse
    · rw [addLine_of_record htext hparse] at h
      obtain ⟨cause, hcause, rfl⟩ := Outcome.mapError_eq_error.mp h
      exact .add htext hparse (addRecord_fails.mp hcause)
  · rintro (hnone | ⟨htext, hparse⟩ | ⟨htext, hparse, hfails⟩)
    · rw [addLine_of_none hnone]
    · rw [addLine_of_fault htext hparse]
    · rw [addLine_of_record htext hparse]
      exact Outcome.mapError_eq_error.mpr ⟨_, addRecord_fails.mpr hfails, rfl⟩

/-- **A line that is taken adds its node**, if there is one in it. -/
theorem addLine_eq_ok : addLine collection rejectNull path r line = (.ok (), r') ↔
    (r.TakesLine collection rejectNull line.1 none ∧ r' = r) ∨
      ∃ n, r.TakesLine collection rejectNull line.1 (some n) ∧
        r.addNode collection n = (.ok (), r') := by
  constructor
  · intro h
    rcases line_cases line.1 with hnone | ⟨text, htext, hblank⟩ | ⟨text, htext,
      ⟨fault, hparse⟩ | ⟨record, hparse⟩⟩
    · rw [addLine_of_none hnone] at h
      cases h
    · rw [addLine_of_blank htext hblank] at h
      exact .inl ⟨.blank htext hblank, (Prod.mk.inj h).2.symm⟩
    · rw [addLine_of_fault htext hparse] at h
      cases h
    · rw [addLine_of_record htext hparse] at h
      obtain ⟨hadds, hleft⟩ := Prod.mk.inj h
      obtain ⟨n, hn, hadd⟩ :=
        addRecord_eq_ok.mp (Prod.ext (Outcome.mapError_eq_ok.mp hadds) hleft)
      exact .inr ⟨n, .node htext hparse hn, hadd⟩
  · rintro (⟨hline, rfl⟩ | ⟨n, hline, hadd⟩)
    · cases hline with
      | blank htext hblank => exact addLine_of_blank htext hblank
    · cases hline with
      | node htext hparse hdescribes =>
        rw [addLine_of_record htext hparse, addRecord_eq_ok.mpr ⟨n, hdescribes, hadd⟩]
        rfl

theorem addLine_onlyStages (r : CheckedRegistry σ δ β) (collection : String) (rejectNull : Bool)
    (path : String) (line : Bytes × Nat) :
    r.OnlyStages (addLine collection rejectNull path r line).2 := by
  rcases line_cases line.1 with hnone | ⟨text, htext, hblank⟩ | ⟨text, htext,
    ⟨fault, hparse⟩ | ⟨record, hparse⟩⟩
  · rw [addLine_of_none hnone]
    exact .refl r
  · rw [addLine_of_blank htext hblank]
    exact .refl r
  · rw [addLine_of_fault htext hparse]
    exact .refl r
  · rw [addLine_of_record htext hparse]
    exact r.addRecord_onlyStages collection rejectNull record

end

/-! ## Files of records -/

/-- The records of a collection cannot be taken: their file is missing or is no file, or all lines
of it are taken up to one that is not. Lines are numbered from 1, blank or not. -/
inductive SourceFails (r : CheckedRegistry σ δ β) (f : Files) (rejectNull : Bool)
    (c : CollectionSource) : CommandError → Prop
  | missing {path : String} (records : c.records = some path) (absent : f.find? path = none) :
    SourceFails r f rejectNull c ⟨[s!"opening records {path}"], some .file⟩
  | unreadable {path : String} {t : FileTree} (records : c.records = some path)
    (present : f.find? path = some t) (noFile : t.content? = none) :
    SourceFails r f rejectNull c (of .file)
  | line {path : String} {content : Bytes} {front back : List (Bytes × Nat)} {line : Bytes × Nat}
    {before : CheckedRegistry σ δ β} {e : CommandError} (records : c.records = some path)
    (read : f.read? path = some content) (lines : content.lines.zipIdx 1 = front ++ line :: back)
    (taken : Steps.run (addLine c.name rejectNull path) r front = (.ok (), before))
    (fails : before.LineFails c.name rejectNull path line e) : SourceFails r f rejectNull c e

variable {f : Files} {c : CollectionSource} {path : String}

theorem addRecords_of_missing (hrecords : c.records = some path) (hmissing : f.find? path = none) :
    addRecords f rejectNull r c = (.error ⟨[s!"opening records {path}"], some .file⟩, r) := by
  simp only [addRecords, hrecords, Files.recordLines, hmissing]
  rfl

theorem addRecords_of_unreadable {t : FileTree} (hrecords : c.records = some path)
    (hpresent : f.find? path = some t) (hnoFile : t.content? = none) :
    addRecords f rejectNull r c = (.error (of .file), r) := by
  simp only [addRecords, hrecords, Files.recordLines, hpresent, orNoFile, Option.elim_some, within,
    Except.mapError, bind, Except.bind, hnoFile, Option.elim_none]

theorem addRecords_of_content {content : Bytes} (hrecords : c.records = some path)
    (hcontent : f.read? path = some content) : addRecords f rejectNull r c =
      Steps.run (addLine c.name rejectNull path) r (content.lines.zipIdx 1) := by
  obtain ⟨t, hfind, ht⟩ := Option.bind_eq_some_iff.mp hcontent
  simp only [addRecords, hrecords, Files.recordLines, hfind, ht, orNoFile, Option.elim_some, within,
    bind, Except.bind, Except.mapError, pure, Except.pure]

theorem addRecords_of_none (hrecords : c.records = none) :
    addRecords f rejectNull r c = (.ok (), r) := by
  simp only [addRecords, hrecords]

/-- There are no records, or their file is missing or no file, or it has lines. -/
theorem records_cases (f : Files) (c : CollectionSource) : c.records = none ∨
    ∃ path, c.records = some path ∧ (f.find? path = none ∨
      (∃ t, f.find? path = some t ∧ t.content? = none) ∨
        ∃ content, f.read? path = some content) := by
  cases hrecords : c.records with
  | none => exact .inl rfl
  | some path =>
    refine .inr ⟨path, rfl, ?_⟩
    cases hfind : f.find? path with
    | none => exact .inl rfl
    | some t =>
      cases hcontent : t.content? with
      | none => exact .inr (.inl ⟨t, rfl, hcontent⟩)
      | some content =>
        exact .inr (.inr ⟨content, Option.bind_eq_some_iff.mpr ⟨t, hfind, hcontent⟩⟩)

theorem addRecords_onlyStages (f : Files) (rejectNull : Bool) (r : CheckedRegistry σ δ β)
    (c : CollectionSource) : r.OnlyStages (addRecords f rejectNull r c).2 := by
  rcases records_cases f c with hrecords | ⟨path, hrecords, hmissing | ⟨t, hpresent, hnoFile⟩ |
    ⟨content, hread⟩⟩
  · rw [addRecords_of_none hrecords]
    exact .refl r
  · rw [addRecords_of_missing hrecords hmissing]
    exact .refl r
  · rw [addRecords_of_unreadable hrecords hpresent hnoFile]
    exact .refl r
  · rw [addRecords_of_content hrecords hread]
    exact Steps.run_preserves (P := r.OnlyStages)
      (fun x line hx => hx.trans (x.addLine_onlyStages c.name rejectNull path line)) (.refl r)

/-- Records that can be taken are in a file. -/
theorem exists_content_of_addRecords (hrecords : c.records = some path)
    (h : addRecords f rejectNull r c = (.ok (), r')) : ∃ content, f.read? path = some content ∧
      Steps.run (addLine c.name rejectNull path) r (content.lines.zipIdx 1) = (.ok (), r') := by
  rcases records_cases f c with hnone | ⟨other, hother, hmissing | ⟨t, hpresent, hnoFile⟩ |
    ⟨content, hread⟩⟩
  · cases hrecords.symm.trans hnone
  · rw [addRecords_of_missing hother hmissing] at h
    cases h
  · rw [addRecords_of_unreadable hother hpresent hnoFile] at h
    cases h
  · obtain rfl := Option.some.inj (hrecords.symm.trans hother)
    exact ⟨content, hread, (addRecords_of_content hrecords hread).symm.trans h⟩

/-- **Records fail as their file does, or the first line that cannot be taken.** -/
theorem addRecords_fails {e : CommandError} : (addRecords f rejectNull r c).1 = .error e ↔
    r.SourceFails f rejectNull c e := by
  constructor
  · intro h
    rcases records_cases f c with hrecords | ⟨path, hrecords, hmissing | ⟨t, hpresent, hnoFile⟩ |
      ⟨content, hread⟩⟩
    · rw [addRecords_of_none hrecords] at h
      cases h
    · rw [addRecords_of_missing hrecords hmissing] at h
      exact Except.error.inj h ▸ .missing hrecords hmissing
    · rw [addRecords_of_unreadable hrecords hpresent hnoFile] at h
      exact Except.error.inj h ▸ .unreadable hrecords hpresent hnoFile
    · rw [addRecords_of_content hrecords hread] at h
      obtain ⟨front, line, back, before, hlines, htaken, hfails⟩ := Steps.run_fails.mp h
      exact .line hrecords hread hlines htaken (addLine_fails.mp hfails)
  · rintro (⟨hrecords, habsent⟩ | ⟨hrecords, hpresent, hnoFile⟩ | ⟨hrecords, hread, hlines, htaken,
      hfails⟩)
    · rw [addRecords_of_missing hrecords habsent]
    · rw [addRecords_of_unreadable hrecords hpresent hnoFile]
    · rw [addRecords_of_content hrecords hread]
      exact Steps.run_fails.mpr ⟨_, _, _, _, hlines, htaken, addLine_fails.mpr hfails⟩

end CheckedRegistry

end CollectionArchive
