import CollectionArchive.Proofs.Archive.Replies
import CollectionArchive.Proofs.Pack.Layout

/-!
# Packs that are added to

A pack file can be opened to add to it. Its entries are put into an archive one after the other, as
if they were written anew, so their paths have to be valid: a pack may have others. What is written
later replaces data in its place or comes after all that was there.

* `Pack.Gives`: the entries of a pack, with all their data.
* `PackArchive.openFile_of_valid`, `PackArchive.openFile_of_invalid`: what opening a pack does.
* **`PackArchive.exists_openFile_iff`**: which packs can be added to.
* `Archive.after`: an archive after requests; `PackArchive.HasTaken.after`: what it has taken then.
* **`openFile_of_gives`**: what is in a file after it was added to.
-/

namespace CollectionArchive

/-! ## Entries that are put in one after the other -/

namespace Entry

/-- Entries with new paths are put behind those that are there. -/
theorem insertAll_of_nodup {entries adds : List Entry}
    (distinct : (paths (entries ++ adds)).Nodup) :
    insertAll entries adds = entries ++ adds := by
  induction adds using List.reverseRecOn with
  | nil =>
    rw [List.append_nil]
    rfl
  | append_singleton front e ih =>
    have hsplit : paths (entries ++ (front ++ [e])) = paths (entries ++ front) ++ [e.path] := by
      simp [paths]
    rw [hsplit, List.nodup_append] at distinct
    obtain ⟨hfront, -, hnew⟩ := distinct
    have hlast : ∀ es : List Entry, e.path ∉ paths es → insert es e.path e.data = es ++ [e] := by
      intro es hes
      induction es with
      | nil => rfl
      | cons f es ih =>
        rw [paths, List.map_cons, List.mem_cons, not_or] at hes
        rw [insert, if_neg (Ne.symm hes.1), ih hes.2, List.cons_append]
    rw [insertAll_concat, ih hfront, hlast, List.append_assoc]
    intro hmem
    exact hnew e.path hmem e.path (List.mem_singleton.mpr rfl) rfl

theorem foldlM_put_of_valid {adds : List Entry} (valid : ∀ e ∈ adds, isValidPath e.path = true)
    (entries : List Entry) :
    adds.foldlM (fun entries e => put entries e.path e.data) entries =
      .ok (insertAll entries adds) := by
  induction adds generalizing entries with
  | nil => rfl
  | cons e adds ih =>
    obtain ⟨he, hadds⟩ := List.forall_mem_cons.mp valid
    rw [List.foldlM_cons, put_of_valid he]
    exact ih hadds _

/-- The first entry whose path is not valid is refused. -/
theorem foldlM_put_of_invalid {front back : List Entry} {e : Entry}
    (valid : ∀ f ∈ front, isValidPath f.path = true) (invalid : isValidPath e.path = false)
    (entries : List Entry) :
    (front ++ e :: back).foldlM (fun entries e => put entries e.path e.data) entries =
      .error (.invalidPath e.path) := by
  rw [List.foldlM_append, foldlM_put_of_valid valid]
  show (e :: back).foldlM (fun entries e => put entries e.path e.data) _ = _
  rw [List.foldlM_cons, put_of_invalid invalid]
  rfl

end Entry

/-! ## Packs whose entries can all be read -/

section

variable [Codec]

/-- The entries of a pack in their order, with the data that is read for each. -/
structure Pack.Gives (p : Pack) (entries : List Entry) : Prop where
  paths : p.paths = Entry.paths entries
  read : ∀ e ∈ entries, p.read e.path = .ok (some e.data)

namespace Pack

/-- A pack gives entries if all that it lists can be read. -/
theorem exists_gives {p : Pack}
    (readable : ∀ path ∈ p.paths, ∃ data, p.read path = .ok (some data)) :
    ∃ entries, p.Gives entries := by
  choose! data hdata using readable
  refine ⟨p.paths.map fun path => ⟨path, data path⟩, ?_, ?_⟩
  · rw [Entry.paths, List.map_map]
    exact (List.map_id _).symm
  · intro e he
    obtain ⟨path, hpath, rfl⟩ := List.mem_map.mp he
    exact hdata path hpath

/-- What is stored for each entry is intact. -/
theorem Gives.forall₂ {p : Pack} {entries : List Entry} (gives : p.Gives entries)
    (distinct : p.paths.Nodup) :
    List.Forall₂ (fun s e => s.path = e.path ∧ dataOf s = .ok e.data) p.entries entries := by
  have hlength : p.entries.length = entries.length := by
    have h := congrArg List.length gives.paths
    rw [Pack.paths, Entry.paths, List.length_map, List.length_map] at h
    exact h
  apply List.forall₂_iff_get.mpr
  refine ⟨hlength, fun i hs he => ?_⟩
  have hpath : (p.entries.get ⟨i, hs⟩).path = (entries.get ⟨i, he⟩).path := by
    have h := congrArg (fun l : List String => l[i]?) gives.paths
    simp only [Pack.paths, Entry.paths, List.getElem?_map, List.getElem?_eq_getElem hs,
      List.getElem?_eq_getElem he, Option.map_some, Option.some.injEq] at h
    exact h
  have hread := gives.read _ (List.get_mem entries ⟨i, he⟩)
  rw [← hpath, Pack.read, find?_of_mem distinct (List.get_mem p.entries ⟨i, hs⟩)] at hread
  obtain ⟨data, hdata, hsome⟩ := Outcome.map_eq_ok.mp hread
  rw [Option.some.injEq] at hsome
  exact ⟨hpath, hsome ▸ hdata⟩

end Pack

/-! ## Opening -/

namespace PackArchive

variable {files : Files} {path : String} {p : Pack} {entries : List Entry}

/-- A pack that was opened is that of a file, and no path comes twice in it. -/
theorem readPack_eq_ok (opened : readPack files path = .ok p) :
    files.has path = true ∧ p.paths.Nodup := by
  obtain ⟨bs, hbs, hdecode⟩ := Outcome.bind_eq_ok.mp opened
  have hread : files.read? path = some bs := Outcome.elim_eq_ok.mp hbs
  obtain ⟨t, ht, -⟩ := Option.bind_eq_some_iff.mp hread
  constructor
  · rw [Files.has, ht]
    rfl
  · exact (Pack.decode_eq_ok.mp hdecode).distinct

/-- Entries of a pack that are intact are put in with their data. -/
theorem foldlM_put_dataOf {ss : List StoredEntry}
    (intact : List.Forall₂ (fun s e => s.path = e.path ∧ Pack.dataOf s = .ok e.data) ss entries)
    (before : List Entry) :
    ss.foldlM (fun entries s => do Entry.put entries s.path (← Pack.dataOf s)) before =
      entries.foldlM (fun entries e => Entry.put entries e.path e.data) before := by
  induction intact generalizing before with
  | nil => rfl
  | cons hs _ ih =>
    obtain ⟨hpath, hdata⟩ := hs
    rw [List.foldlM_cons, List.foldlM_cons, hdata, hpath]
    exact congrArg _ (funext ih)

/-- Opening puts the entries of the pack in, one after the other. -/
theorem openFile_eq (opened : readPack files path = .ok p) (gives : p.Gives entries)
    (config : PackConfig) : openFile files path config =
      ofEntries files path config <$>
        entries.foldlM (fun entries e => Entry.put entries e.path e.data) [] := by
  obtain ⟨hhas, hdistinct⟩ := readPack_eq_ok opened
  rw [openFile, if_pos hhas, opened, ← foldlM_put_dataOf (gives.forall₂ hdistinct)]
  rfl

/-- **A pack whose paths are valid is opened with its entries.** -/
theorem openFile_of_valid (opened : readPack files path = .ok p) (gives : p.Gives entries)
    (valid : ∀ e ∈ entries, Entry.isValidPath e.path = true) (config : PackConfig) :
    openFile files path config = .ok (ofEntries files path config entries) := by
  have hdistinct : (Entry.paths ([] ++ entries)).Nodup := by
    rw [List.nil_append, ← gives.paths]
    exact (readPack_eq_ok opened).2
  rw [openFile_eq opened gives, Entry.foldlM_put_of_valid valid,
    Entry.insertAll_of_nodup hdistinct]
  rfl

/-- **Other packs are refused**, with the first path that is not valid. -/
theorem openFile_of_invalid {front back : List Entry} {e : Entry}
    (opened : readPack files path = .ok p) (gives : p.Gives (front ++ e :: back))
    (valid : ∀ f ∈ front, Entry.isValidPath f.path = true)
    (invalid : Entry.isValidPath e.path = false) (config : PackConfig) :
    openFile files path config = .error (.invalidPath e.path) := by
  rw [openFile_eq opened gives, Entry.foldlM_put_of_invalid valid invalid]
  rfl

/-- **A pack that can be read as a whole can be added to exactly if its paths are valid.** -/
theorem exists_openFile_iff (opened : readPack files path = .ok p)
    (readable : ∀ path ∈ p.paths, ∃ data, p.read path = .ok (some data)) (config : PackConfig) :
    (∃ a, openFile files path config = .ok a) ↔
      ∀ path ∈ p.paths, Entry.isValidPath path = true := by
  obtain ⟨entries, gives⟩ := Pack.exists_gives readable
  rw [gives.paths, Entry.paths, List.forall_mem_map]
  constructor
  · rintro ⟨a, ha⟩
    cases hfirst : entries.find? fun e => !Entry.isValidPath e.path with
    | none =>
      intro e he
      simpa using List.find?_eq_none.mp hfirst e he
    | some e =>
      -- The first path that is not valid would have been refused.
      obtain ⟨hinvalid, front, back, rfl, hvalid⟩ := List.find?_eq_some_iff_append.mp hfirst
      rw [openFile_of_invalid opened gives (fun f hf => by simpa using hvalid f hf)
        (by simpa using hinvalid) config] at ha
      cases ha
  · intro hvalid
    exact ⟨_, openFile_of_valid opened gives hvalid config⟩

end PackArchive

/-! ## Adding -/

/-- The archive after requests. -/
def Archive.after {σ : Type} [Archive σ] (a : σ) (requests : List ArchiveRequest) : σ :=
  requests.foldl (fun a q => (reply a q).2) a

namespace PackArchive

variable {new a c : PackArchive} {taken entries : List Entry}

/-- Before closing, a request changes what an archive has taken by the entry that it writes. -/
theorem HasTaken.reply (h : HasTaken new a taken) {q : ArchiveRequest}
    (opened : q.isClose = false) :
    HasTaken new (Archive.reply a q).2 (taken ++ History.taken [q]) := by
  cases q with
  | write path data =>
    rw [History.taken_singleton_write]
    by_cases hvalid : Entry.isValidPath path = true
    · obtain ⟨b, hb, -⟩ := h.isPending.write hvalid data
      have hwrite : Archive.write a path data = .ok b := hb
      rw [if_pos hvalid, Archive.reply, hwrite]
      exact h.write hb
    · have hrefused : Archive.write a path data = .error (.invalidPath path) :=
        h.isPending.write_invalid ((Bool.not_eq_true _).mp hvalid) data
      rw [if_neg hvalid, Archive.reply, hrefused, List.append_nil]
      exact h
  | read path => exact (List.append_nil taken).symm ▸ h
  | has path => exact (List.append_nil taken).symm ▸ h
  | list pattern => exact (List.append_nil taken).symm ▸ h
  | close => cases opened

/-- **Before closing, an archive takes what is written under valid paths**, one after the other. -/
theorem HasTaken.after (h : HasTaken new a taken) {requests : List ArchiveRequest}
    (opened : History.isClosed requests = false) :
    HasTaken new (Archive.after a requests) (taken ++ History.taken requests) := by
  induction requests generalizing a taken with
  | nil => exact (List.append_nil taken).symm ▸ h
  | cons q requests ih =>
    rw [History.isClosed, List.any_cons, Bool.or_eq_false_iff] at opened
    obtain ⟨hfirst, hrest⟩ := opened
    have hsingle : History.isClosed [q] = false := by
      rw [History.isClosed, List.any_cons, hfirst]
      rfl
    have hsplit := History.taken_append_of_open hsingle requests
    rw [List.singleton_append] at hsplit
    rw [hsplit, ← List.append_assoc]
    exact ih (h.reply hfirst) hrest

omit [Codec] in
/-- An archive that was opened with entries has taken them. -/
theorem hasTaken_ofEntries (files : Files) (path : String) (config : PackConfig)
    (distinct : (Entry.paths entries).Nodup) :
    HasTaken (ofEntries files path config entries) (ofEntries files path config entries)
      entries := by
  have hentries : Entry.insertAll [] entries = entries := Entry.insertAll_of_nodup distinct
  exact ⟨congrArg some hentries.symm, rfl, rfl⟩

/-! ## Closing -/

/-- **The file holds what was taken**: the paths in the order in which they came first, and under
each path what came last. -/
theorem HasTaken.close (h : HasTaken new a taken) (lossless : Codec.IsLossless ‹Codec›)
    (fits : ∀ e ∈ taken, (Bytes.ofText e.path).FitsMemory ∧ e.data.FitsMemory)
    (closed : a.close = (.ok (), c)) : ∃ p, readPack c.files c.path = .ok p ∧
      p.paths = (Entry.paths taken).eraseDups ∧
        ∀ path, p.read path = .ok (Entry.get? taken.reverse path) := by
  obtain ⟨-, bs, p, hencode, hdecode, -, hopened⟩ := close_eq_ok h.pending closed
  obtain ⟨hpaths, hread⟩ := Pack.read_encode lossless (Entry.nodup_paths_insertAll taken)
    (fun e he => fits e (Entry.mem_insertAll he)) hencode hdecode
  refine ⟨p, hopened, hpaths.trans (Entry.paths_insertAll taken), fun path => ?_⟩
  rw [hread, Entry.get?_insertAll]

end PackArchive

/-! ## Packs that are opened, added to and closed -/

/-- A pack of entries to which others were added: the paths that were there stay in their places,
and the new ones come after them, in the order in which each came first. Under each path is what
was added last, or else what was there. -/
structure Pack.IsAddedTo (p : Pack) (entries added : List Entry) : Prop where
  paths : p.paths = Entry.paths entries ++
    ((Entry.paths added).removeAll (Entry.paths entries)).eraseDups
  read (path : String) :
    p.read path = .ok ((Entry.get? added.reverse path).or (Entry.get? entries path))

/-- Entries that others come after are added to, if no path comes twice among them. -/
theorem Pack.isAddedTo_of_append {p : Pack} {entries added : List Entry}
    (distinct : (Entry.paths entries).Nodup)
    (paths : p.paths = (Entry.paths (entries ++ added)).eraseDups)
    (read : ∀ path, p.read path = .ok (Entry.get? (entries ++ added).reverse path)) :
    p.IsAddedTo entries added := by
  have hentries : Entry.insertAll [] entries = entries := Entry.insertAll_of_nodup distinct
  constructor
  · have hfirst : (Entry.paths entries).eraseDups = Entry.paths entries := by
      rw [← Entry.paths_insertAll, hentries]
    rw [paths, Entry.paths, List.map_append, List.eraseDups_append]
    exact congrArg (· ++ _) hfirst
  · intro path
    have hlast : Entry.get? entries.reverse path = Entry.get? entries path := by
      rw [← Entry.get?_insertAll, hentries]
    rw [read, List.reverse_append, ← hlast, Entry.get?, List.find?_append, Option.map_or]
    rfl

/-- What is written until closing is added to the entries with which an archive was opened. -/
theorem PackArchive.exists_isAddedTo (lossless : Codec.IsLossless ‹Codec›) {files : Files}
    {path : String} {config : PackConfig} {entries : List Entry} {requests : List ArchiveRequest}
    {c : PackArchive} (distinct : (Entry.paths entries).Nodup)
    (opened : History.isClosed requests = false)
    (fits : ∀ e ∈ entries ++ History.taken requests,
      (Bytes.ofText e.path).FitsMemory ∧ e.data.FitsMemory)
    (closed : (Archive.after (ofEntries files path config entries) requests).close = (.ok (), c)) :
    ∃ q, readPack c.files path = .ok q ∧ q.IsAddedTo entries (History.taken requests) := by
  have htaken := (hasTaken_ofEntries files path config distinct).after opened
  obtain ⟨q, hq, hpaths, hread⟩ := htaken.close lossless fits closed
  have hpath : c.path = path := by
    have hkept := path_close (Archive.after (ofEntries files path config entries) requests)
    rw [closed] at hkept
    exact hkept.trans htaken.path
  rw [hpath] at hq
  exact ⟨q, hq, Pack.isAddedTo_of_append distinct hpaths hread⟩

/-- **Adding to a pack file.** A pack whose entries can all be read is opened with just these, in
their order, if all paths are valid; if not, the first that is not valid is refused. What is written
until closing, whatever else is asked, is added: closing succeeds if the file can be saved, and the
file then holds the entries that were there with all that was added to them. The codec has to be
lossless, and there may be fewer than 2³² paths. -/
theorem openFile_of_gives (lossless : Codec.IsLossless ‹Codec›) {files : Files} {path : String}
    {p : Pack} {entries : List Entry} (opened : PackArchive.readPack files path = .ok p)
    (gives : p.Gives entries) (config : PackConfig) :
    (∀ front e back, entries = front ++ e :: back →
      (∀ f ∈ front, Entry.isValidPath f.path = true) → Entry.isValidPath e.path = false →
        PackArchive.openFile files path config = .error (.invalidPath e.path)) ∧
    ((∀ e ∈ entries, Entry.isValidPath e.path = true) →
      ∃ a, PackArchive.openFile files path config = .ok a ∧ a.paths? = some (Entry.paths entries) ∧
        Archive.Holds a (Entry.get? entries) ∧
        ∀ requests, History.isClosed requests = false →
          (∀ e ∈ entries ++ History.taken requests,
            (Bytes.ofText e.path).FitsMemory ∧ e.data.FitsMemory) →
          (Entry.paths (entries ++ History.taken requests)).eraseDups.length < 0x100000000 →
          ((∀ bs, ∃ saved, PackArchive.save files path bs = .ok saved) →
            ∃ c, Archive.close (Archive.after a requests) = (.ok (), c)) ∧
          ∀ c, Archive.close (Archive.after a requests) = (.ok (), c) →
            ∃ q, PackArchive.readPack c.files path = .ok q ∧
              q.IsAddedTo entries (History.taken requests)) := by
  have hdistinct : (Entry.paths entries).Nodup := by
    rw [← gives.paths]
    exact (PackArchive.readPack_eq_ok opened).2
  constructor
  · rintro front e back rfl valid invalid
    exact PackArchive.openFile_of_invalid opened gives valid invalid config
  · intro valid
    have hpending : (PackArchive.ofEntries files path config entries).IsPending
        (Entry.get? entries) := ⟨entries, rfl, hdistinct, rfl⟩
    refine ⟨_, PackArchive.openFile_of_valid opened gives valid config, rfl, hpending.holds, ?_⟩
    intro requests before fits count
    constructor
    · intro saves
      have htaken := (PackArchive.hasTaken_ofEntries files path config hdistinct).after before
      exact htaken.exists_close lossless fits count saves
    · intro c closed
      exact PackArchive.exists_isAddedTo lossless hdistinct before fits closed

end

/-- There is a file with a pack of any entries that fit, of which no two have one path. -/
theorem PackArchive.exists_readPack {entries : List Entry} (distinct : (Entry.paths entries).Nodup)
    (fits : ∀ e ∈ entries, (Bytes.ofText e.path).FitsMemory ∧ e.data.FitsMemory)
    (count : entries.length < 0x100000000) : ∃ (files : Files) (p : Pack),
      readPack files "p" = .ok p ∧ p.Gives entries ∧
        ∀ bs, ∃ saved, save files "p" bs = .ok saved := by
  obtain ⟨bs, hencode⟩ :=
    Pack.exists_encode 3 Codec.isLossless_standard fun e he => (fits e he).2
  obtain ⟨p, hdecode⟩ := Pack.exists_decode_encode count
    (fun e he => Entry.fits Codec.isLossless_standard (fits e he).1 (fits e he).2) distinct hencode
  obtain ⟨hpaths, hread⟩ := Pack.read_encode Codec.isLossless_standard distinct fits hencode hdecode
  obtain ⟨files, hsave, hagain⟩ : ∃ files, save (.empty []) "p" bs = .ok files ∧
      ∀ bs, ∃ saved, save files "p" bs = .ok saved := ⟨_, rfl, fun _ => ⟨_, rfl⟩⟩
  refine ⟨files, p, ?_, ⟨hpaths, fun e he => ?_⟩, hagain⟩
  · rw [readPack, orUnreadable, read?_save hsave]
    exact hdecode
  · rw [hread, Entry.get?_of_mem distinct he]

/-- Data that is replaced in its place, a path that is refused, and data that is new. -/
theorem openFile_of_gives_replaced : ∃ (files : Files) (a c : PackArchive) (q : Pack),
    PackArchive.openFile files "p" .standard = .ok a ∧ a.paths? = some ["a", "b/c"] ∧
      Archive.close (Archive.after a [.write "d" [4], .write "/e" [5], .write "a" [3]]) =
        (.ok (), c) ∧
      PackArchive.readPack c.files "p" = .ok q ∧ q.paths = ["a", "b/c", "d"] ∧
        q.read "a" = .ok (some [3]) ∧ q.read "b/c" = .ok (some []) := by
  have htaken : History.taken [.write "d" [4], .write "/e" [5], .write "a" [3]] =
      [⟨"d", [4]⟩, ⟨"a", [3]⟩] := by
    decide +kernel
  have hfits : ∀ e ∈ [⟨"a", [1]⟩, ⟨"b/c", []⟩] ++ [(⟨"d", [4]⟩ : Entry), ⟨"a", [3]⟩],
      (Bytes.ofText e.path).FitsMemory ∧ e.data.FitsMemory := by
    simp only [List.cons_append, List.nil_append, List.mem_cons, List.not_mem_nil, or_false,
      Bytes.FitsMemory, Bytes.ofText_eq]
    rintro e (rfl | rfl | rfl | rfl) <;> decide +kernel
  have hdistinct : (Entry.paths [⟨"a", [1]⟩, ⟨"b/c", []⟩]).Nodup := by decide
  obtain ⟨files, p, opened, gives, saves⟩ := PackArchive.exists_readPack hdistinct
    (fun e he => hfits e (List.mem_append_left _ he)) (by decide)
  obtain ⟨a, ha, hpaths, -, hadds⟩ :=
    (openFile_of_gives Codec.isLossless_standard opened gives .standard).2 (by decide)
  obtain ⟨hcloses, hadded⟩ := hadds [.write "d" [4], .write "/e" [5], .write "a" [3]] rfl
    (by rw [htaken]; exact hfits) (by rw [htaken]; decide +kernel)
  obtain ⟨c, hc⟩ := hcloses saves
  obtain ⟨q, hq, hqpaths, hqread⟩ := hadded c hc
  rw [htaken] at hqpaths hqread
  refine ⟨files, a, c, q, ha, hpaths, hc, hq, ?_, ?_, ?_⟩
  · rw [hqpaths]
    decide +kernel
  · rw [hqread]
    decide +kernel
  · rw [hqread]
    decide +kernel

/-- A pack with a path that starts at the top is read, but cannot be added to. -/
theorem not_openFile_of_gives : ¬ ∀ (files : Files) (path : String) (config : PackConfig) (p : Pack)
    (entries : List Entry), PackArchive.readPack files path = .ok p → p.Gives entries →
      ∃ a, PackArchive.openFile files path config = .ok a := by
  intro h
  have hfits : ∀ e ∈ [(⟨"/a", [120]⟩ : Entry)],
      (Bytes.ofText e.path).FitsMemory ∧ e.data.FitsMemory := by
    simp only [List.mem_singleton, Bytes.FitsMemory, Bytes.ofText_eq]
    rintro e rfl
    decide +kernel
  have hdistinct : (Entry.paths [⟨"/a", [120]⟩]).Nodup := by decide
  obtain ⟨files, p, opened, gives, -⟩ := PackArchive.exists_readPack hdistinct hfits (by decide)
  obtain ⟨a, ha⟩ := h files "p" .standard p _ opened gives
  have hsplit : p.Gives ([] ++ ⟨"/a", [120]⟩ :: []) := gives
  have hrefused := PackArchive.openFile_of_invalid opened hsplit (List.forall_mem_nil _)
    (by decide) .standard
  rw [hrefused] at ha
  cases ha

end CollectionArchive
