import CollectionArchive.Pack.Entries
import CollectionArchive.Proofs.Pack.Encoding

/-!
# Entries of packs

* `Entry.get?_insert`, `Entry.nodup_paths_insert`: the entries after data was put under a path.
* **`Pack.read_encode`**: a pack that can be opened again gives all data back as it was.
-/

namespace CollectionArchive

namespace Entry

theorem get?_cons (e : Entry) (entries : List Entry) (path : String) :
    get? (e :: entries) path = if e.path = path then some e.data else get? entries path := by
  by_cases h : e.path = path <;> simp [get?, h]

theorem get?_insert (entries : List Entry) (path : String) (data : Bytes) (other : String) :
    get? (insert entries path data) other =
      if path = other then some data else get? entries other := by
  induction entries with
  | nil => rw [insert, get?_cons]
  | cons e entries ih =>
    rw [insert]
    by_cases he : e.path = path
    · rw [if_pos he, get?_cons, get?_cons, he]
      by_cases ho : path = other
      · rw [if_pos ho, if_pos ho]
      · rw [if_neg ho, if_neg ho, if_neg ho]
    · rw [if_neg he, get?_cons, get?_cons, ih]
      by_cases ho : e.path = other
      · rw [if_pos ho, if_pos ho, if_neg (fun h => he (ho.trans h.symm))]
      · rw [if_neg ho, if_neg ho]

theorem mem_paths_insert {entries : List Entry} {path : String} {data : Bytes} {other : String}
    (h : other ∈ paths (insert entries path data)) : other = path ∨ other ∈ paths entries := by
  induction entries with
  | nil => exact .inl (List.mem_singleton.mp h)
  | cons e entries ih =>
    rw [insert] at h
    by_cases he : e.path = path
    · rw [if_pos he] at h
      rcases List.mem_cons.mp h with rfl | h
      · exact .inl rfl
      · exact .inr (List.mem_cons_of_mem _ h)
    · rw [if_neg he] at h
      rcases List.mem_cons.mp h with rfl | h
      · exact .inr List.mem_cons_self
      · exact (ih h).imp_right (List.mem_cons_of_mem _)

theorem nodup_paths_insert {entries : List Entry} (h : (paths entries).Nodup) (path : String)
    (data : Bytes) : (paths (insert entries path data)).Nodup := by
  induction entries with
  | nil => exact List.nodup_cons.mpr ⟨List.not_mem_nil, .nil⟩
  | cons e entries ih =>
    obtain ⟨he, hrest⟩ := List.nodup_cons.mp h
    rw [insert]
    by_cases hp : e.path = path
    · rw [if_pos hp]
      exact List.nodup_cons.mpr ⟨hp ▸ he, hrest⟩
    · rw [if_neg hp]
      refine List.nodup_cons.mpr ⟨fun hm => ?_, ih hrest⟩
      rcases mem_paths_insert hm with hm | hm
      · exact hp hm
      · exact he hm

theorem mem_paths {entries : List Entry} {path : String} :
    path ∈ paths entries ↔ (get? entries path).isSome = true := by
  induction entries with
  | nil => simp [paths, get?]
  | cons e entries ih =>
    rw [get?_cons, paths, List.map_cons, List.mem_cons, ← paths, ih]
    by_cases h : e.path = path
    · simp [h]
    · simp [h, Ne.symm h]

theorem get?_of_mem {entries : List Entry} (h : (paths entries).Nodup) {e : Entry}
    (he : e ∈ entries) : get? entries e.path = some e.data := by
  induction entries with
  | nil => cases he
  | cons f entries ih =>
    obtain ⟨hf, hrest⟩ := List.nodup_cons.mp h
    rw [get?_cons]
    rcases List.mem_cons.mp he with rfl | he
    · rw [if_pos rfl]
    · rw [if_neg, ih hrest he]
      exact fun heq => hf (List.mem_map.mpr ⟨e, he, heq.symm⟩)

theorem mem_of_get? {entries : List Entry} {path : String} {data : Bytes}
    (h : get? entries path = some data) : ⟨path, data⟩ ∈ entries := by
  obtain ⟨e, he, rfl⟩ := Option.map_eq_some_iff.mp h
  obtain rfl : e.path = path := by simpa using List.find?_some he
  exact List.mem_of_find?_eq_some he

theorem put_of_valid {path : String} (h : isValidPath path = true) (entries : List Entry)
    (data : Bytes) : put entries path data = .ok (insert entries path data) := by
  simp only [put, checkPath, h, if_true, bind, Except.bind, pure, Except.pure]

theorem put_of_invalid {path : String} (h : isValidPath path = false) (entries : List Entry)
    (data : Bytes) : put entries path data = .error (.invalidPath path) := by
  simp only [put, checkPath, h, Bool.false_eq_true, if_false, bind, Except.bind]

end Entry

variable [Codec]

/-- Entries that are held in memory are written with sizes of 64 bits. -/
theorem Entry.fits {level : Int} (lossless : Codec.IsLossless ‹Codec›) {e : Entry}
    (hpath : (Bytes.ofText e.path).FitsMemory) (hdata : e.data.FitsMemory) : e.Fits level where
  path := Nat.lt_trans hpath (by decide)
  data := Nat.lt_trans hdata (by decide)
  stored stored h := by
    obtain ⟨_, hcompress, hfits, _⟩ := lossless level e.data hdata
    rw [hcompress] at h
    exact Option.some.inj h ▸ hfits

namespace Pack

theorem dataOf_eq {level : Int} (lossless : Codec.IsLossless ‹Codec›) {s : StoredEntry} {e : Entry}
    (h : s.Holds level e) (hdata : e.data.FitsMemory) : dataOf s = .ok e.data := by
  obtain ⟨stored, hcompress, _, hdecompress⟩ := lossless level e.data hdata
  obtain rfl : s.stored = stored := Option.some.inj (h.stored.symm.trans hcompress)
  rw [dataOf, h.crc, if_neg (not_not_intro rfl), hdecompress, h.size]
  simp only [ne_eq, not_true_eq_false, if_false]

theorem map_path_eq {level : Int} {ss : List StoredEntry} {entries : List Entry}
    (h : List.Forall₂ (StoredEntry.Holds level) ss entries) :
    ss.map StoredEntry.path = Entry.paths entries := by
  induction h with
  | nil => rfl
  | cons hs _ ih => rw [List.map_cons, hs.path, ih, Entry.paths, Entry.paths, List.map_cons]

/-- A path leads to a stored entry where it leads to the entry for which that was written. -/
theorem find?_holds {level : Int} {ss : List StoredEntry} {entries : List Entry}
    (h : List.Forall₂ (StoredEntry.Holds level) ss entries) (path : String) :
    (ss.find? (fun s => s.path == path) = none ∧ Entry.get? entries path = none) ∨
      ∃ s, ss.find? (fun s => s.path == path) = some s ∧
        ∃ e ∈ entries, s.Holds level e ∧ Entry.get? entries path = some e.data := by
  induction h with
  | nil => exact .inl ⟨rfl, rfl⟩
  | @cons s e ss es hs _ ih =>
    rw [List.find?_cons, Entry.get?_cons, ← hs.path]
    by_cases hpath : s.path = path
    · rw [if_pos hpath, beq_iff_eq.mpr hpath]
      exact .inr ⟨s, rfl, e, List.mem_cons_self, hs, rfl⟩
    · rw [if_neg hpath, beq_eq_false_iff_ne.mpr hpath]
      rcases ih with hnone | ⟨t, ht, f, hf, hfound⟩
      · exact .inl hnone
      · exact .inr ⟨t, ht, f, List.mem_cons_of_mem _ hf, hfound⟩

theorem read_eq {level : Int} (lossless : Codec.IsLossless ‹Codec›) {p : Pack}
    {entries : List Entry} (h : List.Forall₂ (StoredEntry.Holds level) p.entries entries)
    (hdata : ∀ e ∈ entries, e.data.FitsMemory) (path : String) :
    p.read path = .ok (Entry.get? entries path) := by
  rw [read, find?]
  rcases find?_holds h path with ⟨hs, he⟩ | ⟨s, hs, e, he, hholds, hfound⟩
  · rw [hs, he]
  · rw [hs, hfound]
    show some <$> dataOf s = .ok (some e.data)
    rw [dataOf_eq lossless hholds (hdata e he)]
    rfl

/-- **A pack that can be opened again gives all data back as it was**, in the order of writing. -/
theorem read_encode {level : Int} (lossless : Codec.IsLossless ‹Codec›) {entries : List Entry}
    {bs : Bytes} {p : Pack} (hpaths : (Entry.paths entries).Nodup)
    (hfits : ∀ e ∈ entries, (Bytes.ofText e.path).FitsMemory ∧ e.data.FitsMemory)
    (hencode : encode level entries = .ok bs) (hdecode : decode bs = .ok p) :
    p.paths = Entry.paths entries ∧ ∀ path, p.read path = .ok (Entry.get? entries path) := by
  have hall := decode_encode (fun e he => Entry.fits lossless (hfits e he).1 (hfits e he).2) hpaths
    hencode hdecode
  exact ⟨map_path_eq hall, read_eq lossless hall fun e he => (hfits e he).2⟩

theorem exists_encode (level : Int) (lossless : Codec.IsLossless ‹Codec›) {entries : List Entry}
    (hdata : ∀ e ∈ entries, e.data.FitsMemory) : ∃ bs, encode level entries = .ok bs := by
  suffices ∃ parts, List.Forall₂ (fun e part => encodeEntry level e = .ok part) entries parts by
    obtain ⟨parts, hparts⟩ := this
    exact ⟨_, encode_eq_ok.mpr ⟨parts, Outcome.mapM_eq_ok.mpr hparts, rfl⟩⟩
  induction entries with
  | nil => exact ⟨[], .nil⟩
  | cons e entries ih =>
    obtain ⟨parts, hparts⟩ := ih fun f hf => hdata f (List.mem_cons_of_mem _ hf)
    obtain ⟨stored, hstored, _⟩ := lossless level e.data (hdata e List.mem_cons_self)
    refine ⟨encodeStored e.path e.data.length stored :: parts, .cons ?_ hparts⟩
    rw [encodeEntry, hstored]
    rfl

end Pack

end CollectionArchive
