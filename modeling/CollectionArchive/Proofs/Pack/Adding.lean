import CollectionArchive.Pack.Standard
import CollectionArchive.Proofs.Pack.Entries
import CollectionArchive.Proofs.Zstd.Plain
import Mathlib.Data.List.Induction

/-!
# Packs of entries that were added

Entries are added one after the other. One that is refused changes nothing, and one whose path is
there already replaces the data in its place.

* `Entry.putAll`: the entries that were taken, and what there is after them.
* `Entry.paths_insertAll`, `Entry.get?_insertAll`: the paths are those that were taken, in the order
  in which they came first; the data is what came last.
* **`decode_encode_putAll`**: a pack of fewer than 2³² entries that were added is read back with
  their paths and their data.
-/

namespace CollectionArchive

namespace Entry

/-- Adds entries to others, one after the other: those that were taken, in their order, and what
there is afterwards. An entry that is refused changes nothing. -/
def putAll (entries : List Entry) : List Entry → List Entry × List Entry
  | [] => ([], entries)
  | e :: adds =>
    match put entries e.path e.data with
    | .error _ => putAll entries adds
    | .ok entries => (e :: (putAll entries adds).1, (putAll entries adds).2)

/-- The entries with others put in, whose paths are valid. -/
def insertAll (entries taken : List Entry) : List Entry :=
  taken.foldl (fun entries e => insert entries e.path e.data) entries

theorem insertAll_concat (entries taken : List Entry) (e : Entry) :
    insertAll entries (taken ++ [e]) = insert (insertAll entries taken) e.path e.data := by
  unfold insertAll
  rw [List.foldl_append, List.foldl_cons, List.foldl_nil]

/-- What there is after adding is what the entries that were taken make. -/
theorem putAll_snd (entries adds : List Entry) :
    (putAll entries adds).2 = insertAll entries (putAll entries adds).1 := by
  induction adds generalizing entries with
  | nil => rfl
  | cons e adds ih =>
    rw [putAll]
    by_cases hpath : isValidPath e.path = true
    · simp only [put_of_valid hpath]
      exact ih _
    · simp only [put_of_invalid ((Bool.not_eq_true _).mp hpath)]
      exact ih _

/-! ## Paths and data -/

theorem paths_insert (entries : List Entry) (path : String) (data : Bytes) :
    paths (insert entries path data) =
      if path ∈ paths entries then paths entries else paths entries ++ [path] := by
  induction entries with
  | nil => simp [insert, paths]
  | cons e entries ih =>
    have hcons : paths (e :: entries) = e.path :: paths entries := rfl
    rw [insert]
    by_cases he : e.path = path
    · subst he
      simp [paths]
    · have hne : ¬ path = e.path := fun h => he h.symm
      have hskip : paths (e :: insert entries path data) =
          e.path :: paths (insert entries path data) := rfl
      rw [if_neg he, hskip, ih, hcons]
      by_cases hmem : path ∈ paths entries <;> simp [hmem, hne]

theorem eraseDups_concat (l : List String) (a : String) :
    (l ++ [a]).eraseDups = if a ∈ l then l.eraseDups else l.eraseDups ++ [a] := by
  rw [List.eraseDups_append]
  by_cases h : a ∈ l <;> simp [h, List.removeAll, List.eraseDups_cons]

/-- The paths are those that were taken, in the order in which they came first. -/
theorem paths_insertAll (taken : List Entry) :
    paths (insertAll [] taken) = (paths taken).eraseDups := by
  induction taken using List.reverseRecOn with
  | nil => rfl
  | append_singleton taken e ih =>
    have hconcat : paths (taken ++ [e]) = paths taken ++ [e.path] := by simp [paths]
    rw [insertAll_concat, paths_insert, hconcat, eraseDups_concat, ih]
    simp only [List.mem_eraseDups]

/-- The data under a path is what was taken last for it. -/
theorem get?_insertAll (taken : List Entry) (path : String) :
    get? (insertAll [] taken) path = get? taken.reverse path := by
  induction taken using List.reverseRecOn with
  | nil => rfl
  | append_singleton taken e ih =>
    rw [insertAll_concat, get?_insert, List.reverse_append, List.reverse_singleton,
      List.singleton_append, get?_cons, ih]

theorem nodup_paths_insertAll (taken : List Entry) : (paths (insertAll [] taken)).Nodup := by
  induction taken using List.reverseRecOn with
  | nil => exact .nil
  | append_singleton taken e ih =>
    rw [insertAll_concat]
    exact nodup_paths_insert ih e.path e.data

theorem mem_insert {entries : List Entry} {path : String} {data : Bytes} {e : Entry}
    (h : e ∈ insert entries path data) : e = ⟨path, data⟩ ∨ e ∈ entries := by
  induction entries with
  | nil => exact .inl (List.mem_singleton.mp h)
  | cons f entries ih =>
    rw [insert] at h
    split at h
    · rcases List.mem_cons.mp h with rfl | h
      · exact .inl rfl
      · exact .inr (List.mem_cons_of_mem _ h)
    · rcases List.mem_cons.mp h with rfl | h
      · exact .inr List.mem_cons_self
      · exact (ih h).imp_right (List.mem_cons_of_mem _)

theorem mem_insertAll {taken : List Entry} {e : Entry} (h : e ∈ insertAll [] taken) :
    e ∈ taken := by
  induction taken using List.reverseRecOn with
  | nil => exact h
  | append_singleton taken f ih =>
    rw [insertAll_concat] at h
    rcases mem_insert h with rfl | h
    · exact List.mem_append_right _ List.mem_cons_self
    · exact List.mem_append_left _ (ih h)

end Entry

/-! ## Packs -/

/-- **What was added to a pack is read back from its bytes.** The pack of what was taken, of fewer
than 2³² paths, can be opened. It has the paths in the order in which they came first, each once,
and under each path the data that came last; its check value is the hash of all that is before
it. -/
theorem decode_encode_putAll [Codec] (lossless : Codec.IsLossless ‹Codec›)
    {adds taken entries : List Entry} (added : Entry.putAll [] adds = (taken, entries))
    (count : (Entry.paths taken).eraseDups.length < 0x100000000)
    (fits : ∀ e ∈ taken, (Bytes.ofText e.path).FitsMemory ∧ e.data.FitsMemory) (level : Int) :
    ∃ (body : Bytes) (p : Pack), Pack.encode level entries = .ok (Pack.withHash body) ∧
      Pack.decode (Pack.withHash body) = .ok p ∧ p.checksum = Codec.hash body ∧
      p.paths = (Entry.paths taken).eraseDups ∧ p.paths.Nodup ∧
      p.entries.length = (Entry.paths taken).eraseDups.length ∧
      ∀ path, p.read path = .ok (Entry.get? taken.reverse path) := by
  obtain rfl : entries = Entry.insertAll [] taken := by
    have := Entry.putAll_snd [] adds
    rwa [added] at this
  have hfits : ∀ e ∈ Entry.insertAll [] taken,
      (Bytes.ofText e.path).FitsMemory ∧ e.data.FitsMemory :=
    fun e he => fits e (Entry.mem_insertAll he)
  have hnodup := Entry.nodup_paths_insertAll taken
  have hpaths := Entry.paths_insertAll taken
  have hcount : (Entry.insertAll [] taken).length < 0x100000000 := by
    rw [← hpaths, Entry.paths, List.length_map] at count
    exact count
  obtain ⟨bs, hencode⟩ := Pack.exists_encode level lossless fun e he => (hfits e he).2
  obtain ⟨p, hdecode⟩ := Pack.exists_decode_encode hcount
    (fun e he => Entry.fits lossless (hfits e he).1 (hfits e he).2) hnodup hencode
  obtain ⟨hread, hdata⟩ := Pack.read_encode lossless hnodup hfits hencode hdecode
  obtain ⟨parts, _, rfl⟩ := Pack.encode_eq_ok.mp hencode
  have hchecksum : p.checksum =
      Codec.hash (Pack.header (Entry.insertAll [] taken).length ++ parts.flatten) := by
    rw [Pack.decode_withHash] at hdecode
    obtain ⟨_, _, rfl⟩ := Outcome.map_eq_ok.mp hdecode
    rfl
  refine ⟨_, p, hencode, hdecode, hchecksum, hread.trans hpaths, hread ▸ hnodup, ?_, fun path => ?_⟩
  · rw [← hpaths, ← hread, Pack.paths, List.length_map]
  · rw [hdata, Entry.get?_insertAll]

/-- A path that is refused, data that is replaced, and data that is empty. -/
theorem decode_encode_putAll_replaced : ∃ (body : Bytes) (p : Pack),
    Pack.decode (Pack.withHash body) = .ok p ∧ p.checksum = Codec.hash body ∧
      p.paths = ["a", "b/c"] ∧ p.read "a" = .ok (some [3]) ∧ p.read "b/c" = .ok (some []) ∧
        p.read "/d" = .ok none := by
  have hadded : Entry.putAll [] [⟨"a", [1]⟩, ⟨"b/c", []⟩, ⟨"/d", [2]⟩, ⟨"a", [3]⟩] =
      ([⟨"a", [1]⟩, ⟨"b/c", []⟩, ⟨"a", [3]⟩], [⟨"a", [3]⟩, ⟨"b/c", []⟩]) := by
    decide +kernel
  have hfits : ∀ e ∈ [(⟨"a", [1]⟩ : Entry), ⟨"b/c", []⟩, ⟨"a", [3]⟩],
      (Bytes.ofText e.path).FitsMemory ∧ e.data.FitsMemory := by
    simp only [List.mem_cons, List.not_mem_nil, or_false, Bytes.FitsMemory, Bytes.ofText_eq]
    rintro e (rfl | rfl | rfl) <;> decide +kernel
  obtain ⟨body, p, _, hdecode, hchecksum, hpaths, _, _, hread⟩ :=
    decode_encode_putAll Codec.isLossless_standard hadded (by decide +kernel) hfits 3
  refine ⟨body, p, hdecode, hchecksum, ?_, ?_, ?_, ?_⟩
  · rw [hpaths]
    decide +kernel
  all_goals
    rw [hread]
    decide +kernel

end CollectionArchive
