import CollectionArchive.Proofs.Archive.Laws
import CollectionArchive.Proofs.Pack.Layout

/-!
# What archives refuse

An archive that is closed takes no data, and one that is open takes data under valid paths. Closing
can fail in many ways, and ends writing also then.

* `Archive.Puts`: the archive holds one entry more, or another in its place.
* `GuardedArchive`: what archives refuse. Archives in memory and in pack files both obey, whatever
  their codec does and whether or not their files can be written.
* `GuardedArchive.exists_write_iff`: when an archive takes data.
-/

namespace CollectionArchive

namespace Archive

variable {σ : Type} [Archive σ]

/-- What the second archive holds is what the first does, with data under a path in place of what
was there. -/
def Puts (a : σ) (path : String) (data : Bytes) (b : σ) : Prop :=
  ∀ f, Holds a f → Holds b (f.write path data)

/-- Answers tell what an archive holds. -/
theorem Holds.unique {a : σ} {f g : Contents} (hf : Holds a f) (hg : Holds a g) : f = g := by
  funext path
  have h : Entry.orMissing path (f path) = Entry.orMissing path (g path) :=
    (hf.read path).symm.trans (hg.read path)
  cases hfp : f path with
  | none =>
    cases hgp : g path with
    | none => rfl
    | some data => rw [hfp, hgp] at h; cases h
  | some data =>
    cases hgp : g path with
    | none => rw [hfp, hgp] at h; cases h
    | some other => rw [hfp, hgp] at h; cases h; rfl

/-- An archive that is read through entries holds what they hold. -/
theorem Holds.puts {a b : σ} {f : Contents} {path : String} {data : Bytes} (ha : Holds a f)
    (hb : Holds b (f.write path data)) : Puts a path data b := by
  intro g hg
  rwa [← ha.unique hg]

end Archive

/-- Archives that refuse data if they are closed, and under paths that are not valid. -/
class GuardedArchive (σ : Type) [Archive σ] where
  isClosed : σ → Bool
  write_open {a : σ} {path : String} (data : Bytes) : isClosed a = false →
    Entry.isValidPath path = true →
      ∃ b, Archive.write a path data = .ok b ∧ Archive.Puts a path data b
  write_invalid {a : σ} {path : String} (data : Bytes) : isClosed a = false →
    Entry.isValidPath path = false → Archive.write a path data = .error (.invalidPath path)
  write_closed {a : σ} (path : String) (data : Bytes) : isClosed a = true →
    Archive.write a path data = .error .closed
  /-- Closing ends writing, however it ends itself. -/
  isClosed_close (a : σ) : isClosed (Archive.close a).2 = true
  /-- What is closed in good order can be listed. -/
  list_close {a b : σ} : Archive.close a = (.ok (), b) → ∃ paths, Archive.list b "**" = .ok paths
  /-- Paths are looked at only when something is written. -/
  close_ne (a : σ) (path : String) : (Archive.close a).1 ≠ .error (.invalidPath path)
  list_ne (a : σ) (pattern path : String) : Archive.list a pattern ≠ .error (.invalidPath path)

namespace GuardedArchive

variable {σ : Type} [Archive σ] [GuardedArchive σ] {a : σ} {path : String}

/-- **An archive takes data exactly if it is open and the path is valid.** -/
theorem exists_write_iff (data : Bytes) : (∃ b, Archive.write a path data = .ok b) ↔
    isClosed a = false ∧ Entry.isValidPath path = true := by
  constructor
  · rintro ⟨b, hb⟩
    cases hclosed : isClosed a with
    | true => rw [write_closed path data hclosed] at hb; cases hb
    | false =>
      cases hpath : Entry.isValidPath path with
      | true => exact ⟨rfl, rfl⟩
      | false => rw [write_invalid data hclosed hpath] at hb; cases hb
  · rintro ⟨hopen, hpath⟩
    obtain ⟨b, hb, _⟩ := write_open data hopen hpath
    exact ⟨b, hb⟩

theorem puts_of_write {b : σ} {data : Bytes} (h : Archive.write a path data = .ok b) :
    Archive.Puts a path data b := by
  obtain ⟨hopen, hpath⟩ := (exists_write_iff data).mp ⟨b, h⟩
  obtain ⟨c, hc, hputs⟩ := write_open data hopen hpath
  obtain rfl := Except.ok.inj (hc.symm.trans h)
  exact hputs

/-- Data under a valid path is not refused for its path. -/
theorem write_ne (valid : Entry.isValidPath path = true) (data : Bytes) (other : String) :
    Archive.write a path data ≠ .error (.invalidPath other) := by
  cases hclosed : isClosed a with
  | true =>
    rw [write_closed path data hclosed]
    nofun
  | false =>
    obtain ⟨b, hb, _⟩ := write_open data hclosed valid
    rw [hb]
    nofun

end GuardedArchive

theorem Entry.matching_ne (paths : List String) (pattern path : String) :
    matching paths pattern ≠ .error (.invalidPath path) := by
  intro h
  rcases Outcome.bind_eq_error.mp h with h | ⟨_, _, h⟩
  · obtain ⟨_, _, h⟩ := Outcome.mapError_eq_error.mp h
    cases h
  · cases h

/-! ## Archives in memory -/

namespace MemoryArchive

theorem isOpen_of_isClosed {a : MemoryArchive} (h : a.isClosed = false) :
    LawfulArchive.IsOpen a a.entries.get? :=
  ⟨h, rfl⟩

theorem isClosed_of_isClosed {a : MemoryArchive} (h : a.isClosed = true) :
    LawfulArchive.IsClosed a a.entries.get? :=
  ⟨h, rfl⟩

instance : GuardedArchive MemoryArchive where
  isClosed := isClosed
  write_open {a path} data hopen hpath := by
    obtain ⟨b, hb, hholds⟩ := LawfulArchive.write_valid data (isOpen_of_isClosed hopen) hpath
    exact ⟨b, hb, a.holds.puts (LawfulArchive.holds_of_isOpen hholds)⟩
  write_invalid data hopen hpath :=
    LawfulArchive.write_invalid data (isOpen_of_isClosed hopen) hpath
  write_closed path data hclosed :=
    LawfulArchive.write_closed path data (isClosed_of_isClosed hclosed)
  isClosed_close a := by
    show a.close.2.isClosed = true
    rw [close]
    split_ifs with hclosed
    · exact hclosed
    · rfl
  list_close {a b} _ := ⟨_, Entry.matching_all b.entries.keys⟩
  close_ne a path := by
    show a.close.1 ≠ _
    rw [close]
    split_ifs <;> nofun
  list_ne a pattern path := Entry.matching_ne a.entries.keys pattern path

end MemoryArchive

/-! ## Archives in pack files -/

namespace PackArchive

variable [Codec]

/-- An archive that is open holds the entries that wait. -/
theorem isPending_of_holds {a : PackArchive} {entries : List Entry} {f : Contents}
    (hentries : a.pending = some entries) (h : Archive.Holds a f) : a.IsPending f := by
  obtain ⟨paths, hnodup, _, hlist⟩ := h.list
  have hall : Text.sort (Entry.paths entries) = Text.sort paths := by
    have hpaths : a.list "**" = Entry.matching (Entry.paths entries) "**" := by
      rw [list, paths?_of_pending hentries]
      rfl
    have hsame : Entry.matching (Entry.paths entries) "**" = Entry.matching paths "**" :=
      hpaths.symm.trans (hlist "**")
    rw [Entry.matching_all, Entry.matching_all] at hsame
    exact Except.ok.inj hsame
  have hperm : (Entry.paths entries).Perm paths :=
    (Text.perm_sort _).symm.trans (hall ▸ Text.perm_sort paths)
  have hpending : a.IsPending (Entry.get? entries) :=
    ⟨entries, hentries, hperm.nodup_iff.mpr hnodup, rfl⟩
  exact hpending.holds.unique h ▸ hpending

theorem list_of_close {a b : PackArchive} (h : a.close = (.ok (), b)) :
    ∃ paths, b.list "**" = .ok paths := by
  cases hentries : a.pending with
  | none =>
    rw [close_of_pending_none hentries] at h
    cases h
  | some entries =>
    obtain ⟨hpending, _, p, _, _, hwritten, _⟩ := close_eq_ok hentries h
    rw [list, paths?_of_written hpending hwritten]
    exact ⟨_, Entry.matching_all p.paths⟩

theorem pending_close (a : PackArchive) : a.close.2.pending = none := by
  rw [close]
  cases hentries : a.pending with
  | none => exact hentries
  | some entries =>
    simp only
    split
    · rfl
    · split <;> rfl

/-- A pack that cannot be opened has no path to blame. -/
theorem decode_ne (bs : Bytes) (path : String) : Pack.decode bs ≠ .error (.invalidPath path) := by
  intro h
  obtain ⟨_, c, _, _, _, _, hreports⟩ := Pack.exists_failing h
  cases c with
  | entries =>
    obtain ⟨_, _, h, _⟩ := hreports
    cases h
  | length | magic | version | checksum => cases hreports

omit [Codec] in
theorem orUnreadable_ne {α : Type} (x : Option α) (path : String) :
    orUnreadable x ≠ .error (.invalidPath path) := by
  cases x <;> nofun

theorem close_ne (a : PackArchive) (path : String) : a.close.1 ≠ .error (.invalidPath path) := by
  intro h
  rw [close] at h
  split at h
  next => cases h
  next entries hentries =>
    simp only at h
    split at h
    next e hsaved =>
      cases h
      rcases Outcome.bind_eq_error.mp hsaved with hencode | ⟨_, _, hsave⟩
      · rcases Outcome.bind_eq_error.mp hencode with hparts | ⟨_, _, h⟩
        · obtain ⟨entry, _, hentry⟩ := Outcome.exists_of_mapM_eq_error hparts
          rw [Pack.encodeEntry] at hentry
          cases hstored : Codec.compress? a.config.compressionLevel entry.data with
          | none => rw [hstored] at hentry; cases hentry
          | some stored => rw [hstored] at hentry; cases hentry
        · cases h
      · rcases Outcome.bind_eq_error.mp hsave with hmade | ⟨_, _, hwritten⟩
        · exact orUnreadable_ne _ path hmade
        · exact orUnreadable_ne _ path hwritten
    next files hsaved =>
      split at h
      next e hread =>
        cases h
        rcases Outcome.bind_eq_error.mp hread with hfile | ⟨bs, _, hdecode⟩
        · exact orUnreadable_ne _ path hfile
        · exact decode_ne bs path hdecode
      next => cases h

instance : GuardedArchive PackArchive where
  isClosed := isClosed
  write_open {a path} data hopen hpath := by
    obtain ⟨entries, hentries⟩ := Option.isSome_iff_exists.mp (Option.isNone_eq_false_iff.mp hopen)
    refine ⟨_, write_of_pending hentries hpath data, fun f hf => ?_⟩
    obtain ⟨b, hb, hpending⟩ := (isPending_of_holds hentries hf).write hpath data
    obtain rfl := Except.ok.inj ((write_of_pending hentries hpath data).symm.trans hb)
    exact hpending.holds
  write_invalid data hopen hpath := by
    obtain ⟨entries, hentries⟩ := Option.isSome_iff_exists.mp (Option.isNone_eq_false_iff.mp hopen)
    exact write_of_invalid hentries hpath data
  write_closed path data hclosed :=
    write_of_pending_none (Option.isNone_iff_eq_none.mp hclosed) path data
  isClosed_close a := Option.isNone_iff_eq_none.mpr a.pending_close
  list_close := list_of_close
  close_ne := close_ne
  list_ne a pattern path := by
    show a.list pattern ≠ _
    rw [list]
    cases a.paths? with
    | none => nofun
    | some paths => exact Entry.matching_ne paths pattern path

end PackArchive

end CollectionArchive
