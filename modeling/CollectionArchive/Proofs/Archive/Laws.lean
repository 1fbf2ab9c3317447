import CollectionArchive.Archive.Memory
import CollectionArchive.Archive.Pack
import CollectionArchive.Proofs.Archive.Listing
import CollectionArchive.Proofs.Files
import CollectionArchive.Proofs.Pack.Entries
import Mathlib.Tactic.SplitIfs

/-!
# Laws of archives

What an archive holds under each path decides how it answers, and whether it is closed decides what
it takes. Both kinds of archives obey the same laws.

* `Contents`: what is held under each path.
* `Archive.Holds`: the answers of an archive to questions.
* `LawfulArchive`: the laws of writing and closing, which archives in memory obey, and archives in
  pack files if their codec is lossless.
-/

namespace CollectionArchive

/-- What is held under each path. -/
abbrev Contents := String → Option Bytes

/-- The contents with data under a path, in place of what was there. -/
def Contents.write (f : Contents) (path : String) (data : Bytes) : Contents := fun p =>
  if path = p then some data else f p

/-- The answers of an archive about what it holds. -/
structure Archive.Holds {σ : Type} [Archive σ] (a : σ) (f : Contents) : Prop where
  read (path : String) : Archive.read a path = Entry.orMissing path (f path)
  has (path : String) : Archive.has a path = (f path).isSome
  list : ∃ paths : List String, paths.Nodup ∧ (∀ p, p ∈ paths ↔ (f p).isSome = true) ∧
    ∀ pattern, Archive.list a pattern = Entry.matching paths pattern

/-- Archives that take any data under valid paths until they are closed, and then hold what they
have taken. -/
class LawfulArchive (σ : Type) [Archive σ] where
  /-- The archive takes data, and holds what it has taken. -/
  IsOpen : σ → Contents → Prop
  /-- The archive takes no more data, and holds what it has taken. -/
  IsClosed : σ → Contents → Prop
  /-- What the archive can keep under a path when it is closed. -/
  Storable : String → Bytes → Prop
  holds_of_isOpen {a : σ} {f : Contents} : IsOpen a f → Archive.Holds a f
  holds_of_isClosed {a : σ} {f : Contents} : IsClosed a f → Archive.Holds a f
  write_valid {a : σ} {f : Contents} {path : String} (data : Bytes) : IsOpen a f →
    Entry.isValidPath path = true →
      ∃ b, Archive.write a path data = .ok b ∧ IsOpen b (f.write path data)
  write_invalid {a : σ} {f : Contents} {path : String} (data : Bytes) : IsOpen a f →
    Entry.isValidPath path = false → Archive.write a path data = .error (.invalidPath path)
  write_closed {a : σ} {f : Contents} (path : String) (data : Bytes) : IsClosed a f →
    Archive.write a path data = .error .closed
  close_open {a b : σ} {f : Contents} : IsOpen a f → (∀ p d, f p = some d → Storable p d) →
    Archive.close a = (.ok (), b) → IsClosed b f
  close_closed {a : σ} {f : Contents} : IsClosed a f → Archive.close a = (.error .closed, a)

namespace LawfulArchive

variable {σ : Type} [Archive σ] [LawfulArchive σ]

theorem isOpen_of_write {a b : σ} {f : Contents} {path : String} {data : Bytes} (ha : IsOpen a f)
    (h : Archive.write a path data = .ok b) : IsOpen b (f.write path data) := by
  by_cases hpath : Entry.isValidPath path = true
  · obtain ⟨c, hc, hopen⟩ := write_valid data ha hpath
    obtain rfl := Except.ok.inj (hc.symm.trans h)
    exact hopen
  · rw [write_invalid data ha ((Bool.not_eq_true _).mp hpath)] at h
    cases h

end LawfulArchive

/-! ## Archives in memory -/

namespace MemoryArchive

theorem holds (a : MemoryArchive) : Archive.Holds a a.entries.get? where
  read _ := rfl
  has _ := rfl
  list := ⟨a.entries.keys, Table.nodup_keys a.ascending, fun _ => Table.mem_keys, fun _ => rfl⟩

instance : LawfulArchive MemoryArchive where
  IsOpen a f := a.isClosed = false ∧ a.entries.get? = f
  IsClosed a f := a.isClosed = true ∧ a.entries.get? = f
  Storable _ _ := True
  holds_of_isOpen := by
    rintro a _ ⟨_, rfl⟩
    exact holds a
  holds_of_isClosed := by
    rintro a _ ⟨_, rfl⟩
    exact holds a
  write_valid := by
    rintro a _ path data ⟨hopen, rfl⟩ hpath
    refine ⟨⟨a.entries.insert path data, Table.ascending_insert a.ascending path data, a.isClosed⟩,
      ?_, hopen, ?_⟩
    · show write a path data = _
      rw [write, hopen, Entry.checkPath, hpath]
      rfl
    · funext other
      exact Table.get?_insert _ _ _ _
  write_invalid := by
    rintro a _ path data ⟨hopen, rfl⟩ hpath
    show write a path data = _
    rw [write, hopen, Entry.checkPath, hpath]
    rfl
  write_closed := by
    rintro a _ path data ⟨hclosed, rfl⟩
    show write a path data = _
    rw [write, if_pos hclosed]
  close_open := by
    rintro a b _ ⟨hopen, rfl⟩ _ hclose
    change close a = _ at hclose
    rw [close, hopen] at hclose
    obtain ⟨_, rfl⟩ := Prod.mk.inj hclose
    exact ⟨rfl, rfl⟩
  close_closed := by
    rintro a _ ⟨hclosed, rfl⟩
    show close a = _
    rw [close, if_pos hclosed]

theorem isOpen_empty : LawfulArchive.IsOpen empty fun _ => none :=
  ⟨rfl, rfl⟩

end MemoryArchive

/-! ## Archives in pack files -/

namespace PackArchive

/-- An archive whose entries wait to be written. -/
def IsPending (a : PackArchive) (f : Contents) : Prop :=
  ∃ entries, a.pending = some entries ∧ (Entry.paths entries).Nodup ∧ Entry.get? entries = f

theorem isPending_create {files : Files} {path : String} {config : PackConfig} {a : PackArchive}
    (h : create files path config = .ok a) : a.IsPending fun _ => none := by
  rw [create] at h
  split_ifs at h with hdirectory
  obtain ⟨_, _, h⟩ := Outcome.bind_eq_ok.mp h
  obtain rfl := Outcome.pure_eq_ok.mp h
  exact ⟨[], rfl, .nil, rfl⟩

theorem paths?_of_pending {a : PackArchive} {entries : List Entry} (h : a.pending = some entries) :
    a.paths? = some (Entry.paths entries) := by
  rw [paths?, h]
  rfl

theorem paths?_of_written {a : PackArchive} {p : Pack} (hpending : a.pending = none)
    (hwritten : a.written = some p) : a.paths? = some p.paths := by
  rw [paths?, hpending, hwritten]
  rfl

theorem write_of_pending {a : PackArchive} {entries : List Entry} {path : String}
    (h : a.pending = some entries) (hpath : Entry.isValidPath path = true) (data : Bytes) :
    a.write path data = .ok { a with pending := some (Entry.insert entries path data) } := by
  rw [PackArchive.write, h]
  show (Entry.put entries path data >>= fun entries => .ok { a with pending := some entries }) = _
  rw [Entry.put_of_valid hpath]
  rfl

theorem write_of_invalid {a : PackArchive} {entries : List Entry} {path : String}
    (h : a.pending = some entries) (hpath : Entry.isValidPath path = false) (data : Bytes) :
    a.write path data = .error (.invalidPath path) := by
  rw [PackArchive.write, h]
  show (Entry.put entries path data >>= fun entries => .ok { a with pending := some entries }) = _
  rw [Entry.put_of_invalid hpath]
  rfl

theorem IsPending.write {a : PackArchive} {f : Contents} {path : String} (h : a.IsPending f)
    (hpath : Entry.isValidPath path = true) (data : Bytes) :
    ∃ b, a.write path data = .ok b ∧ b.IsPending (f.write path data) := by
  obtain ⟨entries, hentries, hnodup, rfl⟩ := h
  refine ⟨_, write_of_pending hentries hpath data, Entry.insert entries path data, rfl,
    Entry.nodup_paths_insert hnodup path data, ?_⟩
  funext other
  exact Entry.get?_insert entries path data other

theorem IsPending.write_invalid {a : PackArchive} {f : Contents} {path : String} (h : a.IsPending f)
    (hpath : Entry.isValidPath path = false) (data : Bytes) :
    a.write path data = .error (.invalidPath path) := by
  obtain ⟨entries, hentries, _⟩ := h
  exact write_of_invalid hentries hpath data

theorem write_of_pending_none {a : PackArchive} (h : a.pending = none) (path : String)
    (data : Bytes) : a.write path data = .error .closed := by
  rw [write, h]
  rfl

/-- What has been saved is read from the file. -/
theorem read?_save {files saved : Files} {path : String} {pack : Bytes}
    (h : save files path pack = .ok saved) : saved.read? path = some pack := by
  obtain ⟨made, _, h⟩ := Outcome.bind_eq_ok.mp h
  exact Files.read?_write? (Outcome.elim_eq_ok.mp h)

variable [Codec]

/-- An archive whose entries are read from a pack, which is in the file. -/
def IsWritten (a : PackArchive) (f : Contents) : Prop :=
  a.pending = none ∧ ∃ p, a.written = some p ∧ readPack a.files a.path = .ok p ∧ p.paths.Nodup ∧
    (∀ path, path ∈ p.paths ↔ (f path).isSome = true) ∧ ∀ path, p.read path = .ok (f path)

/-- Listing and asking for a path go by the paths that there are. -/
theorem holds_of_paths {a : PackArchive} {f : Contents} {paths : List String}
    (hpaths : a.paths? = some paths) (hnodup : paths.Nodup)
    (hmem : ∀ path, path ∈ paths ↔ (f path).isSome = true)
    (hread : ∀ path, a.read path = Entry.orMissing path (f path)) : Archive.Holds a f where
  read := hread
  has path := by
    show has a path = _
    rw [has, hpaths, Option.any_some, Bool.eq_iff_iff, List.contains_iff_mem]
    exact hmem path
  list := by
    refine ⟨paths, hnodup, hmem, fun pattern => ?_⟩
    show list a pattern = _
    rw [list, hpaths]
    rfl

theorem IsPending.holds {a : PackArchive} {f : Contents} (h : a.IsPending f) :
    Archive.Holds a f := by
  obtain ⟨entries, hentries, hnodup, rfl⟩ := h
  refine holds_of_paths (paths?_of_pending hentries) hnodup (fun _ => Entry.mem_paths)
    fun path => ?_
  rw [read, hentries]

theorem IsWritten.holds {a : PackArchive} {f : Contents} (h : a.IsWritten f) :
    Archive.Holds a f := by
  obtain ⟨hpending, p, hp, _, hnodup, hmem, hread⟩ := h
  refine holds_of_paths (paths?_of_written hpending hp) hnodup hmem fun path => ?_
  rw [read, hpending, hp]
  show (p.read path >>= Entry.orMissing path) = _
  rw [hread]
  rfl

theorem close_of_pending_none {a : PackArchive} (h : a.pending = none) :
    a.close = (.error .closed, a) := by
  rw [close, h]

theorem path_close (a : PackArchive) : a.close.2.path = a.path := by
  rw [close]
  cases a.pending with
  | none => rfl
  | some entries =>
    dsimp only
    split
    · rfl
    · split <;> rfl

theorem close_eq_ok {a b : PackArchive} {entries : List Entry} (hentries : a.pending = some entries)
    (h : a.close = (.ok (), b)) : b.pending = none ∧ ∃ bs p,
      Pack.encode a.config.compressionLevel entries = .ok bs ∧ Pack.decode bs = .ok p ∧
        b.written = some p ∧ readPack b.files b.path = .ok p := by
  rw [close, hentries] at h
  simp only at h
  cases hsaved : Pack.encode a.config.compressionLevel entries >>= save a.files a.path with
  | error e =>
    rw [hsaved] at h
    cases (Prod.mk.inj h).1
  | ok files =>
    obtain ⟨bs, hbs, hsave⟩ := Outcome.bind_eq_ok.mp hsaved
    have hopened : readPack files a.path = Pack.decode bs := by
      rw [readPack, orUnreadable, read?_save hsave]
      rfl
    rw [hsaved] at h
    simp only [hopened] at h
    cases hdecode : Pack.decode bs with
    | error e =>
      rw [hdecode] at h
      cases (Prod.mk.inj h).1
    | ok p =>
      rw [hdecode] at h
      obtain ⟨_, rfl⟩ := Prod.mk.inj h
      exact ⟨rfl, bs, p, hbs, hdecode, rfl, hopened.trans hdecode⟩

/-- **Closing keeps what an archive holds**, if the codec is lossless. -/
theorem IsPending.close {a b : PackArchive} {f : Contents} (h : a.IsPending f)
    (lossless : Codec.IsLossless ‹Codec›)
    (hfits : ∀ p d, f p = some d → (Bytes.ofText p).FitsMemory ∧ d.FitsMemory)
    (hclose : a.close = (.ok (), b)) : b.IsWritten f := by
  obtain ⟨entries, hentries, hnodup, rfl⟩ := h
  obtain ⟨hpending, bs, p, hencode, hdecode, hwritten, hopened⟩ := close_eq_ok hentries hclose
  have hall : ∀ e ∈ entries, (Bytes.ofText e.path).FitsMemory ∧ e.data.FitsMemory :=
    fun e he => hfits e.path e.data (Entry.get?_of_mem hnodup he)
  obtain ⟨hpaths, hread⟩ := Pack.read_encode lossless hnodup hall hencode hdecode
  refine ⟨hpending, p, hwritten, hopened, ?_, ?_, hread⟩
  · rwa [hpaths]
  · intro path
    rw [hpaths]
    exact Entry.mem_paths

/-- **Closing succeeds** if the codec is lossless, there are fewer than 2³² entries and the file can
be written. -/
theorem exists_close {a : PackArchive} {entries : List Entry} (hentries : a.pending = some entries)
    (lossless : Codec.IsLossless ‹Codec›) (hnodup : (Entry.paths entries).Nodup)
    (hfits : ∀ e ∈ entries, (Bytes.ofText e.path).FitsMemory ∧ e.data.FitsMemory)
    (hcount : entries.length < 0x100000000)
    (hsave : ∀ bs, ∃ saved, save a.files a.path bs = .ok saved) :
    ∃ b, a.close = (.ok (), b) := by
  obtain ⟨bs, hencode⟩ :=
    Pack.exists_encode a.config.compressionLevel lossless fun e he => (hfits e he).2
  obtain ⟨p, hdecode⟩ := Pack.exists_decode_encode hcount
    (fun e he => Entry.fits lossless (hfits e he).1 (hfits e he).2) hnodup hencode
  obtain ⟨saved, hsaved⟩ := hsave bs
  have hopened : readPack saved a.path = .ok p := by
    rw [readPack, orUnreadable, read?_save hsaved]
    exact hdecode
  refine ⟨⟨saved, a.path, a.config, none, some p⟩, ?_⟩
  rw [close, hentries]
  simp only [hencode, bind, Except.bind, hsaved, hopened]

/-- Archives in pack files are lawful if their codec is lossless. -/
@[reducible]
def lawful (lossless : Codec.IsLossless ‹Codec›) : LawfulArchive PackArchive where
  IsOpen := IsPending
  IsClosed := IsWritten
  Storable path data := (Bytes.ofText path).FitsMemory ∧ data.FitsMemory
  holds_of_isOpen := IsPending.holds
  holds_of_isClosed := IsWritten.holds
  write_valid data h hpath := h.write hpath data
  write_invalid data h hpath := h.write_invalid hpath data
  write_closed path data h := write_of_pending_none h.1 path data
  close_open h := h.close lossless
  close_closed h := close_of_pending_none h.1

end PackArchive

end CollectionArchive
