import CollectionArchive.Proofs.Outcome
import CollectionArchive.Registry.Basic

/-!
# What is left to write

At the end a registry writes what waits for it. Where nodes wait in memory and the metadata is a
text, all of it can be made, and only the archive can refuse it.

* `Registry.lastEntries`, `Registry.lastWrites_eq`: what is written at the end.
* `Registry.writeEntries`: writing data that is there.
* `Registry.finalize_eq_ok`, `Registry.finalize_eq_error`: finalizing that succeeds, or fails.
-/

namespace CollectionArchive.Registry

variable {σ : Type}

/-- The entries that are written at the end: the nodes of each collection, and the metadata. -/
def lastEntries (r : Registry σ) (metadata : String) : List (String × Bytes) :=
  (r.staged.map fun e => (dataPath e.1, nodeLines e.2)) ++
    [(metadataPath, Bytes.ofText metadata)]

theorem lastWrites_eq (r : Registry σ) (metadata : String) :
    r.lastWrites metadata = (r.lastEntries metadata).map fun e => (e.1, .ok e.2) := by
  rw [lastEntries, List.map_append, List.map_map]
  rfl

variable [Archive σ]

/-- Writes entries in their order, each also if one before it failed. The first failure is kept. -/
def writeEntries (a : σ) (entries : List (String × Bytes)) : Option RegistryError × σ :=
  writeAll a (entries.map fun e => (e.1, .ok e.2))

theorem writeEntries_cons_of_ok {a b : σ} {path : String} {data : Bytes}
    (h : Archive.write a path data = .ok b) (entries : List (String × Bytes)) :
    writeEntries a ((path, data) :: entries) = writeEntries b entries := by
  simp only [writeEntries, List.map_cons, writeAll, bind, Except.bind, h, Except.mapError]

theorem writeEntries_cons_of_error {a : σ} {path : String} {data : Bytes} {e : PackError}
    (h : Archive.write a path data = .error e) (entries : List (String × Bytes)) :
    writeEntries a ((path, data) :: entries) = (some (.archive e), (writeEntries a entries).2) := by
  simp only [writeEntries, List.map_cons, writeAll, bind, Except.bind, h, Except.mapError]

/-- Finalizing writes the last entries, closes the archive, and lists what is in it. -/
theorem finalize_eq (r : Registry σ) (metadata : String) :
    r.finalize metadata =
      let (failure?, a) := writeEntries r.archive (r.lastEntries metadata)
      let (closed, a) := Archive.close a
      (do
        failure?.elim (closed.mapError .archive) .error
        return ⟨r.nodeCounts, ← (Archive.list a "**").mapError .archive⟩, a) := by
  rw [finalize, writeOut, lastWrites_eq]
  rfl

theorem finalize_eq_ok {r : Registry σ} {metadata : String} {summary : Summary} {a : σ}
    (h : r.finalize metadata = (.ok summary, a)) : ∃ b,
      writeEntries r.archive (r.lastEntries metadata) = (none, b) ∧
        Archive.close b = (.ok (), a) ∧ Archive.list a "**" = .ok summary.entries ∧
          summary.nodeCounts = r.nodeCounts := by
  rw [finalize_eq] at h
  rcases hall : writeEntries r.archive (r.lastEntries metadata) with ⟨failure?, b⟩
  rcases hclose : Archive.close b with ⟨closed, c⟩
  simp only [hall, hclose] at h
  obtain ⟨hsummary, rfl⟩ := Prod.mk.inj h
  obtain ⟨_, hwritten, hlist⟩ := Outcome.bind_eq_ok.mp hsummary
  obtain ⟨entries, hentries, heq⟩ := Outcome.bind_eq_ok.mp hlist
  obtain rfl := Outcome.pure_eq_ok.mp heq
  cases failure? with
  | some e => cases hwritten
  | none =>
    obtain rfl : closed = .ok () := Outcome.mapError_eq_ok.mp hwritten
    exact ⟨b, rfl, hclose, Outcome.mapError_eq_ok.mp hentries, rfl⟩

/-- Finalizing fails as writing does, or closing, or listing. -/
theorem finalize_eq_error {r : Registry σ} {metadata : String} {e : RegistryError}
    (h : (r.finalize metadata).1 = .error e) :
    (writeEntries r.archive (r.lastEntries metadata)).1 = some e ∨ ∃ (a : σ) (fault : PackError),
      .archive fault = e ∧
        ((Archive.close a).1 = .error fault ∨ Archive.list a "**" = .error fault) := by
  rw [finalize_eq] at h
  generalize writeEntries r.archive (r.lastEntries metadata) = written at h ⊢
  obtain ⟨failure?, a⟩ := written
  rcases Outcome.bind_eq_error.mp h with hout | ⟨_, _, hlast⟩
  · cases failure? with
    | none =>
      obtain ⟨fault, hclose, hfault⟩ := Outcome.mapError_eq_error.mp hout
      exact .inr ⟨a, fault, hfault, .inl hclose⟩
    | some fault => exact .inl (congrArg some (Except.error.inj hout))
  · rcases Outcome.bind_eq_error.mp hlast with hlist | ⟨_, _, h⟩
    · obtain ⟨fault, hlist, hfault⟩ := Outcome.mapError_eq_error.mp hlist
      exact .inr ⟨_, fault, hfault, .inr hlist⟩
    · cases h

/-- Writing entries fails only as the archive does. -/
theorem exists_of_writeEntries {a : σ} {entries : List (String × Bytes)} {e : RegistryError}
    (h : (writeEntries a entries).1 = some e) : ∃ b : σ, ∃ entry ∈ entries, ∃ fault,
      .archive fault = e ∧ Archive.write b entry.1 entry.2 = .error fault := by
  induction entries generalizing a with
  | nil => cases h
  | cons entry entries ih =>
    cases hwrite : Archive.write a entry.1 entry.2 with
    | ok b =>
      rw [writeEntries_cons_of_ok hwrite] at h
      obtain ⟨b, other, hother, hfails⟩ := ih h
      exact ⟨b, other, List.mem_cons_of_mem entry hother, hfails⟩
    | error fault =>
      rw [writeEntries_cons_of_error hwrite] at h
      exact ⟨a, entry, List.mem_cons_self, fault, Option.some.inj h, hwrite⟩

end CollectionArchive.Registry
