import CollectionArchive.Proofs.Archive.Listing
import CollectionArchive.Proofs.Registry.Finalization

/-!
# Orders of registration

Schemata with different names can be registered in any order: what comes of them follows the names.

* `Registry.registerAll`: registers schemata one after the other.
* `Registry.exists_registerAll`: a new archive takes all of them, if their names make paths.
* `Registry.Matches.unique`: what runs have registered and added determines a registry in memory.
* **`registerAll_of_perm`**: registering in another order makes no difference.
-/

namespace CollectionArchive

/-! ## Several registrations -/

/-- Registers schemata one after the other, up to the first that is refused. -/
def Registry.registerAll {σ : Type} [Archive σ] (r : Registry σ)
    (schemata : List (String × Schema)) : Except RegistryError (Registry σ) :=
  schemata.foldlM (fun r e => r.register e.1 e.2) r

/-- The calls that register schemata one after the other, when all are taken. -/
def Log.registrations (schemata : List (String × Schema)) : Log :=
  schemata.map fun e => (.register e.1 e.2, .ok ())

namespace Log

theorem added_registrations (schemata : List (String × Schema)) (collection : String) :
    (registrations schemata).added collection = [] := by
  rw [added, registrations, List.flatMap_map, List.flatMap_eq_nil_iff]
  intro e _
  rfl

/-- Where no name comes twice, every schema is the last for its name. -/
theorem registered?_registrations {schemata : List (String × Schema)}
    (distinct : (schemata.map Prod.fst).Nodup) {name : String} {schema : Schema} :
    (registrations schemata).registered? name = some schema ↔ (name, schema) ∈ schemata := by
  induction schemata using List.reverseRecOn with
  | nil => simp [registrations, registered?]
  | append_singleton front e ih =>
    rw [List.map_append, List.nodup_append] at distinct
    obtain ⟨hfront, -, hnew⟩ := distinct
    have hconcat : registrations (front ++ [e]) =
        registrations front ++ [(.register e.1 e.2, .ok ())] := List.map_append
    rw [hconcat, registered?_concat, Call.schemaFor?, List.mem_append, List.mem_singleton]
    by_cases hname : e.1 = name
    · have hnot : (name, schema) ∉ front := by
        intro hmem
        exact hnew name (List.mem_map_of_mem hmem) e.1 (List.mem_singleton.mpr rfl) hname.symm
      rw [if_pos hname, Option.some_or, Option.some.injEq, or_iff_right hnot, Prod.ext_iff]
      simp [hname, eq_comm]
    · have hnot : ¬ (name, schema) = e := fun heq => hname (congrArg Prod.fst heq).symm
      rw [if_neg hname, Option.none_or, ih hfront, or_iff_left hnot]

theorem registered?_registrations_perm {schemata others : List (String × Schema)}
    (perm : schemata.Perm others) (distinct : (schemata.map Prod.fst).Nodup) (name : String) :
    (registrations schemata).registered? name = (registrations others).registered? name := by
  have hdistinct : (others.map Prod.fst).Nodup := (perm.map Prod.fst).nodup_iff.mp distinct
  apply Option.ext
  intro schema
  rw [registered?_registrations distinct, registered?_registrations hdistinct, perm.mem_iff]

end Log

namespace Registry

variable {σ : Type} [Archive σ] [LawfulArchive σ]

/-- **A new archive takes all schemata whose names make paths.** -/
theorem exists_registerAll {a : σ} (fresh : LawfulArchive.IsOpen a fun _ => none)
    {schemata : List (String × Schema)} (distinct : (schemata.map Prod.fst).Nodup)
    (valid : ∀ e ∈ schemata, Entry.isValidPath (schemaPath e.1) = true) :
    ∃ r, (ofArchive a).registerAll schemata = .ok r ∧ r.Matches (.registrations schemata) := by
  induction schemata using List.reverseRecOn with
  | nil => exact ⟨ofArchive a, rfl, Matches.ofArchive fresh⟩
  | append_singleton front e ih =>
    rw [List.map_append, List.nodup_append] at distinct
    obtain ⟨hfront, -, hnew⟩ := distinct
    obtain ⟨r, hr, hmatches⟩ := ih hfront fun e he => valid e (List.mem_append_left _ he)
    have hfree : r.schemata.get? e.1 = none := by
      rw [hmatches.schemata, Option.eq_none_iff_forall_ne_some]
      intro schema hschema
      have hmem := (Log.registered?_registrations hfront).mp hschema
      exact hnew e.1 (List.mem_map.mpr ⟨_, hmem, rfl⟩) e.1 (List.mem_singleton.mpr rfl) rfl
    obtain ⟨f, hopen, -⟩ := hmatches.archive
    obtain ⟨b, hwrite, -⟩ := LawfulArchive.write_valid (Bytes.ofText e.2.json) hopen
      (valid e (List.mem_append_right _ List.mem_cons_self))
    obtain ⟨r', hregister⟩ := exists_register hfree hwrite
    refine ⟨r', ?_, ?_⟩
    · rw [registerAll, List.foldlM_append, Outcome.bind_eq_ok]
      exact ⟨r, hr, Outcome.bind_eq_ok.mpr ⟨r', hregister, rfl⟩⟩
    · rw [Log.registrations, List.map_append]
      exact hmatches.register (fun _ => rfl) (fun _ => rfl) hregister

/-! ## What determines a registry -/

namespace Matches

variable {τ : Type} [Archive τ] [LawfulArchive τ] {l l' : Log}

/-- What has been registered determines the schemata, in archives of any kind. -/
theorem schemata_unique {r : Registry σ} {r' : Registry τ} (h : r.Matches l) (h' : r'.Matches l')
    (registered : ∀ name, l.registered? name = l'.registered? name) :
    r.schemata = r'.schemata := by
  apply Table.eq_of_get? r.schemata_ascending r'.schemata_ascending
  intro name
  rw [h.schemata, h'.schemata, registered]

/-- What has been added determines the nodes that wait. -/
theorem staged_unique {r : Registry σ} {r' : Registry τ} (h : r.Matches l) (h' : r'.Matches l')
    (added : ∀ collection, l.added collection = l'.added collection) :
    r.staged = r'.staged := by
  apply Table.eq_of_get? r.staged_ascending r'.staged_ascending
  intro collection
  rw [h.staged, h'.staged, added]

/-- What has been added determines the counts. -/
theorem nodeCounts_unique {r : Registry σ} {r' : Registry τ} (h : r.Matches l)
    (h' : r'.Matches l') (added : ∀ collection, l.added collection = l'.added collection) :
    r.nodeCounts = r'.nodeCounts := by
  apply Table.eq_of_get? r.nodeCounts_ascending r'.nodeCounts_ascending
  intro collection
  rw [h.nodeCounts, h'.nodeCounts, added]

/-- **What has been registered and added determines a registry in memory.** -/
theorem unique {r r' : Registry MemoryArchive} (h : r.Matches l) (h' : r'.Matches l')
    (registered : ∀ name, l.registered? name = l'.registered? name)
    (added : ∀ collection, l.added collection = l'.added collection) : r = r' := by
  have hschemata := h.schemata_unique h' registered
  have hstaged := h.staged_unique h' added
  have hcounts := h.nodeCounts_unique h' added
  have harchive : r.archive = r'.archive := by
    obtain ⟨_, ⟨hopen, rfl⟩, hf⟩ := h.archive
    obtain ⟨_, ⟨hopen', rfl⟩, hf'⟩ := h'.archive
    have hentries : r.archive.entries = r'.archive.entries := by
      apply Table.eq_of_get? r.archive.ascending r'.archive.ascending
      intro path
      apply Option.ext
      intro data
      rw [hf, hf']
      simp only [registered]
    rw [MemoryArchive.mk.injEq]
    exact ⟨hentries, hopen.trans hopen'.symm⟩
  rw [mk.injEq]
  exact ⟨hschemata, hstaged, hcounts, rfl, harchive⟩

end Matches

/-! ## Finalizing -/

/-- An open archive takes everything under paths that are valid. -/
theorem exists_writeEntries {a : σ} {f : Contents} (hopen : LawfulArchive.IsOpen a f)
    {entries : List (String × Bytes)} (valid : ∀ e ∈ entries, Entry.isValidPath e.1 = true) :
    ∃ b, writeEntries a entries = (none, b) := by
  induction entries generalizing a f with
  | nil => exact ⟨a, rfl⟩
  | cons e entries ih =>
    obtain ⟨hfirst, hrest⟩ := List.forall_mem_cons.mp valid
    obtain ⟨b, hwrite, hb⟩ := LawfulArchive.write_valid e.2 hopen hfirst
    obtain ⟨c, hall⟩ := ih hb hrest
    refine ⟨c, ?_⟩
    rw [writeEntries_cons_of_ok hwrite]
    exact hall

/-- **Finalizing in memory succeeds** if the names of the collections with nodes make paths, and
leaves what was registered and added. -/
theorem Matches.exists_finalize {r : Registry MemoryArchive} {l : Log} (h : r.Matches l)
    (valid : ∀ e ∈ r.staged, Entry.isValidPath (dataPath e.1) = true) (metadata : String) :
    ∃ summary a, r.finalize metadata = (.ok summary, a) ∧ l.IsArchived metadata summary a := by
  obtain ⟨f, hopen, hf⟩ := h.archive
  have hpaths : ∀ e ∈ r.lastEntries metadata, Entry.isValidPath e.1 = true := by
    intro e he
    rw [lastEntries, List.mem_append, List.mem_map, List.mem_singleton] at he
    rcases he with ⟨staged, hstaged, rfl⟩ | rfl
    · exact valid staged hstaged
    · show Entry.isValidPath metadataPath = true
      decide
  obtain ⟨b, hall⟩ := exists_writeEntries hopen hpaths
  have hb := writeEntries_isOpen hopen hall
  have hclose : Archive.close b = (.ok (), { b with isClosed := true }) := by
    show b.close = _
    rw [MemoryArchive.close, hb.1]
    rfl
  obtain ⟨summary, hfinal⟩ := Registry.exists_finalize hall hb (fun _ _ _ => trivial) hclose
  obtain ⟨c, hall', hclose', hlist, hcounts⟩ := finalize_eq_ok hfinal
  have hclosed := LawfulArchive.close_open hb (fun _ _ _ => trivial) hclose
  refine ⟨summary, _, hfinal, .of_holds (LawfulArchive.holds_of_isClosed hclosed)
    (h.writeAll_eq_some hf metadata) hlist fun collection => ?_⟩
  rw [hcounts]
  exact h.nodeCounts collection

end Registry

/-- **Schemata with different names can be registered in any order.** On a new archive in memory all
are registered, if their names make paths. The order makes no difference to the links, to whether
they resolve and what is told if one does not, to the outline, or to the archive that is left by
finalizing, before or after the links are resolved. -/
theorem registerAll_of_perm {schemata others : List (String × Schema)}
    (perm : schemata.Perm others) (distinct : (schemata.map Prod.fst).Nodup)
    (valid : ∀ e ∈ schemata, Entry.isValidPath (schemaPath e.1) = true) :
    ∃ r r' : Registry MemoryArchive,
      (Registry.ofArchive .empty).registerAll schemata = .ok r ∧
      (Registry.ofArchive .empty).registerAll others = .ok r' ∧
      (∀ name schema, r.schemata.get? name = some schema ↔ (name, schema) ∈ schemata) ∧
      r.schemata = r'.schemata ∧
      r.check = r'.check ∧ (∀ c, r.check = .ok c → c.toRegistry = r) ∧
      r.schemata.linkGraph = r'.schemata.linkGraph ∧ r.outline = r'.outline ∧
      ∀ metadata, ∃ summary a, r.finalize metadata = (.ok summary, a) ∧
        r'.finalize metadata = (.ok summary, a) ∧
          (Log.registrations schemata).IsArchived metadata summary a := by
  have hdistinct : (others.map Prod.fst).Nodup := (perm.map Prod.fst).nodup_iff.mp distinct
  have hvalid : ∀ e ∈ others, Entry.isValidPath (schemaPath e.1) = true := by
    intro e he
    exact valid e (perm.mem_iff.mpr he)
  obtain ⟨r, hr, hmatches⟩ :=
    Registry.exists_registerAll MemoryArchive.isOpen_empty distinct valid
  obtain ⟨r', hr', hmatches'⟩ :=
    Registry.exists_registerAll MemoryArchive.isOpen_empty hdistinct hvalid
  have hsame : r = r' := by
    apply hmatches.unique hmatches'
    · exact Log.registered?_registrations_perm perm distinct
    · intro collection
      rw [Log.added_registrations, Log.added_registrations]
  have hstaged : ∀ e ∈ r.staged, Entry.isValidPath (dataPath e.1) = true := by
    rintro ⟨collection, ns⟩ he
    have hget := Table.get?_of_mem r.staged_ascending he
    rw [hmatches.staged, Log.added_registrations, if_pos rfl] at hget
    cases hget
  subst hsame
  refine ⟨r, r, hr, hr', fun name schema => ?_, rfl, rfl, fun c hcheck => ?_, rfl, rfl,
    fun metadata => ?_⟩
  · rw [hmatches.schemata]
    exact Log.registered?_registrations distinct
  · obtain ⟨_, _, rfl⟩ := Registry.check_eq_ok.mp hcheck
    rfl
  · obtain ⟨summary, a, hfinal, harchived⟩ := hmatches.exists_finalize hstaged metadata
    exact ⟨summary, a, hfinal, hfinal, harchived⟩

/-- Two schemata whose links both lead to a collection that is missing. -/
def Schemata.dangling : List (String × Schema) :=
  [("b", .link .zero ⟨"c", LinkTarget.titleIdent⟩), ("a", .link .zero ⟨"c", LinkTarget.titleIdent⟩)]

/-- In either order the link of the first collection by name is the one that is told. -/
theorem registerAll_of_perm_dangling : ∃ r r' : Registry MemoryArchive,
    (Registry.ofArchive .empty).registerAll Schemata.dangling = .ok r ∧
    (Registry.ofArchive .empty).registerAll Schemata.dangling.reverse = .ok r' ∧
      r.check = .error ⟨⟨"a", .zero, ⟨"c", LinkTarget.titleIdent⟩⟩, .unknownCollection⟩ ∧
      r'.check = .error ⟨⟨"a", .zero, ⟨"c", LinkTarget.titleIdent⟩⟩, .unknownCollection⟩ := by
  obtain ⟨r, r', hr, hr', hmem, -, hcheck, -⟩ :=
    registerAll_of_perm (List.reverse_perm Schemata.dangling).symm (by decide) (by decide)
  have hschemata : r.schemata = Schemata.dangling.reverse := by
    apply Table.eq_of_get? r.schemata_ascending (by decide)
    intro name
    apply Option.ext
    intro schema
    rw [hmem, Table.get?_eq_some_iff (by decide), List.mem_reverse]
  have herror : r.check =
      .error ⟨⟨"a", .zero, ⟨"c", LinkTarget.titleIdent⟩⟩, .unknownCollection⟩ := by
    rw [Registry.check, hschemata, LinkKinds.ofSchemata, Schemata.dangling, List.reverse_cons,
      List.reverse_singleton, List.singleton_append, Schemata.outboundLinks_cons,
      Schema.outboundLinks_link]
    rfl
  exact ⟨r, r', hr, hr', herror, hcheck ▸ herror⟩

end CollectionArchive
