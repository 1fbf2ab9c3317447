import CollectionArchive.Proofs.Archive.Guards
import CollectionArchive.Proofs.Registry.Buffers
import CollectionArchive.Proofs.Registry.Storing

/-!
# Finalizing whatever fails

At the end a registry writes the nodes of each collection and the metadata, and closes the archive.
Any of these can fail, also because what is to be written cannot be made. None of them stops those
that follow or hides one that failed before.

* `Device`: what takes entries and is closed. Any request can fail, and change it also then;
  `Device.ofArchive` is an archive as a device.
* `Registry.lastSteps`: what is to be done at the end; `Device.performAll`: all steps in their
  order, whatever becomes of each.
* `Device.finalize`: finalizing on any device; **`Registry.finalize_ofArchive`**: on an archive this
  is what a registry does.
* **`Device.finalize_eq`**: finalizing performs all steps; `Device.Ends`: what is told then.
* `Device.recording`: a device with a record of what is asked of it.
* `Registry.write_finalize`: nothing can be written to a guarded archive afterwards.
* **`closed_of_finalize`**: what is asked of an archive at the end, what is told, and that nothing
  can be written afterwards.
-/

namespace CollectionArchive

/-! ## Devices -/

/-- What takes entries and is closed at the end. -/
structure Device (τ : Type) where
  write : τ → (path : String) → Bytes → Except PackError Unit × τ
  close : τ → Except PackError Unit × τ
  list : τ → (pattern : String) → Except PackError (List String)

/-- What is asked of a device at the end. -/
inductive Device.Request where
  | write (path : String) (data : Bytes)
  | close
deriving DecidableEq

/-- What is to be done at the end. -/
inductive LastStep where
  /-- Making data and writing it. Where the data could not be made, there is why. -/
  | write (path : String) (data : Except RegistryError Bytes)
  | close

/-- What a step asks of a device. Without data there is nothing to ask. -/
def LastStep.request? : LastStep → Option Device.Request
  | write path (.ok data) => some (.write path data)
  | write _ (.error _) => none
  | close => some .close

section

variable {σ δ β μ : Type} [Buffer β] [Serializable μ]

/-- What a registry has to do at the end: to write the nodes of each collection that has any, in the
order of their names, and then the metadata, and to close. -/
def Registry.lastSteps (r : Registry σ δ β) (metadata : μ) : List LastStep :=
  r.staged.map (fun e => .write (dataPath e.1) ((Buffer.content e.2).mapError .io)) ++
    [.write metadataPath ((Serializable.serialize metadata).mapError .serialization), .close]

/-- These are the steps to write what is left to write, and to close. -/
theorem Registry.lastSteps_eq (r : Registry σ δ β) (metadata : μ) :
    r.lastSteps metadata =
      (r.lastWrites metadata).map (fun e => .write e.1 e.2) ++ [.close] := by
  rw [lastSteps, lastWrites, List.map_append, List.map_map, List.append_assoc]
  rfl

end

namespace Device

/-- An archive as a device: what it refuses leaves it as it is. -/
def ofArchive (σ : Type) [Archive σ] : Device σ where
  write a path data :=
    match Archive.write a path data with
    | .ok b => (.ok (), b)
    | .error e => (.error e, a)
  close := Archive.close
  list := Archive.list

variable {τ : Type} (d : Device τ)

/-- One step: how it ends, and the device afterwards. -/
def perform (a : τ) : LastStep → Except RegistryError Unit × τ
  | .write path (.ok data) =>
    let (outcome, a) := d.write a path data
    (outcome.mapError .archive, a)
  | .write _ (.error e) => (.error e, a)
  | .close =>
    let (outcome, a) := d.close a
    (outcome.mapError .archive, a)

/-- Several steps in their order, whatever becomes of each. -/
def performAll : τ → List LastStep → List (Except RegistryError Unit) × τ
  | a, [] => ([], a)
  | a, q :: qs =>
    let (outcome, a) := d.perform a q
    let (outcomes, a) := performAll a qs
    (outcome :: outcomes, a)

/-- The device with a record of what is asked of it. -/
def recording : Device (τ × List Request) where
  write a path data :=
    let (outcome, b) := d.write a.1 path data
    (outcome, b, a.2 ++ [.write path data])
  close a :=
    let (outcome, b) := d.close a.1
    (outcome, b, a.2 ++ [.close])
  list a pattern := d.list a.1 pattern

/-- The first failure. -/
def firstFailure? {ε : Type} : List (Except ε Unit) → Option ε
  | [] => none
  | .ok () :: outcomes => firstFailure? outcomes
  | .error e :: _ => some e

/-! ## Finalizing -/

/-- Writes entries in their order, each also if one before it failed. The first failure is kept. -/
def writeAll : τ → List (String × Except RegistryError Bytes) → Option RegistryError × τ
  | a, [] => (none, a)
  | a, (path, data) :: rest =>
    match d.perform a (.write path data) with
    | (.ok (), a) => writeAll a rest
    | (.error e, a) => (some e, (writeAll a rest).2)

/-- Writes what a registry has left to write, closes the device, and tells what is in it. -/
def finalize {σ δ β μ : Type} [Buffer β] [Serializable μ] (r : Registry σ δ β) (metadata : μ)
    (a : τ) : Except RegistryError Summary × τ :=
  let (failure?, a) := d.writeAll a (r.lastWrites metadata)
  let (closed, a) := d.close a
  let summary : Except RegistryError Summary := do
    failure?.elim (closed.mapError .archive) .error
    return ⟨r.nodeCounts, ← (d.list a "**").mapError .archive⟩
  (summary, a)

theorem writeAll_ofArchive {σ : Type} [Archive σ] (a : σ)
    (entries : List (String × Except RegistryError Bytes)) :
    (ofArchive σ).writeAll a entries = Registry.writeAll a entries := by
  induction entries generalizing a with
  | nil => rfl
  | cons e entries ih =>
    obtain ⟨path, data⟩ := e
    rw [writeAll, Registry.writeAll]
    cases data with
    | error fault => exact congrArg (fun written => (some fault, written.2)) (ih a)
    | ok data =>
      cases hwrite : Archive.write a path data with
      | ok b =>
        have hdevice : (ofArchive σ).perform a (.write path (.ok data)) = (.ok (), b) := by
          simp only [perform, ofArchive, hwrite, Except.mapError]
        simp only [hdevice, bind, Except.bind, hwrite, Except.mapError, ih]
      | error fault =>
        have hdevice : (ofArchive σ).perform a (.write path (.ok data)) =
            (.error (.archive fault), a) := by
          simp only [perform, ofArchive, hwrite, Except.mapError]
        simp only [hdevice, bind, Except.bind, hwrite, Except.mapError, ih]

end Device

section

variable {σ δ β μ : Type} [Archive σ] [Buffer β] [Serializable μ]

/-- **Finalizing on an archive is what a registry does.** -/
theorem Registry.finalize_ofArchive (r : Registry σ δ β) (metadata : μ) :
    r.finalize metadata = (Device.ofArchive σ).finalize r metadata r.archive := by
  rw [Device.finalize, Registry.finalize, Registry.writeOut, Device.writeAll_ofArchive]
  rfl

/-- A session that is not closed, in whatever stage, finalizes its registry. -/
theorem Session.finalize_of_registry {s : Session σ δ β} {r : Registry σ δ β}
    (h : s.registry = .ok r) (metadata : μ) :
    s.finalize metadata = ((r.finalize metadata).1, .closed (r.finalize metadata).2) := by
  rw [Session.finalize, h]

end

namespace Device

variable {σ δ β μ τ ε : Type} {d : Device τ}

/-! ## What is told -/

theorem performAll_append (a : τ) (qs rs : List LastStep) :
    d.performAll a (qs ++ rs) =
      ((d.performAll a qs).1 ++ (d.performAll (d.performAll a qs).2 rs).1,
        (d.performAll (d.performAll a qs).2 rs).2) := by
  induction qs generalizing a with
  | nil => rfl
  | cons q qs ih =>
    rw [List.cons_append, performAll, performAll]
    simp only [ih, List.cons_append]

theorem firstFailure?_append (xs ys : List (Except ε Unit)) :
    firstFailure? (xs ++ ys) = (firstFailure? xs).or (firstFailure? ys) := by
  induction xs with
  | nil => rfl
  | cons x xs ih =>
    cases x with
    | ok => exact ih
    | error e => rfl

theorem firstFailure?_eq_none {outcomes : List (Except ε Unit)} :
    firstFailure? outcomes = none ↔ ∀ x ∈ outcomes, x = .ok () := by
  induction outcomes with
  | nil => exact iff_of_true rfl (List.forall_mem_nil _)
  | cons x outcomes ih =>
    rw [List.forall_mem_cons, ← ih]
    cases x with
    | ok => exact ⟨fun h => ⟨rfl, h⟩, fun h => h.2⟩
    | error e => exact iff_of_false nofun (fun h => nomatch h.1)

theorem firstFailure?_eq_some {outcomes : List (Except ε Unit)} {e : ε} :
    firstFailure? outcomes = some e ↔
      ∃ before after, outcomes = before ++ .error e :: after ∧ ∀ x ∈ before, x = .ok () := by
  induction outcomes with
  | nil =>
    refine iff_of_false nofun ?_
    rintro ⟨before, _, h, _⟩
    cases before <;> cases h
  | cons x outcomes ih =>
    cases x with
    | ok =>
      rw [firstFailure?, ih]
      constructor
      · rintro ⟨before, after, rfl, hbefore⟩
        exact ⟨.ok () :: before, after, rfl, List.forall_mem_cons.mpr ⟨rfl, hbefore⟩⟩
      · rintro ⟨before, after, h, hbefore⟩
        cases before with
        | nil => cases h
        | cons y before =>
          obtain ⟨_, rfl⟩ := List.cons.inj h
          exact ⟨before, after, rfl, (List.forall_mem_cons.mp hbefore).2⟩
    | error f =>
      constructor
      · intro h
        obtain rfl := Option.some.inj h
        exact ⟨[], outcomes, rfl, List.forall_mem_nil _⟩
      · rintro ⟨before, after, h, hbefore⟩
        cases before with
        | nil => cases h; rfl
        | cons y before =>
          obtain ⟨rfl, _⟩ := List.cons.inj h
          cases (List.forall_mem_cons.mp hbefore).1

/-- Writing entries is performing the steps to write them. -/
theorem writeAll_eq (a : τ) (entries : List (String × Except RegistryError Bytes)) :
    d.writeAll a entries =
      (firstFailure? (d.performAll a (entries.map fun e => .write e.1 e.2)).1,
        (d.performAll a (entries.map fun e => .write e.1 e.2)).2) := by
  induction entries generalizing a with
  | nil => rfl
  | cons e entries ih =>
    obtain ⟨path, data⟩ := e
    rw [writeAll, List.map_cons, performAll]
    rcases d.perform a (.write path data) with ⟨outcome, b⟩
    cases outcome with
    | ok => exact ih b
    | error fault => exact congrArg (fun written => (some fault, written.2)) (ih b)

variable [Buffer β] [Serializable μ]

/-- **Finalizing performs all steps** and tells the first failure, if there is any. -/
theorem finalize_eq (d : Device τ) (r : Registry σ δ β) (metadata : μ) (a : τ) :
    d.finalize r metadata a =
      let done := d.performAll a (r.lastSteps metadata)
      (do
        (firstFailure? done.1).elim (.ok ()) .error
        return ⟨r.nodeCounts, ← (d.list done.2 "**").mapError .archive⟩,
      done.2) := by
  rw [Registry.lastSteps_eq, performAll_append, finalize, writeAll_eq]
  generalize d.performAll a ((r.lastWrites metadata).map fun e => .write e.1 e.2) = written
  obtain ⟨outcomes, b⟩ := written
  rcases hclose : d.close b with ⟨closed, c⟩
  have hlast : d.performAll b [.close] = ([closed.mapError .archive], c) := by
    rw [performAll, perform, hclose]
    rfl
  have hfirst : (firstFailure? outcomes).elim (closed.mapError .archive) .error =
      (firstFailure? (outcomes ++ [closed.mapError .archive])).elim (.ok ()) .error := by
    rw [firstFailure?_append]
    cases firstFailure? outcomes with
    | some e => rfl
    | none => cases closed <;> rfl
  simp only [hlast, hclose, hfirst]

/-- Closing is the last step. -/
theorem exists_close (d : Device τ) (r : Registry σ δ β) (metadata : μ) (a : τ) :
    ∃ b, (d.performAll a (r.lastSteps metadata)).2 = (d.close b).2 ∧
      (d.close b).1.mapError .archive ∈ (d.performAll a (r.lastSteps metadata)).1 := by
  rw [Registry.lastSteps_eq, performAll_append]
  exact ⟨_, rfl, List.mem_append_right _ (List.mem_singleton_self _)⟩

/-- How finalizing ends after its steps: what is told, and the device as they leave it. -/
inductive Ends (d : Device τ) (counts : Table String Nat)
    (outcomes : List (Except RegistryError Unit)) (b : τ) : Except RegistryError Summary × τ → Prop
  /-- The first failure is told. -/
  | failed {before after : List (Except RegistryError Unit)} {e : RegistryError}
    (split : outcomes = before ++ .error e :: after) (earlier : ∀ x ∈ before, x = .ok ()) :
    Ends d counts outcomes b (.error e, b)
  | done {paths : List String} (all : ∀ x ∈ outcomes, x = .ok ())
    (list : d.list b "**" = .ok paths) : Ends d counts outcomes b (.ok ⟨counts, paths⟩, b)
  /-- All is done, but the device cannot be listed. -/
  | unlisted {e : PackError} (all : ∀ x ∈ outcomes, x = .ok ())
    (list : d.list b "**" = .error e) : Ends d counts outcomes b (.error (.archive e), b)

theorem ends_finalize (d : Device τ) (r : Registry σ δ β) (metadata : μ) (a : τ) :
    d.Ends r.nodeCounts (d.performAll a (r.lastSteps metadata)).1
      (d.performAll a (r.lastSteps metadata)).2 (d.finalize r metadata a) := by
  rw [finalize_eq]
  generalize d.performAll a (r.lastSteps metadata) = done
  obtain ⟨outcomes, b⟩ := done
  simp only
  cases hfailure : firstFailure? outcomes with
  | some e =>
    obtain ⟨before, after, hsplit, hbefore⟩ := firstFailure?_eq_some.mp hfailure
    exact .failed hsplit hbefore
  | none =>
    have hall := firstFailure?_eq_none.mp hfailure
    cases hlist : d.list b "**" with
    | ok paths => exact .done hall hlist
    | error e => exact .unlisted hall hlist

/-! ## What is asked -/

omit [Buffer β] [Serializable μ] in
theorem performAll_recording (d : Device τ) (a : τ) (asked : List Request) (qs : List LastStep) :
    d.recording.performAll (a, asked) qs =
      ((d.performAll a qs).1, (d.performAll a qs).2, asked ++ qs.filterMap LastStep.request?) := by
  induction qs generalizing a asked with
  | nil => rw [List.filterMap_nil, List.append_nil]; rfl
  | cons q qs ih =>
    have hstep : d.recording.perform (a, asked) q =
        ((d.perform a q).1, (d.perform a q).2, asked ++ q.request?.toList) := by
      match q with
      | .write path (.ok data) => rfl
      | .write path (.error e) => exact congrArg (fun asked => (_, a, asked)) (List.append_nil _).symm
      | .close => rfl
    have hcons : (q :: qs).filterMap LastStep.request? =
        q.request?.toList ++ qs.filterMap LastStep.request? := by
      rw [List.filterMap_cons]
      cases q.request? <;> rfl
    simp only [performAll, hstep, ih, hcons, List.append_assoc]

/-- A record of what is asked changes nothing else. -/
theorem finalize_recording (d : Device τ) (r : Registry σ δ β) (metadata : μ) (a : τ)
    (asked : List Request) :
    d.recording.finalize r metadata (a, asked) =
      ((d.finalize r metadata a).1, (d.finalize r metadata a).2,
        asked ++ (r.lastSteps metadata).filterMap LastStep.request?) := by
  rw [finalize_eq, finalize_eq, performAll_recording]
  rfl

end Device

/-! ## Archives that are guarded -/

section

variable {σ δ β μ : Type} [Archive σ] [GuardedArchive σ] [Buffer β] [Serializable μ]

/-- **Nothing can be written afterwards.** -/
theorem Registry.write_finalize (r : Registry σ δ β) (metadata : μ) (path : String) (data : Bytes) :
    Archive.write (r.finalize metadata).2 path data = .error .closed := by
  obtain ⟨b, hclosed, _⟩ := (Device.ofArchive σ).exists_close r metadata r.archive
  refine GuardedArchive.write_closed path data ?_
  rw [Registry.finalize_ofArchive, Device.finalize_eq, hclosed]
  exact GuardedArchive.isClosed_close b

/-- If nothing fails that is to be done, finalizing does not. -/
theorem Registry.exists_finalize_of_steps {r : Registry σ δ β} {metadata : μ}
    (all : ∀ x ∈ ((Device.ofArchive σ).performAll r.archive (r.lastSteps metadata)).1,
      x = .ok ()) :
    ∃ summary, (r.finalize metadata).1 = .ok summary := by
  obtain ⟨b, hclosed, hmem⟩ := (Device.ofArchive σ).exists_close r metadata r.archive
  have hclose : (Archive.close b).1 = .ok () := Outcome.mapError_eq_ok.mp (all _ hmem)
  obtain ⟨paths, hpaths⟩ := GuardedArchive.list_close (Prod.ext hclose rfl)
  have hlist : (Device.ofArchive σ).list ((Device.ofArchive σ).close b).2 "**" = .ok paths := hpaths
  refine ⟨⟨r.nodeCounts, paths⟩, ?_⟩
  rw [Registry.finalize_ofArchive, Device.finalize_eq]
  simp only [hclosed, Device.firstFailure?_eq_none.mpr all, hlist]
  rfl

end

/-- **What happens at the end, whatever fails.** On any device a registry does the following: it
writes the nodes of each collection in the order of their names, then the metadata, and then it
closes the device, once. Where the lines of a collection or the text of the metadata cannot be made,
that step fails and asks nothing of the device; all others ask what they have to. The first failure
is told; if there is none, all is done. On an archive this is what finalizing does in either stage,
also in a session. Then nothing can be written to archives in memory or in pack files, and it does
not fail if none of these steps does. -/
theorem closed_of_finalize {δ β μ : Type} [Buffer β] [Serializable μ] :
    (∀ (σ τ : Type) (d : Device τ) (r : Registry σ δ β) (metadata : μ) (a : τ),
      r.staged.Ascending ∧
        d.recording.finalize r metadata (a, []) =
          ((d.finalize r metadata a).1, (d.finalize r metadata a).2,
            (r.lastSteps metadata).filterMap LastStep.request?) ∧
        d.Ends r.nodeCounts (d.performAll a (r.lastSteps metadata)).1
          (d.performAll a (r.lastSteps metadata)).2 (d.finalize r metadata a)) ∧
    (∀ (σ : Type) [Archive σ] (r : Registry σ δ β) (metadata : μ),
      r.finalize metadata = (Device.ofArchive σ).finalize r metadata r.archive ∧
        ∀ s : Session σ δ β, s.registry = .ok r → s.finalize metadata =
          ((r.finalize metadata).1, .closed (r.finalize metadata).2)) ∧
    ∀ (σ : Type) [Archive σ] [GuardedArchive σ] (r : Registry σ δ β) (metadata : μ),
      (∀ path data, Archive.write (r.finalize metadata).2 path data = .error .closed) ∧
      ((∀ x ∈ ((Device.ofArchive σ).performAll r.archive (r.lastSteps metadata)).1, x = .ok ()) →
        ∃ summary, (r.finalize metadata).1 = .ok summary) := by
  refine ⟨fun σ τ d r metadata a => ?_, fun σ _ r metadata => ?_, fun σ _ _ r metadata => ?_⟩
  · exact ⟨r.staged_ascending, d.finalize_recording r metadata a [],
      d.ends_finalize r metadata a⟩
  · exact ⟨r.finalize_ofArchive metadata, fun s h => s.finalize_of_registry h metadata⟩
  · exact ⟨r.write_finalize metadata, Registry.exists_finalize_of_steps⟩

/-- What has become of making a text of metadata stands for the metadata. -/
instance : Serializable (Except String Bytes) where
  serialize text := text

/-- The device without some of the paths of another. -/
def Device.refusing {τ : Type} (d : Device τ) (refuses : String → Bool) : Device τ :=
  { d with write := fun a path data =>
      if refuses path then (.error .unreadable, a) else d.write a path data }

/-- A node waits. On an archive in memory all is done. On a device that does not take the nodes, and
with metadata of which no text can be made, both fail, the former is told, and the device is asked
to close all the same. Afterwards it takes nothing. -/
theorem closed_of_finalize_staged : ∃ (n : Node) (r : Registry MemoryArchive),
    r.staged = [("a", [n])] ∧ r.archive.isClosed = false ∧
      (∃ summary, (r.finalize "null").1 = .ok summary) ∧
      ∃ a : MemoryArchive,
        ((Device.ofArchive MemoryArchive).refusing (· == "data/a.json")).recording.finalize r
            (.error "key must be a string" : Except String Bytes) (r.archive, []) =
          (.error (.archive .unreadable), a, [.write "data/a.json" (nodeLines [n]), .close]) ∧
        a.isClosed = true := by
  let n := Node.ofTitle "x" []
  let r : Registry MemoryArchive :=
    ⟨[("a", .single .zero .float none)], [("a", [n])], [("a", 1)], (), .empty,
      List.pairwise_singleton _ _, List.pairwise_singleton _ _, List.pairwise_singleton _ _⟩
  obtain ⟨-, -, hguarded⟩ := closed_of_finalize (δ := Unit) (β := List Node) (μ := String)
  obtain ⟨hdevice, -⟩ := closed_of_finalize (δ := Unit) (β := List Node) (μ := Except String Bytes)
  refine ⟨n, r, rfl, rfl, (hguarded _ r "null").2 ?_, ?_⟩
  · have houtcomes : ((Device.ofArchive MemoryArchive).performAll r.archive
        (r.lastSteps "null")).1.all Except.isOk = true := by decide +kernel
    intro x hx
    have hok := List.all_eq_true.mp houtcomes x hx
    cases x with
    | ok => rfl
    | error e => cases hok
  · let d := (Device.ofArchive MemoryArchive).refusing (· == "data/a.json")
    let metadata : Except String Bytes := .error "key must be a string"
    obtain ⟨-, hrecorded, -⟩ := hdevice MemoryArchive MemoryArchive d r metadata r.archive
    refine ⟨(d.finalize r metadata r.archive).2, ?_, ?_⟩
    · have hpath : dataPath "a" = "data/a.json" := by decide +kernel
      have hsteps : r.lastSteps metadata = [.write "data/a.json" (.ok (nodeLines [n])),
          .write metadataPath (.error (.serialization "key must be a string")), .close] := by
        rw [← hpath]
        rfl
      have htold : (d.finalize r metadata r.archive).1 = .error (.archive .unreadable) := by
        have hrefused : d.perform r.archive (.write "data/a.json" (.ok (nodeLines [n]))) =
            (.error (.archive .unreadable), r.archive) := rfl
        rw [Device.finalize_eq, hsteps]
        simp only [Device.performAll, hrefused, Device.firstFailure?]
        rfl
      rw [hrecorded, htold, hsteps]
      rfl
    · decide +kernel

end CollectionArchive
