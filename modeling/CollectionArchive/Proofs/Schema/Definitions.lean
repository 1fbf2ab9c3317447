import CollectionArchive.Proofs.Json.Rereading
import CollectionArchive.Schema.Basic

/-!
# Definitions are read back

* `Definition.depth`, `Definition.configs`: how deep the brackets of a definition are nested, and
  the configs in it.
* **`Definition.exists_writes`**: the text of a definition is read back where there is room for its
  brackets.
* **`Definition.fits_of_reader`**: a definition that is read is nested no deeper than there was
  room, and has proper configs.
-/

namespace CollectionArchive

open Json (Value Tree)

namespace Definition

/-- How many brackets of a config are open at once. -/
def configDepth (config : Option Json.Object) : Nat :=
  config.elim 0 fun o => (Value.object o).depth

mutual

/-- How many brackets of the definition are open at once. -/
def depth : Definition → Nat
  | ⟨_, _, children, config, _, _, _⟩ => max (childrenDepth children) (configDepth config) + 1

def childrenDepth : Option (List Definition) → Nat
  | none => 0
  | some ds => listDepth ds + 1

def listDepth : List Definition → Nat
  | [] => 0
  | d :: ds => max (depth d) (listDepth ds)

end

mutual

/-- The configs of the definition and of those in it. -/
def configs : Definition → List Json.Object
  | ⟨_, _, children, config, _, _, _⟩ => config.toList ++ childrenConfigs children

def childrenConfigs : Option (List Definition) → List Json.Object
  | none => []
  | some ds => listConfigs ds

def listConfigs : List Definition → List Json.Object
  | [] => []
  | d :: ds => configs d ++ listConfigs ds

end

theorem listDepth_le {ds : List Definition} {n : Nat} :
    listDepth ds ≤ n ↔ ∀ d ∈ ds, d.depth ≤ n := by
  induction ds with
  | nil => simp [listDepth]
  | cons d ds ih => rw [listDepth, Nat.max_le, ih, List.forall_mem_cons]

theorem mem_listConfigs {ds : List Definition} {c : Json.Object} :
    c ∈ listConfigs ds ↔ ∃ d ∈ ds, c ∈ d.configs := by
  induction ds with
  | nil => simp [listConfigs]
  | cons d ds ih => simp [listConfigs, ih]

/-! ## From a definition to its text and back -/

/-- All configs in the definition are read back. -/
def IsReadBack (d : Definition) : Prop :=
  ∀ c ∈ d.configs, (Value.object c).IsReadBack

/-- A tree is read as a value of any shape, and as something by a reader, where there is so much
room. -/
def Reads {α : Type} (read : Json.Reader α) (depth : Nat) (t : Tree) (a : α) : Prop :=
  ∀ room, depth ≤ room → (∃ v, t.value room = .ok v) ∧ read room t = .ok a

theorem exists_writes_text (s : Option String) : ∃ t,
    Tree.Writes (orNull (s.map Json.quotedChars)) t ∧ Reads Json.Reader.text.optional 0 t s := by
  cases s with
  | none => exact ⟨.null, .null, fun _ _ => ⟨⟨_, rfl⟩, rfl⟩⟩
  | some s => exact ⟨.text (some s), .text s, fun _ _ => ⟨⟨_, rfl⟩, rfl⟩⟩

theorem exists_writes_bool (b : Option Bool) : ∃ t,
    Tree.Writes (orNull (b.map Json.boolChars)) t ∧ Reads Json.Reader.bool.optional 0 t b := by
  cases b with
  | none => exact ⟨.null, .null, fun _ _ => ⟨⟨_, rfl⟩, rfl⟩⟩
  | some b => exact ⟨.bool b, .bool b, fun _ _ => ⟨⟨_, rfl⟩, rfl⟩⟩

theorem exists_writes_config (config : Option Json.Object)
    (h : ∀ c ∈ config, (Value.object c).IsReadBack) :
    ∃ t, Tree.Writes (orNull (config.map fun o => (Value.object o).chars)) t ∧
      Reads Json.Reader.object.optional (configDepth config) t config := by
  cases config with
  | none => exact ⟨.null, .null, fun _ _ => ⟨⟨_, rfl⟩, rfl⟩⟩
  | some c =>
    obtain ⟨t, hwrites, hread⟩ := (h c rfl).exists_writes
    refine ⟨t, hwrites, fun room hroom => ⟨⟨_, hread room hroom⟩, ?_⟩⟩
    have hobject := Json.Reader.object_eq_ok.mpr (hread room hroom)
    unfold Json.Reader.optional
    split
    · cases hobject
    · rw [hobject]
      rfl

/-- The fields of a definition are read from its members. -/
theorem exists_writes_of_children {d : Definition} {t : Tree}
    (hconfig : ∀ c ∈ d.config, (Value.object c).IsReadBack)
    (hwrites : Tree.Writes (jsonChildren d.children) t) : ∃ tree, Tree.Writes d.json tree ∧
      ∀ room, configDepth d.config ≤ room → (∃ v, t.value room = .ok v) →
        (∃ v, tree.value (room + 1) = .ok v) ∧ ∀ child,
          childrenReader child room t = .ok d.children →
            (record child).reader (room + 1) tree = .ok d := by
  obtain ⟨title, ident, children, config, hidden, type, propType⟩ := d
  obtain ⟨ti, hwi, hi⟩ := exists_writes_text ident
  obtain ⟨tc, hwc, hc⟩ := exists_writes_config config hconfig
  obtain ⟨th, hwh, hh⟩ := exists_writes_bool hidden
  obtain ⟨tt, hwt, ht⟩ := exists_writes_text type
  obtain ⟨tp, hwp, hp⟩ := exists_writes_text propType
  refine ⟨.object [(some "title", .text (some title)), (some "ident", ti), (some "value", t),
    (some "config", tc), (some "hidden", th), (some "type", tt), (some "prop_type", tp)] none,
    ?_, fun room hroom ⟨v, hv⟩ => ?_⟩
  · exact .braced (.cons ⟨rfl, .text title⟩ (.cons ⟨rfl, hwi⟩ (.cons ⟨rfl, hwrites⟩
      (.cons ⟨rfl, hwc⟩ (.cons ⟨rfl, hwh⟩ (.cons ⟨rfl, hwt⟩ (.cons ⟨rfl, hwp⟩ .nil)))))))
  · obtain ⟨⟨vi, hvi⟩, hi⟩ := hi room (Nat.zero_le _)
    obtain ⟨⟨vc, hvc⟩, hc⟩ := hc room hroom
    obtain ⟨⟨vh, hvh⟩, hh⟩ := hh room (Nat.zero_le _)
    obtain ⟨⟨vt, hvt⟩, ht⟩ := ht room (Nat.zero_le _)
    obtain ⟨⟨vp, hvp⟩, hp⟩ := hp room (Nat.zero_le _)
    have hroom : Tree.enter (room + 1) = .ok room := rfl
    constructor
    · simp only [Tree.value, hroom, Tree.memberValues, Tree.content, hvi, hv, hvc, hvh, hvt, hvp,
        Tree.finish, bind, Except.bind, pure, Except.pure]
      exact ⟨_, rfl⟩
    · intro child hchildren
      refine Json.Record.reader_object (s := ⟨some title, ident, children, config, hidden, type,
        propType⟩) ?_ rfl
      simp [Json.Record.readMembers, record, Tree.content, Json.Reader.text, hi, hchildren, hc, hh,
        ht, hp, bind, Except.bind, pure, Except.pure]

mutual

/-- **The text of a definition is read back** where there is room for its brackets. -/
theorem exists_writes {d : Definition} (h : d.IsReadBack) : ∃ t, Tree.Writes d.json t ∧
    ∀ room, d.depth ≤ room → (∃ v, t.value room = .ok v) ∧
      ∀ levels, room ≤ levels → readWithin levels room t = .ok d := by
  obtain ⟨title, ident, children, config, hidden, type, propType⟩ := d
  have hchildren : ∀ c ∈ childrenConfigs children, (Value.object c).IsReadBack := fun c hc =>
    h c (List.mem_append_right _ hc)
  obtain ⟨t, hwrites, hread⟩ := exists_writes_children hchildren
  have hconfig : ∀ c ∈ config, (Value.object c).IsReadBack := fun c hc =>
    h c (List.mem_append_left _ (Option.mem_toList.mpr hc))
  obtain ⟨tree, htree, hfields⟩ := exists_writes_of_children
    (d := ⟨title, ident, children, config, hidden, type, propType⟩) hconfig hwrites
  refine ⟨tree, htree, fun room hroom => ?_⟩
  rw [depth] at hroom
  obtain ⟨inside, rfl⟩ := Nat.exists_eq_add_of_le' (Nat.le_of_add_left_le hroom)
  obtain ⟨hchildrenDepth, hconfigDepth⟩ := Nat.max_le.mp (Nat.le_of_succ_le_succ hroom)
  obtain ⟨hvalue, hread⟩ := hread inside hchildrenDepth
  obtain ⟨hvalue, hfields⟩ := hfields inside hconfigDepth hvalue
  refine ⟨hvalue, fun levels hlevels => ?_⟩
  cases levels with
  | zero => exact absurd hlevels (Nat.not_succ_le_zero _)
  | succ levels => exact hfields _ (hread levels (by omega))

theorem exists_writes_children {children : Option (List Definition)}
    (h : ∀ c ∈ childrenConfigs children, (Value.object c).IsReadBack) :
    ∃ t, Tree.Writes (jsonChildren children) t ∧ ∀ room, childrenDepth children ≤ room →
      (∃ v, t.value room = .ok v) ∧ ∀ levels, room ≤ levels + 1 →
        childrenReader (readWithin levels) room t = .ok children := by
  cases children with
  | none => exact ⟨.null, .null, fun _ _ => ⟨⟨_, rfl⟩, fun _ _ => rfl⟩⟩
  | some ds =>
    obtain ⟨ts, hwrites, hread⟩ := exists_writes_list
      (show ∀ c ∈ listConfigs ds, (Value.object c).IsReadBack from h)
    refine ⟨.array ts none, .bracketed hwrites, fun room hroom => ?_⟩
    rw [childrenDepth] at hroom
    obtain ⟨inside, rfl⟩ := Nat.exists_eq_add_of_le' (Nat.le_of_add_left_le hroom)
    obtain ⟨⟨vs, hvs⟩, hread⟩ := hread inside (Nat.le_of_succ_le_succ hroom)
    have hvalue : Tree.value (inside + 1) (.array ts none) = .ok (.array vs) := by
      simp only [Tree.value, Tree.enter, hvs, bind, Except.bind]
      rfl
    refine ⟨⟨_, hvalue⟩, fun levels hlevels => ?_⟩
    simp only [childrenReader, Json.Reader.value, hvalue, Json.Reader.list, Tree.enter,
      hread levels (by omega), bind, Except.bind, Tree.finish]
    rfl

theorem exists_writes_list {ds : List Definition}
    (h : ∀ c ∈ listConfigs ds, (Value.object c).IsReadBack) :
    ∃ ts, List.Forall₂ Tree.Writes (jsonList ds) ts ∧ ∀ room, listDepth ds ≤ room →
      (∃ vs, Tree.itemValues room ts = .ok vs) ∧ ∀ levels, room ≤ levels →
        ts.mapM (readWithin levels room) = .ok ds := by
  cases ds with
  | nil => exact ⟨[], .nil, fun _ _ => ⟨⟨_, rfl⟩, fun _ _ => rfl⟩⟩
  | cons d ds =>
    obtain ⟨t, hwrites, hread⟩ := exists_writes (d := d) fun c hc =>
      h c (List.mem_append_left _ hc)
    have hrest : ∀ c ∈ listConfigs ds, (Value.object c).IsReadBack := fun c hc =>
      h c (List.mem_append_right _ hc)
    obtain ⟨ts, hwritten, hreads⟩ := exists_writes_list hrest
    refine ⟨t :: ts, .cons hwrites hwritten, fun room hroom => ?_⟩
    rw [listDepth, Nat.max_le] at hroom
    obtain ⟨⟨v, hv⟩, hread⟩ := hread room hroom.1
    obtain ⟨⟨vs, hvs⟩, hreads⟩ := hreads room hroom.2
    refine ⟨⟨v :: vs, ?_⟩, fun levels hlevels => ?_⟩
    · simp only [Tree.itemValues, hv, hvs, bind, Except.bind]
      rfl
    · rw [List.mapM_cons, hread levels hlevels, hreads levels hlevels]
      rfl

end

/-! ## From a text to its definition -/

/-- A definition that is nested no deeper than there is room, with proper configs. -/
def Fits (room : Nat) (d : Definition) : Prop :=
  d.depth ≤ room ∧ ∀ c ∈ d.configs, (Value.object c).IsProper

/-- What is read of a definition so far is nested no deeper than there is room, with proper
configs. -/
structure Draft.Fits (room : Nat) (s : Draft) : Prop where
  configDepth : configDepth s.config ≤ room
  config : ∀ c ∈ s.config, (Value.object c).IsProper
  childrenDepth : childrenDepth s.children ≤ room
  childrenConfigs : ∀ c ∈ childrenConfigs s.children, (Value.object c).IsProper

theorem Draft.Fits.build {room : Nat} {s : Draft} (h : s.Fits room) {d : Definition}
    (hd : s.build? = some d) : d.Fits (room + 1) := by
  obtain ⟨title, _, rfl⟩ := Option.map_eq_some_iff.mp hd
  refine ⟨Nat.succ_le_succ (Nat.max_le.mpr ⟨h.childrenDepth, h.configDepth⟩), fun c hc => ?_⟩
  rcases List.mem_append.mp hc with hc | hc
  · exact h.config c (Option.mem_toList.mp hc)
  · exact h.childrenConfigs c hc

/-- Children are nested one bracket deeper than each of them. -/
theorem fits_of_childrenReader {child : Json.Reader Definition}
    (hchild : ∀ room t d, child room t = .ok d → d.Fits room) {room : Nat} {t : Tree}
    {children : Option (List Definition)} (h : childrenReader child room t = .ok children) :
    childrenDepth children ≤ room ∧ ∀ c ∈ childrenConfigs children, (Value.object c).IsProper := by
  cases children with
  | none => exact ⟨Nat.zero_le _, fun c hc => absurd hc List.not_mem_nil⟩
  | some ds =>
    have hlist : Json.Reader.list child room t = .ok ds := by
      unfold childrenReader at h
      split at h
      · cases h
      · obtain ⟨_, _, h⟩ := Outcome.bind_eq_ok.mp h
        have hds := Outcome.pure_eq_ok.mp h
        cases hlist : Json.Reader.list child room t with
        | error e =>
          rw [hlist] at hds
          cases hds
        | ok ds' =>
          rw [hlist] at hds
          cases hds
          rfl
    obtain ⟨inside, hroom, hread⟩ := Json.Reader.exists_of_list hlist
    have hfits : ∀ d ∈ ds, d.Fits inside := by
      intro d hd
      obtain ⟨item, hitem⟩ := hread d hd
      exact hchild inside item d hitem
    rw [hroom, childrenDepth, childrenConfigs]
    refine ⟨Nat.succ_le_succ (listDepth_le.mpr fun d hd => (hfits d hd).1), fun c hc => ?_⟩
    obtain ⟨d, hd, hc⟩ := mem_listConfigs.mp hc
    exact (hfits d hd).2 c hc

theorem Draft.fits_of_filled {child : Json.Reader Definition}
    (hchild : ∀ room t d, child room t = .ok d → d.Fits room) {room : Nat} {s : Draft}
    (h : (record child).Filled room s) : s.Fits room := by
  have hobject : ∀ {t : Tree} (c : Json.Object), Json.Reader.object room t = .ok c →
      (Value.object c).IsProper ∧ (Value.object c).depth ≤ room := fun c hc =>
    Tree.isProper_of_value (Json.Reader.object_eq_ok.mp hc)
  induction h with
  | start => exact ⟨Nat.zero_le _, nofun, Nat.zero_le _, nofun⟩
  | fill _ mem read ih =>
    simp only [record, List.mem_cons, List.not_mem_nil, or_false] at mem
    rcases mem with rfl | rfl | rfl | rfl | rfl | rfl | rfl
    all_goals
      obtain ⟨_, hread, hs⟩ := Outcome.bind_eq_ok.mp read
      cases hs
    · exact ⟨ih.1, ih.2, ih.3, ih.4⟩
    · exact ⟨ih.1, ih.2, ih.3, ih.4⟩
    · obtain ⟨hdepth, hconfigs⟩ := fits_of_childrenReader hchild hread
      exact ⟨ih.1, ih.2, hdepth, hconfigs⟩
    · refine ⟨?_, fun c hc => ?_, ih.3, ih.4⟩
      · rename_i config
        cases config with
        | none => exact Nat.zero_le _
        | some c => exact (hobject c (Json.Reader.of_optional hread c rfl)).2
      · exact (hobject c (Json.Reader.of_optional hread c hc)).1
    · exact ⟨ih.1, ih.2, ih.3, ih.4⟩
    · exact ⟨ih.1, ih.2, ih.3, ih.4⟩
    · exact ⟨ih.1, ih.2, ih.3, ih.4⟩

theorem fits_of_readWithin {levels room : Nat} {t : Tree} {d : Definition}
    (h : readWithin levels room t = .ok d) : d.Fits room := by
  induction levels generalizing room t d with
  | zero =>
    obtain ⟨inside, s, rfl, hfilled, hbuild⟩ := Json.Record.reader_eq_ok h
    exact (Draft.fits_of_filled (fun _ _ _ h => by cases h) hfilled).build hbuild
  | succ levels ih =>
    obtain ⟨inside, s, rfl, hfilled, hbuild⟩ := Json.Record.reader_eq_ok h
    exact (Draft.fits_of_filled (fun _ _ _ h => ih h) hfilled).build hbuild

/-- **A definition that is read is nested no deeper than there was room**, and its configs are
proper. -/
theorem fits_of_reader {room : Nat} {t : Tree} {d : Definition} (h : reader room t = .ok d) :
    d.Fits room :=
  fits_of_readWithin h

end Definition

end CollectionArchive
