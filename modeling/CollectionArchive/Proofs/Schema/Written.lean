import CollectionArchive.Proofs.Identifier.Written
import CollectionArchive.Proofs.Schema.Definitions

/-!
# Schemata are read back

* `Property.IsBuilt`: what the ways to build properties yield.
* **`Property.IsValid.ofDefinition_definition`**: a property that was built is built again from its
  definition.
* `Schema.IsBuilt`: what the ways to build schemata yield, if it can be printed.
* **`Schema.IsBuilt.parse_json`**: such a schema is read back from its text.
-/

namespace CollectionArchive

open Json (Value Tree)

theorem Kind.ofName?_name (k : Kind) : ofName? k.name = some k := by
  cases k <;> rfl

namespace Property

/-- What the ways to build properties yield. -/
inductive IsBuilt : Property → Prop
  | ofDefinition {d : Definition} {p : Property} (h : ofDefinition d = .ok p) : IsBuilt p
  | leaf {title : String} {ident : Identifier} {kind : Kind} {config : Option Json.Object}
    {p : Property} (h : leaf? title ident kind config = .ok p) : IsBuilt p
  | boxed (title : String) {children : List Property} (h : ∀ c ∈ children, IsBuilt c) :
    IsBuilt (boxed title children)
  | hide {p : Property} (h : IsBuilt p) : IsBuilt p.hide

/-- The configs of all leaves keep to the grammars of their kinds. -/
inductive IsValid : Property → Prop
  | leaf {title : String} {ident : Identifier} {kind : LeafKind} {config : Option Json.Object}
    {hidden : Bool} (h : checkConfig title kind config = .ok ()) :
    IsValid (leaf title ident kind config hidden)
  | box {title : String} {config : Option Json.Object} {hidden : Bool} {children : List Property}
    (h : ∀ c ∈ children, IsValid c) : IsValid (box title config hidden children)

/-- A definition is that of a leaf with a config of its kind, or of a box. -/
theorem ofDefinition_eq_ok {d : Definition} {p : Property} (h : ofDefinition d = .ok p) :
    (∃ i kind, checkConfig d.title kind.val d.config = .ok () ∧
      p = .leaf d.title i kind d.config (d.hidden.getD false)) ∨
    ∃ ds built, d.children = some ds ∧ ofDefinitions ds = .ok built ∧
      p = .box d.title d.config (d.hidden.getD false) built := by
  obtain ⟨title, ident, children, config, hidden, type, propType⟩ := d
  rw [ofDefinition] at h
  obtain ⟨kind, _, h⟩ := Outcome.bind_eq_ok.mp h
  split_ifs at h with hkind hident
  · refine .inl ?_
    unfold leafOfDefinition at h
    split at h
    · cases h
    · obtain ⟨i, _, h⟩ := Outcome.bind_eq_ok.mp h
      obtain ⟨_, hconfig, h⟩ := Outcome.bind_eq_ok.mp h
      cases h
      exact ⟨i, ⟨kind, hkind⟩, hconfig, rfl⟩
  · refine .inr ?_
    obtain ⟨built, hbuilt, h⟩ := Outcome.bind_eq_ok.mp h
    obtain ⟨_, _, h⟩ := Outcome.bind_eq_ok.mp h
    cases h
    cases children with
    | none => cases hbuilt
    | some ds => exact ⟨ds, built, rfl, hbuilt, rfl⟩

mutual

/-- What is built from a definition is valid, and its own definition holds no more. -/
theorem isValid_of_ofDefinition {d : Definition} {p : Property} (h : ofDefinition d = .ok p) :
    p.IsValid ∧ p.definition.depth ≤ d.depth ∧ p.definition.configs ⊆ d.configs := by
  obtain ⟨i, kind, hconfig, rfl⟩ | ⟨ds, built, hds, hbuilt, rfl⟩ := ofDefinition_eq_ok h
  · obtain ⟨title, ident, children, config, hidden, type, propType⟩ := d
    refine ⟨.leaf hconfig, ?_, ?_⟩
    · exact Nat.succ_le_succ (Nat.max_le.mpr ⟨Nat.zero_le _, Nat.le_max_right _ _⟩)
    · intro c hc
      rcases List.mem_append.mp hc with hc | hc
      · exact List.mem_append_left _ hc
      · cases hc
  · obtain ⟨title, ident, children, config, hidden, type, propType⟩ := d
    obtain rfl : children = some ds := hds
    obtain ⟨hvalid, hdepth, hconfigs⟩ := isValid_of_ofDefinitions hbuilt
    refine ⟨.box hvalid, ?_, ?_⟩
    · refine Nat.succ_le_succ (Nat.max_le.mpr ⟨?_, Nat.le_max_right _ _⟩)
      exact Nat.le_trans (Nat.succ_le_succ hdepth) (Nat.le_max_left _ _)
    · exact List.append_subset.mpr ⟨List.subset_append_left _ _,
        List.Subset.trans hconfigs (List.subset_append_right _ _)⟩

theorem isValid_of_ofDefinitions {ds : List Definition} {ps : List Property}
    (h : ofDefinitions ds = .ok ps) : (∀ p ∈ ps, p.IsValid) ∧
      Definition.listDepth (definitions ps) ≤ Definition.listDepth ds ∧
        Definition.listConfigs (definitions ps) ⊆ Definition.listConfigs ds := by
  cases ds with
  | nil =>
    cases h
    exact ⟨nofun, Nat.le_refl _, List.Subset.refl _⟩
  | cons d ds =>
    rw [ofDefinitions] at h
    obtain ⟨p, hp, h⟩ := Outcome.bind_eq_ok.mp h
    obtain ⟨ps, hps, h⟩ := Outcome.bind_eq_ok.mp h
    cases h
    obtain ⟨hvalid, hdepth, hconfigs⟩ := isValid_of_ofDefinition hp
    obtain ⟨hvalids, hdepths, hallConfigs⟩ := isValid_of_ofDefinitions hps
    refine ⟨List.forall_mem_cons.mpr ⟨hvalid, hvalids⟩, ?_, ?_⟩
    · exact Nat.max_le.mpr ⟨Nat.le_trans hdepth (Nat.le_max_left _ _),
        Nat.le_trans hdepths (Nat.le_max_right _ _)⟩
    · exact List.append_subset.mpr ⟨List.Subset.trans hconfigs (List.subset_append_left _ _),
        List.Subset.trans hallConfigs (List.subset_append_right _ _)⟩

end

theorem IsValid.hide {p : Property} (h : p.IsValid) : p.hide.IsValid := by
  cases h with
  | leaf h => exact .leaf h
  | box h => exact .box h

/-- Whatever is built is valid. -/
theorem IsBuilt.isValid {p : Property} (h : p.IsBuilt) : p.IsValid := by
  induction h with
  | ofDefinition h => exact (isValid_of_ofDefinition h).1
  | leaf h =>
    unfold leaf? at h
    split_ifs at h
    obtain ⟨_, hconfig, h⟩ := Outcome.bind_eq_ok.mp h
    cases h
    exact .leaf hconfig
  | boxed title _ ih => exact .box ih
  | hide _ ih => exact ih.hide

/-- **A valid property is built again from its definition.** -/
theorem IsValid.ofDefinition_definition {p : Property} (h : p.IsValid) :
    ofDefinition p.definition = .ok p := by
  induction h with
  | @leaf title ident kind config hidden h =>
    have hkind : definedKind title none (some kind.val.name) = .ok kind.val := by
      simp [definedKind, resolveKind, Kind.ofName?_name, kind.property, bind, Except.bind, pure,
        Except.pure]
    simp only [definition, ofDefinition, hkind, bind, Except.bind]
    rw [dif_pos kind.property]
    simp [leafOfDefinition, Identifier.parse_text, Except.mapError, h, bind, Except.bind, pure,
      Except.pure]
  | @box title config hidden children hvalid ih =>
    have hchildren : ofDefinitions (definitions children) = .ok children := by
      clear hvalid
      induction children with
      | nil => rfl
      | cons p ps ihp =>
        rw [definitions, ofDefinitions, ih p List.mem_cons_self,
          ihp fun q hq => ih q (List.mem_cons_of_mem p hq)]
        rfl
    have hkind : definedKind title (some Kind.box.name) none = .ok .box := by
      simp [definedKind, resolveKind, Kind.ofName?_name, Kind.isBox, bind, Except.bind, pure,
        Except.pure]
    simp only [definition, ofDefinition, hkind, ofChildren, hchildren, bind, Except.bind]
    rfl

end Property

/-! ## Schemata -/

namespace SchemaDefinition

/-- How many brackets of the text are open at once. -/
def depth (d : SchemaDefinition) : Nat :=
  max d.main.depth d.mini.depth + 1

/-- All configs. -/
def configs (d : SchemaDefinition) : List Json.Object :=
  d.main.configs ++ d.mini.configs

end SchemaDefinition

namespace Schema

/-- A schema is made of its own trees. -/
theorem ofTrees_self (s : Schema) : ofTrees s.main s.mini = .ok s := by
  rw [ofTrees, dif_pos s.main_isBox, dif_pos s.mini_isBox]
  split
  · rename_i table h
    obtain ⟨main, mini, table', hmain, hmini, htable⟩ := s
    obtain rfl := Except.ok.inj (h.symm.trans htable)
    rfl
  · rename_i h
    rw [s.addAll_main] at h
    cases h

theorem ofTrees_eq_ok {main mini : Property} {s : Schema} (h : ofTrees main mini = .ok s) :
    s.main = main ∧ s.mini = mini := by
  unfold ofTrees at h
  split_ifs at h
  split at h
  · cases h
    exact ⟨rfl, rfl⟩
  · cases h

/-- **A schema of valid properties is read back from its text**, if that is nested no deeper than a
reader goes and all its configs are read back. -/
theorem parse_json_of_isValid {s : Schema} (hmain : s.main.IsValid) (hmini : s.mini.IsValid)
    (hdepth : s.definition.depth ≤ Json.Reader.maxDepth)
    (hconfigs : ∀ c ∈ s.definition.configs, (Value.object c).IsReadBack) :
    parse s.json = .ok s := by
  obtain ⟨hmainDepth, hminiDepth⟩ := Nat.max_le.mp (Nat.le_of_succ_le_succ hdepth)
  obtain ⟨t, hwt, ht⟩ := Definition.exists_writes (d := s.main.definition) fun c hc =>
    hconfigs c (List.mem_append_left _ hc)
  obtain ⟨u, hwu, hu⟩ := Definition.exists_writes (d := s.mini.definition) fun c hc =>
    hconfigs c (List.mem_append_right _ hc)
  have hmainRead : Definition.reader 126 t = .ok s.main.definition :=
    (ht 126 hmainDepth).2 126 (Nat.le_refl _)
  have hminiRead : Definition.reader 126 u = .ok s.mini.definition :=
    (hu 126 hminiDepth).2 126 (Nat.le_refl _)
  have hwrites : Tree.Writes (definitionChars s.definition)
      (.object [(some "main", t), (some "mini", u)] none) :=
    .braced (.cons ⟨rfl, hwt⟩ (.cons ⟨rfl, hwu⟩ .nil))
  have hread : record.reader.parse s.json = .ok s.definition := by
    refine Json.Reader.parse_eq_ok.mpr ?_
    rw [json, Tree.ofText_of_writes hwrites]
    refine ⟨Json.Record.reader_object
      (s := (some s.main.definition, some s.mini.definition)) ?_ rfl, rfl⟩
    simp [Json.Record.readMembers, record, Tree.content, hmainRead, hminiRead, bind, Except.bind,
      pure, Except.pure]
  rw [parse, hread]
  simp only [Except.mapError, ofDefinition, definition, hmain.ofDefinition_definition,
    hmini.ofDefinition_definition, bind, Except.bind]
  exact s.ofTrees_self

/-- A schema of which all doubles are read back. -/
def DoublesReadBack (s : Schema) : Prop :=
  ∀ c ∈ s.definition.configs, ∀ x ∈ (Value.object c).doubles, (Json.Number.double x).IsReadBack

/-- A schema whose text is nested no deeper than a reader goes. The keys of its configs ascend, and
their integers have 64 bits. -/
structure IsPrintable (s : Schema) : Prop where
  depth : s.definition.depth ≤ Json.Reader.maxDepth
  configs : ∀ c ∈ s.definition.configs, (Value.object c).IsProper

/-- The schemata that are read from a text, and the printable ones that are built from a definition
or from trees. -/
inductive IsBuilt : Schema → Prop
  | parsed {text : String} {s : Schema} (h : parse text = .ok s) : IsBuilt s
  | ofDefinition {d : SchemaDefinition} {s : Schema} (h : ofDefinition d = .ok s)
    (printable : s.IsPrintable) : IsBuilt s
  | ofTrees {main mini : Property} {s : Schema} (hmain : main.IsBuilt) (hmini : mini.IsBuilt)
    (h : ofTrees main mini = .ok s) (printable : s.IsPrintable) : IsBuilt s

/-- The trees of a schema are built from those of its definition, and hold no more. -/
theorem isValid_of_ofDefinition {d : SchemaDefinition} {s : Schema} (h : ofDefinition d = .ok s) :
    s.main.IsValid ∧ s.mini.IsValid ∧ s.definition.depth ≤ d.depth ∧
      s.definition.configs ⊆ d.configs := by
  obtain ⟨main, hmain, h⟩ := Outcome.bind_eq_ok.mp h
  obtain ⟨mini, hmini, h⟩ := Outcome.bind_eq_ok.mp h
  obtain ⟨rfl, rfl⟩ := ofTrees_eq_ok h
  obtain ⟨hmainValid, hmainDepth, hmainConfigs⟩ := Property.isValid_of_ofDefinition hmain
  obtain ⟨hminiValid, hminiDepth, hminiConfigs⟩ := Property.isValid_of_ofDefinition hmini
  refine ⟨hmainValid, hminiValid, Nat.succ_le_succ (Nat.max_le.mpr ⟨?_, ?_⟩), ?_⟩
  · exact Nat.le_trans hmainDepth (Nat.le_max_left _ _)
  · exact Nat.le_trans hminiDepth (Nat.le_max_right _ _)
  · exact List.append_subset.mpr ⟨List.Subset.trans hmainConfigs (List.subset_append_left _ _),
      List.Subset.trans hminiConfigs (List.subset_append_right _ _)⟩

theorem fits_of_filled {room : Nat} {found : Option Definition × Option Definition}
    (h : record.Filled room found) :
    (∀ d ∈ found.1, Definition.Fits room d) ∧ ∀ d ∈ found.2, Definition.Fits room d := by
  induction h with
  | start => exact ⟨nofun, nofun⟩
  | fill _ mem read ih =>
    simp only [record, List.mem_cons, List.not_mem_nil, or_false] at mem
    rcases mem with rfl | rfl
    · obtain ⟨d, hd, hfound⟩ := Outcome.bind_eq_ok.mp read
      cases hfound
      refine ⟨fun d' hd' => ?_, ih.2⟩
      obtain rfl := Option.some.inj hd'
      exact Definition.fits_of_reader hd
    · obtain ⟨d, hd, hfound⟩ := Outcome.bind_eq_ok.mp read
      cases hfound
      refine ⟨ih.1, fun d' hd' => ?_⟩
      obtain rfl := Option.some.inj hd'
      exact Definition.fits_of_reader hd

/-- A definition that is read is nested no deeper than a reader goes, and has proper configs. -/
theorem fits_of_parse {text : String} {d : SchemaDefinition}
    (h : record.reader.parse text = .ok d) :
    d.depth ≤ Json.Reader.maxDepth ∧ ∀ c ∈ d.configs, (Value.object c).IsProper := by
  obtain ⟨inside, found, hinside, hfilled, hbuild⟩ :=
    Json.Record.reader_eq_ok (Json.Reader.parse_eq_ok.mp h).1
  obtain ⟨hfitsMain, hfitsMini⟩ := fits_of_filled hfilled
  obtain ⟨main, hmain, hbuild⟩ := Option.bind_eq_some_iff.mp hbuild
  obtain ⟨mini, hmini, hbuild⟩ := Option.bind_eq_some_iff.mp hbuild
  cases hbuild
  obtain ⟨hmainDepth, hmainConfigs⟩ := hfitsMain main hmain
  obtain ⟨hminiDepth, hminiConfigs⟩ := hfitsMini mini hmini
  rw [hinside]
  refine ⟨Nat.succ_le_succ (Nat.max_le.mpr ⟨hmainDepth, hminiDepth⟩), fun c hc => ?_⟩
  exact (List.mem_append.mp hc).elim (hmainConfigs c) (hminiConfigs c)

/-- **Whatever way a schema is built, its properties are valid and it is printable.** -/
theorem IsBuilt.isPrintable {s : Schema} (h : s.IsBuilt) :
    s.main.IsValid ∧ s.mini.IsValid ∧ s.IsPrintable := by
  cases h with
  | parsed h =>
    obtain ⟨d, hd, h⟩ := Outcome.bind_eq_ok.mp h
    obtain ⟨hdepth, hconfigs⟩ := fits_of_parse (Outcome.mapError_eq_ok.mp hd)
    obtain ⟨hmain, hmini, hless, hsubset⟩ := isValid_of_ofDefinition h
    exact ⟨hmain, hmini, Nat.le_trans hless hdepth, fun c hc => hconfigs c (hsubset hc)⟩
  | ofDefinition h printable =>
    obtain ⟨hmain, hmini, _⟩ := isValid_of_ofDefinition h
    exact ⟨hmain, hmini, printable⟩
  | ofTrees hmain hmini h printable =>
    obtain ⟨rfl, rfl⟩ := ofTrees_eq_ok h
    exact ⟨hmain.isValid, hmini.isValid, printable⟩

/-- **A schema is read back from its text**, however it was built. -/
theorem IsBuilt.parse_json {s : Schema} (h : s.IsBuilt) (doubles : s.DoublesReadBack) :
    parse s.json = .ok s := by
  obtain ⟨hmain, hmini, hdepth, hconfigs⟩ := h.isPrintable
  exact parse_json_of_isValid hmain hmini hdepth fun c hc => ⟨hconfigs c hc, doubles c hc⟩

end Schema

end CollectionArchive
