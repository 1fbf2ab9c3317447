import CollectionArchive.Proofs.Json.Rereading
import CollectionArchive.Proofs.Metadata.Reading

/-!
# Metadata and its text

The text of metadata has no member that is missing, and the members of an attribution are not in the
order of their keys.

* `Attribution.tree`, `Metadata.frontTrees`: the trees of the recommended members.
* `Metadata.readMembers_keep`: members of other names are collected as those of any object are.
* `Metadata.reread?`: metadata with each double replaced by the one that is read from its text.
* **`Metadata.IsProper.parse_value`**, **`Metadata.IsProper.parse_json`**: this is what is read from
  the text of metadata, as an object and as metadata.
-/

namespace CollectionArchive

open Json (Reader Tree Value)
open Json.Record (optionalTree)

/-! ## Members that may be missing -/

theorem forall₂_optionalTree {α : Type} {chars : α → List Char} {tree : α → Tree} {x : Option α}
    (key : String) (h : ∀ a ∈ x, Tree.Writes (chars a) (tree a)) :
    List.Forall₂ Tree.Writes.Member (optionalMember key chars x)
      (optionalTree key (x.map tree)) := by
  cases x with
  | none => exact .nil
  | some a => exact .cons ⟨rfl, h a rfl⟩ .nil

theorem memberValues_optionalTree {α : Type} {tree : α → Tree} {value : α → Value} {room : Nat}
    {x : Option α} (key : String) (h : ∀ a ∈ x, (tree a).value room = .ok (value a)) :
    Tree.memberValues room (optionalTree key (x.map tree)) =
      .ok (optionalValue key (x.map value)) := by
  cases x with
  | none => rfl
  | some a =>
    rw [Option.map_some, optionalTree, Option.toList_some, List.map_singleton, Tree.memberValues,
      h a rfl]
    rfl

theorem memberValues_append {room : Nat} {ms ns : List (Option String × Tree)}
    {vs : List (String × Value)} (h : Tree.memberValues room ms = .ok vs) :
    Tree.memberValues room (ms ++ ns) = (vs ++ ·) <$> Tree.memberValues room ns := by
  induction ms generalizing vs with
  | nil =>
    cases h
    exact (id_map _).symm
  | cons m ms ih =>
    obtain ⟨key, t⟩ := m
    obtain ⟨name, hname, h⟩ := Outcome.bind_eq_ok.mp h
    obtain ⟨v, hv, h⟩ := Outcome.bind_eq_ok.mp h
    obtain ⟨rest, hrest, h⟩ := Outcome.bind_eq_ok.mp h
    cases h
    rw [List.cons_append, Tree.memberValues, hname, hv, ih hrest]
    cases Tree.memberValues room ns <;> rfl

theorem memberValues_append_eq_ok {room : Nat} {ms ns : List (Option String × Tree)}
    {vs ws : List (String × Value)} (hms : Tree.memberValues room ms = .ok vs)
    (hns : Tree.memberValues room ns = .ok ws) :
    Tree.memberValues room (ms ++ ns) = .ok (vs ++ ws) := by
  rw [memberValues_append hms, hns]
  rfl

/-- The tree of a text. -/
def textTree (s : String) : Tree :=
  .text (some s)

theorem memberValues_text (room : Nat) (key : String) (s : Option String) :
    Tree.memberValues room (optionalTree key (s.map textTree)) =
      .ok (optionalValue key (s.map .text)) :=
  memberValues_optionalTree key fun _ _ => rfl

/-! ## Attributions -/

namespace Attribution

/-- The tree of the text of an attribution. -/
def tree (a : Attribution) : Tree :=
  .object (optionalTree "name" (some (textTree a.name)) ++
    (optionalTree "url" (a.url.map textTree) ++ optionalTree "logo" (a.logo.map textTree))) none

theorem writes_tree (a : Attribution) : Tree.Writes a.chars a.tree :=
  .braced (.cons ⟨rfl, .text a.name⟩
    (List.rel_append (forall₂_optionalTree "url" fun s _ => .text s)
      (forall₂_optionalTree "logo" fun s _ => .text s)))

/-- The text of an attribution is read as its object. -/
theorem value_tree (a : Attribution) (room : Nat) : a.tree.value (room + 1) = .ok a.toJson := by
  have hmembers : Tree.memberValues room (optionalTree "name" (some (textTree a.name)) ++
      (optionalTree "url" (a.url.map textTree) ++ optionalTree "logo" (a.logo.map textTree))) =
        .ok a.members :=
    memberValues_append_eq_ok (memberValues_text room "name" (some a.name))
      (memberValues_append_eq_ok (memberValues_text room "url" a.url)
        (memberValues_text room "logo" a.logo))
  rw [tree, Tree.value]
  simp only [Tree.enter, bind, Except.bind, hmembers]
  rfl

/-- The text of an attribution is read as the attribution. -/
theorem reader_tree (a : Attribution) (room : Nat) :
    record.reader (room + 1) a.tree = .ok a := by
  have hskip := record.readMembers_optional (fun _ s _ t => do Tree.skip t; return s) room
  obtain ⟨_, hseen, hname⟩ := hskip "name" rfl List.not_mem_nil (List.forall_mem_nil _)
    (t := some (textTree a.name)) (s := record.start) (e := { name := a.name }) rfl
  obtain ⟨_, hseen, hurl⟩ := hskip "url" rfl (by decide) hseen (t := a.url.map textTree)
    (e := { name := a.name, url := a.url }) (by cases a.url <;> rfl)
  obtain ⟨_, hseen, hlogo⟩ := hskip "logo" rfl (by decide) hseen (t := a.logo.map textTree)
    (e := { name := a.name, url := a.url, logo := a.logo }) (by cases a.logo <;> rfl)
  refine Json.Record.reader_object (s := { name := a.name, url := a.url, logo := a.logo }) ?_ rfl
  rw [hname, hurl, ← List.append_nil (optionalTree "logo" _), hlogo]
  rfl

end Attribution

/-! ## Metadata -/

namespace Metadata

/-- The trees of the recommended members that are there. -/
def frontTrees (m : Metadata) : List (Option String × Tree) :=
  optionalTree "kubun_ident" (m.ident.map textTree) ++
    optionalTree "default_tag" (m.defaultTag.map textTree) ++
    optionalTree "attribution" (m.attribution.map Attribution.tree) ++
    optionalTree "public" (m.isPublic.map Tree.bool)

theorem writes_tree (m : Metadata) {ms : List (Option String × Tree)}
    (h : List.Forall₂ Tree.Writes.Member (Value.memberChars m.others) ms) :
    Tree.Writes m.chars (.object (m.frontTrees ++ ms) none) :=
  .braced (List.rel_append (List.rel_append (List.rel_append (List.rel_append
    (forall₂_optionalTree "kubun_ident" fun s _ => .text s)
    (forall₂_optionalTree "default_tag" fun s _ => .text s))
    (forall₂_optionalTree "attribution" fun a _ => a.writes_tree))
    (forall₂_optionalTree "public" fun b _ => .bool b)) h)

theorem memberValues_frontTrees (m : Metadata) (room : Nat) :
    Tree.memberValues (room + 1) m.frontTrees = .ok m.front := by
  have hattribution : ∀ a ∈ m.attribution, a.tree.value (room + 1) = .ok a.toJson :=
    fun a _ => a.value_tree room
  exact memberValues_append_eq_ok (memberValues_append_eq_ok (memberValues_append_eq_ok
    (memberValues_text _ "kubun_ident" m.ident) (memberValues_text _ "default_tag" m.defaultTag))
    (memberValues_optionalTree "attribution" hattribution))
    (memberValues_optionalTree "public" fun _ _ => rfl)

/-- **Members of other names are collected** as those of any object are. -/
theorem readMembers_keep {ms : List (Option String × Tree)}
    (h : ∀ e ∈ ms, ∀ key ∈ e.1, key ∉ recommended) (room : Nat) (seen : List String)
    (m : Metadata) :
    record.readMembers keep room seen m ms =
      (fun vs => { m with others := vs.foldl (fun o e => o.insert e.1 e.2) m.others }) <$>
        Tree.memberValues room ms := by
  induction ms generalizing m with
  | nil => rfl
  | cons e ms ih =>
    obtain ⟨key, t⟩ := e
    obtain ⟨hkey, hms⟩ := List.forall_mem_cons.mp h
    cases key with
    | none => rfl
    | some key =>
      have hother : (record.fields.find? fun f => f.name == key) = none := by
        rw [List.find?_eq_none]
        intro f hf heq
        exact hkey key rfl (List.mem_map.mpr ⟨f, hf, eq_of_beq heq⟩)
      rw [Json.Record.readMembers, Tree.memberValues]
      simp only [Tree.content, bind, Except.bind, hother, keep, Reader.value]
      cases t.value room with
      | error f => rfl
      | ok v =>
        simp only [pure, Except.pure]
        rw [ih hms]
        cases Tree.memberValues room ms <;> rfl

/-- The recommended members are read, whatever follows. -/
theorem readMembers_frontTrees (m : Metadata) (room : Nat) : ∃ seen, ∀ rest,
    record.readMembers keep (room + 1) [] {} (m.frontTrees ++ rest) =
      record.readMembers keep (room + 1) seen { m with others := [] } rest := by
  have hkeep := record.readMembers_optional keep (room + 1)
  obtain ⟨_, hseen, hident⟩ := hkeep "kubun_ident" rfl List.not_mem_nil (List.forall_mem_nil _)
    (t := m.ident.map textTree) (s := {}) (e := { ident := m.ident }) (by cases m.ident <;> rfl)
  obtain ⟨_, hseen, htag⟩ := hkeep "default_tag" rfl (by decide) hseen
    (t := m.defaultTag.map textTree) (e := { ident := m.ident, defaultTag := m.defaultTag })
    (by cases m.defaultTag <;> rfl)
  have hread : (m.attribution.map Attribution.tree).elim
      (.ok { ident := m.ident, defaultTag := m.defaultTag }) (fun t => do
        return { ident := m.ident, defaultTag := m.defaultTag,
                 attribution := ← Reader.optional Attribution.record.reader (room + 1) t }) =
      (.ok { ident := m.ident, defaultTag := m.defaultTag, attribution := m.attribution } :
        Except Json.Fault Metadata) := by
    cases m.attribution with
    | none => rfl
    | some a =>
      have hoptional : Reader.optional Attribution.record.reader (room + 1) a.tree =
          some <$> Attribution.record.reader (room + 1) a.tree := rfl
      simp only [Option.map_some, Option.elim_some, hoptional, a.reader_tree room]
      rfl
  obtain ⟨_, hseen, hattribution⟩ := hkeep "attribution" rfl (by decide) hseen
    (t := m.attribution.map Attribution.tree) hread
  obtain ⟨seen, _, hpublic⟩ := hkeep "public" rfl (by decide) hseen
    (t := m.isPublic.map Tree.bool) (e := { m with others := [] }) (by cases m.isPublic <;> rfl)
  refine ⟨seen, fun rest => ?_⟩
  rw [frontTrees, List.append_assoc, List.append_assoc, List.append_assoc, hident, htag,
    hattribution, hpublic]

/-! ## Reading it again -/

/-- The metadata with each double replaced by the one that is read from its text; none if one of
these texts is out of range. -/
def reread? (m : Metadata) : Option Metadata :=
  (Value.rereadMembers? m.others).map fun others => { m with others }

/-- Metadata is read back if its doubles are. -/
theorem reread?_eq_some_self (m : Metadata) : m.reread? = some m ↔
    ∀ x ∈ Value.memberDoubles m.others, (Json.Number.double x).IsReadBack := by
  rw [← Value.rereadMembers?_eq_some_self, reread?, Option.map_eq_some_iff]
  constructor
  · rintro ⟨others, hothers, hm⟩
    rw [hothers, ← hm]
  · exact fun h => ⟨m.others, h, rfl⟩

/-- No recommended member is among the others. These are in order, proper, and not nested too deep
to be read. -/
structure IsProper (m : Metadata) : Prop extends m.Separates where
  each : ∀ e ∈ m.others, e.2.IsProper
  shallow : Value.memberDepth m.others + 1 ≤ Reader.maxDepth

variable {m : Metadata}

theorem IsProper.reread? (h : m.IsProper) {n : Metadata} (hn : m.reread? = some n) :
    n.Separates := by
  obtain ⟨others, hothers, rfl⟩ := Option.map_eq_some_iff.mp hn
  refine ⟨Value.ascending_rereadMembers? hothers h.ascending, fun key hkey => ?_⟩
  rw [Value.get?_rereadMembers? hothers, h.lacks key hkey]
  rfl

/-- The tree that the text of metadata writes, and what its last members are read as. -/
theorem IsProper.exists_writes (h : m.IsProper) : ∃ room ms, room + 2 = Reader.maxDepth ∧
    Tree.ofText m.json = (.object (m.frontTrees ++ ms) none, false) ∧
    (∀ e ∈ ms, ∀ key ∈ e.1, key ∉ recommended) ∧
    Tree.memberValues (room + 1) ms = Json.orMalformed (Value.rereadMembers? m.others) := by
  obtain ⟨ms, hwrites, hvalues⟩ := Value.exists_writes_rereadMembers fun e he =>
    (h.each e he).exists_writes_reread
  refine ⟨125, ms, rfl, Tree.ofText_of_writes (m.writes_tree hwrites), fun e he key hkey => ?_,
    hvalues _ (Nat.le_of_succ_le_succ h.shallow)⟩
  obtain ⟨part, hpart, hname, _⟩ := Outcome.exists_of_forall₂ hwrites he
  rw [Value.memberChars_eq_map] at hpart
  obtain ⟨e', he', rfl⟩ := List.mem_map.mp hpart
  rw [hname] at hkey
  cases hkey
  intro hrecommended
  have hfound := Table.mem_keys.mp (List.mem_map_of_mem he')
  rw [h.lacks _ hrecommended] at hfound
  cases hfound

/-- **The object that is read from the text of metadata.** -/
theorem IsProper.parse_value (h : m.IsProper) :
    Json.parse m.json = Json.orMalformed (m.reread?.map toJson) := by
  obtain ⟨room, ms, hroom, htree, hkeys, hvalues⟩ := h.exists_writes
  rw [Json.parse, Reader.parse, htree, ← hroom]
  simp only [Reader.value, Tree.value, Tree.enter, bind, Except.bind,
    memberValues_append (m.memberValues_frontTrees room), hvalues]
  rw [Metadata.reread?]
  cases Value.rereadMembers? m.others <;> rfl

/-- **The metadata that is read from the text of metadata.** -/
theorem IsProper.parse_json (h : m.IsProper) : parse m.json = Json.orMalformed m.reread? := by
  obtain ⟨room, ms, hroom, htree, hkeys, hvalues⟩ := h.exists_writes
  obtain ⟨seen, hfront⟩ := m.readMembers_frontTrees room
  have hmembers : record.readMembers keep (room + 1) [] {} (m.frontTrees ++ ms) =
      Json.orMalformed m.reread? := by
    rw [hfront, readMembers_keep hkeys, hvalues, Metadata.reread?]
    cases hread : Value.rereadMembers? m.others with
    | none => rfl
    | some read =>
      have hothers := Table.ofList_of_ascending (Value.ascending_rereadMembers? hread h.ascending)
      exact congrArg (fun others => Except.ok { m with others }) hothers
  rw [parse, Reader.parse, htree, ← hroom, reader]
  have hstart : record.start = ({} : Metadata) := rfl
  simp only [Json.Record.openReader, Tree.enter, bind, Except.bind, hstart, hmembers]
  cases m.reread? <;> rfl

end Metadata

end CollectionArchive
