import CollectionArchive.Proofs.Json.Records
import CollectionArchive.Proofs.Metadata.Members

/-!
# Metadata is what its text tells

Metadata is read from a text member by member, and from an object by looking its members up. What is
read of an attribution is not all that the text may have in it: members of other names are skipped,
and need not even be values.

* `Attribution.Told`, `Metadata.Told`: the values that are told under a key.
* `Metadata.IsTextOf`: the text tells an object; `Metadata.isTextOf_of_parse`: so it does if it is
  read as that object.
* **`Metadata.exists_isTextOf`**, **`Metadata.IsTextOf.ofJson?_eq`**: metadata that is read from a
  text is that of the object that the text tells.
-/

namespace CollectionArchive

open Json (Reader Tells Tree Value)

/-! ## Texts and truth values -/

namespace Metadata

variable {room : Nat} {t : Tree}

theorem exists_value_text {s : String} (h : Reader.text room t = .ok s) :
    t.value room = .ok (.text s) := by
  cases t with
  | text content =>
    cases content with
    | none => cases h
    | some content =>
      cases h
      rfl
  | null | bool | number | array | object | broken => cases h

theorem exists_value_optional_text {s : Option String}
    (h : Reader.text.optional room t = .ok s) :
    ∃ v, t.value room = .ok v ∧ textOrNull? (some v) = some s := by
  rcases Reader.null_or_of_optional h with ⟨rfl, rfl⟩ | ⟨s, hs, rfl⟩
  · exact ⟨.null, rfl, rfl⟩
  · exact ⟨.text s, exists_value_text hs, rfl⟩

theorem exists_value_optional_bool {b : Option Bool}
    (h : Reader.bool.optional room t = .ok b) :
    ∃ v, t.value room = .ok v ∧ boolOrNull? (some v) = some b := by
  cases t with
  | null =>
    cases h
    exact ⟨.null, rfl, rfl⟩
  | bool b =>
    cases h
    exact ⟨.bool b, rfl, rfl⟩
  | number | text | array | object | broken => cases h

end Metadata

/-! ## Attributions -/

namespace Attribution

open Metadata (attribution? textOrNull?)

variable {room : Nat} {t : Tree}

/-- The values that the tree of an attribution tells: the value that it is, or that of an object
without some of the members that are not read. -/
inductive Told (room : Nat) (t : Tree) : Value → Prop
  | value {v : Value} (value : t.value room = .ok v) : Told room t v
  | object {inside : Nat} {ms : List (Option String × Tree)} {vs : List (String × Value)}
    (enter : room = inside + 1) (tree : t = .object ms none)
    (tells : Tells (fun _ t v => t.value inside = .ok v) (· ∉ names) ms vs) :
    Told room t (.object (Table.ofList vs))

theorem notMem_names {key : String} (h : ∀ f ∈ record.fields, f.name ≠ key) : key ∉ names := by
  intro hmem
  obtain ⟨f, hf, hname⟩ := List.mem_map.mp hmem
  exact h f hf hname

/-- What has been read of an attribution is found in an object. -/
structure Draft.IsFoundIn (d : Draft) (o : Json.Object) : Prop where
  name : o.get? "name" = d.name.map .text
  url : textOrNull? (o.get? "url") = some d.url
  logo : textOrNull? (o.get? "logo") = some d.logo

theorem Draft.IsFoundIn.insert {d d' : Draft} {o : Json.Object} {f : Json.Field Draft} {v : Value}
    (h : d.IsFoundIn o) (hf : f ∈ record.fields) (hfill : f.fill d room t = .ok d')
    (hv : t.value room = .ok v) : d'.IsFoundIn (o.insert f.name v) := by
  rcases List.mem_cons.mp hf with rfl | hf
  · obtain ⟨s, hs, hd⟩ := Outcome.bind_eq_ok.mp hfill
    cases hd
    obtain rfl := Except.ok.inj (hv.symm.trans (Metadata.exists_value_text hs))
    constructor
    · rw [Table.get?_insert, if_pos rfl]
      rfl
    · rw [Table.get?_insert, if_neg (by decide)]
      exact h.url
    · rw [Table.get?_insert, if_neg (by decide)]
      exact h.logo
  obtain ⟨s, hs, hd⟩ : ∃ s, Reader.text.optional room t = .ok s ∧
      ((f.name = "url" ∧ d' = { d with url := s }) ∨
        (f.name = "logo" ∧ d' = { d with logo := s })) := by
    rcases List.mem_cons.mp hf with rfl | hf
    · obtain ⟨s, hs, hd⟩ := Outcome.bind_eq_ok.mp hfill
      exact ⟨s, hs, .inl ⟨rfl, (Except.ok.inj hd).symm⟩⟩
    · obtain rfl := List.mem_singleton.mp hf
      obtain ⟨s, hs, hd⟩ := Outcome.bind_eq_ok.mp hfill
      exact ⟨s, hs, .inr ⟨rfl, (Except.ok.inj hd).symm⟩⟩
  obtain ⟨w, hw, htext⟩ := Metadata.exists_value_optional_text hs
  obtain rfl := Except.ok.inj (hv.symm.trans hw)
  rcases hd with ⟨hname, rfl⟩ | ⟨hname, rfl⟩
  all_goals rw [hname]
  · constructor
    · rw [Table.get?_insert, if_neg (by decide)]
      exact h.name
    · rw [Table.get?_insert, if_pos rfl]
      exact htext
    · rw [Table.get?_insert, if_neg (by decide)]
      exact h.logo
  · constructor
    · rw [Table.get?_insert, if_neg (by decide)]
      exact h.name
    · rw [Table.get?_insert, if_neg (by decide)]
      exact h.url
    · rw [Table.get?_insert, if_pos rfl]
      exact htext

theorem Draft.IsFoundIn.insert_other {d : Draft} {o : Json.Object} {key : String}
    (h : d.IsFoundIn o) (hkey : key ∉ names) (v : Value) : d.IsFoundIn (o.insert key v) := by
  have hne : ∀ name ∈ names, ¬ key = name := fun name hname heq => hkey (heq ▸ hname)
  constructor
  · rw [Table.get?_insert, if_neg (hne _ (by decide))]
    exact h.name
  · rw [Table.get?_insert, if_neg (hne _ (by decide))]
    exact h.url
  · rw [Table.get?_insert, if_neg (hne _ (by decide))]
    exact h.logo

/-- The attribution that is read from an object is the one that the object is. -/
theorem attribution?_of_readMembers {inside : Nat} {ms : List (Option String × Tree)}
    {vs : List (String × Value)}
    (htells : Tells (fun _ t v => t.value inside = .ok v) (· ∉ names) ms vs) {d : Draft}
    (h : record.readMembers (fun _ s _ t => do Tree.skip t; return s) inside [] record.start ms =
      .ok d) {a : Attribution} (ha : record.build? d = some a) :
    attribution? (.object (Table.ofList vs)) = some a := by
  have hfound : d.IsFoundIn (Table.ofList vs) := by
    refine Json.Record.of_tells (R := Draft.IsFoundIn) ?_ ?_ ?_ ?_ htells ⟨rfl, rfl, rfl⟩ h
    · intro f hf s s' t v o hfill hv hs
      exact hs.insert hf hfill hv
    · intro key s s' t v o hkey hskip hv hs
      obtain ⟨_, _, hsame⟩ := Outcome.bind_eq_ok.mp hskip
      cases hsame
      exact hs.insert_other (notMem_names hkey) v
    · intro key s s' t o _ _ hskip hs
      obtain ⟨_, _, hsame⟩ := Outcome.bind_eq_ok.mp hskip
      cases hsame
      exact hs
    · intro f hf hnames
      exact hnames (List.mem_map_of_mem hf)
  obtain ⟨name, hname, rfl⟩ := Option.map_eq_some_iff.mp ha
  refine Metadata.attribution?_object_eq_some.mpr ⟨?_, hfound.url, hfound.logo⟩
  rw [hfound.name, hname]
  rfl

/-- A text that may be missing at the end of an array. -/
theorem readItems_text {inside : Nat} {ending : Option Json.Flaw} {f : Json.Field Draft}
    {fs : List (Json.Field Draft)} (set : Draft → Option String → Draft)
    (hf : f.fill = fun d room t => return set d (← Reader.text.optional room t)) {d d' : Draft}
    {items : List Tree}
    (h : Json.Record.readItems inside ending d (f :: fs) items = .ok d') :
    (items = [] ∧ ending = none ∧ d' = d) ∨ ∃ t rest s v, items = t :: rest ∧
      t.value inside = .ok v ∧ textOrNull? (some v) = some s ∧
        Json.Record.readItems inside ending (set d s) fs rest = .ok d' := by
  cases items with
  | nil =>
    obtain ⟨⟨⟩, hending, h⟩ := Outcome.bind_eq_ok.mp h
    exact .inl ⟨rfl, Tree.finish_eq_ok.mp hending, (Except.ok.inj h).symm⟩
  | cons t rest =>
    obtain ⟨d₁, hfill, h⟩ := Outcome.bind_eq_ok.mp h
    rw [hf] at hfill
    obtain ⟨s, hs, hd⟩ := Outcome.bind_eq_ok.mp hfill
    cases hd
    obtain ⟨v, hv, htext⟩ := Metadata.exists_value_optional_text hs
    exact .inr ⟨t, rest, s, v, rfl, hv, htext, h⟩

/-- The attribution that is read from an array is the one that the array is. -/
theorem attribution?_of_readItems {inside : Nat} {items : List Tree} {ending : Option Json.Flaw}
    {d : Draft}
    (h : Json.Record.readItems inside ending record.start record.fields items = .ok d)
    {a : Attribution} (ha : record.build? d = some a) :
    ending = none ∧ ∃ vs, Tree.itemValues inside items = .ok vs ∧
      attribution? (.array vs) = some a := by
  cases items with
  | nil =>
    obtain ⟨_, _, h⟩ := Outcome.bind_eq_ok.mp h
    cases h
    cases ha
  | cons t items =>
    obtain ⟨d₁, hfill, h⟩ := Outcome.bind_eq_ok.mp h
    obtain ⟨name, hread, hd⟩ := Outcome.bind_eq_ok.mp hfill
    cases hd
    have hname := Metadata.exists_value_text hread
    rcases readItems_text (fun d s => { d with url := s }) rfl h with
      ⟨rfl, rfl, rfl⟩ | ⟨t₁, items, url, v₁, rfl, hv₁, hurl, h⟩
    · cases ha
      refine ⟨rfl, [.text name], ?_, rfl⟩
      simp only [Tree.itemValues, hname, bind, Except.bind]
      rfl
    rcases readItems_text (fun d s => { d with logo := s }) rfl h with
      ⟨rfl, rfl, rfl⟩ | ⟨t₂, items, logo, v₂, rfl, hv₂, hlogo, h⟩
    · cases ha
      refine ⟨rfl, [.text name, v₁], ?_, ?_⟩
      · simp only [Tree.itemValues, hname, hv₁, bind, Except.bind]
        rfl
      · exact Metadata.attribution?_array_eq_some.mpr ⟨Nat.le_succ 1, rfl, hurl, rfl⟩
    cases items with
    | cons => cases h
    | nil =>
      obtain ⟨⟨⟩, hending, h⟩ := Outcome.bind_eq_ok.mp h
      cases h
      cases ha
      refine ⟨Tree.finish_eq_ok.mp hending, [.text name, v₁, v₂], ?_, ?_⟩
      · simp only [Tree.itemValues, hname, hv₁, hv₂, bind, Except.bind]
        rfl
      · exact Metadata.attribution?_array_eq_some.mpr ⟨Nat.le_refl 2, rfl, hurl, hlogo⟩

/-- What is read into a field of an attribution is a value. -/
theorem exists_value_of_fill {d d' : Draft} {f : Json.Field Draft} (hf : f ∈ record.fields)
    (hfill : f.fill d room t = .ok d') : ∃ v, t.value room = .ok v := by
  rcases List.mem_cons.mp hf with rfl | hf
  · obtain ⟨s, hs, _⟩ := Outcome.bind_eq_ok.mp hfill
    exact ⟨_, Metadata.exists_value_text hs⟩
  obtain ⟨s, hs⟩ : ∃ s, Reader.text.optional room t = .ok s := by
    rcases List.mem_cons.mp hf with rfl | hf
    · exact (Outcome.bind_eq_ok.mp hfill).imp fun s hs => hs.1
    · obtain rfl := List.mem_singleton.mp hf
      exact (Outcome.bind_eq_ok.mp hfill).imp fun s hs => hs.1
  exact (Metadata.exists_value_optional_text hs).imp fun v hv => hv.1

/-- **The attribution that is read is the one that each value is that its tree tells.** -/
theorem told_of_reader {a : Attribution} (h : record.reader room t = .ok a) :
    (∃ v, Told room t v) ∧ ∀ v, Told room t v → attribution? v = some a := by
  cases t with
  | array items ending =>
    obtain ⟨inside, hinside, h⟩ := Outcome.bind_eq_ok.mp h
    obtain ⟨d, hitems, hfinish⟩ := Outcome.bind_eq_ok.mp h
    obtain ⟨rfl, vs, hvs, ha⟩ := attribution?_of_readItems hitems (Outcome.elim_eq_ok.mp hfinish)
    have hvalue : Tree.value room (.array items none) = .ok (.array vs) := by
      simp only [Tree.value, hinside, hvs, bind, Except.bind]
      rfl
    refine ⟨⟨_, .value hvalue⟩, fun v hv => ?_⟩
    cases hv with
    | value hv =>
      obtain rfl := Except.ok.inj (hvalue.symm.trans hv)
      exact ha
    | object _ tree => cases tree
  | object ms ending =>
    have hopen : record.openReader (fun _ s _ t => do Tree.skip t; return s) room
        (.object ms ending) = .ok a := h
    obtain ⟨inside, _, d, htree, rfl, hmembers, ha⟩ := Json.Record.openReader_eq_ok.mp hopen
    cases htree
    constructor
    · have hvalues : ∃ vs, Tells (fun _ t v => t.value inside = .ok v) (· ∉ names) ms vs :=
        Json.Record.exists_tells (fun f hf _ _ _ hfill => exists_value_of_fill hf hfill)
          (fun key _ _ _ hkey _ => .inl (notMem_names hkey)) hmembers
      obtain ⟨vs, hvs⟩ := hvalues
      exact ⟨_, .object rfl rfl hvs⟩
    · intro v hv
      cases hv with
      | value hv =>
        obtain ⟨_, hinside, hv⟩ := Outcome.bind_eq_ok.mp hv
        cases hinside
        obtain ⟨vs, hvs, hv⟩ := Outcome.bind_eq_ok.mp hv
        cases hv
        exact attribution?_of_readMembers (Json.tells_of_memberValues hvs fun _ _ _ hv => hv)
          hmembers ha
      | object hroom tree tells =>
        cases hroom
        cases tree
        exact attribution?_of_readMembers tells hmembers ha
  | null | bool | number | text | broken => cases h

open Metadata (attributionOrNull?)

/-- The attribution that is read, or null in its place, is what each value is that its tree
tells. -/
theorem attributionOrNull?_of_told {a : Option Attribution}
    (h : record.reader.optional room t = .ok a) {v : Value} (hv : Told room t v) :
    attributionOrNull? (some v) = some a := by
  rcases Reader.null_or_of_optional h with ⟨rfl, rfl⟩ | ⟨a, ha, rfl⟩
  · cases hv with
    | value hv =>
      cases hv
      rfl
    | object _ tree => cases tree
  · have htold := (told_of_reader ha).2 v hv
    cases v with
    | null => cases htold
    | _ => exact congrArg (Option.map some) htold

theorem exists_told {a : Option Attribution} (h : record.reader.optional room t = .ok a) :
    ∃ v, Told room t v := by
  rcases Reader.null_or_of_optional h with ⟨rfl, rfl⟩ | ⟨a, ha, rfl⟩
  · exact ⟨.null, .value rfl⟩
  · exact (told_of_reader ha).1

end Attribution

/-! ## Metadata -/

namespace Metadata

variable {room : Nat} {t : Tree}

/-- The values that the tree of a member tells: the value that it is or, of an attribution, that of
an object without some of the members that are not read. -/
def Told (room : Nat) (key : String) (t : Tree) (v : Value) : Prop :=
  if key = "attribution" then Attribution.Told room t v else t.value room = .ok v

/-- The text tells an object: it has the values of its members under their keys, and of two with one
key that of the later. -/
def IsTextOf (s : String) (j : Json.Object) : Prop :=
  ∃ room ms vs, room + 1 = Reader.maxDepth ∧ Tree.ofText s = (.object ms none, false) ∧
    Tells (Told room) (fun _ => False) ms vs ∧ j = Table.ofList vs

/-- A text tells the object as which it is read. -/
theorem isTextOf_of_parse {s : String} {j : Json.Object} (h : Json.parse s = .ok (.object j)) :
    IsTextOf s j := by
  obtain ⟨hread, hmore⟩ := Json.Reader.parse_eq_ok.mp h
  cases htree : (Tree.ofText s).1 with
  | object ms ending =>
    rw [htree] at hread
    obtain ⟨room, hroom, hread⟩ := Outcome.bind_eq_ok.mp hread
    obtain ⟨vs, hvs, hread⟩ := Outcome.bind_eq_ok.mp hread
    obtain ⟨⟨⟩, hending, hread⟩ := Outcome.bind_eq_ok.mp hread
    cases hread
    obtain rfl := Tree.finish_eq_ok.mp hending
    refine ⟨room, ms, vs, (Json.Tree.enter_eq_ok.mp hroom).symm, Prod.ext htree hmore,
      Json.tells_of_memberValues hvs fun key t v hv => ?_, rfl⟩
    rw [Told]
    split_ifs
    · exact .value hv
    · exact hv
  | null | bool | number | text | array | broken =>
    rw [htree] at hread
    exact (Json.Tree.isLike_of_value hread).elim

theorem filter_insert {o : Json.Object} (ascending : o.Ascending) (key : String) (v : Value) :
    (o.insert key v).filter (fun e => !recommended.contains e.1) =
      if key ∈ recommended then o.filter fun e => !recommended.contains e.1
      else Table.insert (o.filter fun e => !recommended.contains e.1) key v := by
  have hinserted := Table.ascending_insert ascending key v
  have hfiltered : Table.Ascending (o.filter fun e => !recommended.contains e.1) :=
    List.Pairwise.filter _ ascending
  refine Table.eq_of_get? (List.Pairwise.filter _ hinserted) ?_ fun other => ?_
  · split_ifs
    · exact hfiltered
    · exact Table.ascending_insert hfiltered key v
  · rw [get?_filter_recommended hinserted, Table.get?_insert,
      apply_ite (fun t => Table.get? t other), Table.get?_insert,
      get?_filter_recommended ascending]
    by_cases hkey : key = other
    · subst hkey
      split_ifs <;> rfl
    · simp [hkey]

/-- The metadata that is read so far is that of an object. -/
structure IsReadOf (m : Metadata) (o : Json.Object) : Prop where
  ascending : o.Ascending
  ofJson? : ofJson? (.object o) = some m

/-- **Each recommended member is read as what it is in the object.** -/
theorem IsReadOf.insert {m m' : Metadata} {o : Json.Object} {f : Json.Field Metadata} {v : Value}
    (h : m.IsReadOf o) (hf : f ∈ record.fields) (hfill : f.fill m room t = .ok m')
    (hv : Told room f.name t v) : m'.IsReadOf (o.insert f.name v) := by
  refine ⟨Table.ascending_insert h.ascending f.name v, ofJson?_eq_some.mpr ?_⟩
  obtain ⟨hident, htag, hattribution, hpublic, hothers⟩ := ofJson?_eq_some.mp h.ofJson?
  rw [filter_insert h.ascending, if_pos (show f.name ∈ recommended from List.mem_map_of_mem hf)]
  simp only [Table.get?_insert]
  rcases List.mem_cons.mp hf with rfl | hf
  · obtain ⟨s, hs, hm⟩ := Outcome.bind_eq_ok.mp hfill
    cases hm
    obtain ⟨w, hw, htext⟩ := exists_value_optional_text hs
    obtain rfl := Except.ok.inj (hv.symm.trans hw)
    exact ⟨htext, htag, hattribution, hpublic, hothers⟩
  rcases List.mem_cons.mp hf with rfl | hf
  · obtain ⟨s, hs, hm⟩ := Outcome.bind_eq_ok.mp hfill
    cases hm
    obtain ⟨w, hw, htext⟩ := exists_value_optional_text hs
    obtain rfl := Except.ok.inj (hv.symm.trans hw)
    exact ⟨hident, htext, hattribution, hpublic, hothers⟩
  rcases List.mem_cons.mp hf with rfl | hf
  · obtain ⟨a, ha, hm⟩ := Outcome.bind_eq_ok.mp hfill
    cases hm
    exact ⟨hident, htag, Attribution.attributionOrNull?_of_told ha hv, hpublic, hothers⟩
  · obtain rfl := List.mem_singleton.mp hf
    obtain ⟨b, hb, hm⟩ := Outcome.bind_eq_ok.mp hfill
    cases hm
    obtain ⟨w, hw, hbool⟩ := exists_value_optional_bool hb
    obtain rfl := Except.ok.inj (hv.symm.trans hw)
    exact ⟨hident, htag, hattribution, hbool, hothers⟩

/-- **A member that is not recommended is kept** as it is in the object. -/
theorem IsReadOf.insert_other {m m' : Metadata} {o : Json.Object} {key : String} {v : Value}
    (h : m.IsReadOf o) (hkey : key ∉ recommended) (hkeep : keep key m room t = .ok m')
    (hv : t.value room = .ok v) : m'.IsReadOf (o.insert key v) := by
  obtain ⟨w, hw, hm⟩ := Outcome.bind_eq_ok.mp hkeep
  cases hm
  obtain rfl := Except.ok.inj (hv.symm.trans hw)
  refine ⟨Table.ascending_insert h.ascending key v, ofJson?_eq_some.mpr ?_⟩
  obtain ⟨hident, htag, hattribution, hpublic, hothers⟩ := ofJson?_eq_some.mp h.ofJson?
  have hne : ∀ name ∈ recommended, ¬ key = name := fun name hname heq => hkey (heq ▸ hname)
  rw [filter_insert h.ascending, if_neg hkey, ← hothers]
  simp only [Table.get?_insert]
  rw [if_neg (hne _ (by decide)), if_neg (hne _ (by decide)), if_neg (hne _ (by decide)),
    if_neg (hne _ (by decide))]
  exact ⟨hident, htag, hattribution, hpublic, trivial⟩

/-! ## The object that a text tells -/

/-- An object of values that are proper and not nested deeper than there is room. -/
theorem isProper_ofList {vs : List (String × Value)}
    (h : ∀ e ∈ vs, e.2.IsProper ∧ e.2.depth ≤ room) :
    (Value.object (Table.ofList vs)).IsProper ∧
      (Value.object (Table.ofList vs)).depth ≤ room + 1 := by
  constructor
  · exact .object (Table.ascending_ofList vs) fun e he => (h e (Table.mem_ofList he)).1
  · exact Nat.succ_le_succ (Value.memberDepth_le.mpr fun e he => (h e (Table.mem_ofList he)).2)

theorem isProper_of_told {key : String} {v : Value} (h : Told room key t v) :
    v.IsProper ∧ v.depth ≤ room := by
  rw [Told] at h
  split_ifs at h
  · cases h with
    | value hv => exact Json.Tree.isProper_of_value hv
    | object hroom _ tells =>
      rw [hroom]
      exact isProper_ofList (tells.forall_values fun _ _ _ => Json.Tree.isProper_of_value)
  · exact Json.Tree.isProper_of_value h

/-- The object that a text tells is proper, and not nested too deep to be read. -/
theorem IsTextOf.isProper {s : String} {j : Json.Object} (h : IsTextOf s j) :
    (Value.object j).IsProper ∧ (Value.object j).depth ≤ Reader.maxDepth := by
  obtain ⟨room, ms, vs, hroom, _, tells, rfl⟩ := h
  rw [← hroom]
  exact isProper_ofList (tells.forall_values fun _ _ _ => isProper_of_told)

/-- Metadata is read from the members of an object. -/
theorem parse_eq_ok {s : String} {m : Metadata} (h : parse s = .ok m) : ∃ room ms,
    room + 1 = Reader.maxDepth ∧ Tree.ofText s = (.object ms none, false) ∧
      record.readMembers keep room [] {} ms = .ok m := by
  obtain ⟨hread, hmore⟩ := Json.Reader.parse_eq_ok.mp h
  obtain ⟨room, ms, _, htree, hroom, hmembers, hbuild⟩ := Json.Record.openReader_eq_ok.mp hread
  cases hbuild
  exact ⟨room, ms, hroom.symm, Prod.ext htree hmore, hmembers⟩

theorem notMem_recommended {key : String} (h : ∀ f ∈ record.fields, f.name ≠ key) :
    key ∉ recommended := by
  intro hmem
  obtain ⟨f, hf, hname⟩ := List.mem_map.mp hmem
  exact h f hf hname

theorem told_of_notMem {key : String} (h : key ∉ recommended) {v : Value} :
    Told room key t v ↔ t.value room = .ok v := by
  rw [Told, if_neg]
  rintro rfl
  exact h (by decide)

/-- What is read into a field of metadata is told. -/
theorem exists_told_of_fill {m m' : Metadata} {f : Json.Field Metadata} (hf : f ∈ record.fields)
    (hfill : f.fill m room t = .ok m') : ∃ v, Told room f.name t v := by
  rcases List.mem_cons.mp hf with rfl | hf
  · obtain ⟨s, hs, _⟩ := Outcome.bind_eq_ok.mp hfill
    exact (exists_value_optional_text hs).imp fun v hv => hv.1
  rcases List.mem_cons.mp hf with rfl | hf
  · obtain ⟨s, hs, _⟩ := Outcome.bind_eq_ok.mp hfill
    exact (exists_value_optional_text hs).imp fun v hv => hv.1
  rcases List.mem_cons.mp hf with rfl | hf
  · obtain ⟨a, ha, _⟩ := Outcome.bind_eq_ok.mp hfill
    exact Attribution.exists_told ha
  · obtain rfl := List.mem_singleton.mp hf
    obtain ⟨b, hb, _⟩ := Outcome.bind_eq_ok.mp hfill
    exact (exists_value_optional_bool hb).imp fun v hv => hv.1

/-- **A text from which metadata is read tells an object.** -/
theorem exists_isTextOf {s : String} {m : Metadata} (h : parse s = .ok m) : ∃ j, IsTextOf s j := by
  obtain ⟨room, ms, hroom, htree, hread⟩ := parse_eq_ok h
  have htells : ∃ vs, Tells (Told room) (fun _ => False) ms vs := by
    refine Json.Record.exists_tells (fun f hf _ _ _ hfill => exists_told_of_fill hf hfill)
      (fun key _ _ t hkey hkeep => .inr ?_) hread
    obtain ⟨v, hv, _⟩ := Outcome.bind_eq_ok.mp hkeep
    exact ⟨v, (told_of_notMem (notMem_recommended hkey)).mpr hv⟩
  obtain ⟨vs, tells⟩ := htells
  exact ⟨_, room, ms, vs, hroom, htree, tells, rfl⟩

/-- **The metadata that is read is that of each object that the text tells.** -/
theorem IsTextOf.ofJson?_eq {s : String} {j : Json.Object} (h : IsTextOf s j) {m : Metadata}
    (hread : parse s = .ok m) : Metadata.ofJson? (.object j) = some m := by
  obtain ⟨room, ms, vs, hroom, htree, tells, rfl⟩ := h
  obtain ⟨room', ms', hroom', htree', hread⟩ := parse_eq_ok hread
  obtain rfl := Nat.succ.inj (hroom.trans hroom'.symm)
  cases htree.symm.trans htree'
  have hfound : m.IsReadOf (Table.ofList vs) := by
    refine Json.Record.of_tells (R := IsReadOf) ?_ ?_ ?_ ?_ tells ⟨.nil, rfl⟩ hread
    · intro f hf m m' t v o hfill hv hm
      exact hm.insert hf hfill hv
    · intro key m m' t v o hkey hkeep hv hm
      have hother := notMem_recommended hkey
      exact hm.insert_other hother hkeep ((told_of_notMem hother).mp hv)
    · intro _ _ _ _ _ hfalse
      exact hfalse.elim
    · exact fun _ _ hfalse => hfalse
  exact hfound.ofJson?

end Metadata

end CollectionArchive
