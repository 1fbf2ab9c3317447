import CollectionArchive.Build.RecordLine
import CollectionArchive.Proofs.Json.Reading
import Mathlib.Tactic.MkIffOfInductiveProp

/-!
# Records and the texts of their lines

A record is written as an object with a title, in which cover images and properties may be missing,
or as an array of the three in this order. None of them is given twice. Properties are an object of
any values, of which all members are kept in the order of the text, also those with the same key.

* `Json.Tree.under`: what an object has under a key.
* `Json.Takes`: a field that may be missing takes what the tree under its key tells.
* `RecordLine.IsToldBy`: a text tells a record.
* `RecordLine.Draft.Reads`, `RecordLine.readMembers_eq_ok`: the members of an object fill a record.
* **`RecordLine.parse_eq_ok`**: a record is read from a text if the text tells it.
-/

namespace CollectionArchive

namespace Json

/-! ## Members -/

namespace Tree

/-- The trees that an object has under a key, in the order of the text. -/
def under (key : String) (ms : List (Option String × Tree)) : List Tree :=
  (ms.filter fun m => m.1 == some key).map Prod.snd

theorem under_cons_self (key : String) (t : Tree) (ms : List (Option String × Tree)) :
    under key ((some key, t) :: ms) = t :: under key ms := by
  simp [under]

theorem under_cons_of_ne {key name : String} (h : key ≠ name) (t : Tree)
    (ms : List (Option String × Tree)) : under name ((some key, t) :: ms) = under name ms := by
  simp [under, h]

/-- The tree tells a list of texts. -/
def IsTexts (t : Tree) (texts : List String) : Prop :=
  t = .array (texts.map fun s => .text (some s)) none

/-- The tree tells entries of any values, in the order of the text. -/
def IsEntries (room : Nat) (t : Tree) (entries : List (String × Value)) : Prop :=
  ∃ ms, t = .object ms none ∧
    List.Forall₂ (fun m e => m.1 = some e.1 ∧ m.2.value room = .ok e.2) ms entries

/-- Members are read one after the other. -/
theorem memberValues_eq_ok {room : Nat} {ms : List (Option String × Tree)}
    {entries : List (String × Value)} : memberValues room ms = .ok entries ↔
      List.Forall₂ (fun m e => m.1 = some e.1 ∧ m.2.value room = .ok e.2) ms entries := by
  induction ms generalizing entries with
  | nil =>
    rw [memberValues, List.forall₂_nil_left_iff]
    exact ⟨fun h => (Except.ok.inj h).symm, fun h => h ▸ rfl⟩
  | cons m ms ih =>
    obtain ⟨key, t⟩ := m
    rw [memberValues, List.forall₂_cons_left_iff]
    constructor
    · intro h
      obtain ⟨name, hname, h⟩ := Outcome.bind_eq_ok.mp h
      obtain ⟨v, hv, h⟩ := Outcome.bind_eq_ok.mp h
      obtain ⟨rest, hrest, h⟩ := Outcome.bind_eq_ok.mp h
      obtain rfl := Outcome.pure_eq_ok.mp h
      cases key with
      | none => cases hname
      | some key =>
        obtain rfl : key = name := Except.ok.inj hname
        exact ⟨_, rest, ⟨rfl, hv⟩, ih.mp hrest, rfl⟩
    · rintro ⟨⟨name, v⟩, rest, ⟨rfl, hv⟩, hrest, rfl⟩
      exact Outcome.bind_eq_ok.mpr ⟨name, rfl, Outcome.bind_eq_ok.mpr ⟨v, hv,
        Outcome.bind_eq_ok.mpr ⟨rest, ih.mpr hrest, rfl⟩⟩⟩

end Tree

namespace Reader

open CollectionArchive.Json.Tree (IsEntries IsTexts)

variable {room : Nat} {t : Tree}

theorem text_eq_ok {s : String} : Reader.text room t = .ok s ↔ t = .text (some s) := by
  cases t with
  | text content => cases content <;> simp [text, Tree.content]
  | null | bool | number | array | object | broken => simp [text]

theorem texts_eq_ok {texts : List String} :
    Reader.text.list (room + 1) t = .ok texts ↔ IsTexts t texts := by
  cases t with
  | array items ending =>
    have hitems : items.mapM (Reader.text room) = .ok texts ↔
        items = texts.map fun s => .text (some s) := by
      simp only [Outcome.mapM_eq_ok, text_eq_ok]
      rw [← List.forall₂_map_right_iff (R := Eq), List.forall₂_eq_eq_eq]
    simp only [list, Tree.enter, Outcome.bind_eq_ok, Outcome.pure_eq_ok, Except.ok.injEq,
      exists_eq_left', IsTexts, Tree.array.injEq, ← hitems]
    constructor
    · rintro ⟨_, hread, ⟨⟩, hending, rfl⟩
      exact ⟨hread, Tree.finish_eq_ok.mp hending⟩
    · rintro ⟨hread, hending⟩
      exact ⟨texts, hread, (), Tree.finish_eq_ok.mpr hending, rfl⟩
  | null | bool | number | text | object | broken => simp [list, IsTexts]

theorem members_eq_ok {entries : List (String × Value)} :
    Reader.members (room + 1) t = .ok entries ↔ IsEntries room t entries := by
  cases t with
  | object ms ending =>
    simp only [members, Tree.enter, Outcome.bind_eq_ok, Outcome.pure_eq_ok, Except.ok.injEq,
      exists_eq_left', IsEntries, Tree.object.injEq, ← Tree.memberValues_eq_ok]
    constructor
    · rintro ⟨_, hread, ⟨⟩, hending, rfl⟩
      exact ⟨ms, ⟨rfl, Tree.finish_eq_ok.mp hending⟩, hread⟩
    · rintro ⟨_, ⟨rfl, hending⟩, hread⟩
      exact ⟨entries, hread, (), Tree.finish_eq_ok.mpr hending, rfl⟩
  | null | bool | number | text | array | broken => simp [members, IsEntries]

end Reader

namespace Record

variable {σ α : Type} {r : Record σ α} {other : String → σ → Reader σ} {room : Nat}
  {seen : List String} {s s' : σ} {key : String} {t : Tree} {ms : List (Option String × Tree)}

/-- A field is read once. -/
theorem readMembers_cons_field {f : Field σ}
    (hf : (r.fields.find? fun f => f.name == key) = some f) :
    r.readMembers other room seen s ((some key, t) :: ms) = .ok s' ↔
      key ∉ seen ∧ ∃ next, f.fill s room t = .ok next ∧
        r.readMembers other room (key :: seen) next ms = .ok s' := by
  rw [readMembers, Outcome.bind_eq_ok]
  simp only [Tree.content, Except.ok.injEq, exists_eq_left', hf, List.contains_iff_mem]
  split_ifs with hseen
  · simp [hseen]
  · simp [hseen, Outcome.bind_eq_ok]

/-- What is no field is left to `other`. -/
theorem readMembers_cons_other (hf : (r.fields.find? fun f => f.name == key) = none) :
    r.readMembers other room seen s ((some key, t) :: ms) = .ok s' ↔
      ∃ next, other key s room t = .ok next ∧ r.readMembers other room seen next ms = .ok s' := by
  rw [readMembers, Outcome.bind_eq_ok]
  simp only [Tree.content, Except.ok.injEq, exists_eq_left', hf, Outcome.bind_eq_ok]

theorem readItems_nil {ending : Option Flaw} {fields : List (Field σ)} :
    readItems room ending s fields [] = .ok s' ↔ ending = none ∧ s' = s := by
  rw [readItems, Outcome.bind_eq_ok]
  constructor
  · rintro ⟨⟨⟩, hending, hs⟩
    exact ⟨Tree.finish_eq_ok.mp hending, (Outcome.pure_eq_ok.mp hs).symm⟩
  · rintro ⟨hending, rfl⟩
    exact ⟨(), Tree.finish_eq_ok.mpr hending, rfl⟩

theorem readItems_cons {ending : Option Flaw} {f : Field σ} {fields : List (Field σ)}
    {items : List Tree} : readItems room ending s (f :: fields) (t :: items) = .ok s' ↔
      ∃ next, f.fill s room t = .ok next ∧ readItems room ending next fields items = .ok s' := by
  rw [readItems, Outcome.bind_eq_ok]

end Record

/-- What a field is after all that stands under its key: what it was before, if there is nothing, or
what the only tree tells. -/
inductive Takes {α : Type} (tells : Tree → α → Prop) (before : α) : List Tree → α → Prop
  | missing : Takes tells before [] before
  | given {t : Tree} {a : α} (told : tells t a) : Takes tells before [t] a

section

variable {α : Type} {tells : Tree → α → Prop} {before a : α}

theorem takes_nil : Takes tells before [] a ↔ a = before :=
  ⟨fun h => by cases h; rfl, fun h => h ▸ .missing⟩

theorem takes_cons {t : Tree} {ts : List Tree} :
    Takes tells before (t :: ts) a ↔ tells t a ∧ ts = [] :=
  ⟨fun h => by cases h with | given told => exact ⟨told, rfl⟩, fun ⟨told, hts⟩ => hts ▸ .given told⟩

variable {key : String} {t : Tree} {ms : List (Option String × Tree)}

theorem takes_of_none (h : Tree.under key ms = []) :
    Takes tells before (Tree.under key ms) a ↔ a = before := by
  rw [h, takes_nil]

theorem takes_under_self : Takes tells before (Tree.under key ((some key, t) :: ms)) a ↔
    Tree.under key ms = [] ∧ tells t a := by
  rw [Tree.under_cons_self, takes_cons, and_comm]

theorem takes_under_of_ne {name : String} (h : key ≠ name) :
    Takes tells before (Tree.under name ((some key, t) :: ms)) a ↔
      Takes tells before (Tree.under name ms) a := by
  rw [Tree.under_cons_of_ne h]

end

end Json

namespace RecordLine

open Json (Reader Takes Tree Value)

/-- The names of the members of a record. -/
def names : List String :=
  ["title", "coverImages", "properties"]

/-- So many levels of brackets may still be opened in a value of a property. -/
def valueRoom : Nat :=
  Reader.maxDepth - 2

/-- A record has the title, the cover images and the properties that trees tell. The title must be
there. -/
structure IsMadeOf (record : RecordLine) (title coverImages properties : List Tree) : Prop where
  title : title = [.text (some record.title)]
  coverImages : Takes Tree.IsTexts [] coverImages record.coverImages
  properties : Takes (Tree.IsEntries valueRoom) [] properties record.properties

/-- The text tells a record: it is an object, in which other members need only be well formed, or an
array. -/
inductive IsToldBy (record : RecordLine) (text : String) : Prop
  | object {ms : List (Option String × Tree)}
    (tree : Tree.ofText text = (.object ms none, false))
    (made : record.IsMadeOf (Tree.under "title" ms) (Tree.under "coverImages" ms)
      (Tree.under "properties" ms))
    (keys : ∀ m ∈ ms, ∃ key, m.1 = some key ∧ (key ∉ names → m.2.skip = .ok ())) :
    IsToldBy record text
  | array {title coverImages properties : List Tree}
    (tree : Tree.ofText text = (.array (title ++ coverImages ++ properties) none, false))
    (made : record.IsMadeOf title coverImages properties)
    (inOrder : coverImages = [] → properties = []) : IsToldBy record text

/-! ## Objects -/

/-- The tree tells a title. -/
def IsTitle (t : Tree) (title : Option String) : Prop :=
  ∃ s, t = .text (some s) ∧ title = some s

/-- The members of an object fill a record. Some of its fields have been seen before. -/
@[mk_iff]
structure Draft.Reads (seen : List String) (d : Draft) (ms : List (Option String × Tree))
    (d' : Draft) : Prop where
  fresh : ∀ key ∈ seen, Tree.under key ms = []
  keys : ∀ m ∈ ms, ∃ key, m.1 = some key ∧ (key ∉ names → m.2.skip = .ok ())
  title : Takes IsTitle d.title (Tree.under "title" ms) d'.title
  coverImages : Takes Tree.IsTexts d.coverImages (Tree.under "coverImages" ms) d'.coverImages
  properties :
    Takes (Tree.IsEntries valueRoom) d.properties (Tree.under "properties" ms) d'.properties

section

variable {seen : List String} {d d' : Draft} {t : Tree} {ms : List (Option String × Tree)}

theorem fresh_cons {key : String} :
    (∀ name ∈ seen, Tree.under name ((some key, t) :: ms) = []) ↔
      key ∉ seen ∧ ∀ name ∈ seen, Tree.under name ms = [] := by
  constructor
  · intro h
    have hnew : key ∉ seen := by
      intro hkey
      have := h key hkey
      rw [Tree.under_cons_self] at this
      cases this
    refine ⟨hnew, fun name hname => ?_⟩
    have hne : key ≠ name := fun heq => hnew (heq ▸ hname)
    exact (Tree.under_cons_of_ne hne t ms).symm.trans (h name hname)
  · rintro ⟨hnew, h⟩ name hname
    have hne : key ≠ name := fun heq => hnew (heq ▸ hname)
    exact (Tree.under_cons_of_ne hne t ms).trans (h name hname)

namespace Draft

theorem reads_nil : Reads seen d [] d' ↔ d' = d := by
  constructor
  · rintro ⟨_, _, htitle, hcovers, hproperties⟩
    have htitle := Json.takes_nil.mp htitle
    have hcovers := Json.takes_nil.mp hcovers
    have hproperties := Json.takes_nil.mp hproperties
    cases d
    cases d'
    simp_all
  · rintro rfl
    exact ⟨fun _ _ => rfl, nofun, .missing, .missing, .missing⟩

theorem reads_cons_title : Reads seen d ((some "title", t) :: ms) d' ↔ "title" ∉ seen ∧
    ∃ s, t = .text (some s) ∧ Reads ("title" :: seen) { d with title := some s } ms d' := by
  simp (disch := decide) only [reads_iff, fresh_cons, List.forall_mem_cons, Json.takes_under_self,
    Json.takes_under_of_ne]
  constructor
  · rintro ⟨⟨hnew, fresh⟩, ⟨_, keys⟩, ⟨hnone, s, rfl, hs⟩, rest⟩
    exact ⟨hnew, s, rfl, ⟨hnone, fresh⟩, keys, (Json.takes_of_none hnone).mpr hs, rest⟩
  · rintro ⟨hnew, s, rfl, ⟨hnone, fresh⟩, keys, title, rest⟩
    exact ⟨⟨hnew, fresh⟩, ⟨⟨_, rfl, fun h => absurd (by decide) h⟩, keys⟩,
      ⟨hnone, s, rfl, (Json.takes_of_none hnone).mp title⟩, rest⟩

theorem reads_cons_coverImages : Reads seen d ((some "coverImages", t) :: ms) d' ↔
    "coverImages" ∉ seen ∧ ∃ texts, t.IsTexts texts ∧
      Reads ("coverImages" :: seen) { d with coverImages := texts } ms d' := by
  simp (disch := decide) only [reads_iff, fresh_cons, List.forall_mem_cons, Json.takes_under_self,
    Json.takes_under_of_ne]
  constructor
  · rintro ⟨⟨hnew, fresh⟩, ⟨_, keys⟩, title, ⟨hnone, told⟩, rest⟩
    exact ⟨hnew, _, told, ⟨hnone, fresh⟩, keys, title, (Json.takes_of_none hnone).mpr rfl, rest⟩
  · rintro ⟨hnew, texts, told, ⟨hnone, fresh⟩, keys, title, covers, rest⟩
    obtain rfl := (Json.takes_of_none hnone).mp covers
    exact ⟨⟨hnew, fresh⟩, ⟨⟨_, rfl, fun h => absurd (by decide) h⟩, keys⟩, title, ⟨hnone, told⟩, rest⟩

theorem reads_cons_properties : Reads seen d ((some "properties", t) :: ms) d' ↔
    "properties" ∉ seen ∧ ∃ entries, t.IsEntries valueRoom entries ∧
      Reads ("properties" :: seen) { d with properties := entries } ms d' := by
  simp (disch := decide) only [reads_iff, fresh_cons, List.forall_mem_cons, Json.takes_under_self,
    Json.takes_under_of_ne]
  constructor
  · rintro ⟨⟨hnew, fresh⟩, ⟨_, keys⟩, title, covers, hnone, told⟩
    exact ⟨hnew, _, told, ⟨hnone, fresh⟩, keys, title, covers, (Json.takes_of_none hnone).mpr rfl⟩
  · rintro ⟨hnew, entries, told, ⟨hnone, fresh⟩, keys, title, covers, properties⟩
    obtain rfl := (Json.takes_of_none hnone).mp properties
    exact ⟨⟨hnew, fresh⟩, ⟨⟨_, rfl, fun h => absurd (by decide) h⟩, keys⟩, title, covers, hnone, told⟩

theorem reads_cons_other {key : String} (hkey : key ∉ names) (hseen : seen ⊆ names) :
    Reads seen d ((some key, t) :: ms) d' ↔ t.skip = .ok () ∧ Reads seen d ms d' := by
  have hne : ∀ name ∈ names, key ≠ name := fun name hname heq => hkey (heq ▸ hname)
  simp only [reads_iff, fresh_cons, List.forall_mem_cons, Option.some.injEq, exists_eq_left',
    Json.takes_under_of_ne (hne "title" (by decide)),
    Json.takes_under_of_ne (hne "coverImages" (by decide)),
    Json.takes_under_of_ne (hne "properties" (by decide))]
  constructor
  · rintro ⟨⟨_, fresh⟩, ⟨hskip, keys⟩, rest⟩
    exact ⟨hskip hkey, fresh, keys, rest⟩
  · rintro ⟨hskip, fresh, keys, rest⟩
    exact ⟨⟨fun h => hkey (hseen h), fresh⟩, ⟨fun _ => hskip, keys⟩, rest⟩

end Draft

/-- A reader of a record skips the members of other names. -/
def skipOther (_ : String) (d : Draft) : Reader Draft := fun _ t => do
  Tree.skip t
  return d

/-- **The members of an object fill a record**, each of its fields once. -/
theorem readMembers_eq_ok (hseen : seen ⊆ names) :
    shape.readMembers skipOther (valueRoom + 1) seen d ms = .ok d' ↔ d.Reads seen ms d' := by
  induction ms generalizing seen d with
  | nil => rw [Json.Record.readMembers, Except.ok.injEq, Draft.reads_nil, eq_comm]
  | cons m ms ih =>
    obtain ⟨key, t⟩ := m
    cases key with
    | none =>
      constructor
      · intro h
        cases h
      · intro h
        obtain ⟨key, hkey, _⟩ := h.keys _ List.mem_cons_self
        cases hkey
    | some key =>
      have hcons : ∀ name ∈ names, name :: seen ⊆ names := fun name hname =>
        List.cons_subset.mpr ⟨hname, hseen⟩
      by_cases htitle : key = "title"
      · subst htitle
        rw [Json.Record.readMembers_cons_field rfl, Draft.reads_cons_title]
        simp only [Outcome.bind_eq_ok, Outcome.pure_eq_ok, Reader.text_eq_ok,
          exists_exists_and_eq_and, ih (hcons "title" (by decide))]
      by_cases hcovers : key = "coverImages"
      · subst hcovers
        rw [Json.Record.readMembers_cons_field rfl, Draft.reads_cons_coverImages]
        simp only [Outcome.bind_eq_ok, Outcome.pure_eq_ok, Reader.texts_eq_ok,
          exists_exists_and_eq_and, ih (hcons "coverImages" (by decide))]
      by_cases hproperties : key = "properties"
      · subst hproperties
        rw [Json.Record.readMembers_cons_field rfl, Draft.reads_cons_properties]
        simp only [Outcome.bind_eq_ok, Outcome.pure_eq_ok, Reader.members_eq_ok,
          exists_exists_and_eq_and, ih (hcons "properties" (by decide))]
      have hkey : key ∉ names := by simp [names, htitle, hcovers, hproperties]
      have hnone : (shape.fields.find? fun f => f.name == key) = none := by
        simp [shape, Ne.symm htitle, Ne.symm hcovers, Ne.symm hproperties]
      rw [Json.Record.readMembers_cons_other hnone, Draft.reads_cons_other hkey hseen]
      simp only [skipOther, Outcome.bind_eq_ok, Outcome.pure_eq_ok, exists_exists_and_eq_and,
        ih hseen]
      constructor
      · rintro ⟨_, h⟩
        exact h
      · exact fun h => ⟨(), h⟩

end

/-! ## Arrays -/

theorem build?_eq_some {d : Draft} {record : RecordLine} : shape.build? d = some record ↔
    d = ⟨some record.title, record.coverImages, record.properties⟩ := by
  obtain ⟨title, coverImages, properties⟩ := d
  obtain ⟨_, _, _⟩ := record
  cases title <;> simp [shape]

theorem takes_title {ts : List Tree} {title : String} :
    Takes IsTitle none ts (some title) ↔ ts = [.text (some title)] := by
  constructor
  · intro h
    cases h with
    | given told =>
      obtain ⟨_, rfl, htitle⟩ := told
      rw [Option.some.inj htitle]
  · rintro rfl
    exact .given ⟨title, rfl, rfl⟩

/-- The items of an array fill a record in the order of its fields. -/
theorem readItems_eq_ok {items : List Tree} {ending : Option Json.Flaw} {record : RecordLine} :
    Json.Record.readItems (valueRoom + 1) ending {} shape.fields items =
        .ok ⟨some record.title, record.coverImages, record.properties⟩ ↔
      ending = none ∧ ∃ title coverImages properties, items = title ++ coverImages ++ properties ∧
        record.IsMadeOf title coverImages properties ∧ (coverImages = [] → properties = []) := by
  obtain ⟨title, texts, entries⟩ := record
  constructor
  · intro hitems
    rcases items with _ | ⟨t, items⟩
    · cases (Json.Record.readItems_nil.mp hitems).2
    obtain ⟨_, hfill, hrest⟩ := Json.Record.readItems_cons.mp hitems
    obtain ⟨s, htitle, hd⟩ := Outcome.bind_eq_ok.mp hfill
    obtain rfl := Reader.text_eq_ok.mp htitle
    obtain rfl := Outcome.pure_eq_ok.mp hd
    clear hitems hfill
    rcases items with _ | ⟨u, items⟩
    · obtain ⟨hending, hd⟩ := Json.Record.readItems_nil.mp hrest
      cases hd
      exact ⟨hending, _, [], [], rfl, ⟨rfl, .missing, .missing⟩, fun _ => rfl⟩
    obtain ⟨_, hfill, hlast⟩ := Json.Record.readItems_cons.mp hrest
    obtain ⟨found, htexts, hd⟩ := Outcome.bind_eq_ok.mp hfill
    obtain rfl := Outcome.pure_eq_ok.mp hd
    replace htexts := Reader.texts_eq_ok.mp htexts
    clear hrest hfill
    rcases items with _ | ⟨v, items⟩
    · obtain ⟨hending, hd⟩ := Json.Record.readItems_nil.mp hlast
      cases hd
      exact ⟨hending, _, [u], [], rfl, ⟨rfl, .given htexts, .missing⟩, fun _ => rfl⟩
    obtain ⟨_, hfill, hnone⟩ := Json.Record.readItems_cons.mp hlast
    obtain ⟨found, hentries, hd⟩ := Outcome.bind_eq_ok.mp hfill
    obtain rfl := Outcome.pure_eq_ok.mp hd
    replace hentries := Reader.members_eq_ok.mp hentries
    rcases items with _ | ⟨w, items⟩
    · obtain ⟨hending, hd⟩ := Json.Record.readItems_nil.mp hnone
      cases hd
      exact ⟨hending, _, [u], [v], rfl, ⟨rfl, .given htexts, .given hentries⟩, nofun⟩
    · cases hnone
  · rintro ⟨rfl, _, _, _, rfl, ⟨rfl, hcovers, hproperties⟩, inOrder⟩
    refine Json.Record.readItems_cons.mpr ⟨_, Outcome.bind_eq_ok.mpr ⟨title, rfl, rfl⟩, ?_⟩
    cases hcovers with
    | missing =>
      rw [inOrder rfl] at hproperties ⊢
      cases hproperties
      rfl
    | given htexts =>
      refine Json.Record.readItems_cons.mpr
        ⟨_, Outcome.bind_eq_ok.mpr ⟨texts, Reader.texts_eq_ok.mpr htexts, rfl⟩, ?_⟩
      cases hproperties with
      | missing => rfl
      | given hentries =>
        exact Json.Record.readItems_cons.mpr
          ⟨_, Outcome.bind_eq_ok.mpr ⟨entries, Reader.members_eq_ok.mpr hentries, rfl⟩, rfl⟩

/-! ## Texts -/

/-- A record is read from an object if its members fill one. -/
theorem exists_reads {ms : List (Option String × Tree)} {record : RecordLine} :
    Draft.Reads [] {} ms ⟨some record.title, record.coverImages, record.properties⟩ ↔
      record.IsMadeOf (Tree.under "title" ms) (Tree.under "coverImages" ms)
          (Tree.under "properties" ms) ∧
        ∀ m ∈ ms, ∃ key, m.1 = some key ∧ (key ∉ names → m.2.skip = .ok ()) := by
  constructor
  · rintro ⟨_, keys, htitle, hcovers, hproperties⟩
    exact ⟨⟨takes_title.mp htitle, hcovers, hproperties⟩, keys⟩
  · rintro ⟨⟨htitle, hcovers, hproperties⟩, keys⟩
    exact ⟨nofun, keys, takes_title.mpr htitle, hcovers, hproperties⟩

/-- **A record is read from a text exactly if the text tells it.** -/
theorem parse_eq_ok {text : String} {record : RecordLine} :
    parse text = .ok record ↔ record.IsToldBy text := by
  rw [parse, Reader.parse_eq_ok]
  constructor
  · rintro ⟨hread, hmore⟩
    rcases htree : (Tree.ofText text).1 with _ | _ | _ | _ | ⟨items, ending⟩ | ⟨ms, ending⟩ | _
    all_goals rw [htree] at hread
    case array =>
      obtain ⟨_, hinside, hread⟩ := Outcome.bind_eq_ok.mp hread
      obtain ⟨d, hitems, hfinish⟩ := Outcome.bind_eq_ok.mp hread
      cases hinside
      obtain rfl := build?_eq_some.mp (Outcome.elim_eq_ok.mp hfinish)
      obtain ⟨rfl, _, _, _, rfl, made, inOrder⟩ := readItems_eq_ok.mp hitems
      exact .array (Prod.ext htree hmore) made inOrder
    case object =>
      have hopen : shape.openReader skipOther Reader.maxDepth (.object ms ending) = .ok record :=
        hread
      obtain ⟨_, _, d, hobject, hinside, hmembers, hbuild⟩ := Json.Record.openReader_eq_ok.mp hopen
      cases hobject
      cases hinside
      obtain rfl := build?_eq_some.mp hbuild
      obtain ⟨made, keys⟩ := exists_reads.mp ((readMembers_eq_ok (List.nil_subset _)).mp hmembers)
      exact .object (Prod.ext htree hmore) made keys
    all_goals cases hread
  · rintro (⟨tree, made, keys⟩ | ⟨tree, made, inOrder⟩)
    · rw [tree]
      refine ⟨Json.Record.reader_object ((readMembers_eq_ok (List.nil_subset _)).mpr
        (exists_reads.mpr ⟨made, keys⟩)) (build?_eq_some.mpr rfl), rfl⟩
    · rw [tree]
      have hitems := readItems_eq_ok.mpr ⟨rfl, _, _, _, rfl, made, inOrder⟩
      refine ⟨Outcome.bind_eq_ok.mpr ⟨_, rfl, Outcome.bind_eq_ok.mpr ⟨_, hitems, ?_⟩⟩, rfl⟩
      rw [Json.Record.finish, build?_eq_some.mpr rfl]
      rfl

end RecordLine

end CollectionArchive
