import CollectionArchive.Metadata
import CollectionArchive.Proofs.Archive.Listing
import CollectionArchive.Proofs.Json.Values

/-!
# Members of metadata

The recommended members of an object are taken out of it when it is read, and put back among the
others when it is written. What is null or not read is not put back.

* `Metadata.members`, `Metadata.toJson`: the members in the order in which they are written, and the
  object that they make up.
* `Metadata.ofJson?_eq_some`: when an object is metadata.
* `Metadata.Separates`: no recommended member is among the others.
* **`Metadata.Separates.ofJson?_toJson`**: metadata is read back from its object.
* `Metadata.Keeps`, **`Metadata.keeps_of_ofJson?`**: what is kept of the object that is read.
-/

namespace CollectionArchive

open Json (Value)

/-! ## Tables -/

namespace Table

variable {κ α : Type} [DecidableEq κ]

theorem get?_append (t u : Table κ α) (key : κ) :
    get? (t ++ u) key = (get? t key).or (get? u key) := by
  induction t with
  | nil => rfl
  | cons e t ih =>
    rw [List.cons_append, get?_cons, get?_cons, ih]
    split_ifs <;> rfl

theorem get?_eq_none_of_notMem {t : Table κ α} {key : κ} (h : key ∉ t.map Prod.fst) :
    get? t key = none :=
  get?_eq_none_of_forall fun _ he heq => h (heq ▸ List.mem_map_of_mem he)

/-- What is left of a table is what was there, if it is of that sort. -/
theorem get?_filter [Ordered κ] {t : Table κ α} (h : t.Ascending) (p : κ × α → Bool) (key : κ) :
    get? (t.filter p) key = (get? t key).filter fun a => p (key, a) := by
  refine Option.ext fun a => ?_
  rw [get?_eq_some_iff (List.Pairwise.filter p h), List.mem_filter, Option.filter_eq_some_iff,
    get?_eq_some_iff h]

/-- What is found in a table of entries of which no two have one key. -/
theorem get?_ofList [Ordered κ] {entries : List (κ × α)} (h : (entries.map Prod.fst).Nodup)
    (key : κ) : get? (ofList entries) key = get? entries key := by
  have hfold : ∀ t : Table κ α, get? (entries.foldl (fun t e => insert t e.1 e.2) t) key =
      (get? entries key).or (get? t key) := by
    induction entries with
    | nil => exact fun t => rfl
    | cons e entries ih =>
      obtain ⟨k, a⟩ := e
      obtain ⟨hk, h⟩ := List.nodup_cons.mp h
      intro t
      rw [List.foldl_cons, ih h, get?_insert, get?_cons]
      by_cases hkey : k = key
      · subst hkey
        rw [get?_eq_none_of_notMem hk, if_pos rfl, if_pos rfl]
        rfl
      · rw [if_neg hkey, if_neg hkey]
  rw [ofList, hfold]
  exact Option.or_none

end Table

/-- A member that may be missing. -/
def optionalValue (key : String) (v : Option Value) : List (String × Value) :=
  v.toList.map fun v => (key, v)

theorem get?_optionalValue (key : String) (v : Option Value) (other : String) :
    Table.get? (optionalValue key v) other = if key = other then v else none := by
  cases v with
  | none => exact (ite_self none).symm
  | some v => exact Table.get?_cons key v [] other

theorem keys_optionalValue (key : String) (v : Option Value) :
    ((optionalValue key v).map Prod.fst).Sublist [key] := by
  cases v with
  | none => exact List.nil_sublist _
  | some v => exact List.Sublist.refl _

/-! ## Attributions -/

namespace Attribution

/-- The members of an attribution, in the order in which they are written. -/
def members (a : Attribution) : List (String × Value) :=
  ("name", .text a.name) :: (optionalValue "url" (a.url.map .text) ++
    optionalValue "logo" (a.logo.map .text))

/-- The object that an attribution is. -/
def toJson (a : Attribution) : Value :=
  .object (Table.ofList a.members)

/-- The names of the members. -/
def names : List String :=
  record.fields.map fun f => f.name

/-- What is kept of an attribution that is read from a value: its members by name, without those
that are null. -/
def kept : Value → Value
  | .object o => .object (o.filter fun e => names.contains e.1 && !e.2.isNull)
  | .array items => .object (Table.ofList ((names.zip items).filter fun e => !e.2.isNull))
  | v => v

theorem nodup_keys_members (a : Attribution) : (a.members.map Prod.fst).Nodup := by
  have hkeys : (a.members.map Prod.fst).Sublist ("name" :: (["url"] ++ ["logo"])) := by
    rw [members, List.map_cons, List.map_append]
    exact ((keys_optionalValue _ _).append (keys_optionalValue _ _)).cons_cons _
  exact hkeys.nodup (by decide)

theorem get?_toJson (a : Attribution) (key : String) :
    Table.get? (Table.ofList a.members) key =
      if "name" = key then some (.text a.name)
      else if "url" = key then a.url.map .text
      else if "logo" = key then a.logo.map .text else none := by
  rw [Table.get?_ofList a.nodup_keys_members, members, Table.get?_cons, Table.get?_append,
    get?_optionalValue, get?_optionalValue]
  by_cases hurl : "url" = key
  · subst hurl
    simp
  · simp [hurl]

end Attribution

namespace Metadata

/-! ## Texts and truth values -/

/-- The value is there and not null. -/
def present (v : Option Value) : Option Value :=
  v.filter (!·.isNull)

theorem textOrNull?_eq_some {v : Option Value} {s : Option String} :
    textOrNull? v = some s ↔ present v = s.map .text := by
  cases v with
  | none => cases s <;> simp [textOrNull?, present]
  | some v =>
    cases v <;> cases s <;> simp [textOrNull?, present, Value.isNull, Value.text?, Option.filter]

theorem boolOrNull?_eq_some {v : Option Value} {b : Option Bool} :
    boolOrNull? v = some b ↔ present v = b.map .bool := by
  cases v with
  | none => cases b <;> simp [boolOrNull?, present]
  | some v => cases v <;> cases b <;> simp [boolOrNull?, present, Value.isNull, Option.filter]

theorem textOrNull?_map (s : Option String) : textOrNull? (s.map .text) = some s := by
  cases s <;> rfl

theorem boolOrNull?_map (b : Option Bool) : boolOrNull? (b.map .bool) = some b := by
  cases b <;> rfl

/-! ## Attributions that are read -/

theorem attribution?_object_eq_some {o : Json.Object} {a : Attribution} :
    attribution? (.object o) = some a ↔ o.get? "name" = some (.text a.name) ∧
      textOrNull? (o.get? "url") = some a.url ∧ textOrNull? (o.get? "logo") = some a.logo := by
  obtain ⟨name, url, logo⟩ := a
  simp only [attribution?, Option.bind_eq_bind, Option.bind_eq_some_iff, Value.text?_eq_some,
    Option.pure_def, Option.some.injEq, Attribution.mk.injEq]
  constructor
  · rintro ⟨_, ⟨_, hname, rfl⟩, _, hurl, _, hlogo, rfl, rfl, rfl⟩
    exact ⟨hname, hurl, hlogo⟩
  · rintro ⟨hname, hurl, hlogo⟩
    exact ⟨name, ⟨_, hname, rfl⟩, url, hurl, logo, hlogo, rfl, rfl, rfl⟩

theorem attribution?_array_eq_some {v : Value} {rest : List Value} {a : Attribution} :
    attribution? (.array (v :: rest)) = some a ↔ rest.length ≤ 2 ∧ v = .text a.name ∧
      textOrNull? rest[0]? = some a.url ∧ textOrNull? rest[1]? = some a.logo := by
  obtain ⟨name, url, logo⟩ := a
  rw [attribution?]
  by_cases hlength : 2 < rest.length
  · rw [if_pos hlength]
    refine ⟨fun h => ?_, fun h => absurd h.1 (Nat.not_le_of_lt hlength)⟩
    cases h
  · rw [if_neg hlength]
    simp only [Option.bind_eq_bind, Option.bind_eq_some_iff, Value.text?_eq_some,
      Option.pure_def, Option.some.injEq, Attribution.mk.injEq]
    constructor
    · rintro ⟨_, hname, _, hurl, _, hlogo, rfl, rfl, rfl⟩
      exact ⟨Nat.le_of_not_lt hlength, hname, hurl, hlogo⟩
    · rintro ⟨_, hname, hurl, hlogo⟩
      exact ⟨name, hname, url, hurl, logo, hlogo, rfl, rfl, rfl⟩

theorem optionalValue_present (key : String) (v : Option Value) :
    optionalValue key (present v) =
      (v.toList.map fun v => (key, v)).filter fun e => !e.2.isNull := by
  cases v with
  | none => rfl
  | some v => cases v <;> rfl

theorem zip_names {v : Value} (rest : List Value) (h : rest.length ≤ 2) :
    Attribution.names.zip (v :: rest) = ("name", v) ::
      ((rest[0]?.toList.map fun v => ("url", v)) ++ rest[1]?.toList.map fun v => ("logo", v)) := by
  match rest with
  | [] | [_] | [_, _] => rfl
  | _ :: _ :: _ :: _ => simp at h

/-- An attribution is read back from its object. -/
theorem attribution?_toJson (a : Attribution) : attribution? a.toJson = some a := by
  refine attribution?_object_eq_some.mpr ⟨?_, ?_, ?_⟩
  · exact a.get?_toJson "name"
  · rw [show Table.get? (Table.ofList a.members) "url" = a.url.map .text from a.get?_toJson "url"]
    exact textOrNull?_map a.url
  · rw [show Table.get? (Table.ofList a.members) "logo" = a.logo.map .text from
      a.get?_toJson "logo"]
    exact textOrNull?_map a.logo

/-- **What is written of an attribution is what is kept** of the value from which it was read. -/
theorem toJson_eq_kept {v : Value} {a : Attribution} (proper : v.IsProper)
    (h : attribution? v = some a) : a.toJson = Attribution.kept v := by
  cases v with
  | object o =>
    obtain ⟨hname, hurl, hlogo⟩ := attribution?_object_eq_some.mp h
    rw [textOrNull?_eq_some] at hurl hlogo
    cases proper with
    | object ascending =>
      refine congrArg Value.object (Table.eq_of_get? (Table.ascending_ofList _)
        (List.Pairwise.filter _ ascending) fun key => ?_)
      rw [a.get?_toJson, Table.get?_filter ascending]
      by_cases hkey : key ∈ Attribution.names
      · rcases List.mem_cons.mp hkey with rfl | hkey
        · rw [hname]
          rfl
        rcases List.mem_cons.mp hkey with rfl | hkey
        · exact hurl.symm
        obtain rfl := List.mem_singleton.mp hkey
        exact hlogo.symm
      · have hnone : ∀ name ∈ Attribution.names, name ≠ key := fun name hname heq =>
          hkey (heq ▸ hname)
        rw [if_neg (hnone "name" (by decide)), if_neg (hnone "url" (by decide)),
          if_neg (hnone "logo" (by decide))]
        have hcontains : Attribution.names.contains key = false := by
          rw [← Bool.not_eq_true, List.contains_iff_mem]
          exact hkey
        simp only [hcontains, Bool.false_and]
        exact (Option.filter_eq_none_iff.mpr fun _ _ => Bool.false_ne_true).symm
  | array items =>
    cases items with
    | nil => cases h
    | cons v rest =>
      obtain ⟨hlength, rfl, hurl, hlogo⟩ := attribution?_array_eq_some.mp h
      rw [textOrNull?_eq_some] at hurl hlogo
      refine congrArg Value.object (congrArg Table.ofList ?_)
      rw [Attribution.members, ← hurl, ← hlogo, optionalValue_present, optionalValue_present,
        ← List.filter_append, zip_names rest hlength]
      rfl
  | _ => cases h

theorem attributionOrNull?_map (a : Option Attribution) :
    attributionOrNull? (a.map Attribution.toJson) = some a := by
  cases a with
  | none => rfl
  | some a => exact congrArg (Option.map some) (attribution?_toJson a)

theorem map_toJson_eq_kept {v : Option Value} {a : Option Attribution}
    (proper : ∀ w, v = some w → w.IsProper) (h : attributionOrNull? v = some a) :
    a.map Attribution.toJson = (present v).map Attribution.kept := by
  cases v with
  | none =>
    cases h
    rfl
  | some w =>
    by_cases hnull : w = .null
    · subst hnull
      cases h
      rfl
    · have hread : attributionOrNull? (some w) = some <$> attribution? w := by
        cases w with
        | null => exact absurd rfl hnull
        | _ => rfl
      obtain ⟨a', ha', rfl⟩ := Option.map_eq_some_iff.mp (hread.symm.trans h)
      have hpresent : present (some w) = some w := by
        cases w with
        | null => exact absurd rfl hnull
        | _ => rfl
      rw [hpresent, Option.map_some, Option.map_some, toJson_eq_kept (proper w rfl) ha']

/-! ## Metadata -/

/-- The recommended members that are there. -/
def front (m : Metadata) : List (String × Value) :=
  optionalValue "kubun_ident" (m.ident.map .text) ++
    optionalValue "default_tag" (m.defaultTag.map .text) ++
    optionalValue "attribution" (m.attribution.map Attribution.toJson) ++
    optionalValue "public" (m.isPublic.map .bool)

/-- The members of metadata in the order in which they are written. -/
def members (m : Metadata) : List (String × Value) :=
  m.front ++ m.others

/-- The object that metadata is. -/
def object (m : Metadata) : Json.Object :=
  Table.ofList m.members

/-- The object that metadata is. -/
def toJson (m : Metadata) : Value :=
  .object m.object

/-- No recommended member is among the others, and these are in order. -/
structure Separates (m : Metadata) : Prop where
  ascending : m.others.Ascending
  lacks : ∀ key ∈ recommended, m.others.get? key = none

theorem ofJson?_eq_some {j : Json.Object} {m : Metadata} : ofJson? (.object j) = some m ↔
    textOrNull? (j.get? "kubun_ident") = some m.ident ∧
    textOrNull? (j.get? "default_tag") = some m.defaultTag ∧
    attributionOrNull? (j.get? "attribution") = some m.attribution ∧
    boolOrNull? (j.get? "public") = some m.isPublic ∧
    m.others = j.filter fun e => !recommended.contains e.1 := by
  obtain ⟨ident, defaultTag, attribution, isPublic, others⟩ := m
  simp only [ofJson?, Value.object?, Option.bind_eq_bind, Option.bind_eq_some_iff, Option.pure_def,
    Option.some.injEq, Metadata.mk.injEq]
  constructor
  · rintro ⟨_, rfl, _, hident, _, htag, _, hattribution, _, hpublic, rfl, rfl, rfl, rfl, rfl⟩
    exact ⟨hident, htag, hattribution, hpublic, rfl⟩
  · rintro ⟨hident, htag, hattribution, hpublic, rfl⟩
    exact ⟨j, rfl, _, hident, _, htag, _, hattribution, _, hpublic, rfl, rfl, rfl, rfl, rfl⟩

theorem contains_recommended {key : String} :
    recommended.contains key = true ↔ key ∈ recommended :=
  List.contains_iff_mem

/-- What is left without the recommended members. -/
theorem get?_filter_recommended {j : Json.Object} (ascending : j.Ascending) (key : String) :
    Table.get? (j.filter fun e => !recommended.contains e.1) key =
      if key ∈ recommended then none else j.get? key := by
  rw [Table.get?_filter ascending]
  split_ifs with hkey
  · refine Option.filter_eq_none_iff.mpr fun _ _ => ?_
    rw [contains_recommended.mpr hkey]
    decide
  · have hother : recommended.contains key = false := by
      rw [← Bool.not_eq_true, contains_recommended]
      exact hkey
    simp only [hother]
    cases j.get? key <;> rfl

/-- **No recommended member of an object is kept among the others.** -/
theorem separates_of_ofJson? {j : Json.Object} (ascending : j.Ascending) {m : Metadata}
    (h : ofJson? (.object j) = some m) : m.Separates := by
  constructor
  · rw [(ofJson?_eq_some.mp h).2.2.2.2]
    exact List.Pairwise.filter _ ascending
  · intro key hkey
    rw [(ofJson?_eq_some.mp h).2.2.2.2, get?_filter_recommended ascending, if_pos hkey]

theorem Separates.nodup_keys {m : Metadata} (h : m.Separates) :
    (m.members.map Prod.fst).Nodup := by
  have hkeys : (m.members.map Prod.fst).Sublist (recommended ++ m.others.map Prod.fst) := by
    simp only [members, front, List.map_append]
    exact ((((keys_optionalValue _ _).append (keys_optionalValue _ _)).append
      (keys_optionalValue _ _)).append (keys_optionalValue _ _)).append (List.Sublist.refl _)
  refine hkeys.nodup (List.nodup_append.mpr ⟨by decide, Table.nodup_keys h.ascending, ?_⟩)
  rintro key hkey _ hother rfl
  have hsome := Table.mem_keys.mp hother
  rw [h.lacks key hkey] at hsome
  cases hsome

/-- What is under a key of metadata. -/
def member? (m : Metadata) (key : String) : Option Value :=
  if key = "kubun_ident" then m.ident.map .text
  else if key = "default_tag" then m.defaultTag.map .text
  else if key = "attribution" then m.attribution.map Attribution.toJson
  else if key = "public" then m.isPublic.map .bool
  else m.others.get? key

theorem member?_of_notMem (m : Metadata) {key : String} (h : key ∉ recommended) :
    m.member? key = m.others.get? key := by
  have hne : ∀ name ∈ recommended, ¬ key = name := fun name hname heq => h (heq ▸ hname)
  rw [member?, if_neg (hne _ (by decide)), if_neg (hne _ (by decide)), if_neg (hne _ (by decide)),
    if_neg (hne _ (by decide))]

/-- What is found in the object that metadata is. -/
theorem Separates.get?_object {m : Metadata} (h : m.Separates) (key : String) :
    m.object.get? key = m.member? key := by
  rw [object, Table.get?_ofList h.nodup_keys, members, front, member?]
  simp only [Table.get?_append, get?_optionalValue]
  by_cases hkey : key ∈ recommended
  · rw [h.lacks key hkey]
    rcases List.mem_cons.mp hkey with rfl | hkey
    · simp
    rcases List.mem_cons.mp hkey with rfl | hkey
    · simp
    rcases List.mem_cons.mp hkey with rfl | hkey
    · simp
    obtain rfl := List.mem_singleton.mp hkey
    simp
  · have hne : ∀ name ∈ recommended, ¬ name = key := fun name hname heq => hkey (heq ▸ hname)
    rw [← member?, m.member?_of_notMem hkey, if_neg (hne _ (by decide)), if_neg (hne _ (by decide)),
      if_neg (hne _ (by decide)), if_neg (hne _ (by decide))]
    rfl

/-- **Metadata is read back from its object.** -/
theorem Separates.ofJson?_toJson {m : Metadata} (h : m.Separates) : ofJson? m.toJson = some m := by
  have hmember := h.get?_object
  refine ofJson?_eq_some.mpr ⟨?_, ?_, ?_, ?_, ?_⟩
  · rw [hmember]
    exact textOrNull?_map m.ident
  · rw [hmember]
    exact textOrNull?_map m.defaultTag
  · rw [hmember]
    exact attributionOrNull?_map m.attribution
  · rw [hmember]
    exact boolOrNull?_map m.isPublic
  · have ascending : m.object.Ascending := Table.ascending_ofList _
    refine Table.eq_of_get? h.ascending (List.Pairwise.filter _ ascending) fun key => ?_
    rw [get?_filter_recommended ascending, hmember]
    split_ifs with hkey
    · exact h.lacks key hkey
    · exact (m.member?_of_notMem hkey).symm

/-! ## What is kept -/

/-- What is kept of an object in another: recommended members that are not null, the attribution
with the members that are read of it, and all others as what becomes of their values. -/
structure Keeps (become : Value → Option Value) (j k : Json.Object) : Prop where
  others (key : String) (other : key ∉ recommended) : k.get? key = (j.get? key).bind become
  plain (key : String) (mem : key ∈ recommended) (ne : key ≠ "attribution") :
    k.get? key = present (j.get? key)
  attribution : k.get? "attribution" = (present (j.get? "attribution")).map Attribution.kept

/-- **What is kept of an object that is read** when it is written again. -/
theorem keeps_of_ofJson? {j : Json.Object} {m : Metadata} (proper : (Value.object j).IsProper)
    (h : ofJson? (.object j) = some m) : Keeps some j m.object := by
  have ascending : j.Ascending := by
    cases proper
    assumption
  have hmember := (separates_of_ofJson? ascending h).get?_object
  obtain ⟨hident, htag, hattribution, hpublic, hothers⟩ := ofJson?_eq_some.mp h
  rw [textOrNull?_eq_some] at hident htag
  rw [boolOrNull?_eq_some] at hpublic
  constructor
  · intro key hkey
    rw [hmember, m.member?_of_notMem hkey, hothers, get?_filter_recommended ascending, if_neg hkey]
    exact (Option.bind_fun_some _).symm
  · intro key hkey hne
    rw [hmember]
    rcases List.mem_cons.mp hkey with rfl | hkey
    · exact hident.symm
    rcases List.mem_cons.mp hkey with rfl | hkey
    · exact htag.symm
    rcases List.mem_cons.mp hkey with rfl | hkey
    · exact absurd rfl hne
    obtain rfl := List.mem_singleton.mp hkey
    exact hpublic.symm
  · rw [hmember]
    refine map_toJson_eq_kept (fun v hv => ?_) hattribution
    cases proper with
    | object _ each => exact each _ (Table.mem_of_get? hv)

end Metadata

end CollectionArchive
