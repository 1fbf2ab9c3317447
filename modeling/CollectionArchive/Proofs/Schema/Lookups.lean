import CollectionArchive.Proofs.Link.Targets
import CollectionArchive.Proofs.Schema.Equality
import Mathlib.Data.List.Nodup

/-!
# Look-up in schemata

A schema keeps the leaves of its full tree a second time, under their identifiers. The table is
filled in the order of the leaves, and the first leaf that finds its identifier taken is told.

* `Property.AreDistinct`, `Property.IsFirstRepeat`: no two leaves share an identifier, or which of
  them is the first to repeat one.
* **`LeafTable.addAll_of_leaves`**: the table holds all leaves, or there is a first repeat.
* `Schema.AnswersBy`, `Schema.AnswersLike`: look-ups answer as leaves tell, and as those of another
  schema.
* **`Schema.lookups_of_trees`**: when there is a schema of two trees, and what it answers.
-/

namespace CollectionArchive

/-! ## Leaves that repeat an identifier -/

namespace Property

/-- No two of the leaves share an identifier. -/
def AreDistinct (ps : List Property) : Prop :=
  ps.Pairwise fun p q => p.ident? ≠ q.ident?

/-- The leaf `q` is the first that repeats the identifier of an earlier one, and that is `p`. -/
structure IsFirstRepeat (ps : List Property) (i : Identifier) (p q : Property) : Prop where
  split : ∃ front back, ps = front ++ q :: back ∧ AreDistinct front ∧ p ∈ front
  earlier : p.ident? = some i
  later : q.ident? = some i

variable {ps front back : List Property} {i j : Identifier} {p p' q q' : Property}

theorem AreDistinct.eq (h : AreDistinct ps) (hp : p ∈ ps) (hq : q ∈ ps)
    (same : p.ident? = q.ident?) : p = q :=
  List.inj_on_of_nodup_map (List.pairwise_map.mpr h) hp hq same

theorem AreDistinct.ne (h : AreDistinct (front ++ q :: back)) (hp : p ∈ front) :
    p.ident? ≠ q.ident? :=
  (List.pairwise_append.mp h).2.2 p hp q List.mem_cons_self

theorem IsFirstRepeat.not_areDistinct (h : IsFirstRepeat ps i p q) : ¬ AreDistinct ps := by
  obtain ⟨front, back, rfl, _, hp⟩ := h.split
  intro hdistinct
  exact hdistinct.ne hp (h.earlier.trans h.later.symm)

/-- There is one first repeat. -/
theorem IsFirstRepeat.unique (h : IsFirstRepeat ps i p q) (h' : IsFirstRepeat ps j p' q') :
    i = j ∧ p = p' ∧ q = q' := by
  obtain ⟨front, back, rfl, hdistinct, hp⟩ := h.split
  obtain ⟨front', back', heq, hdistinct', hp'⟩ := h'.split
  -- A front that went on would have a repeat in it.
  have hsame : front = front' ∧ q = q' := by
    rcases List.append_eq_append_iff.mp heq with ⟨c, hfront, hc⟩ | ⟨c, hfront, hc⟩
    · cases c with
      | nil => exact ⟨by simp [hfront], (List.cons.inj hc).1⟩
      | cons a c =>
        obtain ⟨rfl, _⟩ := List.cons.inj hc
        rw [hfront] at hdistinct'
        exact absurd (h.earlier.trans h.later.symm) (hdistinct'.ne hp)
    · cases c with
      | nil => exact ⟨by simp [hfront], (List.cons.inj hc).1.symm⟩
      | cons a c =>
        obtain ⟨rfl, _⟩ := List.cons.inj hc
        rw [hfront] at hdistinct
        exact absurd (h'.earlier.trans h'.later.symm) (hdistinct.ne hp')
  obtain ⟨rfl, rfl⟩ := hsame
  obtain rfl : i = j := Option.some.inj (h.later.symm.trans h'.later)
  exact ⟨rfl, hdistinct.eq hp hp' (h.earlier.trans h'.earlier.symm), rfl⟩

end Property

/-! ## Tables of leaves -/

namespace LeafTable

open Property (AreDistinct IsFirstRepeat)

/-- The table has each of the leaves under its identifier, and nothing else. -/
structure Holds (t : LeafTable) (ps : List Property) : Prop where
  get? (i : Identifier) (p : Property) : t.get? i = some p ↔ p ∈ ps ∧ p.ident? = some i
  length : t.length = ps.length

variable {t : LeafTable} {ps : List Property} {i : Identifier} {q : Property}

theorem Holds.nil : Holds [] [] :=
  ⟨fun _ _ => iff_of_false nofun fun h => List.not_mem_nil h.1, rfl⟩

theorem Holds.ne_of_get?_none (h : t.Holds ps) (free : t.get? i = none) :
    ∀ p ∈ ps, p.ident? ≠ some i := by
  intro p hp hident
  have hfound := (h.get? i p).mpr ⟨hp, hident⟩
  rw [free] at hfound
  cases hfound

theorem Holds.concat (h : t.Holds ps) (free : t.get? i = none) (ident : q.ident? = some i) :
    Holds ((i, q) :: t) (ps ++ [q]) := by
  refine ⟨fun j p => ?_, by simp [h.length]⟩
  rw [get?_cons, List.mem_append, List.mem_singleton]
  by_cases hij : i = j
  · subst hij
    rw [if_pos rfl, Option.some.injEq]
    constructor
    · rintro rfl
      exact ⟨.inr rfl, ident⟩
    · rintro ⟨hmem | rfl, hp⟩
      · exact absurd hp (h.ne_of_get?_none free p hmem)
      · rfl
  · rw [if_neg hij, h.get? j p]
    refine and_congr_left fun hp => ⟨.inl, ?_⟩
    rintro (hmem | rfl)
    · exact hmem
    · exact absurd (Option.some.inj (ident.symm.trans hp)) hij

/-- **Leaves are added until one repeats an identifier.** Of those that are done, none does. -/
theorem addAll_of_leaves {done : List Property} (holds : t.Holds done)
    (distinct : AreDistinct done) (leaves : ∀ q ∈ ps, ∃ i, q.ident? = some i) :
    (∃ t', addAll t ps = .ok t' ∧ t'.Holds (done ++ ps) ∧ AreDistinct (done ++ ps)) ∨
    ∃ i p q, IsFirstRepeat (done ++ ps) i p q ∧
      addAll t ps = .error (.duplicateIdentifier i p.title q.title) := by
  induction ps generalizing t done with
  | nil =>
    rw [List.append_nil]
    exact .inl ⟨t, rfl, holds, distinct⟩
  | cons q ps ih =>
    obtain ⟨⟨i, hi⟩, hrest⟩ := List.forall_mem_cons.mp leaves
    cases hfound : t.get? i with
    | some p =>
      obtain ⟨hmem, hp⟩ := (holds.get? i p).mp hfound
      refine .inr ⟨i, p, q, ⟨⟨done, ps, rfl, distinct, hmem⟩, hp, hi⟩, ?_⟩
      simp only [addAll, hi, hfound]
    | none =>
      have hdistinct : AreDistinct (done ++ [q]) := by
        refine List.pairwise_append.mpr ⟨distinct, List.pairwise_singleton _ _, fun p hp r hr => ?_⟩
        rw [List.mem_singleton.mp hr, hi]
        exact holds.ne_of_get?_none hfound p hp
      have hadd : addAll t (q :: ps) = addAll ((i, q) :: t) ps := by
        simp only [addAll, hi, hfound]
      rw [hadd, List.append_cons]
      exact ih (holds.concat hfound hi) hdistinct hrest

end LeafTable

/-! ## Answers of schemata -/

namespace Schema

open Property (AreDistinct IsFirstRepeat)

/-- Look-ups answer as the leaves tell: with the leaf of an identifier, or that there is none. -/
structure AnswersBy (s : Schema) (ps : List Property) : Prop where
  found (i : Identifier) (p : Property) : s.find i = .ok p ↔ p ∈ ps ∧ p.ident? = some i
  missing (i : Identifier) (e : SchemaError) :
    s.find i = .error e ↔ e = .propertyNotFound i ∧ ∀ p ∈ ps, p.ident? ≠ some i
  contains (i : Identifier) : s.contains i = true ↔ ∃ p, s.find i = .ok p
  size : s.size = ps.length

/-- The answers of two look-ups are equal leaves, or the same error. -/
inductive AreAlike : Except SchemaError Property → Except SchemaError Property → Prop
  | found {p q : Property} (equal : p.equal q = true) : AreAlike (.ok p) (.ok q)
  | missing (e : SchemaError) : AreAlike (.error e) (.error e)

theorem AreAlike.exists_iff {x y : Except SchemaError Property} (h : AreAlike x y) :
    (∃ p, x = .ok p) ↔ ∃ q, y = .ok q := by
  cases h with
  | found => exact iff_of_true ⟨_, rfl⟩ ⟨_, rfl⟩
  | missing => exact Iff.rfl

/-- All look-ups in two schemata have answers that are alike. -/
structure AnswersLike (s s' : Schema) : Prop where
  find (i : Identifier) : AreAlike (s.find i) (s'.find i)
  findText (text : String) : AreAlike (s.findText text) (s'.findText text)
  contains (i : Identifier) : s.contains i = s'.contains i
  size : s.size = s'.size

variable {s s' : Schema} {ps : List Property}

theorem find_eq_error {i : Identifier} {e : SchemaError} :
    s.find i = .error e ↔ e = .propertyNotFound i ∧ s.table.get? i = none := by
  rw [find]
  cases s.table.get? i with
  | none =>
    rw [Option.elim_none, Except.error.injEq, and_iff_left rfl]
    exact eq_comm
  | some p =>
    refine iff_of_false (fun h => ?_) fun h => ?_
    · cases h
    · cases h.2

theorem answersBy_of_holds (h : s.table.Holds ps) : s.AnswersBy ps where
  found i p := by rw [find, Outcome.elim_eq_ok, h.get?]
  missing i e := by
    rw [find_eq_error]
    refine and_congr_right fun _ => ⟨h.ne_of_get?_none, fun hnone => ?_⟩
    rw [Option.eq_none_iff_forall_ne_some]
    intro p hp
    obtain ⟨hmem, hident⟩ := (h.get? i p).mp hp
    exact hnone p hmem hident
  contains i := by
    simp only [Schema.contains, find, Outcome.elim_eq_ok]
    exact Option.isSome_iff_exists
  size := h.length

theorem exists_ident_of_mem_leaves {p q : Property} (h : q ∈ p.leaves) :
    ∃ i, q.ident? = some i := by
  obtain ⟨_, i, _, _, _, rfl⟩ := Property.isLeaf_of_mem_leaves h
  exact ⟨i, rfl⟩

/-- **Every schema answers by the leaves of its full tree.** -/
theorem answersBy (s : Schema) : s.AnswersBy s.main.leaves := by
  have htable := s.addAll_main
  rw [Leaves.toList_walk] at htable
  rcases LeafTable.addAll_of_leaves .nil .nil fun _ => exists_ident_of_mem_leaves with
    ⟨t, ht, hholds, _⟩ | ⟨_, _, _, _, herror⟩
  · obtain rfl := Except.ok.inj (htable.symm.trans ht)
    exact answersBy_of_holds hholds
  · rw [htable] at herror
    cases herror

/-- Two schemata that answer by the same leaves give the same answers. -/
theorem AnswersBy.same (h : s.AnswersBy ps) (h' : s'.AnswersBy ps) (i : Identifier) :
    s.find i = s'.find i ∧ s.contains i = s'.contains i := by
  have hfind : s.find i = s'.find i := by
    cases hi : s.find i with
    | ok p => exact ((h'.found i p).mpr ((h.found i p).mp hi)).symm
    | error e => exact ((h'.missing i e).mpr ((h.missing i e).mp hi)).symm
  refine ⟨hfind, Bool.eq_iff_iff.mpr ?_⟩
  rw [h.contains, h'.contains, hfind]

/-! ## Equal schemata -/

/-- **Schemata that are equal answer alike.** -/
theorem answersLike_of_equal (h : s.equal s' = true) : s.AnswersLike s' := by
  rw [equal, Bool.and_eq_true] at h
  have hleaves := Property.forall₂_leaves h.1
  have hfind : ∀ i, AreAlike (s.find i) (s'.find i) := by
    intro i
    cases hi : s.find i with
    | ok p =>
      obtain ⟨hp, hident⟩ := (s.answersBy.found i p).mp hi
      obtain ⟨q, hq, hequal⟩ := Outcome.exists_of_forall₂ hleaves.flip hp
      rw [(s'.answersBy.found i q).mpr ⟨hq, Property.ident?_of_equal hequal ▸ hident⟩]
      exact .found hequal
    | error e =>
      obtain ⟨he, hnone⟩ := (s.answersBy.missing i e).mp hi
      rw [(s'.answersBy.missing i e).mpr ⟨he, fun q hq hident => ?_⟩]
      · exact .missing e
      · obtain ⟨p, hp, hequal⟩ := Outcome.exists_of_forall₂ hleaves hq
        exact hnone p hp (Property.ident?_of_equal hequal ▸ hident)
  refine ⟨hfind, fun text => ?_, fun i => ?_, ?_⟩
  · rw [Schema.findText, Schema.findText]
    cases Identifier.parse text with
    | ok i => exact hfind i
    | error invalid => exact .missing _
  · rw [Bool.eq_iff_iff, s.answersBy.contains, s'.answersBy.contains]
    exact (hfind i).exists_iff
  · rw [s.answersBy.size, s'.answersBy.size, hleaves.length_eq]

/-! ## Schemata of two trees -/

/-- Two boxes make a schema, or the full tree has a first repeat, which is told. -/
theorem ofTrees_of_boxes {main mini : Property} (hmain : main.isBox = true)
    (hmini : mini.isBox = true) :
    (∃ s, ofTrees main mini = .ok s ∧ AreDistinct main.leaves) ∨
    ∃ i p q, IsFirstRepeat main.leaves i p q ∧
      ofTrees main mini = .error (.duplicateIdentifier i p.title q.title) := by
  rw [ofTrees, dif_pos hmain, dif_pos hmini]
  rcases LeafTable.addAll_of_leaves .nil .nil fun _ => exists_ident_of_mem_leaves with
    ⟨t, ht, _, hdistinct⟩ | ⟨i, p, q, hrepeat, herror⟩
  · left
    rw [← Leaves.toList_walk] at ht
    split
    · exact ⟨_, rfl, hdistinct⟩
    · rename_i h
      rw [ht] at h
      cases h
  · refine .inr ⟨i, p, q, hrepeat, ?_⟩
    rw [← Leaves.toList_walk] at herror
    split
    · rename_i h
      rw [herror] at h
      cases h
    · rename_i h
      rw [herror] at h
      cases h
      rfl

theorem exists_ofTrees_iff {main mini : Property} : (∃ s, ofTrees main mini = .ok s) ↔
    main.isBox = true ∧ mini.isBox = true ∧ AreDistinct main.leaves := by
  constructor
  · rintro ⟨s, hs⟩
    obtain ⟨rfl, rfl⟩ := ofTrees_eq_ok hs
    refine ⟨s.main_isBox, s.mini_isBox, ?_⟩
    rcases ofTrees_of_boxes s.main_isBox s.mini_isBox with ⟨_, _, h⟩ | ⟨_, _, _, _, herror⟩
    · exact h
    · rw [hs] at herror
      cases herror
  · rintro ⟨hmain, hmini, hdistinct⟩
    rcases ofTrees_of_boxes hmain hmini with ⟨s, hs, _⟩ | ⟨_, _, _, hrepeat, _⟩
    · exact ⟨s, hs⟩
    · exact absurd hdistinct hrepeat.not_areDistinct

theorem ofTrees_eq_error {main mini : Property} (hmain : main.isBox = true)
    (hmini : mini.isBox = true) {e : SchemaError} : ofTrees main mini = .error e ↔
      ∃ i p q, IsFirstRepeat main.leaves i p q ∧ e = .duplicateIdentifier i p.title q.title := by
  rcases ofTrees_of_boxes hmain hmini with ⟨s, hs, hdistinct⟩ | ⟨i, p, q, hrepeat, herror⟩
  · rw [hs]
    refine iff_of_false nofun ?_
    rintro ⟨_, _, _, hrepeat, _⟩
    exact hrepeat.not_areDistinct hdistinct
  · rw [herror, Except.error.injEq]
    constructor
    · rintro rfl
      exact ⟨i, p, q, hrepeat, rfl⟩
    · rintro ⟨j, p', q', hrepeat', rfl⟩
      obtain ⟨rfl, rfl, rfl⟩ := hrepeat.unique hrepeat'
      rfl

/-- **When there is a schema of two trees, and what schemata answer.** Two boxes make a schema
unless leaves of the full tree share an identifier; then the first leaf that repeats one is told,
after the leaf that had it before. Look-ups answer by the leaves of the full tree, whatever the
compact one is. So schemata that are equal answer alike. -/
theorem lookups_of_trees (main mini : Property) :
    ((∃ s, ofTrees main mini = .ok s) ↔
      main.isBox = true ∧ mini.isBox = true ∧ AreDistinct main.leaves) ∧
    (main.isBox = true → mini.isBox = true → ∀ e, ofTrees main mini = .error e ↔
      ∃ i p q, IsFirstRepeat main.leaves i p q ∧ e = .duplicateIdentifier i p.title q.title) ∧
    (∀ s, ofTrees main mini = .ok s → s.main = main ∧ s.mini = mini ∧
      ∀ mini', mini'.isBox = true → ∃ s', ofTrees main mini' = .ok s' ∧ s'.size = s.size ∧
        ∀ i, s'.find i = s.find i ∧ s'.contains i = s.contains i) ∧
    (∀ s : Schema, s.AnswersBy s.main.leaves) ∧
    ∀ s s' : Schema, s.equal s' = true → s.AnswersLike s' := by
  refine ⟨exists_ofTrees_iff, fun hmain hmini e => ofTrees_eq_error hmain hmini, ?_, answersBy,
    fun s s' => answersLike_of_equal⟩
  intro s hs
  obtain ⟨rfl, rfl⟩ := ofTrees_eq_ok hs
  refine ⟨rfl, rfl, fun mini' hmini' => ?_⟩
  obtain ⟨hmain, _, hdistinct⟩ := exists_ofTrees_iff.mp ⟨s, hs⟩
  obtain ⟨s', hs'⟩ := exists_ofTrees_iff.mpr ⟨hmain, hmini', hdistinct⟩
  obtain ⟨hsame, _⟩ := ofTrees_eq_ok hs'
  have hanswers : s'.AnswersBy s.main.leaves := hsame ▸ s'.answersBy
  exact ⟨s', hs', hanswers.size.trans s.answersBy.size.symm, hanswers.same s.answersBy⟩

/-- A link, and another under the same identifier, further down. -/
def crowded : Property :=
  .boxed "" [.leaf "first" .zero .link none false,
    .boxed "more" [.leaf "again" .zero .link none false]]

theorem lookups_of_trees_crowded :
    ofTrees crowded (.boxed "" []) = .error (.duplicateIdentifier .zero "first" "again") ∧
      ∃ s, ofTrees (.boxed "" []) crowded = .ok s ∧ s.size = 0 ∧
        s.find .zero = .error (.propertyNotFound .zero) := by
  obtain ⟨_, hfails, _⟩ := lookups_of_trees crowded (.boxed "" [])
  obtain ⟨hmade, _, htrees, hanswers, _⟩ := lookups_of_trees (.boxed "" []) crowded
  have hrepeat : IsFirstRepeat crowded.leaves .zero (.leaf "first" .zero .link none false)
      (.leaf "again" .zero .link none false) :=
    ⟨⟨[_], [], rfl, List.pairwise_singleton _ _, List.mem_cons_self⟩, rfl, rfl⟩
  refine ⟨(hfails rfl rfl _).mpr ⟨_, _, _, hrepeat, rfl⟩, ?_⟩
  obtain ⟨s, hs⟩ := hmade.mpr ⟨rfl, rfl, .nil⟩
  obtain ⟨hmain, _, _⟩ := htrees s hs
  have hempty : s.main.leaves = [] := by rw [hmain]; rfl
  refine ⟨s, hs, ?_, ?_⟩
  · rw [(hanswers s).size, hempty, List.length_nil]
  · refine ((hanswers s).missing .zero _).mpr ⟨rfl, ?_⟩
    rw [hempty]
    exact List.forall_mem_nil _

end Schema

end CollectionArchive
