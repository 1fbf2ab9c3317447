import CollectionArchive.Schema.Grammar
import CollectionArchive.Proofs.Text.Utf8

/-!
# Names of parameters

The names of parameters are compared position by position: each parameter with all those behind it,
and two names byte by byte. All of these visits are made by one loop, and a look-up outside of a
sequence would leave it without an answer.

* `Parameter.Answers`: a check has an answer, and it is the right one.
* `Parameter.answers_of_lt`: a position that is visited; **`Parameter.answers_allFrom`**: the loop
  has an answer if the check has one at each position, and it is about all of them.
* **`Parameter.answers_sameName`**, **`Parameter.answers_namesUnique`**: two names, and all names.
* `Parameter.HaveDistinctNames`, `Parameter.IsOnly`: no two positions carry the same name, and the
  only position that carries a name.
* `Grammar.parameter?_eq_some`, `Grammar.parameter?_eq_none`: what is found under a name.
* **`Grammar.names_of_positions`**: which parameters make up a grammar, and what it finds.
-/

namespace CollectionArchive

namespace Parameter

/-! ## Checks of positions -/

section Checks

/-- All that a check looked up was there, and its answer is whether `P` holds. -/
def Answers (answer : Option Bool) (P : Prop) : Prop :=
  ∃ b, answer = some b ∧ (b = true ↔ P)

variable {answer : Option Bool} {check : Nat → Option Bool} {P Q : Prop} {i n : Nat}

theorem Answers.congr (h : Answers answer P) (hiff : P ↔ Q) : Answers answer Q := by
  obtain ⟨b, hb, hP⟩ := h
  exact ⟨b, hb, hP.trans hiff⟩

theorem Answers.eq_true_iff (h : Answers answer P) : answer = some true ↔ P := by
  obtain ⟨b, rfl, hP⟩ := h
  rw [Option.some.injEq, hP]

/-- One more position is visited, and the others only if the check holds there. -/
theorem answers_of_lt (hi : i < n) (hcheck : Answers (check i) P)
    (hrest : Answers (allFrom n check (i + 1)) Q) : Answers (allFrom n check i) (P ∧ Q) := by
  obtain ⟨b, hb, hP⟩ := hcheck
  rw [allFrom, if_pos hi, hb]
  cases b with
  | true => exact hrest.congr (and_iff_right (hP.mp rfl)).symm
  | false => exact ⟨false, rfl, iff_of_false Bool.false_ne_true fun h => Bool.false_ne_true (hP.mpr h.1)⟩

theorem answers_of_le (hi : n ≤ i) : Answers (allFrom n check i) True := by
  rw [allFrom, if_neg (Nat.not_lt.mpr hi)]
  exact ⟨true, rfl, iff_of_true rfl trivial⟩

/-- **The loop answers for all positions from the one on that it has come to.** -/
theorem answers_allFrom {P : Nat → Prop} (i : Nat)
    (hcheck : ∀ k, i ≤ k → k < n → Answers (check k) (P k)) :
    Answers (allFrom n check i) (∀ k, i ≤ k → k < n → P k) := by
  induction i using allFrom.induct n with
  | case1 i hi ih =>
    have hrest := ih fun k hk => hcheck k (Nat.le_of_succ_le hk)
    refine (answers_of_lt hi (hcheck i (Nat.le_refl i) hi) hrest).congr ⟨?_, ?_⟩
    · rintro ⟨hfirst, hothers⟩ k hk hn
      rcases Nat.eq_or_lt_of_le hk with rfl | hlt
      · exact hfirst
      · exact hothers k hlt hn
    · intro h
      exact ⟨h i (Nat.le_refl i) hi, fun k hk => h k (Nat.le_of_succ_le hk)⟩
  | case2 i hi =>
    refine (answers_of_le (Nat.not_lt.mp hi)).congr (iff_of_true trivial fun k hk hn => ?_)
    omega

end Checks

/-! ## Bytes of names -/

section Bytes

variable {a b : Bytes} {k : Nat}

theorem answers_sameByte (ha : k < a.length) (hb : k < b.length) :
    Answers (sameByte a b k) (a[k]? = b[k]?) := by
  rw [sameByte, List.getElem?_eq_getElem ha, List.getElem?_eq_getElem hb, Option.some.injEq]
  exact ⟨_, rfl, beq_iff_eq⟩

/-- Bytes are only compared where lengths agree, so each position of one is one of the other. -/
theorem answers_sameBytes (a b : Bytes) : Answers (sameBytes a b) (∀ k : Nat, a[k]? = b[k]?) := by
  rw [sameBytes]
  by_cases hlength : a.length = b.length
  · have hall := answers_allFrom 0 fun k _ hk => answers_sameByte hk (hlength ▸ hk)
    rw [if_pos (beq_iff_eq.mpr hlength)]
    refine hall.congr ⟨fun h k => ?_, fun h k _ _ => h k⟩
    by_cases hk : k < a.length
    · exact h k (Nat.zero_le k) hk
    · have ha : a.length ≤ k := Nat.not_lt.mp hk
      rw [List.getElem?_eq_none ha, List.getElem?_eq_none (hlength ▸ ha)]
  · rw [if_neg (mt beq_iff_eq.mp hlength)]
    refine ⟨false, rfl, iff_of_false Bool.false_ne_true fun h => ?_⟩
    exact hlength (congrArg List.length (List.ext_getElem? h))

end Bytes

/-! ## Names at positions -/

variable {ps : List Parameter} {p q : Parameter} {i j : Nat}

/-- **The bytes of two names agree if and only if the names are the same.** -/
theorem answers_sameName (p q : Parameter) : Answers (p.sameName q) (p.name = q.name) :=
  (answers_sameBytes _ _).congr (List.ext_getElem?_iff.symm.trans Bytes.ofText_inj)

/-- The parameters at two positions have different names. -/
def NamesDiffer (ps : List Parameter) (i j : Nat) : Prop :=
  ∀ p q, ps[i]? = some p → ps[j]? = some q → p.name ≠ q.name

/-- No two different positions carry the same name. -/
def HaveDistinctNames (ps : List Parameter) : Prop :=
  ∀ i j, i ≠ j → NamesDiffer ps i j

/-- The parameter `p` at position `i` is the only one that has the name. -/
structure IsOnly (ps : List Parameter) (name : String) (i : Nat) (p : Parameter) : Prop where
  stands : ps[i]? = some p
  named : p.name = name
  only : ∀ j q, ps[j]? = some q → q.name = name → j = i

theorem answers_differ (hi : i < ps.length) (hj : j < ps.length) :
    Answers (differ ps i j) (NamesDiffer ps i j) := by
  obtain ⟨same, hsame, hiff⟩ := answers_sameName ps[i] ps[j]
  have hnames : NamesDiffer ps i j ↔ ps[i].name ≠ ps[j].name := by
    rw [NamesDiffer, List.getElem?_eq_getElem hi, List.getElem?_eq_getElem hj]
    simp
  rw [differ, List.getElem?_eq_getElem hi, List.getElem?_eq_getElem hj]
  refine ⟨!same, by simp [hsame], ?_⟩
  rw [hnames, Bool.not_eq_true', ← Bool.not_eq_true, hiff]

/-- **All names are distinct if each differs from those behind it.** -/
theorem answers_namesUnique (ps : List Parameter) :
    Answers (namesUnique ps) (HaveDistinctNames ps) := by
  have hbehind : ∀ i, 0 ≤ i → i < ps.length → Answers (allFrom ps.length (differ ps i) (i + 1))
      (∀ j, i + 1 ≤ j → j < ps.length → NamesDiffer ps i j) :=
    fun i _ hi => answers_allFrom (i + 1) fun j _ hj => answers_differ hi hj
  refine (answers_allFrom 0 hbehind).congr ⟨?_, ?_⟩
  · intro h i j hij p q hp hq
    obtain ⟨hi, _⟩ := List.getElem?_eq_some_iff.mp hp
    obtain ⟨hj, _⟩ := List.getElem?_eq_some_iff.mp hq
    -- Only the pairs with the lower position in front are compared.
    rcases Nat.lt_or_gt_of_ne hij with hlt | hlt
    · exact h i (Nat.zero_le i) hi j hlt hj p q hp hq
    · exact (h j (Nat.zero_le j) hj i hlt hi q p hq hp).symm
  · intro h i _ _ j hlt _
    exact h i j (Nat.ne_of_lt hlt)

/-- Where names are distinct, each parameter is the only one of its name. -/
theorem HaveDistinctNames.isOnly (h : HaveDistinctNames ps) (hp : ps[i]? = some p) :
    IsOnly ps p.name i p where
  stands := hp
  named := rfl
  only j q hq hname := Decidable.byContradiction fun hne => h j i hne q p hq hp hname

end Parameter

/-! ## Grammars -/

namespace Grammar

open Parameter (Answers HaveDistinctNames IsOnly answers_namesUnique)

variable {g : Grammar} {ps : List Parameter} {name : String} {p : Parameter}

theorem ofList?_eq_some : ofList? ps = some g ↔ g.parameters = ps := by
  rw [ofList?]
  constructor
  · intro h
    split at h
    · obtain rfl := Option.some.inj h
      rfl
    · cases h
  · rintro rfl
    exact dif_pos g.unique

theorem haveDistinctNames (g : Grammar) : HaveDistinctNames g.parameters :=
  (answers_namesUnique g.parameters).eq_true_iff.mp g.unique

theorem exists_ofList?_iff : (∃ g, ofList? ps = some g) ↔ HaveDistinctNames ps := by
  constructor
  · rintro ⟨g, h⟩
    obtain rfl := ofList?_eq_some.mp h
    exact g.haveDistinctNames
  · intro h
    exact ⟨⟨ps, (answers_namesUnique ps).eq_true_iff.mpr h⟩, ofList?_eq_some.mpr rfl⟩

/-- There is nothing under a name that no parameter has. -/
theorem parameter?_eq_none : g.parameter? name = none ↔ ∀ p ∈ g.parameters, p.name ≠ name := by
  rw [parameter?, List.find?_eq_none]
  exact forall₂_congr fun p _ => not_congr beq_iff_eq

/-- A name leads to the only parameter that has it, wherever it stands. -/
theorem parameter?_eq_some :
    g.parameter? name = some p ↔ ∃ i, IsOnly g.parameters name i p := by
  constructor
  · intro h
    obtain ⟨i, hi⟩ := List.mem_iff_getElem?.mp (List.mem_of_find?_eq_some h)
    have hname := List.find?_some h
    obtain rfl : p.name = name := beq_iff_eq.mp hname
    exact ⟨i, g.haveDistinctNames.isOnly hi⟩
  · rintro ⟨i, honly⟩
    cases hfound : g.parameter? name with
    | none =>
      exact absurd honly.named (parameter?_eq_none.mp hfound p (List.mem_of_getElem? honly.stands))
    | some q =>
      obtain ⟨j, hj⟩ := List.mem_iff_getElem?.mp (List.mem_of_find?_eq_some hfound)
      have hname := List.find?_some hfound
      obtain rfl := honly.only j q hj (beq_iff_eq.mp hname)
      exact hj.symm.trans honly.stands

/-- **Which parameters make up a grammar, and what it finds.** Two names are compared byte for byte,
and all names by pairs of positions. Whatever is looked up is there, and the answer is yes if and
only if no two different positions carry the same name. Lists of this sort make up a grammar, and
it finds the only parameter of a name, wherever that stands. -/
theorem names_of_positions (ps : List Parameter) :
    (∀ p q : Parameter, Answers (p.sameName q)
      (∀ k : Nat, (Bytes.ofText p.name)[k]? = (Bytes.ofText q.name)[k]?)) ∧
    Answers (Parameter.namesUnique ps) (HaveDistinctNames ps) ∧
    ((∃ g, ofList? ps = some g) ↔ HaveDistinctNames ps) ∧
    ∀ g, ofList? ps = some g → g.parameters = ps ∧ ∀ name,
      (∀ p, g.parameter? name = some p ↔ ∃ i, IsOnly ps name i p) ∧
      (g.parameter? name = none ↔ ∀ p ∈ ps, p.name ≠ name) := by
  refine ⟨fun p q => Parameter.answers_sameBytes _ _, answers_namesUnique ps, exists_ofList?_iff,
    fun g hg => ?_⟩
  obtain rfl := ofList?_eq_some.mp hg
  exact ⟨rfl, fun name => ⟨fun p => parameter?_eq_some, parameter?_eq_none⟩⟩

/-- Parameters of which the first and the last have the same name. -/
def repeating : List Parameter :=
  [.required "variants" .stringList, .optional "ordered" .bool, .optional "variants" .stringList]

/-- The third parameter of links is found under its name, and parameters with a repeated name make
up no grammar. -/
theorem names_of_positions_third :
    ofList? link.parameters = some link ∧
      link.parameter? "reverse_ident" = some (.optional "reverse_ident" .string) ∧
      ofList? repeating = none := by
  obtain ⟨_, _, _, hfinds⟩ := names_of_positions link.parameters
  obtain ⟨_, _, haccepted, _⟩ := names_of_positions repeating
  have hgrammar : ofList? link.parameters = some link := ofList?_eq_some.mpr rfl
  have hthird : link.parameters[2]? = some (.optional "reverse_ident" .string) := rfl
  have honly := link.haveDistinctNames.isOnly hthird
  refine ⟨hgrammar, (((hfinds link hgrammar).2 _).1 _).mpr ⟨2, honly⟩, ?_⟩
  refine Option.eq_none_iff_forall_ne_some.mpr fun g hg => ?_
  exact haccepted.mp ⟨g, hg⟩ 0 2 (by decide) _ _ rfl rfl rfl

end Grammar

end CollectionArchive
