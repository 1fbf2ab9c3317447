import CollectionArchive.Proofs.Decimal.Digits
import CollectionArchive.Proofs.Json.Reading
import Mathlib.Tactic.SplitIfs

/-!
# Numbers are read back

* `Json.Tree.IsLocal`: a reader that takes characters off a text and does not look beyond a comma or
  closing bracket; `readLiteral` is one.
* `Json.Number.IsWritten`: the text of the number is a literal of it, wherever it stands.
* **`Json.Number.isWritten_integer`**: so are the texts of integers of 64 bits.
* `Json.Number.exists_readLiteral`: a text of a number that is read on its own is a literal.
-/

namespace CollectionArchive.Json

namespace Tree

/-! ## Literals -/

/-- What may follow a value inside brackets, or nothing. -/
def Delimits : List Char → Prop
  | [] => True
  | c :: _ => c = ',' ∨ c = ']' ∨ c = '\x7d'

theorem Delimits.comma (cs : List Char) : Delimits (',' :: cs) :=
  .inl rfl

theorem Delimits.bracket (cs : List Char) : Delimits (']' :: cs) :=
  .inr (.inl rfl)

theorem Delimits.brace (cs : List Char) : Delimits ('\x7d' :: cs) :=
  .inr (.inr rfl)

theorem Delimits.noDigit {cs : List Char} (h : Delimits cs) : Decimal.NoDigit cs := by
  cases cs with
  | nil => exact fun c hc => by cases hc
  | cons c cs =>
    rintro _ ⟨⟩
    rcases h with rfl | rfl | rfl <;> decide

/-- A reader that takes characters off a text, and reads the same from it if more follows. -/
def IsLocal {α : Type} (read : List Char → Except Flaw (α × List Char)) : Prop :=
  ∀ cs a rest, read cs = .ok (a, rest) → rest <:+ cs ∧
    ∀ more, Delimits more → read (cs ++ more) = .ok (a, rest ++ more)

theorem isLocal_someDigits : IsLocal someDigits := by
  intro cs a rest h
  have hsuffix := Decimal.spanDigits_suffix cs
  rw [someDigits] at h
  cases hspan : Decimal.spanDigits cs with
  | mk ds after =>
    rw [hspan] at h hsuffix
    cases ds with
    | nil => cases after <;> cases h
    | cons d ds =>
      cases h
      refine ⟨hsuffix, fun more hmore => ?_⟩
      rw [someDigits, Decimal.spanDigits_append cs hmore.noDigit, hspan]

theorem isLocal_wholeDigits : IsLocal wholeDigits := by
  intro cs a rest h
  rw [wholeDigits, Outcome.bind_eq_ok] at h
  obtain ⟨⟨ds, after⟩, hsome, h⟩ := h
  obtain ⟨hsuffix, hmore⟩ := isLocal_someDigits _ _ _ hsome
  dsimp only at h
  split at h
  · cases h
  · cases h
    refine ⟨hsuffix, fun more hdelimits => ?_⟩
    rw [wholeDigits, hmore more hdelimits]
    simp only [bind, Except.bind]

theorem isLocal_fractionDigits : IsLocal fractionDigits := by
  intro cs a rest h
  rw [fractionDigits.eq_def] at h
  split at h
  · rename_i after
    obtain ⟨⟨ds, rest'⟩, hsome, h⟩ := Outcome.bind_eq_ok.mp h
    cases h
    obtain ⟨hsuffix, hmore⟩ := isLocal_someDigits _ _ _ hsome
    refine ⟨hsuffix.trans (List.suffix_cons _ _), fun more hdelimits => ?_⟩
    rw [List.cons_append, fractionDigits, hmore more hdelimits]
    rfl
  · rename_i hpoint
    cases h
    refine ⟨List.suffix_rfl, fun more hdelimits => ?_⟩
    cases cs with
    | nil =>
      cases more with
      | nil => rfl
      | cons c more =>
        rcases hdelimits with rfl | rfl | rfl <;> rfl
    | cons c cs =>
      rw [fractionDigits.eq_def]
      split
      · rename_i e
        cases e
        exact absurd rfl (hpoint _)
      · rfl

theorem isLocal_exponentDigits : IsLocal exponentDigits := by
  intro cs a rest h
  cases cs with
  | nil =>
    cases h
    refine ⟨List.suffix_rfl, fun more hdelimits => ?_⟩
    cases more with
    | nil => rfl
    | cons c more => rcases hdelimits with rfl | rfl | rfl <;> rfl
  | cons mark after =>
    rw [exponentDigits] at h
    split_ifs at h with hmark
    · cases hsign : Decimal.splitSign after with
      | mk negative unsigned =>
        rw [hsign] at h
        obtain ⟨⟨ds, rest'⟩, hsome, h⟩ := Outcome.bind_eq_ok.mp h
        cases h
        obtain ⟨hsuffix, hmore⟩ := isLocal_someDigits _ _ _ hsome
        have hunsigned := Decimal.splitSign_suffix after
        rw [hsign] at hunsigned
        refine ⟨(hsuffix.trans hunsigned).trans (List.suffix_cons _ _), fun more hdelimits => ?_⟩
        cases after with
        | nil =>
          cases hsign
          cases hsome
        | cons sign after =>
          rw [List.cons_append, exponentDigits, if_pos hmark, Decimal.splitSign_append, hsign]
          dsimp only
          rw [hmore more hdelimits]
          rfl
    · cases h
      refine ⟨List.suffix_rfl, fun more _ => ?_⟩
      rw [List.cons_append, exponentDigits, if_neg hmark]

/-- **A literal is read alike wherever it stands.** -/
theorem isLocal_readLiteral (negative : Bool) : IsLocal (readLiteral negative) := by
  intro cs a rest h
  rw [readLiteral] at h
  obtain ⟨⟨whole, afterWhole⟩, hwhole, h⟩ := Outcome.bind_eq_ok.mp h
  obtain ⟨⟨fraction, afterFraction⟩, hfraction, h⟩ := Outcome.bind_eq_ok.mp h
  obtain ⟨⟨exponent, after⟩, hexponent, h⟩ := Outcome.bind_eq_ok.mp h
  cases h
  obtain ⟨hs1, hwhole⟩ := isLocal_wholeDigits _ _ _ hwhole
  obtain ⟨hs2, hfraction⟩ := isLocal_fractionDigits _ _ _ hfraction
  obtain ⟨hs3, hexponent⟩ := isLocal_exponentDigits _ _ _ hexponent
  refine ⟨(hs3.trans hs2).trans hs1, fun more hmore => ?_⟩
  rw [readLiteral, hwhole more hmore]
  simp only [bind, Except.bind]
  rw [hfraction more hmore]
  dsimp only
  rw [hexponent more hmore]
  rfl

/-! ## Blanks -/

theorem ne_of_digit {c c' : Char} {d : Nat} (h : Decimal.digit? c = some d)
    (h' : Decimal.digit? c' = none) : c ≠ c' := by
  rintro rfl
  rw [h] at h'
  cases h'

theorem isGap_of_digit {c : Char} {d : Nat} (h : Decimal.digit? c = some d) : isGap c = false := by
  have hspace : c ≠ ' ' ∧ c ≠ '\n' ∧ c ≠ '\t' ∧ c ≠ '\r' :=
    ⟨ne_of_digit h rfl, ne_of_digit h rfl, ne_of_digit h rfl, ne_of_digit h rfl⟩
  simp [isGap, hspace]

theorem isGap_of_isDigit {c : Char} (h : c.isDigit = true) : isGap c = false :=
  isGap_of_digit (if_pos h)

theorem skipGap_of_front {c : Char} (h : isGap c = false) (cs : List Char) :
    skipGap (c :: cs) = c :: cs := by
  rw [skipGap, List.dropWhile_cons_of_neg]
  rw [h]
  decide

/-! ## Atoms -/

/-- A literal starts with a digit. -/
theorem exists_digit_of_readLiteral {negative : Bool} {cs rest : List Char} {l : Literal}
    (h : readLiteral negative cs = .ok (l, rest)) :
    ∃ c after d, cs = c :: after ∧ Decimal.digit? c = some d := by
  obtain ⟨_, hwhole, _⟩ := Outcome.bind_eq_ok.mp h
  obtain ⟨_, hsome, _⟩ := Outcome.bind_eq_ok.mp hwhole
  cases cs with
  | nil => cases hsome
  | cons c after =>
    cases hc : Decimal.digit? c with
    | none =>
      rw [someDigits, Decimal.spanDigits, hc] at hsome
      cases hsome
    | some d => exact ⟨c, after, d, rfl, hc⟩

/-- The characters of a literal after its sign. -/
def signedChars (negative : Bool) (cs : List Char) : List Char :=
  if negative then '-' :: cs else cs

/-- A literal is read where a value is expected. -/
theorem readAtom_of_readLiteral {negative : Bool} {cs rest after : List Char} {l : Literal}
    {first : Char} (h : readLiteral negative cs = .ok (l, rest))
    (hchars : signedChars negative cs = first :: after) :
    readAtom first after = (.number l, some rest) := by
  cases negative with
  | true =>
    obtain ⟨rfl, rfl⟩ := List.cons.inj hchars
    simp only [readAtom, h]
  | false =>
    obtain ⟨c, _, d, rfl, hc⟩ := exists_digit_of_readLiteral h
    obtain ⟨rfl, rfl⟩ := List.cons.inj hchars
    have hn := ne_of_digit hc (show Decimal.digit? 'n' = none by decide)
    have ht := ne_of_digit hc (show Decimal.digit? 't' = none by decide)
    have hf := ne_of_digit hc (show Decimal.digit? 'f' = none by decide)
    have hquote := ne_of_digit hc (show Decimal.digit? '"' = none by decide)
    have hminus := ne_of_digit hc (show Decimal.digit? '-' = none by decide)
    simp only [readAtom, h, hc, Option.isSome_some, if_true]

/-- A number is read from a literal only. -/
theorem readLiteral_of_readAtom {first : Char} {after : List Char} {l : Literal}
    {rest : Option (List Char)} (h : readAtom first after = (.number l, rest)) :
    ∃ negative cs more, signedChars negative cs = first :: after ∧
      readLiteral negative cs = .ok (l, more) ∧ rest = some more := by
  unfold readAtom at h
  dsimp only at h
  split at h
  · split at h <;> cases h
  · split at h <;> cases h
  · split at h <;> cases h
  · split at h <;> cases h
  · split at h
    · rename_i hl
      cases h
      exact ⟨true, after, _, rfl, hl, rfl⟩
    · cases h
  · split_ifs at h
    · split at h
      · rename_i hl
        cases h
        exact ⟨false, first :: after, _, rfl, hl, rfl⟩
      · cases h
    · cases h

/-- A number at the start of a text is one of its atoms. -/
theorem readAtom_of_readValue {levels : Nat} {cs : List Char} {l : Literal}
    {rest : Option (List Char)} (h : readValue levels cs = (.number l, rest)) :
    ∃ first after, skipGap cs = first :: after ∧ readAtom first after = (.number l, rest) := by
  cases levels with
  | zero => cases h
  | succ levels =>
    rw [readValue] at h
    split at h
    · cases h
    · split at h <;> cases h
    · split at h <;> cases h
    · rename_i first after _ _ hcs
      exact ⟨first, after, hcs, h⟩

theorem readLiteral_natChars (negative : Bool) (n : Nat) : ∃ ds,
    readLiteral negative (Decimal.natChars n) = .ok (⟨negative, ds, none, none⟩, []) ∧
      Decimal.ofDigits ds = n := by
  obtain ⟨d, ds, hspan, hvalue, hzero⟩ := Decimal.exists_spanDigits n
  refine ⟨d :: ds, ?_, hvalue⟩
  have hsome : someDigits (Decimal.natChars n) = .ok (d :: ds, []) := by
    rw [someDigits, hspan]
  have hwhole : wholeDigits (Decimal.natChars n) = .ok (d :: ds, []) := by
    rw [wholeDigits, hsome]
    simp only [bind, Except.bind]
    split
    · rename_i e
      obtain ⟨hd, hds⟩ := List.cons.inj e
      rw [hzero hd] at hds
      cases hds
    · rfl
  rw [readLiteral, hwhole]
  rfl

end Tree

/-! ## Numbers -/

namespace Number

/-- An integer of 64 bits, with or without sign. -/
def IsWord (i : Int) : Prop :=
  -0x8000000000000000 ≤ i ∧ i < 0x10000000000000000

/-- The text of the number is a literal of it. -/
def IsWritten (n : Number) : Prop :=
  ∃ negative cs l, n.chars = Tree.signedChars negative cs ∧
    Tree.readLiteral negative cs = .ok (l, []) ∧ l.number? = some n

/-- **The text of an integer of 64 bits is a literal of it.** -/
theorem isWritten_integer {i : Int} (h : IsWord i) : (integer i).IsWritten := by
  obtain ⟨hlow, hhigh⟩ := h
  by_cases hi : i < 0
  · obtain ⟨ds, hread, hvalue⟩ := Tree.readLiteral_natChars true i.natAbs
    refine ⟨true, _, _, by rw [chars, Decimal.intChars, if_pos hi]; rfl, hread, ?_⟩
    have hpos : 0 < i.natAbs := by omega
    have hbound : i.natAbs ≤ 0x8000000000000000 := by omega
    have hvalue' : -(i.natAbs : Int) = i := by omega
    have hnumber :
        Literal.number? ⟨true, ds, none, none⟩ = some (.integer (-(i.natAbs : Int))) := by
      simp [Literal.number?, hvalue, hpos, hbound]
    rw [hnumber, hvalue']
  · obtain ⟨ds, hread, hvalue⟩ := Tree.readLiteral_natChars false i.natAbs
    refine ⟨false, _, _, by rw [chars, Decimal.intChars, if_neg hi]; rfl, hread, ?_⟩
    have hbound : i.natAbs < 0x10000000000000000 := by omega
    have hvalue' : (i.natAbs : Int) = i := by omega
    have hnumber : Literal.number? ⟨false, ds, none, none⟩ = some (.integer (i.natAbs : Int)) := by
      simp [Literal.number?, hvalue, hbound]
    rw [hnumber, hvalue']

/-! ### Numbers that are read back on their own -/

theorem isGap_of_mem_positional {ds : List Char} {point : Int} {c : Char}
    (hds : ∀ c ∈ ds, Tree.isGap c = false) (h : c ∈ Decimal.positional ds point) :
    Tree.isGap c = false := by
  unfold Decimal.positional at h
  dsimp only at h
  split_ifs at h
  all_goals simp only [List.cons_append, List.mem_cons, List.mem_append, List.not_mem_nil,
    List.mem_replicate, or_false] at h
  · rcases h with rfl | rfl | ⟨_, rfl⟩ | h
    · rfl
    · rfl
    · rfl
    · exact hds c h
  · rcases h with (h | ⟨_, rfl⟩) | rfl | rfl
    · exact hds c h
    · rfl
    · rfl
    · rfl
  · rcases h with h | rfl | h
    · exact hds c (List.mem_of_mem_take h)
    · rfl
    · exact hds c (List.mem_of_mem_drop h)

theorem isGap_of_mem_scientific {ds : List Char} {point : Int} {c : Char}
    (hds : ∀ c ∈ ds, Tree.isGap c = false) (h : c ∈ Decimal.scientific ds point) :
    Tree.isGap c = false := by
  unfold Decimal.scientific at h
  dsimp only at h
  simp only [List.mem_cons, List.mem_append] at h
  rcases h with (h | h) | rfl | rfl | h
  · exact hds c (List.mem_of_mem_take h)
  · split_ifs at h
    · cases h
    · rcases List.mem_cons.mp h with rfl | h
      · rfl
      · exact hds c (List.mem_of_mem_drop h)
  · rfl
  · split_ifs <;> rfl
  · exact Tree.isGap_of_isDigit (Decimal.isDigit_of_mem_natChars h)

theorem isGap_of_mem_layout {layout : Decimal.Layout} {x : Binary64.Finite} {c : Char}
    (h : c ∈ layout.chars x) : Tree.isGap c = false := by
  have hsign : ∀ c ∈ (if x.negative then ['-'] else []), Tree.isGap c = false := by
    intro c hc
    split_ifs at hc
    · rw [List.mem_singleton.mp hc]
      rfl
    · cases hc
  have hds : ∀ c ∈ ((Decimal.natChars (Decimal.shortest x).1).reverse.dropWhile (· == '0')).reverse,
      Tree.isGap c = false := by
    intro c hc
    have hc := (List.dropWhile_sublist _).subset (List.mem_reverse.mp hc)
    exact Tree.isGap_of_isDigit (Decimal.isDigit_of_mem_natChars (List.mem_reverse.mp hc))
  unfold Decimal.Layout.chars at h
  dsimp only at h
  generalize (if x.negative then ['-'] else []) = sign at h hsign
  split_ifs at h
  · rcases List.mem_append.mp h with h | h
    · exact hsign c h
    · have hzero : (['0', '.', '0'].any Tree.isGap) = false := by decide
      simpa using List.any_eq_false.mp hzero c h
  · exact (List.mem_append.mp h).elim (hsign c) (isGap_of_mem_positional hds)
  · exact (List.mem_append.mp h).elim (hsign c) (isGap_of_mem_scientific hds)

theorem isGap_of_mem_chars {n : Number} {c : Char} (h : c ∈ n.chars) : Tree.isGap c = false := by
  cases n with
  | integer i =>
    rw [chars, Decimal.intChars] at h
    split_ifs at h
    · rcases List.mem_cons.mp h with rfl | h
      · rfl
      · exact Tree.isGap_of_isDigit (Decimal.isDigit_of_mem_natChars h)
    · exact Tree.isGap_of_isDigit (Decimal.isDigit_of_mem_natChars h)
  | double x => exact isGap_of_mem_layout h

/-- The literal that the text of a number is read as on its own is all of the text. -/
theorem exists_readLiteral {n : Number} {l : Literal}
    (h : Tree.ofText n.text = (.number l, false)) :
    ∃ negative cs, n.chars = Tree.signedChars negative cs ∧
      Tree.readLiteral negative cs = .ok (l, []) := by
  have hgaps : ∀ cs, cs <:+ n.chars → Tree.skipGap cs = cs := by
    intro cs hcs
    cases cs with
    | nil => rfl
    | cons c cs =>
      exact Tree.skipGap_of_front (isGap_of_mem_chars (hcs.subset List.mem_cons_self)) cs
  rw [Tree.ofText, text, String.toList_ofList] at h
  cases hread : Tree.readValue (2 * n.chars.length + 2) n.chars with
  | mk tree rest =>
    rw [hread] at h
    obtain rfl : tree = .number l := by
      cases rest <;> exact congrArg Prod.fst h
    obtain ⟨first, after, hfront, hatom⟩ := Tree.readAtom_of_readValue hread
    rw [hgaps n.chars List.suffix_rfl] at hfront
    obtain ⟨negative, cs, more, hchars, hliteral, rfl⟩ := Tree.readLiteral_of_readAtom hatom
    have hcs : n.chars = Tree.signedChars negative cs := hfront.trans hchars.symm
    have hsuffix : more <:+ n.chars := by
      rw [hcs]
      refine (Tree.isLocal_readLiteral negative cs l more hliteral).1.trans ?_
      unfold Tree.signedChars
      split_ifs
      · exact List.suffix_cons _ _
      · exact List.suffix_rfl
    have hnil : more = [] := by
      have hempty : (!(Tree.skipGap more).isEmpty) = false := congrArg Prod.snd h
      rwa [hgaps more hsuffix, Bool.not_eq_false', List.isEmpty_iff] at hempty
    rw [hnil] at hliteral
    exact ⟨negative, cs, hcs, hliteral⟩

end Number

end CollectionArchive.Json
