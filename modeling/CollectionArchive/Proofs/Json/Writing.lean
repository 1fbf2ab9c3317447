import CollectionArchive.Proofs.Json.Numbers
import CollectionArchive.Proofs.Json.Text

/-!
# Texts of JSON are read back

Whoever writes a part of a JSON text need not know what follows it, if that is a comma, a closing
bracket or nothing.

* `Json.Tree.Writes`: the characters write a tree, wherever they stand.
* `Json.Tree.Writes.null`, `.bool`, `.text`, `.literal`: what has no parts.
* **`Json.Tree.Writes.bracketed`**, **`Json.Tree.Writes.braced`**: arrays and objects of parts.
* **`Json.Tree.ofText_of_writes`**: what is read from a text that writes a tree.
-/

namespace CollectionArchive.Json.Tree

/-- The characters write a tree, with whatever may follow a value behind them. Two levels of
recursion are enough for each of them. -/
structure Writes (cs : List Char) (t : Tree) : Prop where
  front : ∃ c after, cs = c :: after ∧ isGap c = false ∧ c ≠ ']'
  read : ∀ levels rest, 2 * cs.length ≤ levels → Delimits rest →
    readValue levels (cs ++ rest) = (t, some rest)

theorem commaSeparated_cons_cons (part part' : List Char) (parts : List (List Char)) :
    commaSeparated (part :: part' :: parts) = part ++ ',' :: commaSeparated (part' :: parts) := by
  rw [commaSeparated, List.intercalate_cons_cons, List.append_assoc, List.singleton_append,
    commaSeparated]

theorem commaSeparated_singleton (part : List Char) : commaSeparated [part] = part :=
  List.intercalate_singleton

/-- What is separated starts with its first part. -/
theorem exists_commaSeparated (part : List Char) (parts : List (List Char)) :
    ∃ after, commaSeparated (part :: parts) = part ++ after := by
  cases parts with
  | nil => exact ⟨[], by rw [commaSeparated_singleton, List.append_nil]⟩
  | cons part' parts => exact ⟨_, commaSeparated_cons_cons part part' parts⟩

namespace Writes

/-! ## Values without parts -/

/-- What is read as an atom in front of anything that may follow a value. -/
theorem atom {first : Char} {after : List Char} {t : Tree} (hgap : isGap first = false)
    (hbracket : first ≠ '[') (hbrace : first ≠ '\x7b') (hclose : first ≠ ']')
    (h : ∀ rest, Delimits rest → readAtom first (after ++ rest) = (t, some rest)) :
    Writes (first :: after) t where
  front := ⟨first, after, rfl, hgap, hclose⟩
  read levels rest hlevels hrest := by
    cases levels with
    | zero => exact absurd hlevels (by simp)
    | succ levels =>
      rw [readValue, List.cons_append, skipGap_of_front hgap]
      simp only [h rest hrest]

theorem null : Writes Value.null.chars .null :=
  atom rfl (by decide) (by decide) (by decide) fun _ _ => rfl

theorem bool (b : Bool) : Writes (boolChars b) (.bool b) := by
  cases b with
  | true => exact atom rfl (by decide) (by decide) (by decide) fun _ _ => rfl
  | false => exact atom rfl (by decide) (by decide) (by decide) fun _ _ => rfl

theorem text (s : String) : Writes (quotedChars s) (.text (some s)) := by
  obtain ⟨after, hchars, hread⟩ := readText_quotedChars s
  rw [hchars]
  refine atom rfl (by decide) (by decide) (by decide) fun rest _ => ?_
  simp only [readAtom, hread]

theorem literal {negative : Bool} {cs : List Char} {l : Literal}
    (h : readLiteral negative cs = .ok (l, [])) : Writes (signedChars negative cs) (.number l) := by
  obtain ⟨first, after, hfront, hgap, hbracket, hbrace, hclose⟩ : ∃ first after,
      signedChars negative cs = first :: after ∧ isGap first = false ∧ first ≠ '[' ∧
        first ≠ '\x7b' ∧ first ≠ ']' := by
    cases negative with
    | true => exact ⟨'-', cs, rfl, by decide⟩
    | false =>
      obtain ⟨c, after, d, rfl, hc⟩ := exists_digit_of_readLiteral h
      exact ⟨c, after, rfl, isGap_of_digit hc, ne_of_digit hc (by decide),
        ne_of_digit hc (by decide), ne_of_digit hc (by decide)⟩
  rw [hfront]
  refine atom hgap hbracket hbrace hclose fun rest hrest => ?_
  have hmore := (isLocal_readLiteral negative cs l [] h).2 rest hrest
  refine readAtom_of_readLiteral hmore ?_
  rw [← List.cons_append, ← hfront]
  unfold signedChars
  split_ifs <;> rfl

theorem number {n : Number} (h : n.IsWritten) :
    ∃ l, Writes n.chars (.number l) ∧ l.number? = some n := by
  obtain ⟨negative, cs, l, hchars, hread, hl⟩ := h
  exact ⟨l, hchars ▸ literal hread, hl⟩

/-! ## Arrays -/

/-- Items are read up to the end of their array. -/
theorem readItems {part : List Char} {parts : List (List Char)} {t : Tree} {ts : List Tree}
    (h : Writes part t) (hs : List.Forall₂ Writes parts ts) {levels : Nat} {rest : List Char}
    (hlevels : 2 * (commaSeparated (part :: parts)).length < levels) :
    Tree.readItems levels (commaSeparated (part :: parts) ++ ']' :: rest) =
      ((t :: ts, none), some rest) := by
  induction hs generalizing part t levels with
  | nil =>
    rw [commaSeparated_singleton] at hlevels ⊢
    cases levels with
    | zero => exact absurd hlevels (Nat.not_lt_zero _)
    | succ levels =>
      rw [Tree.readItems, h.read levels _ (by omega) (.bracket _)]
      rfl
  | @cons part' t' parts ts h' _ ih =>
    rw [commaSeparated_cons_cons] at hlevels ⊢
    rw [List.length_append, List.length_cons] at hlevels
    cases levels with
    | zero => exact absurd hlevels (Nat.not_lt_zero _)
    | succ levels =>
      have hrest := ih h' (show 2 * (commaSeparated (part' :: parts)).length < levels by omega)
      rw [List.append_assoc, List.cons_append, Tree.readItems,
        h.read levels _ (by omega) (.comma _)]
      simp only [skipGap_of_front (show isGap ',' = false by rfl), hrest]

/-- **Parts between brackets write an array.** -/
theorem bracketed {parts : List (List Char)} {ts : List Tree} (h : List.Forall₂ Writes parts ts) :
    Writes (Json.bracketed parts) (.array ts none) where
  front := ⟨'[', commaSeparated parts ++ [']'], rfl, rfl, by decide⟩
  read levels rest hlevels hrest := by
    rw [Json.bracketed, List.cons_append, List.length_cons, List.length_append,
      List.length_singleton] at hlevels
    cases levels with
    | zero => exact absurd hlevels (by simp)
    | succ levels =>
      rw [Json.bracketed, List.cons_append, List.cons_append, List.append_assoc, readValue,
        skipGap_of_front rfl]
      cases h with
      | nil => rfl
      | @cons part t parts ts h hs =>
        have hitems : Tree.readItems levels (commaSeparated (part :: parts) ++ ']' :: rest) =
            ((t :: ts, none), some rest) := readItems h hs (by omega)
        obtain ⟨c, after, hpart, hgap, hclose⟩ := h.front
        obtain ⟨more, hmore⟩ := exists_commaSeparated part parts
        rw [hmore, hpart, List.cons_append, List.cons_append] at hitems ⊢
        simp only [skipGap_of_front hgap, List.singleton_append]
        split
        · rename_i e
          cases e
        · rename_i e
          exact absurd (List.cons.inj e).1 hclose
        · rw [hitems]

/-! ## Objects -/

/-- The characters of a member. -/
def joined (part : String × List Char) : List Char :=
  quotedChars part.1 ++ ':' :: part.2

/-- What is written under a key, and the member that is read. -/
def Member (part : String × List Char) (m : Option String × Tree) : Prop :=
  m.1 = some part.1 ∧ Writes part.2 m.2

theorem member (key : String) {cs : List Char} {t : Tree} (h : Writes cs t) :
    Member (key, cs) (some key, t) :=
  ⟨rfl, h⟩

/-- A member is read in front of a comma or the end of its object. -/
theorem readMembers_joined {part : String × List Char} {m : Option String × Tree}
    (h : Member part m) {levels : Nat} (hlevels : 2 * part.2.length ≤ levels) (rest : List Char) :
    Tree.readMembers (levels + 1) (joined part ++ '\x7d' :: rest) = (([m], none), some rest) ∧
      Tree.readMembers (levels + 1) (joined part ++ ',' :: rest) =
        ((m :: (Tree.readMembers levels rest).1.1, (Tree.readMembers levels rest).1.2),
          (Tree.readMembers levels rest).2) := by
  obtain ⟨key, t⟩ := m
  obtain ⟨rfl, hvalue⟩ := h
  obtain ⟨after, hkey, hread⟩ := readText_quotedChars part.1
  have hfront : ∀ more, skipGap (joined part ++ more) = '"' :: (after ++ ':' :: (part.2 ++ more)) :=
    fun more => by
      rw [joined, hkey, List.cons_append, List.cons_append, List.append_assoc, List.cons_append]
      exact skipGap_of_front rfl _
  have hcolon : ∀ more, skipGap (':' :: more) = ':' :: more := skipGap_of_front rfl
  constructor
  · rw [Tree.readMembers, hfront]
    simp only [hread, hcolon, hvalue.read levels _ hlevels (.brace rest),
      skipGap_of_front (show isGap '\x7d' = false by rfl)]
  · rw [Tree.readMembers, hfront]
    simp only [hread, hcolon, hvalue.read levels _ hlevels (.comma rest),
      skipGap_of_front (show isGap ',' = false by rfl)]

/-- Members are read up to the end of their object. -/
theorem readMembers {part : String × List Char} {parts : List (String × List Char)}
    {m : Option String × Tree} {ms : List (Option String × Tree)} (h : Member part m)
    (hs : List.Forall₂ Member parts ms) {levels : Nat} {rest : List Char}
    (hlevels : 2 * (commaSeparated ((part :: parts).map joined)).length < levels) :
    Tree.readMembers levels (commaSeparated ((part :: parts).map joined) ++ '\x7d' :: rest) =
      ((m :: ms, none), some rest) := by
  have hlength : ∀ p, p.2.length ≤ (joined p).length := fun p => by
    rw [joined, List.length_append, List.length_cons]
    omega
  induction hs generalizing part m levels with
  | nil =>
    rw [List.map_singleton, commaSeparated_singleton] at hlevels ⊢
    have hpart := hlength part
    cases levels with
    | zero => exact absurd hlevels (Nat.not_lt_zero _)
    | succ levels => exact (readMembers_joined h (by omega) rest).1
  | @cons part' t' parts ts h' _ ih =>
    rw [List.map_cons, List.map_cons, commaSeparated_cons_cons, ← List.map_cons] at hlevels ⊢
    rw [List.length_append, List.length_cons] at hlevels
    have hpart := hlength part
    cases levels with
    | zero => exact absurd hlevels (Nat.not_lt_zero _)
    | succ levels =>
      have hrest := ih h'
        (show 2 * (commaSeparated ((part' :: parts).map joined)).length < levels by omega)
      rw [List.append_assoc, List.cons_append, (readMembers_joined h (by omega) _).2, hrest]

/-- **Members between braces write an object.** -/
theorem braced {parts : List (String × List Char)} {ms : List (Option String × Tree)}
    (h : List.Forall₂ Member parts ms) : Writes (Json.braced parts) (.object ms none) where
  front := ⟨'\x7b', commaSeparated (parts.map joined) ++ ['\x7d'], rfl, rfl, by decide⟩
  read levels rest hlevels hrest := by
    have hchars :
        Json.braced parts = '\x7b' :: (commaSeparated (parts.map joined) ++ ['\x7d']) := rfl
    rw [hchars, List.length_cons, List.length_append, List.length_singleton] at hlevels
    cases levels with
    | zero => exact absurd hlevels (by simp)
    | succ levels =>
      rw [hchars, List.cons_append, List.append_assoc, readValue, skipGap_of_front rfl]
      cases h with
      | nil => rfl
      | @cons part m parts ms h hs =>
        have hmembers : Tree.readMembers levels
            (commaSeparated ((part :: parts).map joined) ++ '\x7d' :: rest) =
              ((m :: ms, none), some rest) := readMembers h hs (by omega)
        obtain ⟨more, hmore⟩ := exists_commaSeparated (joined part) (parts.map joined)
        obtain ⟨after, hkey, _⟩ := readText_quotedChars part.1
        rw [List.map_cons, hmore, joined, hkey, List.cons_append, List.cons_append,
          List.cons_append] at hmembers ⊢
        simp only [skipGap_of_front (show isGap '"' = false by rfl), List.singleton_append]
        split
        · rename_i e
          cases e
        · rename_i e
          cases e
        · rw [hmembers]

end Writes

/-- **A text that writes a tree is read as that tree**, and nothing follows it. -/
theorem ofText_of_writes {cs : List Char} {t : Tree} (h : Writes cs t) :
    ofText (String.ofList cs) = (t, false) := by
  have hread := h.read (2 * cs.length + 2) [] (by omega) trivial
  rw [List.append_nil] at hread
  simp only [ofText, String.toList_ofList, hread]
  rfl

end CollectionArchive.Json.Tree

namespace CollectionArchive.Json.Value

/-! ## Parts of values -/

theorem itemChars_eq_map (vs : List Value) : itemChars vs = vs.map chars := by
  induction vs with
  | nil => rfl
  | cons v vs ih => rw [itemChars, ih, List.map_cons]

theorem memberChars_eq_map (ms : List (String × Value)) :
    memberChars ms = ms.map fun m => (m.1, m.2.chars) := by
  induction ms with
  | nil => rfl
  | cons m ms ih => rw [memberChars, ih, List.map_cons]

end CollectionArchive.Json.Value
