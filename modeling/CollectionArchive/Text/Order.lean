/-!
# The order of texts

Texts, like sequences of bytes, are ordered by their first difference; a text comes after its own
beginnings. The order of two texts by code points is also that of their UTF-8 bytes.

* `Ordered`: the types whose members are in an order.
* `Text.precedes`: whether a text comes before another.
* `Text.sort`: texts in ascending order.
-/

namespace CollectionArchive

/-- A type whose members are in an order: of two that differ, one precedes the other. -/
class Ordered (κ : Type) where
  precedes : κ → κ → Bool
  irrefl (a : κ) : precedes a a = false
  trans {a b c : κ} : precedes a b = true → precedes b c = true → precedes a c = true
  total {a b : κ} : a ≠ b → precedes a b = true ∨ precedes b a = true

theorem Ordered.asymm {κ : Type} [Ordered κ] {a b : κ} (h : precedes a b = true) :
    precedes b a = false := by
  cases hba : precedes b a with
  | false => rfl
  | true =>
    have hself := Ordered.trans h hba
    rw [Ordered.irrefl] at hself
    cases hself

namespace Text

/-- Whether a list comes before another by the first place where they differ. -/
def lexPrecedes {α : Type} (key : α → Nat) : List α → List α → Bool
  | _, [] => false
  | [], _ :: _ => true
  | a :: as, b :: bs => key a < key b || (key a == key b && lexPrecedes key as bs)

section

variable {α : Type} (key : α → Nat)

theorem lexPrecedes_irrefl (as : List α) : lexPrecedes key as as = false := by
  induction as with
  | nil => rfl
  | cons a as ih => simp [lexPrecedes, ih]

theorem lexPrecedes_trans :
    ∀ {as bs cs : List α}, lexPrecedes key as bs = true → lexPrecedes key bs cs = true →
      lexPrecedes key as cs = true
  | [], _ :: _, _ :: _, _, _ => rfl
  | a :: as, b :: bs, c :: cs, h, h' => by
    simp only [lexPrecedes, Bool.or_eq_true, decide_eq_true_eq, Bool.and_eq_true, beq_iff_eq] at *
    rcases h with h | ⟨h, hs⟩ <;> rcases h' with h' | ⟨h', hs'⟩
    · exact .inl (Nat.lt_trans h h')
    · exact .inl (h' ▸ h)
    · exact .inl (h ▸ h')
    · exact .inr ⟨h.trans h', lexPrecedes_trans hs hs'⟩

theorem lexPrecedes_total (injective : ∀ a b, key a = key b → a = b) :
    ∀ {as bs : List α}, as ≠ bs → lexPrecedes key as bs = true ∨ lexPrecedes key bs as = true
  | [], [], h => absurd rfl h
  | [], _ :: _, _ => .inl rfl
  | _ :: _, [], _ => .inr rfl
  | a :: as, b :: bs, h => by
    simp only [lexPrecedes, Bool.or_eq_true, decide_eq_true_eq, Bool.and_eq_true, beq_iff_eq]
    rcases Nat.lt_trichotomy (key a) (key b) with hk | hk | hk
    · exact .inl (.inl hk)
    · have := injective a b hk
      have hs : as ≠ bs := fun e => h (by rw [this, e])
      rcases lexPrecedes_total injective hs with hr | hr
      · exact .inl (.inr ⟨hk, hr⟩)
      · exact .inr (.inr ⟨hk.symm, hr⟩)
    · exact .inr (.inl hk)

end

/-- Whether a text comes before another. -/
def precedes (a b : String) : Bool :=
  lexPrecedes Char.toNat a.toList b.toList

instance : Ordered String where
  precedes := precedes
  irrefl _ := lexPrecedes_irrefl _ _
  trans := lexPrecedes_trans _
  total h := lexPrecedes_total _ (fun _ _ => Char.toNat_inj.mp)
    fun e => h (String.ext e)

/-- Texts in ascending order. -/
def sort (ss : List String) : List String :=
  ss.mergeSort fun a b => !precedes b a

end Text

end CollectionArchive
