import CollectionArchive.Archive.Basic
import CollectionArchive.Table
import Mathlib.Data.List.Nodup

/-!
# Listing all entries

* `Ordered.eq_of_pairwise`: lists that ascend are determined by their members.
* `Table.eq_of_get?`: a table is determined by what is found in it.
* `Text.pairwise_sort`: sorting puts texts that differ in strictly ascending order.
* `Glob.parse_all`: two stars stand for whole directories, and alone for every path.
* **`Entry.matching_all`**: two stars list all paths, in ascending order.
-/

namespace CollectionArchive

/-- Lists that ascend are determined by their members, whatever key of them ascends. -/
theorem Ordered.eq_of_pairwise {α κ : Type} [Ordered κ] (key : α → κ) {l m : List α}
    (hl : l.Pairwise fun a b => precedes (key a) (key b) = true)
    (hm : m.Pairwise fun a b => precedes (key a) (key b) = true) (h : ∀ a, a ∈ l ↔ a ∈ m) :
    l = m := by
  have hne : ∀ {a b : α}, precedes (key a) (key b) = true → a ≠ b := by
    rintro a _ hlt rfl
    rw [irrefl] at hlt
    cases hlt
  have hperm : l.Perm m := (List.perm_ext_iff_of_nodup (hl.imp hne) (hm.imp hne)).mpr h
  refine hperm.eq_of_pairwise (fun a b _ _ hab hba => ?_) hl hm
  rw [asymm hab] at hba
  cases hba

/-- A table is determined by what is found in it. -/
theorem Table.eq_of_get? {κ α : Type} [DecidableEq κ] [Ordered κ] {t u : Table κ α}
    (ht : t.Ascending) (hu : u.Ascending) (h : ∀ key, t.get? key = u.get? key) : t = u := by
  refine Ordered.eq_of_pairwise Prod.fst ht hu fun e => ?_
  rw [← Table.get?_eq_some_iff ht, h, Table.get?_eq_some_iff hu]

namespace Text

theorem precedes_trans {a b c : String} (hab : precedes a b = true) (hbc : precedes b c = true) :
    precedes a c = true :=
  lexPrecedes_trans _ hab hbc

theorem precedes_asymm {a b : String} (h : precedes a b = true) : precedes b a = false :=
  Ordered.asymm (show Ordered.precedes a b = true from h)

theorem le_trans (a b c : String) (hab : (!precedes b a) = true) (hbc : (!precedes c b) = true) :
    (!precedes c a) = true := by
  rw [Bool.not_eq_true'] at *
  by_cases h : a = b
  · rwa [h]
  · have hlt : precedes a b = true := (Ordered.total h).resolve_right (ne_true_of_eq_false hab)
    by_contra hca
    have hcb := precedes_trans ((Bool.not_eq_false _).mp hca) hlt
    exact ne_true_of_eq_false hbc hcb

theorem le_total (a b : String) : (!precedes b a || !precedes a b) = true := by
  cases hab : precedes a b with
  | false => exact Bool.or_true _
  | true =>
    rw [precedes_asymm hab]
    rfl

theorem perm_sort (ss : List String) : (sort ss).Perm ss :=
  List.mergeSort_perm ss _

theorem mem_sort {ss : List String} {s : String} : s ∈ sort ss ↔ s ∈ ss :=
  List.mem_mergeSort

/-- **Texts that differ from each other are sorted in strictly ascending order.** -/
theorem pairwise_sort {ss : List String} (h : ss.Nodup) :
    (sort ss).Pairwise fun a b => precedes a b = true := by
  have hle := List.pairwise_mergeSort le_trans le_total ss
  have hne : (sort ss).Nodup := (perm_sort ss).nodup_iff.mpr h
  refine (hle.and hne).imp fun ⟨hab, hne⟩ => ?_
  exact (Ordered.total hne).resolve_right (ne_true_of_eq_false ((Bool.not_eq_true' _).mp hab))

end Text

namespace Glob

theorem symbols_all : symbols "**".toList = ([.star, .star], none) := by
  rw [show "**".toList = ['*', '*'] from rfl]
  simp [symbols, symbols.cons]

theorem assemble_all : assemble none ⟨[], []⟩ [.star, .star] = .ok ⟨[.leading], []⟩ := by
  have h : Progress.doubleStar ⟨[], []⟩ none none = (⟨[.leading], []⟩, false) := rfl
  rw [assemble]
  case heq => exact h
  case x_1 => exact fun _ _ h => absurd h.symm (List.cons_ne_nil _ _)
  rw [assemble]

/-- Two stars stand for whole directories. -/
theorem parse_all : parse "**" = .ok [.leading] := by
  rw [parse, symbols_all]
  simp only [bind, Except.bind, assemble_all]
  rfl

end Glob

namespace Entry

/-- **Two stars list all paths**, in ascending order. -/
theorem matching_all (paths : List String) : matching paths "**" = .ok (Text.sort paths) := by
  rw [matching, Glob.parse_all]
  have hall : (paths.filter fun p => Glob.matchesAll [.leading] (Bytes.ofText p)) = paths :=
    List.filter_eq_self.mpr fun _ _ => rfl
  show Except.ok (Text.sort (paths.filter fun p => Glob.matchesAll [.leading] (Bytes.ofText p))) = _
  rw [hall]

end Entry

end CollectionArchive
