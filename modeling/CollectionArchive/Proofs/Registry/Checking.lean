import CollectionArchive.Archive.Memory
import CollectionArchive.Proofs.Link.Targets
import CollectionArchive.Proofs.Registry.Calls

/-!
# Checking links

* `Registry.Checks`: how a registry may be checked. Either all links lead somewhere, or the first
  that does not is told and the registry stays as it was.
* **`check_of_built`**: a registry is checked so, and succeeds exactly if all links lead somewhere.
-/

namespace CollectionArchive

variable {σ : Type}

/-- How a registry is checked: the answer, and the registry afterwards. -/
inductive Registry.Checks (r : Registry σ) : Answer × Staged σ → Prop
  /-- Kinds are kept for the identifiers of the links with targets, and for no others. -/
  | resolved {kinds : LinkKinds} (all : ∀ e ∈ r.schemata.targeted, e.2.Resolves r.schemata)
    (keys : ∀ i, kinds.has i = true ↔ ∃ e ∈ r.schemata.targeted, e.2.ident? = some i) :
    Checks r (.ok (), .checked ⟨r, kinds⟩)
  /-- The first link that leads nowhere is told, and why. -/
  | unresolved {before after : List (String × Property)} {name : String} {p : Property}
    {i : Identifier} {t : LinkTarget} {fault : LinkFault}
    (split : r.schemata.targeted = before ++ (name, p) :: after)
    (earlier : ∀ e ∈ before, e.2.Resolves r.schemata) (ident : p.ident? = some i)
    (target : p.DeclaresTarget t) (fails : t.Fails r.schemata fault) :
    Checks r (.error (.unresolvedLink ⟨⟨name, i, t⟩, fault⟩), .building r)

/-- **Checking succeeds exactly if all links with targets lead somewhere.** Else the first of them
that does not is told, in the order of the collections and of the leaves in each. -/
theorem check_of_built [Archive σ] {r : Registry σ} (built : r.schemata.IsBuilt) :
    ∃ answer s, (Staged.building r).call? .check = some (answer, s) ∧ r.Checks (answer, s) ∧
      (answer = .ok () ↔ ∀ e ∈ r.schemata.targeted, e.2.Resolves r.schemata) ∧
        r.schemata.targeted.Pairwise fun d e => Text.precedes e.1 d.1 = false := by
  have ordered := Schemata.pairwise_targeted r.schemata_ascending
  cases hkinds : LinkKinds.ofSchemata r.schemata with
  | ok kinds =>
    have hcheck : r.check = .ok ⟨r, kinds⟩ := Registry.check_eq_ok.mpr ⟨kinds, hkinds, rfl⟩
    obtain ⟨all, keys⟩ := LinkKinds.resolves_of_ofSchemata built hkinds
    exact ⟨.ok (), .checked ⟨r, kinds⟩, by rw [Staged.call?, hcheck], .resolved all keys,
      iff_of_true rfl all, ordered⟩
  | error e =>
    have hcheck : r.check = .error e := by rw [Registry.check, hkinds]; rfl
    obtain ⟨before, name, p, after, i, t, fault, split, earlier, ident, target, fails, rfl⟩ :=
      LinkKinds.first_of_ofSchemata_error built hkinds
    refine ⟨.error (.unresolvedLink _), .building r, by rw [Staged.call?, hcheck],
      .unresolved split earlier ident target fails, iff_of_false (by rintro ⟨⟩) fun all => ?_,
      ordered⟩
    obtain ⟨kinds, hok⟩ := LinkKinds.exists_ofSchemata built all
    rw [hkinds] at hok
    cases hok

/-! ## A link to a link -/

/-- A link to the title of its own collection, and a link to this link. -/
def Schemata.chained : Schemata :=
  [("a", .link .zero ⟨"a", LinkTarget.titleIdent⟩), ("b", .link .zero ⟨"a", Identifier.zero.text⟩)]

theorem Schema.isBuilt_main_link (i : Identifier) (t : LinkTarget) : (link i t).main.IsBuilt :=
  .boxed "" fun c hc => by
    rw [List.mem_singleton.mp hc]
    exact .leaf (t.leaf?_config "" i).1

theorem check_of_built_chained : ∃ r : Registry MemoryArchive, r.schemata = .chained ∧
    r.schemata.IsBuilt ∧ ∃ e, (Staged.building r).call? .check =
      some (.error (.unresolvedLink e), .building r) ∧
        r.Checks (.error (.unresolvedLink e), .building r) ∧
          e = ⟨⟨"b", .zero, ⟨"a", Identifier.zero.text⟩⟩, .unselectable .link⟩ := by
  have built : Schemata.chained.IsBuilt :=
    List.forall_mem_cons.mpr ⟨Schema.isBuilt_main_link _ _,
      List.forall_mem_singleton.mpr (Schema.isBuilt_main_link _ _)⟩
  let r : Registry MemoryArchive := ⟨.chained, [], [], (), .empty, by decide, .nil, .nil⟩
  obtain ⟨answer, s, hcall, checks, _⟩ := check_of_built (r := r) built
  have hlinks : Schemata.chained.outboundLinks = [⟨"a", .zero, ⟨"a", LinkTarget.titleIdent⟩⟩,
      ⟨"b", .zero, ⟨"a", Identifier.zero.text⟩⟩] := by
    rw [Schemata.chained, Schemata.outboundLinks_cons, Schemata.outboundLinks_cons,
      Schema.outboundLinks_link, Schema.outboundLinks_link]
    rfl
  have hcheck : r.check =
      .error ⟨⟨"b", .zero, ⟨"a", Identifier.zero.text⟩⟩, .unselectable .link⟩ := by
    rw [Registry.check, LinkKinds.ofSchemata, hlinks]
    rfl
  rw [Staged.call?, hcheck] at hcall
  cases hcall
  exact ⟨r, rfl, built, _, by rw [Staged.call?, hcheck], checks, rfl⟩

end CollectionArchive
