import CollectionArchive.Proofs.Archive.Laws
import CollectionArchive.Proofs.Link.Kinds
import CollectionArchive.Proofs.Registry.Runs
import Mathlib.Data.List.Induction

/-!
# Registries whose links are resolved

* `Session.IsResolved`: a checked session has the kinds to which the links of its schemata resolve.
* `Reachable.exists_checked`: schemata of which there is a checked registry.
* **`kinds_of_reachable`**: this holds of everything that can be reached, so no late registration
  and no failure leaves a checked registry with the kinds of other schemata.
-/

namespace CollectionArchive

variable {σ : Type}

/-- If the session is checked, it has the kinds to which the links of its schemata resolve. -/
def Session.IsResolved (s : Session σ) : Prop :=
  ∀ r, s = .checked r → LinkKinds.ofSchemata r.schemata = .ok r.kinds

namespace Session.IsResolved

theorem withArchive {s : Session σ} (h : s.IsResolved) (a : σ) : (s.withArchive a).IsResolved := by
  cases s with
  | building r => exact fun _ heq => nomatch heq
  | checked r =>
    rintro _ ⟨⟩
    exact h r rfl
  | closed b => exact fun _ heq => nomatch heq

/-- Registering leaves the checked stage, resolving enters it with the kinds of the schemata, and
adding nodes changes neither schemata nor kinds. -/
theorem effect [Archive σ] {s s' : Session σ} {e : Call × Answer} (h : s.IsResolved)
    (step : s.Effect e s') : s'.IsResolved := by
  cases step with
  | none => exact h
  | registered => exact fun _ heq => nomatch heq
  | resolved check =>
    obtain ⟨kinds, hkinds, rfl⟩ := Registry.check_eq_ok.mp check
    rintro _ ⟨⟩
    exact hkinds
  | staged _ _ stages =>
    rintro _ ⟨⟩
    rw [stages.schemata, stages.kinds]
    exact h _ rfl

end Session.IsResolved

variable [Archive σ]

theorem Reachable.isResolved {h : Handle σ} (reachable : Reachable h) : h.toSession.IsResolved :=
  Reachable.induction (fun _ _ heq => nomatch heq) (fun _ _ _ hs step => hs.effect step)
    (fun _ _ heq => nomatch heq) (fun _ a hs => hs.withArchive a) reachable

/-! ## Registries that can be reached -/

variable [LawfulArchive σ]

/-- All schemata can be registered whose names make paths, the last one last. -/
theorem Reachable.exists_building {a : σ} {f : Contents} (hopen : LawfulArchive.IsOpen a f)
    (schemata : Schemata) (ascending : Table.Ascending schemata)
    (paths : ∀ e ∈ schemata, Entry.isValidPath (schemaPath e.1) = true) :
    ∃ r : Registry σ, Reachable (.session (.building r)) ∧ r.schemata = schemata ∧ r.staged = [] ∧
      ∃ g, LawfulArchive.IsOpen r.archive g := by
  induction schemata using List.reverseRecOn with
  | nil => exact ⟨.ofArchive a, .takeOver (.registry a), rfl, rfl, f, hopen⟩
  | append_singleton schemata e ih =>
    obtain ⟨name, schema⟩ := e
    obtain ⟨r, hr, rfl, hstaged, g, hg⟩ := ih (List.pairwise_append.mp ascending).1
      fun e he => paths e (List.mem_append_left _ he)
    have hfree : r.schemata.get? name = none := by
      refine Table.get?_eq_none_of_forall fun e he heq => ?_
      have hlt := (List.pairwise_append.mp ascending).2.2 e he _ List.mem_cons_self
      rw [heq, Ordered.irrefl] at hlt
      cases hlt
    obtain ⟨b, hwrite, hb⟩ := LawfulArchive.write_valid (Bytes.ofText schema.json) hg
      (paths (name, schema) (List.mem_append_right _ List.mem_cons_self))
    obtain ⟨r', hregister⟩ := Registry.exists_register hfree hwrite
    have hregisters := Registry.register_eq_ok hregister
    obtain rfl := Except.ok.inj (hwrite.symm.trans hregisters.write)
    have hcall : (Session.building r).call (.register name schema) = (.ok (), .building r') := by
      rw [Session.call, Session.register, hregister]
    exact ⟨r', .call hr (Handle.call?_session hcall),
      hregisters.schemata.trans (Table.insert_last ascending), hregisters.staged.trans hstaged, _,
      hb⟩

/-- **Whatever schemata have names that make paths and links that resolve, there is a checked
registry with them.** -/
theorem Reachable.exists_checked {a : σ} {f : Contents} (hopen : LawfulArchive.IsOpen a f)
    {schemata : Schemata} (ascending : Table.Ascending schemata)
    (paths : ∀ e ∈ schemata, Entry.isValidPath (schemaPath e.1) = true) {kinds : LinkKinds}
    (resolve : LinkKinds.ofSchemata schemata = .ok kinds) :
    ∃ r : CheckedRegistry σ, Reachable (.session (.checked r)) ∧ r.schemata = schemata ∧
      r.kinds = kinds ∧ r.staged = [] := by
  obtain ⟨r, hr, rfl, hstaged, _⟩ := Reachable.exists_building hopen schemata ascending paths
  have hcheck : r.check = .ok ⟨r, kinds⟩ := Registry.check_eq_ok.mpr ⟨kinds, resolve, rfl⟩
  have hcall : (Session.building r).call .check = (.ok (), .checked ⟨r, kinds⟩) := by
    rw [Session.call, Session.check, hcheck]
  exact ⟨⟨r, kinds⟩, .call hr (Handle.call?_session hcall), rfl, rfl, hstaged⟩

/-! ## Kinds of checked registries -/

/-- **Whatever happened to a registry or session, if it is checked, resolving the links of the
schemata that are registered now succeeds with the kinds that it has.** -/
theorem kinds_of_reachable {σ : Type} [Archive σ] {h : Handle σ} {r : CheckedRegistry σ}
    (reachable : Reachable h) (checked : h.toSession = .checked r) :
    LinkKinds.ofSchemata r.schemata = .ok r.kinds :=
  reachable.isResolved r checked

theorem kinds_of_reachable_sample : ∃ r : CheckedRegistry MemoryArchive,
    Reachable (.session (.checked r)) ∧ r.kinds = [(.zero, .string)] ∧
      LinkKinds.ofSchemata r.schemata = .ok r.kinds := by
  have hresolve : LinkKinds.ofSchemata [("a", Schema.link .zero ⟨"a", LinkTarget.titleIdent⟩)] =
      .ok [(.zero, .string)] := by
    rw [LinkKinds.ofSchemata, Schemata.outboundLinks_cons, Schema.outboundLinks_link]
    rfl
  obtain ⟨r, reachable, _, hkinds, _⟩ := Reachable.exists_checked MemoryArchive.isOpen_empty
    (List.pairwise_singleton _ _) (fun e he => by rw [List.mem_singleton.mp he]; decide) hresolve
  exact ⟨r, reachable, hkinds, kinds_of_reachable reachable rfl⟩

end CollectionArchive
