import CollectionArchive.Proofs.Link.Equality
import CollectionArchive.Proofs.Link.Targets
import CollectionArchive.Proofs.Registry.Batches
import CollectionArchive.Proofs.Registry.Registration

/-!
# Registries grow

A registry whose links are resolved may take more schemata. Its links have to be resolved again
then, but those that it had still lead where they led, and the nodes that wait go on waiting.

* `Registry.KeepsSchemata.mem_outboundLinks_iff`: collections that were there keep their links.
* `Registry.KeepsSchemata.targetKind`: links that resolved still do, to the same kinds.
* **`Registry.KeepsSchemata.source_of_unresolved`**: only new collections have links that lead
  nowhere.
* `Registry.Grows`: what calls leave of a registry; **`Run.grows`**.
* **`links_of_late_registrations`**: what holds after late registrations, and after resolving again.
-/

namespace CollectionArchive

variable {σ : Type}

/-! ## Links -/

/-- A link that leads nowhere is told if it is one of the schemata. -/
theorem LinkKinds.mem_of_ofSchemata_error {s : Schemata} {u : UnresolvedLink}
    (h : ofSchemata s = .error u) :
    u.link ∈ s.outboundLinks ∧ ∀ k, u.link.targetKind s ≠ .ok k := by
  obtain ⟨before, l, after, hsplit, _, herror⟩ := first_of_addAll_error h
  obtain ⟨fault, _, rfl⟩ := OutboundLink.fails_of_targetKind herror
  constructor
  · rw [hsplit]
    exact List.mem_append_right before List.mem_cons_self
  · intro k hk
    rw [herror] at hk
    cases hk

namespace Registry.KeepsSchemata

variable {r r' : Registry σ}

/-- **A collection that was there keeps its links**, and gets no others. -/
theorem mem_outboundLinks_iff (h : r.KeepsSchemata r') {l : OutboundLink}
    (known : r.schemata.has l.source = true) :
    l ∈ r'.schemata.outboundLinks ↔ l ∈ r.schemata.outboundLinks := by
  obtain ⟨schema, hschema⟩ := Option.isSome_iff_exists.mp known
  obtain ⟨later, hlater, hequal⟩ := h l.source schema hschema
  have hlinks := Schema.outboundLinks_of_equal hequal l.source
  rw [Schemata.mem_outboundLinks, Schemata.mem_outboundLinks]
  simp only [← Table.get?_eq_some_iff r.schemata_ascending,
    ← Table.get?_eq_some_iff r'.schemata_ascending, hschema, hlater, Option.some.injEq,
    exists_eq_left', hlinks]

theorem hasKind (h : r.KeepsSchemata r') {t : LinkTarget} {k : Kind}
    (kind : t.HasKind r.schemata k) : t.HasKind r'.schemata k := by
  cases kind with
  | title registered title =>
    obtain ⟨later, hlater, _⟩ := h _ _ registered
    exact .title hlater title
  | leaf registered other parse leaf ident =>
    obtain ⟨later, hlater, hequal⟩ := h _ _ registered
    obtain ⟨q, hq, hident, hkind⟩ := Schema.exists_leaf_of_equal hequal leaf
    rw [← hkind]
    exact .leaf hlater other parse hq (hident.trans ident)

/-- **Links that resolved still do**, to the same kinds. -/
theorem targetKind (h : r.KeepsSchemata r') {l : OutboundLink} {k : Kind}
    (kind : l.targetKind r.schemata = .ok k) : l.targetKind r'.schemata = .ok k := by
  obtain ⟨hkind, hselectable⟩ := OutboundLink.targetKind_eq_ok.mp kind
  exact OutboundLink.targetKind_eq_ok.mpr ⟨h.hasKind hkind, hselectable⟩

/-- **Only collections that were not there have links that lead nowhere**, if all links that were
there led somewhere. -/
theorem source_of_unresolved (h : r.KeepsSchemata r') {kinds : LinkKinds}
    (resolved : LinkKinds.ofSchemata r.schemata = .ok kinds) {u : UnresolvedLink}
    (unresolved : LinkKinds.ofSchemata r'.schemata = .error u) :
    u.link ∈ r'.schemata.outboundLinks ∧ r.schemata.has u.link.source = false := by
  obtain ⟨hmem, hfails⟩ := LinkKinds.mem_of_ofSchemata_error unresolved
  refine ⟨hmem, ?_⟩
  by_contra hknown
  -- The link was there before, so it was resolved and still leads there.
  have hold := (h.mem_outboundLinks_iff ((Bool.not_eq_false _).mp hknown)).mp hmem
  obtain ⟨k, hk⟩ := LinkKinds.targetKind_of_addAll resolved _ hold
  exact hfails k (h.targetKind hk)

end Registry.KeepsSchemata

/-! ## Runs -/

/-- What calls leave of a registry: an equal schema for each collection, and all nodes that wait, in
their order, before those that the calls have added. -/
structure Registry.Grows (r : Registry σ) (l : Log) (r' : Registry σ) : Prop where
  keeps : r.KeepsSchemata r'
  staged (collection : String) : (r'.staged.get? collection).getD [] =
    (r.staged.get? collection).getD [] ++ l.added collection
  nodeCount (collection : String) :
    r'.nodeCount collection = r.nodeCount collection + (l.added collection).length

namespace Registry.Grows

variable {r₀ r : Registry σ} {l : Log}

theorem start (r : Registry σ) : r.Grows [] r :=
  ⟨.refl r, fun _ => (List.append_nil _).symm, fun _ => rfl⟩

variable {e : Call × Answer}

theorem concat_none (h : r₀.Grows l r) (nodes : ∀ name, Call.nodesFor name e = []) :
    r₀.Grows (l ++ [e]) r where
  keeps := h.keeps
  staged collection := by rw [Log.added_concat, nodes, List.append_nil, h.staged]
  nodeCount collection := by rw [Log.added_concat, nodes, List.append_nil, h.nodeCount]

theorem register [Archive σ] (h : r₀.Grows l r) {r' : Registry σ} {name : String} {schema : Schema}
    (register : r.register name schema = .ok r') :
    r₀.Grows (l ++ [(.register name schema, .ok ())]) r' where
  keeps := h.keeps.register register
  staged collection := by
    rw [(register_eq_ok register).staged]
    exact (h.concat_none fun _ => rfl).staged collection
  nodeCount collection := by
    rw [Registry.nodeCount, (register_eq_ok register).nodeCounts]
    exact (h.concat_none fun _ => rfl).nodeCount collection

theorem stages {r r' : CheckedRegistry σ} (h : r₀.Grows l r.toRegistry) {collection : String}
    {ns : List Node} (nodes : ∀ name, Call.nodesFor name e = if collection = name then ns else [])
    (stages : r.Stages collection ns r') : r₀.Grows (l ++ [e]) r'.toRegistry where
  keeps := by
    rw [KeepsSchemata, stages.schemata]
    exact h.keeps
  staged other := by
    rw [Log.added_concat, nodes, stages.staged, ← List.append_assoc, ← h.staged]
    by_cases hc : collection = other
    · subst hc
      simp
    · simp [hc]
  nodeCount other := by
    rw [Log.added_concat, nodes, stages.nodeCount, List.length_append, ← Nat.add_assoc,
      ← h.nodeCount]

end Registry.Grows

variable [Archive σ]

/-- **A run never closes a registry, and leaves what it had.** -/
theorem Run.grows {start h : Handle σ} {l : Log} (run : Run start l h) {r₀ : Registry σ}
    (hr₀ : start.toSession.registry = .ok r₀) :
    ∃ r, h.toSession.registry = .ok r ∧ r₀.Grows l r := by
  refine run.induction (P := fun l s => ∃ r, s.registry = .ok r ∧ r₀.Grows l r)
    ⟨r₀, hr₀, .start r₀⟩ fun l s e s' ih step => ?_
  obtain ⟨r, hr, hgrows⟩ := ih
  cases step with
  | none _ nodes => exact ⟨r, hr, hgrows.concat_none nodes⟩
  | registered takes register =>
    obtain rfl := Except.ok.inj (takes.symm.trans hr)
    exact ⟨_, rfl, hgrows.register register⟩
  | resolved check =>
    obtain rfl := Except.ok.inj hr
    obtain ⟨kinds, _, rfl⟩ := Registry.check_eq_ok.mp check
    exact ⟨_, rfl, hgrows.concat_none fun _ => rfl⟩
  | staged _ nodes stages =>
    obtain rfl := Except.ok.inj hr
    exact ⟨_, rfl, hgrows.stages nodes stages⟩

/-! ## Resolving again -/

omit [Archive σ] in
/-- Resolving leaves a session with its registry, and if it fails, as it is. -/
theorem Session.check_cases {s : Session σ} {r : Registry σ} (hr : s.registry = .ok r) :
    (∃ c : CheckedRegistry σ, s.check = (.ok (), .checked c) ∧ c.toRegistry = r) ∨
      ∃ u, s.check = (.error (.unresolvedLink u), s) ∧
        LinkKinds.ofSchemata r.schemata = .error u := by
  cases s with
  | building r₀ =>
    obtain rfl := Except.ok.inj hr
    rw [check, Registry.check]
    cases hkinds : LinkKinds.ofSchemata r₀.schemata with
    | ok kinds => exact .inl ⟨⟨r₀, kinds⟩, rfl, rfl⟩
    | error u => exact .inr ⟨u, rfl, rfl⟩
  | checked c => exact .inl ⟨c, rfl, Except.ok.inj hr⟩
  | closed a => cases hr

/-- A checked registry takes nodes for every collection that it has. -/
theorem Handle.exists_addNode {h : Handle σ} {c : CheckedRegistry σ}
    (checked : h.toSession = .checked c) {collection : String}
    (known : c.schemata.has collection = true) (n : Node) :
    ∃ h', h.call? (.addNode collection n) = some (.ok (), h') := by
  obtain ⟨c', hadd, -⟩ := CheckedRegistry.addNode_of_known known n
  cases h with
  | staged s =>
    cases s with
    | building r => cases checked
    | checked c₀ =>
      obtain rfl := Session.checked.inj checked
      refine ⟨.staged (.checked c'), ?_⟩
      rw [call?, Staged.call?, hadd]
      rfl
  | session s =>
    obtain rfl : s = .checked c := checked
    refine ⟨.session (.checked c'), call?_session ?_⟩
    rw [Session.call, Session.addNode]
    simp only [Session.checkedRegistry, hadd]

/-- **What holds after late registrations, and after resolving again.** Whatever calls have been
made on a registry since its links were resolved, its links are still there and lead to the same
kinds, and the nodes that waited and were counted still are, in their order, before those that were
added. If the links are resolved again, this stays so, and if it fails, the link that is told is one
of a collection that was not there. If it succeeds, further nodes are put behind. -/
theorem links_of_late_registrations {start h : Handle σ} {c : CheckedRegistry σ} {l : Log}
    (reachable : Reachable start) (checked : start.toSession = .checked c) (run : Run start l h) :
    ∃ r, h.toSession.registry = .ok r ∧
      (∀ link ∈ c.schemata.outboundLinks, link ∈ r.schemata.outboundLinks ∧
        ∃ k, link.targetKind c.schemata = .ok k ∧ link.targetKind r.schemata = .ok k) ∧
      (∀ collection,
        (r.staged.get? collection).getD [] =
          (c.staged.get? collection).getD [] ++ l.added collection ∧
        r.nodeCount collection = c.nodeCount collection + (l.added collection).length) ∧
      (∀ answer h', h.call? .check = some (answer, h') → h'.toSession.registry = .ok r ∧
        ((answer = .ok () ∧ ∃ c', h'.toSession = .checked c') ∨
          ∃ u, answer = .error (.unresolvedLink u) ∧ u.link ∈ r.schemata.outboundLinks ∧
            c.schemata.has u.link.source = false)) ∧
      ∀ c', h.toSession = .checked c' → ∀ collection n, c'.schemata.has collection = true →
        ∃ h' r', h.call? (.addNode collection n) = some (.ok (), h') ∧
          h'.toSession.registry = .ok r' ∧ ∀ other, (r'.staged.get? other).getD [] =
            (c.staged.get? other).getD [] ++ l.added other ++
              if collection = other then [n] else [] := by
  have hstart : start.toSession.registry = .ok c.toRegistry := by
    rw [checked]
    rfl
  have resolved := reachable.isResolved c checked
  obtain ⟨r, hr, hgrows⟩ := run.grows hstart
  refine ⟨r, hr, fun link hlink => ?_, fun collection => ⟨hgrows.staged collection,
    hgrows.nodeCount collection⟩, fun answer h' hcall => ?_, fun c' hc' collection n known => ?_⟩
  · obtain ⟨schema, hmem, _⟩ := Schemata.mem_outboundLinks.mp hlink
    have hknown : c.schemata.has link.source = true :=
      Option.isSome_iff_exists.mpr ⟨schema, Table.get?_of_mem c.schemata_ascending hmem⟩
    obtain ⟨k, hk⟩ := LinkKinds.targetKind_of_addAll resolved link hlink
    exact ⟨(hgrows.keeps.mem_outboundLinks_iff hknown).mpr hlink, k, hk,
      hgrows.keeps.targetKind hk⟩
  · have hcheck : h.toSession.check = (answer, h'.toSession) := Handle.call_toSession hcall
    rcases Session.check_cases hr with ⟨c', hok, rfl⟩ | ⟨u, herror, hu⟩
    · obtain ⟨rfl, hsession⟩ := Prod.mk.inj (hok.symm.trans hcheck)
      rw [← hsession]
      exact ⟨rfl, .inl ⟨rfl, c', rfl⟩⟩
    · obtain ⟨rfl, hsession⟩ := Prod.mk.inj (herror.symm.trans hcheck)
      rw [← hsession]
      exact ⟨hr, .inr ⟨u, rfl, hgrows.keeps.source_of_unresolved resolved hu⟩⟩
  · obtain ⟨h', hcall⟩ := Handle.exists_addNode hc' known n
    obtain ⟨r', hr', hgrows'⟩ := (run.call hcall).grows hstart
    refine ⟨h', r', hcall, hr', fun other => ?_⟩
    rw [hgrows'.staged, Log.added_concat, List.append_assoc]
    rfl

/-- A link to a collection that is missing, of a collection that comes late. -/
theorem links_of_late_registrations_dangling :
    ∃ (c : CheckedRegistry MemoryArchive) (h h' : Handle MemoryArchive) (u : UnresolvedLink),
      Reachable (.session (.checked c)) ∧ c.schemata.has "a" = true ∧
        Run (.session (.checked c))
          [(.register "b" (.link .zero ⟨"c", LinkTarget.titleIdent⟩), .ok ())] h ∧
        h.call? .check = some (.error (.unresolvedLink u), h') ∧
          c.schemata.has u.link.source = false := by
  obtain ⟨r, hr, hschemata, -, g, hopen⟩ := Reachable.exists_building MemoryArchive.isOpen_empty
    [("a", Schema.link .zero ⟨"a", LinkTarget.titleIdent⟩)] (by decide) (by decide)
  have hresolve : LinkKinds.ofSchemata r.schemata = .ok [(.zero, .string)] := by
    rw [hschemata, LinkKinds.ofSchemata, Schemata.outboundLinks_cons, Schema.outboundLinks_link]
    rfl
  have hcheck : r.check = .ok ⟨r, [(.zero, .string)]⟩ :=
    Registry.check_eq_ok.mpr ⟨_, hresolve, rfl⟩
  have hchecked : (Session.building r).call .check =
      (.ok (), .checked ⟨r, [(.zero, .string)]⟩) := by
    rw [Session.call, Session.check, hcheck]
  have reachable := hr.call (Handle.call?_session hchecked)
  -- The late registration is taken, since its name is free.
  obtain ⟨a, hwrite, -⟩ := LawfulArchive.write_valid
    (Bytes.ofText (Schema.link .zero ⟨"c", LinkTarget.titleIdent⟩).json) hopen
    (show Entry.isValidPath (schemaPath "b") = true by decide)
  obtain ⟨r', hregister⟩ := Registry.exists_register (by rw [hschemata]; rfl) hwrite
  have hcall : (Session.checked ⟨r, [(.zero, .string)]⟩).call
      (.register "b" (.link .zero ⟨"c", LinkTarget.titleIdent⟩)) = (.ok (), .building r') := by
    rw [Session.call, Session.register, CheckedRegistry.register, hregister]
  have run := Run.start.call (Handle.call?_session hcall)
  have hunresolved : r'.check =
      .error ⟨⟨"b", .zero, ⟨"c", LinkTarget.titleIdent⟩⟩, .unknownCollection⟩ := by
    have hlater : r'.schemata = [("a", Schema.link .zero ⟨"a", LinkTarget.titleIdent⟩),
        ("b", Schema.link .zero ⟨"c", LinkTarget.titleIdent⟩)] := by
      rw [(Registry.register_eq_ok hregister).schemata, hschemata]
      rfl
    rw [Registry.check, hlater, LinkKinds.ofSchemata, Schemata.outboundLinks_cons,
      Schemata.outboundLinks_cons, Schema.outboundLinks_link, Schema.outboundLinks_link]
    rfl
  have hfails : (Session.building r').call .check = (.error (.unresolvedLink
      ⟨⟨"b", .zero, ⟨"c", LinkTarget.titleIdent⟩⟩, .unknownCollection⟩), .building r') := by
    rw [Session.call, Session.check, hunresolved]
  obtain ⟨_, -, -, -, htold, -⟩ := links_of_late_registrations reachable rfl run
  obtain ⟨-, ⟨hok, -⟩ | ⟨u, hu, -, hsource⟩⟩ := htold _ _ (Handle.call?_session hfails)
  · cases hok
  · exact ⟨_, _, _, u, reachable, by rw [hschemata]; rfl, run,
      hu ▸ Handle.call?_session hfails, hsource⟩

end CollectionArchive
