import CollectionArchive.Files.Basic
import Mathlib.Tactic.ByContra
import Mathlib.Tactic.SplitIfs

/-!
# Files that were written, and files that were kept

* `FileTree.at?_put`, `FileTree.any_isDirectory_put`: what is found after something was put
  somewhere.
* **`Files.read?_write?`**: a file that has been written is read as it was written.
* `Files.KeepsFiles`: all files stay as they are, and all ways open.
* **`Files.keepsFiles_of_makeDirectories?`**: making directories keeps all files.
-/

namespace CollectionArchive

namespace FileTree

theorem at?_cons (t : FileTree) (name : String) (rest : Place) :
    t.at? (name :: rest) = (t.entries.get? name).bind fun u => u.at? rest := by
  rw [at?]
  cases t.entries.get? name <;> rfl

theorem entries_put_cons (t new : FileTree) (name : String) (rest : Place) :
    (t.put new (name :: rest)).entries =
      t.entries.insert name (((t.entries.get? name).getD empty).put new rest) :=
  rfl

theorem at?_put (t new : FileTree) (place : Place) : (t.put new place).at? place = some new := by
  induction place generalizing t with
  | nil => rfl
  | cons name rest ih =>
    rw [at?_cons, entries_put_cons, Table.get?_insert, if_pos rfl, Option.bind_some, ih]

theorem isDirectory_of_at?_cons {t : FileTree} {name : String} {rest : Place}
    (h : (t.at? (name :: rest)).any isDirectory = true) : t.isDirectory = true := by
  cases t with
  | file content => cases h
  | directory es => rfl

/-- Directories stay where they are when something is put where no directory is. -/
theorem any_isDirectory_put {t : FileTree} (new : FileTree) {place other : Place}
    (hplace : (t.at? place).any isDirectory = false)
    (hother : (t.at? other).any isDirectory = true) :
    ((t.put new place).at? other).any isDirectory = true := by
  induction place generalizing t other with
  | nil =>
    have ht : t.isDirectory = false := hplace
    cases other with
    | nil => exact absurd (ht.symm.trans hother) (by decide)
    | cons name rest =>
      exact absurd (ht.symm.trans (isDirectory_of_at?_cons hother)) (by decide)
  | cons name rest ih =>
    cases other with
    | nil => rfl
    | cons other others =>
      rw [at?_cons] at hplace hother
      rw [at?_cons, entries_put_cons, Table.get?_insert]
      by_cases hname : name = other
      · subst hname
        cases hu : t.entries.get? name with
        | none =>
          rw [hu] at hother
          cases hother
        | some u =>
          rw [hu, Option.bind_some] at hplace hother
          rw [if_pos rfl, Option.bind_some, Option.getD_some]
          exact ih hplace hother
      · rw [if_neg hname]
        exact hother

/-- A directory that is made in another one changes no file. -/
theorem content?_at?_put_empty {t : FileTree} {parent : Place} {name : String}
    (hparent : (t.at? parent).any isDirectory = true) (hfree : t.at? (parent ++ [name]) = none)
    (other : Place) : ((t.put empty (parent ++ [name])).at? other).bind content? =
      (t.at? other).bind content? := by
  induction parent generalizing t other with
  | nil =>
    rw [List.nil_append, at?_cons] at hfree
    rw [List.nil_append]
    cases other with
    | nil =>
      cases t with
      | file content => cases hparent
      | directory es => rfl
    | cons next rest =>
      rw [at?_cons, at?_cons, entries_put_cons, Table.get?_insert]
      by_cases hnext : name = next
      · subst hnext
        have hnew : t.entries.get? name = none := by
          cases h : t.entries.get? name with
          | none => rfl
          | some u =>
            rw [h] at hfree
            cases hfree
        rw [if_pos rfl, hnew]
        cases rest <;> rfl
      · rw [if_neg hnext]
  | cons first parent ih =>
    have ht := isDirectory_of_at?_cons hparent
    rw [List.cons_append, at?_cons] at hfree
    rw [at?_cons] at hparent
    cases hu : t.entries.get? first with
    | none =>
      rw [hu] at hparent
      cases hparent
    | some u =>
      rw [hu, Option.bind_some] at hparent hfree
      cases other with
      | nil =>
        cases t with
        | file content => cases ht
        | directory es => rfl
      | cons next rest =>
        rw [List.cons_append, at?_cons, at?_cons, entries_put_cons, Table.get?_insert, hu]
        by_cases hnext : first = next
        · subst hnext
          rw [if_pos rfl, hu, Option.bind_some, Option.bind_some, Option.getD_some]
          exact ih hparent hfree rest
        · rw [if_neg hnext]

/-- On the way to something there are directories. -/
theorem isDirectory_of_isPrefix {t : FileTree} {place other : Place} (h : place <+: other)
    (hne : place ≠ other) (hother : (t.at? other).isSome = true) :
    (t.at? place).any isDirectory = true := by
  induction place generalizing t other with
  | nil =>
    cases other with
    | nil => exact absurd rfl hne
    | cons name rest =>
      cases t with
      | file content => cases hother
      | directory es => rfl
  | cons name place ih =>
    obtain ⟨rest, rfl⟩ := h
    rw [List.cons_append, at?_cons] at hother
    rw [at?_cons]
    cases hu : t.entries.get? name with
    | none =>
      rw [hu] at hother
      cases hother
    | some u =>
      rw [hu, Option.bind_some] at hother
      rw [Option.bind_some]
      exact ih (List.prefix_append place rest) (fun heq => hne (congrArg _ heq)) hother

end FileTree

namespace Files

/-- A step along a path that changes no files. -/
def step? (f : Files) (place : FileTree.Place) (segment : String) : Option FileTree.Place :=
  if !(f.at? place).any FileTree.isDirectory then none
  else if FilePath.isIdle segment then some place
  else if segment == ".." then some place.dropLast
  else some (place ++ [segment])

theorem resolve?_eq (f : Files) (path : String) :
    f.resolve? path = if path.isEmpty then none
      else (FilePath.segments path).foldlM f.step? (f.start path) := by
  rw [resolve?]
  split_ifs
  · rfl
  · rw [follow?]
    generalize f.start path = place
    induction FilePath.segments path generalizing place with
    | nil => rfl
    | cons segment segments ih =>
      rw [List.foldlM_cons, List.foldlM_cons, step?]
      by_cases hd : (f.at? place).any FileTree.isDirectory = true
      · by_cases hidle : FilePath.isIdle segment = true
        · simpa [hd, hidle] using ih place
        · by_cases hback : (segment == "..") = true
          · simpa [hd, hidle, hback] using ih place.dropLast
          · simpa [hd, hidle, hback] using ih (place ++ [segment])
      · simp [hd]

theorem at?_put (f : Files) (new : FileTree) (place : FileTree.Place) :
    (f.put new place).at? place = some new :=
  FileTree.at?_put f.tree new place

/-- Putting something where no directory is leaves all ways open. -/
theorem foldlM_step?_put {f : Files} (new : FileTree) {place : FileTree.Place}
    (hplace : (f.at? place).any FileTree.isDirectory = false) (segments : List String)
    (start last : FileTree.Place) (h : segments.foldlM f.step? start = some last) :
    segments.foldlM (f.put new place).step? start = some last := by
  induction segments generalizing start with
  | nil => exact h
  | cons segment segments ih =>
    rw [List.foldlM_cons] at h ⊢
    obtain ⟨next, hnext, h⟩ := Option.bind_eq_some_iff.mp h
    have hstart : (f.at? start).any FileTree.isDirectory = true := by
      by_contra hc
      rw [step?, (Bool.not_eq_true _).mp hc] at hnext
      cases hnext
    have hstart' : ((f.put new place).at? start).any FileTree.isDirectory = true :=
      FileTree.any_isDirectory_put new hplace hstart
    refine Option.bind_eq_some_iff.mpr ⟨next, ?_, ih next h⟩
    rw [step?, hstart']
    rwa [step?, hstart] at hnext

/-- **A file that has been written is read as it was written.** -/
theorem read?_write? {f g : Files} {path : String} {content : Bytes}
    (h : f.write? path content = some g) : g.read? path = some content := by
  obtain ⟨place, hplace, h⟩ := Option.bind_eq_some_iff.mp h
  split_ifs at h with hdirectory
  obtain rfl := Option.some.inj h
  have hfree := (Bool.not_eq_true _).mp hdirectory
  have hresolve : (f.put (.file content) place).resolve? path = some place := by
    rw [resolve?_eq] at hplace ⊢
    split_ifs at hplace ⊢ with hempty
    exact foldlM_step?_put _ hfree _ _ _ hplace
  rw [read?, find?, hresolve]
  show ((f.put (.file content) place).at? place).bind FileTree.content? = some content
  rw [at?_put]
  rfl

/-! ## Files that were kept -/

/-- The content of the file at a place. -/
def content? (f : Files) (place : FileTree.Place) : Option Bytes :=
  (f.at? place).bind FileTree.content?

theorem read?_eq (f : Files) (path : String) :
    f.read? path = (f.resolve? path).bind f.content? := by
  rw [read?, find?]
  cases f.resolve? path <;> rfl

/-- No file is changed, removed or made, and each path that leads somewhere leads there still. -/
structure KeepsFiles (f g : Files) : Prop where
  here : g.here = f.here
  content? (place : FileTree.Place) : g.content? place = f.content? place
  step? {place next : FileTree.Place} {segment : String}
    (before : f.step? place segment = some next) : g.step? place segment = some next

namespace KeepsFiles

variable {f g h : Files}

theorem refl (f : Files) : f.KeepsFiles f :=
  ⟨rfl, fun _ => rfl, fun before => before⟩

theorem trans (hfg : f.KeepsFiles g) (hgh : g.KeepsFiles h) : f.KeepsFiles h where
  here := hgh.here.trans hfg.here
  content? place := (hgh.content? place).trans (hfg.content? place)
  step? before := hgh.step? (hfg.step? before)

theorem start (hkeeps : f.KeepsFiles g) (path : String) : g.start path = f.start path := by
  rw [Files.start, Files.start, hkeeps.here]

theorem foldlM_step? (hkeeps : f.KeepsFiles g) {segments : List String}
    {start last : FileTree.Place} (before : segments.foldlM f.step? start = some last) :
    segments.foldlM g.step? start = some last := by
  induction segments generalizing start with
  | nil => exact before
  | cons segment segments ih =>
    rw [List.foldlM_cons] at before ⊢
    obtain ⟨next, hnext, before⟩ := Option.bind_eq_some_iff.mp before
    exact Option.bind_eq_some_iff.mpr ⟨next, hkeeps.step? hnext, ih before⟩

/-- A path that leads somewhere leads there still. -/
theorem resolve? (hkeeps : f.KeepsFiles g) {path : String} {place : FileTree.Place}
    (before : f.resolve? path = some place) : g.resolve? path = some place := by
  rw [resolve?_eq] at before ⊢
  split_ifs at before ⊢
  rw [hkeeps.start]
  exact hkeeps.foldlM_step? before

/-- What is read was there before. -/
theorem read?_eq (hkeeps : f.KeepsFiles g) (path : String) :
    g.read? path = (g.resolve? path).bind f.content? := by
  rw [Files.read?_eq]
  exact congrArg _ (funext hkeeps.content?)

/-- Where nothing leads back, a way to a file was open before. -/
theorem foldlM_step?_of_content? (hkeeps : f.KeepsFiles g) {segments : List String}
    (hback : ∀ segment ∈ segments, segment ≠ "..") {start last : FileTree.Place}
    (after : segments.foldlM g.step? start = some last) (hlast : (f.content? last).isSome = true) :
    start <+: last ∧ segments.foldlM f.step? start = some last := by
  induction segments generalizing start with
  | nil =>
    obtain rfl := Option.some.inj after
    exact ⟨List.prefix_rfl, rfl⟩
  | cons segment segments ih =>
    obtain ⟨hfirst, hrest⟩ := List.forall_mem_cons.mp hback
    rw [List.foldlM_cons] at after ⊢
    obtain ⟨next, hnext, after⟩ := Option.bind_eq_some_iff.mp after
    obtain ⟨hahead, hsegments⟩ := ih hrest after
    have hdirectory : (g.at? start).any FileTree.isDirectory = true := by
      by_contra hc
      rw [Files.step?, (Bool.not_eq_true _).mp hc] at hnext
      cases hnext
    have hstart : start <+: next := by
      rw [Files.step?, hdirectory] at hnext
      simp only [Bool.not_true, Bool.false_eq_true, if_false, beq_iff_eq, if_neg hfirst] at hnext
      split_ifs at hnext
      · obtain rfl := Option.some.inj hnext
        exact List.prefix_rfl
      · obtain rfl := Option.some.inj hnext
        exact List.prefix_append _ _
    have hway : start <+: last := hstart.trans hahead
    -- The file at the end is no directory, so the step starts further up.
    have hne : start ≠ last := by
      rintro rfl
      rw [← hkeeps.content? start, Files.content?] at hlast
      cases hat : g.at? start with
      | none =>
        rw [hat] at hdirectory
        cases hdirectory
      | some t =>
        rw [hat] at hlast hdirectory
        cases t with
        | file content => cases hdirectory
        | directory es => cases hlast
    have hsome : (f.at? last).isSome = true := by
      rw [Files.content?] at hlast
      cases hat : f.at? last with
      | none =>
        rw [hat] at hlast
        cases hlast
      | some t => rfl
    have hbefore : (f.at? start).any FileTree.isDirectory = true :=
      FileTree.isDirectory_of_isPrefix hway hne hsome
    refine ⟨hway, Option.bind_eq_some_iff.mpr ⟨next, ?_, hsegments⟩⟩
    rw [Files.step?, hbefore]
    rwa [Files.step?, hdirectory] at hnext

/-- **What is read at a path stays as it is**, or missing, but where the path led nowhere and leads
back out of a directory. -/
theorem read? (hkeeps : f.KeepsFiles g) {path : String}
    (hpath : (f.resolve? path).isSome = true ∨ ∀ segment ∈ FilePath.segments path, segment ≠ "..") :
    g.read? path = f.read? path := by
  rw [hkeeps.read?_eq, Files.read?_eq]
  cases hf : f.resolve? path with
  | some place => rw [hkeeps.resolve? hf]
  | none =>
    have hback := hpath.resolve_left (by rw [hf]; exact Bool.false_ne_true)
    cases hg : g.resolve? path with
    | none => rfl
    | some place =>
      cases hcontent : f.content? place with
      | none => exact hcontent
      | some bs =>
        rw [resolve?_eq] at hf hg
        split_ifs at hf hg with hempty
        rw [hkeeps.start] at hg
        have hway := (hkeeps.foldlM_step?_of_content? hback hg (hcontent ▸ rfl)).2
        rw [hway] at hf
        cases hf

end KeepsFiles

/-- A directory that is made in another one changes no file. -/
theorem keepsFiles_put_empty {f : Files} {parent : FileTree.Place} {name : String}
    (hparent : (f.at? parent).any FileTree.isDirectory = true)
    (hfree : f.at? (parent ++ [name]) = none) :
    f.KeepsFiles (f.put .empty (parent ++ [name])) where
  here := rfl
  content? := FileTree.content?_at?_put_empty hparent hfree
  step? {place next segment} before := by
    have hplace : (f.at? (parent ++ [name])).any FileTree.isDirectory = false := by
      rw [hfree]
      rfl
    have hway := foldlM_step?_put .empty hplace [segment] place next
    simp only [List.foldlM_cons, List.foldlM_nil, bind_pure] at hway
    exact hway before

/-- **Making directories keeps all files.** -/
theorem keepsFiles_of_makeDirectories? {f g : Files} {path : String}
    (hmade : f.makeDirectories? path = some g) : f.KeepsFiles g := by
  obtain ⟨⟨f', last⟩, hfollow, h⟩ := Option.bind_eq_some_iff.mp hmade
  dsimp only at h
  split_ifs at h
  obtain rfl := Option.some.inj h
  rw [follow?] at hfollow
  generalize f.start path = place at hfollow
  clear hmade h
  generalize FilePath.segments path = segments at hfollow
  induction segments generalizing f place with
  | nil =>
    obtain ⟨rfl, rfl⟩ := Prod.mk.inj (Option.some.inj hfollow)
    exact .refl f
  | cons segment segments ih =>
    rw [List.foldlM_cons] at hfollow
    obtain ⟨⟨next, nextPlace⟩, hnext, hfollow⟩ := Option.bind_eq_some_iff.mp hfollow
    refine .trans ?_ (ih _ hfollow)
    dsimp only at hnext
    split_ifs at hnext with hdirectory hidle hback hfree
    · obtain ⟨rfl, rfl⟩ := Prod.mk.inj (Option.some.inj hnext)
      exact .refl f
    · obtain ⟨rfl, rfl⟩ := Prod.mk.inj (Option.some.inj hnext)
      exact .refl f
    · obtain ⟨rfl, rfl⟩ := Prod.mk.inj (Option.some.inj hnext)
      rw [Bool.not_eq_true', Bool.not_eq_false] at hdirectory
      exact keepsFiles_put_empty hdirectory (Option.isNone_iff_eq_none.mp hfree)
    · obtain ⟨rfl, rfl⟩ := Prod.mk.inj (Option.some.inj hnext)
      exact .refl f

end Files

end CollectionArchive
