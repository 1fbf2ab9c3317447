import CollectionArchive.Proofs.Archive.Laws
import CollectionArchive.Proofs.Pack.Adding

/-!
# What archives reply

Whatever is asked of a new archive, in whatever order, its replies follow from what was asked
before. So an archive in memory and one in a pack file cannot be told apart.

* `ArchiveRequest`, `Archive.replies`: what can be asked of an archive, and what it replies.
* `History`: what was asked so far; `History.taken` are the entries that count, those that were
  written under valid paths before the first closing.
* `History.Prompts`: the reply that a history prompts; `History.Prompts.unique`: there is only one.
* `Archive.Tracks`: an archive that keeps what it takes and can be closed.
* `Archive.Follows.conforms`: such an archive replies as its history prompts.
* **`replies_eq_of_create`**: archives in memory and in pack files reply alike.
-/

namespace CollectionArchive

/-! ## Requests and replies -/

/-- What can be asked of an archive. -/
inductive ArchiveRequest where
  | write (path : String) (data : Bytes)
  | read (path : String)
  | has (path : String)
  | list (pattern : String)
  | close

/-- What an archive replies. -/
inductive ArchiveReply where
  | outcome (x : Except PackError Unit)
  | data (x : Except PackError Bytes)
  | presence (isThere : Bool)
  | paths (x : Except PackError (List String))

namespace Archive

variable {σ : Type} [Archive σ]

/-- The reply to a request, and the archive afterwards. -/
def reply (a : σ) : ArchiveRequest → ArchiveReply × σ
  | .write path data =>
    match write a path data with
    | .ok b => (.outcome (.ok ()), b)
    | .error e => (.outcome (.error e), a)
  | .read path => (.data (read a path), a)
  | .has path => (.presence (has a path), a)
  | .list pattern => (.paths (list a pattern), a)
  | .close => (.outcome (close a).1, (close a).2)

/-- The replies to requests, one after the other. -/
def replies (a : σ) : List ArchiveRequest → List ArchiveReply
  | [] => []
  | q :: qs => (reply a q).1 :: replies (reply a q).2 qs

end Archive

namespace ArchiveRequest

/-- The entry that a request writes, if its path is valid. -/
def entry? : ArchiveRequest → Option Entry
  | write path data => if Entry.isValidPath path then some ⟨path, data⟩ else none
  | _ => none

/-- Whether writing is to end. -/
def isClose : ArchiveRequest → Bool
  | close => true
  | _ => false

end ArchiveRequest

/-! ## Histories -/

/-- What was asked of an archive, in its order. -/
abbrev History := List ArchiveRequest

namespace History

/-- Whether closing was asked for. -/
def isClosed (h : History) : Bool :=
  h.any ArchiveRequest.isClose

/-- The entries that were written under valid paths before closing. -/
def taken (h : History) : List Entry :=
  (h.takeWhile fun q => !q.isClose).filterMap ArchiveRequest.entry?

/-- The data that was taken last under each path. -/
def held (h : History) : Contents :=
  Entry.get? h.taken.reverse

/-- The reply that a request gets after what was asked before it. -/
inductive Prompts (h : History) : ArchiveRequest → ArchiveReply → Prop
  | written {path : String} {data : Bytes} (opened : h.isClosed = false)
    (valid : Entry.isValidPath path = true) : Prompts h (.write path data) (.outcome (.ok ()))
  | refused {path : String} {data : Bytes} (opened : h.isClosed = false)
    (invalid : Entry.isValidPath path = false) :
    Prompts h (.write path data) (.outcome (.error (.invalidPath path)))
  | late {path : String} {data : Bytes} (closed : h.isClosed = true) :
    Prompts h (.write path data) (.outcome (.error .closed))
  | found {path : String} {data : Bytes} (there : h.held path = some data) :
    Prompts h (.read path) (.data (.ok data))
  | missing {path : String} (absent : h.held path = none) :
    Prompts h (.read path) (.data (.error (.entryNotFound path)))
  | presence (path : String) : Prompts h (.has path) (.presence (h.held path).isSome)
  | noPattern {pattern : String} {fault : Glob.Fault} (parse : Glob.parse pattern = .error fault) :
    Prompts h (.list pattern) (.paths (.error (.invalidPattern pattern fault)))
  /-- The paths that match, in ascending order. -/
  | listed {pattern : String} {glob : List Glob.Part} {paths : List String}
    (parse : Glob.parse pattern = .ok glob)
    (ascending : paths.Pairwise fun p q => Text.precedes p q = true)
    (mem : ∀ p, p ∈ paths ↔
      (h.held p).isSome = true ∧ Glob.matchesAll glob (Bytes.ofText p) = true) :
    Prompts h (.list pattern) (.paths (.ok paths))
  | ended (opened : h.isClosed = false) : Prompts h .close (.outcome (.ok ()))
  | again (closed : h.isClosed = true) : Prompts h .close (.outcome (.error .closed))

/-- Replies to requests, each as it is prompted by what was asked before. -/
inductive Conforms : History → List ArchiveRequest → List ArchiveReply → Prop
  | nil (h : History) : Conforms h [] []
  | cons {h : History} {q : ArchiveRequest} {r : ArchiveReply} {qs : List ArchiveRequest}
    {rs : List ArchiveReply} (prompts : h.Prompts q r) (rest : Conforms (h ++ [q]) qs rs) :
    Conforms h (q :: qs) (r :: rs)

end History

/-- What is held of entries, the last of which counts, after one more. -/
theorem Entry.get?_reverse_concat (taken : List Entry) (e : Entry) :
    get? (taken ++ [e]).reverse = Contents.write (get? taken.reverse) e.path e.data := by
  rw [List.reverse_append, List.reverse_singleton, List.singleton_append]
  exact funext fun path => get?_cons e taken.reverse path

namespace History

variable {h : History}

/-- **A history prompts only one reply to a request.** -/
theorem Prompts.unique {q : ArchiveRequest} {r s : ArchiveReply} (hr : h.Prompts q r)
    (hs : h.Prompts q s) : r = s := by
  cases hr with
  | written opened valid =>
    cases hs with
    | written => rfl
    | refused _ invalid => exact absurd (valid.symm.trans invalid) nofun
    | late closed => exact absurd (opened.symm.trans closed) nofun
  | refused opened invalid =>
    cases hs with
    | written _ valid => exact absurd (valid.symm.trans invalid) nofun
    | refused => rfl
    | late closed => exact absurd (opened.symm.trans closed) nofun
  | late closed =>
    cases hs with
    | written opened => exact absurd (opened.symm.trans closed) nofun
    | refused opened => exact absurd (opened.symm.trans closed) nofun
    | late => rfl
  | found there =>
    cases hs with
    | found there' => rw [Option.some.inj (there.symm.trans there')]
    | missing absent => exact absurd (there.symm.trans absent) nofun
  | missing absent =>
    cases hs with
    | found there => exact absurd (there.symm.trans absent) nofun
    | missing => rfl
  | presence => cases hs with | presence => rfl
  | noPattern parse =>
    cases hs with
    | noPattern parse' => rw [Except.error.inj (parse.symm.trans parse')]
    | listed parse' => exact absurd (parse.symm.trans parse') nofun
  | listed parse ascending mem =>
    cases hs with
    | noPattern parse' => exact absurd (parse.symm.trans parse') nofun
    | listed parse' ascending' mem' =>
      obtain rfl := Except.ok.inj (parse.symm.trans parse')
      rw [Ordered.eq_of_pairwise id ascending ascending' fun p => (mem p).trans (mem' p).symm]
  | ended opened =>
    cases hs with
    | ended => rfl
    | again closed => exact absurd (opened.symm.trans closed) nofun
  | again closed =>
    cases hs with
    | ended opened => exact absurd (opened.symm.trans closed) nofun
    | again => rfl

/-- Requests have only one sequence of replies that are all prompted. -/
theorem Conforms.unique {qs : List ArchiveRequest} {rs ss : List ArchiveReply}
    (hr : Conforms h qs rs) (hs : Conforms h qs ss) : rs = ss := by
  induction hr generalizing ss with
  | nil => cases hs; rfl
  | cons prompts _ ih =>
    cases hs with
    | cons prompts' rest' => rw [prompts.unique prompts', ih rest']

/-! ### One more request -/

theorem isClosed_concat (h : History) (q : ArchiveRequest) :
    History.isClosed (h ++ [q]) = (h.isClosed || q.isClose) := by
  simp [isClosed]

theorem takeWhile_of_open (opened : h.isClosed = false) (qs : List ArchiveRequest) :
    (h ++ qs).takeWhile (fun q => !q.isClose) = h ++ qs.takeWhile fun q => !q.isClose := by
  refine List.takeWhile_append_of_pos fun q hq => ?_
  rw [Bool.not_eq_true']
  exact (Bool.not_eq_true _).mp (List.any_eq_false.mp opened q hq)

/-- What is asked before closing is added to what was taken. -/
theorem taken_append_of_open (opened : h.isClosed = false) (qs : List ArchiveRequest) :
    History.taken (h ++ qs) = h.taken ++ History.taken qs := by
  have hall := takeWhile_of_open opened []
  rw [List.append_nil, List.takeWhile_nil, List.append_nil] at hall
  rw [taken, takeWhile_of_open opened, List.filterMap_append, taken, hall, taken]

/-- What is asked after closing is not taken. -/
theorem taken_append_of_closed (closed : h.isClosed = true) (qs : List ArchiveRequest) :
    History.taken (h ++ qs) = h.taken := by
  suffices (h ++ qs).takeWhile (fun q => !q.isClose) = h.takeWhile fun q => !q.isClose by
    rw [taken, this, taken]
  induction h with
  | nil => cases closed
  | cons q h ih =>
    rw [List.cons_append, List.takeWhile_cons, List.takeWhile_cons]
    cases hq : q.isClose with
    | true => rfl
    | false =>
      have hrest : History.isClosed h = true := by
        rwa [isClosed, List.any_cons, hq, Bool.false_or] at closed
      simp only [Bool.not_false, if_true, ih hrest]

/-- What was taken stays so. -/
theorem taken_prefix_append (h : History) (qs : List ArchiveRequest) :
    h.taken <+: History.taken (h ++ qs) := by
  cases hclosed : h.isClosed with
  | true => exact ⟨[], by rw [List.append_nil, taken_append_of_closed hclosed]⟩
  | false => exact ⟨History.taken qs, (taken_append_of_open hclosed qs).symm⟩

theorem taken_singleton_write (path : String) (data : Bytes) :
    History.taken [.write path data] =
      if Entry.isValidPath path = true then [⟨path, data⟩] else [] := by
  show [ArchiveRequest.write path data].filterMap ArchiveRequest.entry? = _
  rw [List.filterMap_cons, ArchiveRequest.entry?]
  split_ifs <;> rfl

end History

/-! ## Replies that conform -/

namespace Archive

variable {σ : Type} [Archive σ] {a : σ} {h : History}

/-- What an archive lists is what is held and matches. -/
theorem Holds.prompts_list (holds : Archive.Holds a h.held) (pattern : String) :
    h.Prompts (.list pattern) (.paths (Archive.list a pattern)) := by
  obtain ⟨paths, hnodup, hmem, hlist⟩ := holds.list
  rw [hlist, Entry.matching]
  cases hparse : Glob.parse pattern with
  | error fault => exact .noPattern hparse
  | ok glob =>
    refine .listed hparse (Text.pairwise_sort (hnodup.filter _)) fun p => ?_
    rw [Text.mem_sort, List.mem_filter, hmem]

theorem Holds.prompts_read (holds : Archive.Holds a h.held) (path : String) :
    h.Prompts (.read path) (.data (Archive.read a path)) := by
  rw [holds.read]
  cases hheld : h.held path with
  | none => exact .missing hheld
  | some data => exact .found hheld

variable [LawfulArchive σ]

/-- What an archive is like that has taken entries: it holds them, it can take more, and it can be
closed after the beginnings of all requests. -/
structure Tracks (state : σ → List Entry → Prop) (all : List ArchiveRequest) : Prop where
  isOpen {a : σ} {taken : List Entry} :
    state a taken → LawfulArchive.IsOpen a (Entry.get? taken.reverse)
  write {a b : σ} {taken : List Entry} {path : String} {data : Bytes} : state a taken →
    Archive.write a path data = .ok b → state b (taken ++ [⟨path, data⟩])
  close {a : σ} {taken : List Entry} : state a taken → taken <+: History.taken all →
    ∃ b, Archive.close a = (.ok (), b)
  storable {e : Entry} : e ∈ History.taken all → LawfulArchive.Storable σ e.path e.data

/-- The archive after a history: open as it tracks what was taken, or closed with it. -/
def Follows (state : σ → List Entry → Prop) (a : σ) (h : History) : Prop :=
  if h.isClosed = true then LawfulArchive.IsClosed a h.held else state a h.taken

variable {state : σ → List Entry → Prop} {all : List ArchiveRequest}

theorem Follows.holds (tracks : Tracks state all) (follows : Follows state a h) :
    Holds a h.held := by
  rw [Follows] at follows
  split_ifs at follows
  · exact LawfulArchive.holds_of_isClosed follows
  · exact LawfulArchive.holds_of_isOpen (tracks.isOpen follows)

theorem follows_of_open (opened : h.isClosed = false) :
    Follows state a h ↔ state a h.taken := by
  rw [Follows, opened, if_neg Bool.false_ne_true]

theorem follows_of_closed (closed : h.isClosed = true) :
    Follows state a h ↔ LawfulArchive.IsClosed a h.held := by
  rw [Follows, if_pos closed]

/-- After closing, and after requests that only ask, the archive is as it was. -/
theorem Follows.concat (follows : Follows state a h) {q : ArchiveRequest}
    (idle : h.isClosed = true ∨ (q.isClose = false ∧ History.taken [q] = [])) :
    Follows state a (h ++ [q]) := by
  cases hclosed : h.isClosed with
  | true =>
    rw [follows_of_closed (by rw [History.isClosed_concat, hclosed, Bool.true_or]), History.held,
      History.taken_append_of_closed hclosed]
    exact (follows_of_closed hclosed).mp follows
  | false =>
    obtain ⟨hclose, htaken⟩ := idle.resolve_left (Bool.eq_false_iff.mp hclosed)
    rw [follows_of_open (by rw [History.isClosed_concat, hclosed, hclose]; rfl),
      History.taken_append_of_open hclosed, htaken, List.append_nil]
    exact (follows_of_open hclosed).mp follows

theorem Follows.prompts_write (tracks : Tracks state all) (follows : Follows state a h)
    (path : String) (data : Bytes) : h.Prompts (.write path data) (reply a (.write path data)).1 ∧
      Follows state (reply a (.write path data)).2 (h ++ [.write path data]) := by
  cases hclosed : h.isClosed with
  | true =>
    have hrefused := LawfulArchive.write_closed path data ((follows_of_closed hclosed).mp follows)
    rw [reply, hrefused]
    exact ⟨.late hclosed, follows.concat (.inl hclosed)⟩
  | false =>
    have hstate := (follows_of_open hclosed).mp follows
    have hopen := tracks.isOpen hstate
    by_cases hvalid : Entry.isValidPath path = true
    · obtain ⟨b, hb, _⟩ := LawfulArchive.write_valid data hopen hvalid
      rw [reply, hb]
      refine ⟨.written hclosed hvalid, ?_⟩
      rw [follows_of_open (by rw [History.isClosed_concat, hclosed]; rfl),
        History.taken_append_of_open hclosed, History.taken_singleton_write, if_pos hvalid]
      exact tracks.write hstate hb
    · have hinvalid := (Bool.not_eq_true _).mp hvalid
      rw [reply, LawfulArchive.write_invalid data hopen hinvalid]
      refine ⟨.refused hclosed hinvalid, follows.concat (.inr ⟨rfl, ?_⟩)⟩
      rw [History.taken_singleton_write, if_neg hvalid]

theorem Follows.prompts_close (tracks : Tracks state all) (follows : Follows state a h)
    (before : h.taken <+: History.taken all) : h.Prompts .close (reply a .close).1 ∧
      Follows state (reply a .close).2 (h ++ [.close]) := by
  have hconcat : History.isClosed (h ++ [.close]) = true := by
    rw [History.isClosed_concat]
    exact Bool.or_true _
  cases hclosed : h.isClosed with
  | true =>
    have hrefused := LawfulArchive.close_closed ((follows_of_closed hclosed).mp follows)
    rw [reply, hrefused]
    exact ⟨.again hclosed, follows.concat (.inl hclosed)⟩
  | false =>
    have hstate := (follows_of_open hclosed).mp follows
    obtain ⟨b, hb⟩ := tracks.close hstate before
    rw [reply, hb]
    refine ⟨.ended hclosed, (follows_of_closed hconcat).mpr ?_⟩
    have hheld : History.held (h ++ [.close]) = h.held := by
      rw [History.held, History.taken_append_of_open hclosed]
      show Entry.get? (h.taken ++ []).reverse = _
      rw [List.append_nil, History.held]
    rw [hheld]
    refine LawfulArchive.close_open (tracks.isOpen hstate) (fun path data hfound => ?_) hb
    have hmem := List.mem_reverse.mp (Entry.mem_of_get? hfound)
    exact tracks.storable (before.subset hmem)

/-- **The reply to each request is the one that the history prompts**, and the archive afterwards
follows the longer history. -/
theorem Follows.prompts (tracks : Tracks state all) (follows : Follows state a h)
    {q : ArchiveRequest} (before : h.taken <+: History.taken all) :
    h.Prompts q (reply a q).1 ∧ Follows state (reply a q).2 (h ++ [q]) := by
  have holds := follows.holds tracks
  cases q with
  | read path => exact ⟨Holds.prompts_read holds path, follows.concat (.inr ⟨rfl, rfl⟩)⟩
  | has path =>
    refine ⟨?_, follows.concat (.inr ⟨rfl, rfl⟩)⟩
    rw [Archive.reply, holds.has]
    exact .presence path
  | list pattern => exact ⟨Holds.prompts_list holds pattern, follows.concat (.inr ⟨rfl, rfl⟩)⟩
  | write path data => exact follows.prompts_write tracks path data
  | close => exact follows.prompts_close tracks before

/-- **All replies to requests are prompted by what was asked before.** -/
theorem Follows.conforms (tracks : Tracks state all) (follows : Follows state a h)
    {qs : List ArchiveRequest} (requests : h ++ qs = all) : h.Conforms qs (replies a qs) := by
  induction qs generalizing a h with
  | nil => exact .nil h
  | cons q qs ih =>
    have before : h.taken <+: History.taken all := requests ▸ h.taken_prefix_append (q :: qs)
    obtain ⟨hprompts, hfollows⟩ := follows.prompts tracks (q := q) before
    exact .cons hprompts (ih hfollows (by rw [List.append_assoc]; exact requests))

end Archive

/-! ## Archives in memory and in pack files -/

theorem MemoryArchive.tracks (all : List ArchiveRequest) : Archive.Tracks
    (fun (a : MemoryArchive) taken => LawfulArchive.IsOpen a (Entry.get? taken.reverse)) all where
  isOpen h := h
  write {a b taken path data} h hwrite := by
    rw [Entry.get?_reverse_concat]
    exact LawfulArchive.isOpen_of_write (f := Entry.get? taken.reverse) h hwrite
  close {a taken} h _ := by
    refine ⟨⟨a.entries, a.ascending, true⟩, ?_⟩
    show MemoryArchive.close a = _
    rw [MemoryArchive.close, h.1]
    rfl
  storable _ := trivial

namespace PackArchive

/-- A new archive for a file that has taken entries. -/
structure HasTaken (new a : PackArchive) (taken : List Entry) : Prop where
  pending : a.pending = some (Entry.insertAll [] taken)
  files : a.files = new.files
  path : a.path = new.path

theorem hasTaken_create {files : Files} {path : String} {config : PackConfig} {new : PackArchive}
    (created : create files path config = .ok new) : HasTaken new new [] := by
  rw [create] at created
  split_ifs at created
  obtain ⟨_, _, created⟩ := Outcome.bind_eq_ok.mp created
  obtain rfl := Outcome.pure_eq_ok.mp created
  exact ⟨rfl, rfl, rfl⟩

theorem HasTaken.isPending {new a : PackArchive} {taken : List Entry}
    (h : HasTaken new a taken) : a.IsPending (Entry.get? taken.reverse) :=
  ⟨_, h.pending, Entry.nodup_paths_insertAll taken, funext (Entry.get?_insertAll taken)⟩

theorem HasTaken.write {new a b : PackArchive} {taken : List Entry} {path : String} {data : Bytes}
    (h : HasTaken new a taken) (hwrite : a.write path data = .ok b) :
    HasTaken new b (taken ++ [⟨path, data⟩]) := by
  by_cases hvalid : Entry.isValidPath path = true
  · rw [PackArchive.write, h.pending] at hwrite
    obtain ⟨entries, hentries, hwrite⟩ := Outcome.bind_eq_ok.mp hwrite
    obtain rfl := Option.some.inj (Outcome.elim_eq_ok.mp hentries)
    obtain ⟨inserted, hput, hwrite⟩ := Outcome.bind_eq_ok.mp hwrite
    rw [Entry.put_of_valid hvalid] at hput
    obtain rfl := Except.ok.inj hput
    obtain rfl := Outcome.pure_eq_ok.mp hwrite
    exact ⟨congrArg some (Entry.insertAll_concat [] taken ⟨path, data⟩).symm, h.files, h.path⟩
  · rw [h.isPending.write_invalid ((Bool.not_eq_true _).mp hvalid)] at hwrite
    cases hwrite

variable [Codec]

/-- Closing succeeds if there are fewer than 2³² paths and the file can be saved. -/
theorem HasTaken.exists_close {new a : PackArchive} {taken : List Entry}
    (h : HasTaken new a taken) (lossless : Codec.IsLossless ‹Codec›)
    (fits : ∀ e ∈ taken, (Bytes.ofText e.path).FitsMemory ∧ e.data.FitsMemory)
    (count : (Entry.paths taken).eraseDups.length < 0x100000000)
    (saves : ∀ bs, ∃ saved, save new.files new.path bs = .ok saved) :
    ∃ c, a.close = (.ok (), c) := by
  have hcount : (Entry.insertAll [] taken).length < 0x100000000 := by
    rw [← Entry.paths_insertAll, Entry.paths, List.length_map] at count
    exact count
  apply PackArchive.exists_close h.pending lossless (Entry.nodup_paths_insertAll taken)
  · exact fun e he => fits e (Entry.mem_insertAll he)
  · exact hcount
  · rw [h.files, h.path]
    exact saves

theorem tracks (lossless : Codec.IsLossless ‹Codec›) {new : PackArchive}
    {all : List ArchiveRequest}
    (count : (Entry.paths (History.taken all)).eraseDups.length < 0x100000000)
    (fits : ∀ e ∈ History.taken all, (Bytes.ofText e.path).FitsMemory ∧ e.data.FitsMemory)
    (saves : ∀ bs, ∃ saved, save new.files new.path bs = .ok saved) :
    let := lawful lossless
    Archive.Tracks (HasTaken new) all :=
  let := lawful lossless
  { isOpen := HasTaken.isPending
    write := HasTaken.write
    close := by
      intro a taken h before
      have hcount : (Entry.paths taken).eraseDups.length < 0x100000000 := by
        obtain ⟨later, hlater⟩ := before
        rw [← hlater, Entry.paths, List.map_append, List.eraseDups_append,
          List.length_append] at count
        rw [Entry.paths]
        omega
      exact h.exists_close lossless (fun e he => fits e (before.subset he)) hcount saves
    storable := fun he => fits _ he }

end PackArchive

/-- **Archives in memory and in pack files reply alike** to whatever is asked of them when they are
new, in whatever order, before and after closing: each reply is the one that is prompted by what was
asked before. For the pack file, the codec has to be lossless, fewer than 2³² paths may be written,
and the file can be saved. -/
theorem replies_eq_of_create [Codec] (lossless : Codec.IsLossless ‹Codec›) {files : Files}
    {path : String} {config : PackConfig} {new : PackArchive}
    (created : PackArchive.create files path config = .ok new) {requests : List ArchiveRequest}
    (count : (Entry.paths (History.taken requests)).eraseDups.length < 0x100000000)
    (fits : ∀ e ∈ History.taken requests, (Bytes.ofText e.path).FitsMemory ∧ e.data.FitsMemory)
    (saves : ∀ bs, ∃ saved, PackArchive.save new.files new.path bs = .ok saved) :
    Archive.replies new requests = Archive.replies MemoryArchive.empty requests ∧
      History.Conforms [] requests (Archive.replies new requests) := by
  have hmemory : History.Conforms [] requests (Archive.replies MemoryArchive.empty requests) :=
    Archive.Follows.conforms (MemoryArchive.tracks requests)
      ((Archive.follows_of_open rfl).mpr ⟨rfl, rfl⟩) rfl
  let := PackArchive.lawful lossless
  have hpack : History.Conforms [] requests (Archive.replies new requests) :=
    Archive.Follows.conforms (PackArchive.tracks lossless count fits saves)
      ((Archive.follows_of_open rfl).mpr (PackArchive.hasTaken_create created)) rfl
  exact ⟨hpack.unique hmemory, hpack⟩

/-- Data that is replaced, a path that is refused, and requests after closing. -/
def History.sample : History :=
  [.write "b" [1], .write "/b" [2], .write "a/c" [], .write "b" [3], .list "*", .close,
    .write "b" [4], .read "b", .read "/b", .has "a/c", .close]

theorem replies_eq_of_create_sample : ∃ new : PackArchive,
    PackArchive.create (.empty []) "p" .standard = .ok new ∧
      Archive.replies new History.sample = Archive.replies MemoryArchive.empty History.sample ∧
      (Archive.replies new History.sample).drop 5 = [.outcome (.ok ()), .outcome (.error .closed),
        .data (.ok [3]), .data (.error (.entryNotFound "/b")), .presence true,
        .outcome (.error .closed)] := by
  obtain ⟨new, created⟩ : ∃ new, PackArchive.create (.empty []) "p" .standard = .ok new := ⟨_, rfl⟩
  have htaken : History.taken History.sample = [⟨"b", [1]⟩, ⟨"a/c", []⟩, ⟨"b", [3]⟩] := by
    decide +kernel
  have hcount : (Entry.paths (History.taken History.sample)).eraseDups.length < 0x100000000 := by
    rw [htaken]
    decide +kernel
  have hfits : ∀ e ∈ History.taken History.sample,
      (Bytes.ofText e.path).FitsMemory ∧ e.data.FitsMemory := by
    rw [htaken]
    simp only [List.mem_cons, List.not_mem_nil, or_false, Bytes.FitsMemory, Bytes.ofText_eq]
    rintro e (rfl | rfl | rfl) <;> decide +kernel
  have hsaves : ∀ bs, ∃ saved, PackArchive.save new.files new.path bs = .ok saved := by
    obtain rfl := Except.ok.inj created
    exact fun _ => ⟨_, rfl⟩
  obtain ⟨heq, _⟩ := replies_eq_of_create Codec.isLossless_standard created hcount hfits hsaves
  refine ⟨new, created, heq, ?_⟩
  rw [heq]
  rfl

end CollectionArchive
