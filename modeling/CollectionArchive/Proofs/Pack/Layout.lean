import CollectionArchive.Pack.Reading
import CollectionArchive.Proofs.Outcome
import CollectionArchive.Proofs.Pack.Varint
import CollectionArchive.Proofs.Text.Utf8
import Mathlib.Data.List.Nodup

/-!
# The layout of packs

What the bytes of a pack have to be is said here without reading them: the fields of an entry one
after the other, the entries one after the other, a header before them and a hash behind them.

* `StoredEntry.IsSpelled`: the bytes of an entry; `Pack.takeEntry_eq_ok`: an entry is taken from
  the bytes that spell it.
* `Pack.Lists`: the bytes of entries, and where each of them starts; `Pack.takeEntries_eq_ok`.
* `Pack.IsOf`: the bytes of a pack.
* **`Pack.decode_eq_ok`**: a pack is opened from its bytes, and from no others.
* `Pack.read_eq_ok`: the data of an entry is read only if it is intact.
* `Pack.Check`: what is checked when a pack is opened; **`Pack.exists_failing`**: the error is that
  of the first check that fails.
-/

namespace CollectionArchive

/-- The bytes of an entry: the sizes of its path, of its data and of what is stored are numbers of
variable length, and the check value has four bytes. -/
def StoredEntry.IsSpelled (e : StoredEntry) (bs : Bytes) : Prop :=
  ∃ pathSize size storedSize crc : Bytes,
    bs = pathSize ++ Bytes.ofText e.path ++ size ++ storedSize ++ crc ++ e.stored ∧
      Varint.Spells pathSize (Bytes.ofText e.path).length ∧ Varint.Spells size e.size ∧
        Varint.Spells storedSize e.stored.length ∧ crc.length = 4 ∧ Bytes.toNat crc = e.crc

namespace Pack

/-! ## Fields -/

theorem takeNumber_eq_ok {n : Nat} {bs rest : Bytes} :
    takeNumber bs = .ok (n, rest) ↔ ∃ field, bs = field ++ rest ∧ Varint.Spells field n := by
  rw [takeNumber, Outcome.mapError_eq_ok, Varint.decode_eq_ok]

theorem takeBytes_eq_ok {offset count : Nat} {missing : Corruption} {bs front rest : Bytes} :
    takeBytes offset missing count bs = .ok (front, rest) ↔
      bs = front ++ rest ∧ front.length = count := by
  rw [takeBytes]
  constructor
  · intro h
    split_ifs at h with hcount
    rw [List.splitAt_eq] at h
    obtain ⟨rfl, rfl⟩ := Prod.mk.inj (Except.ok.inj h)
    exact ⟨(List.take_append_drop _ _).symm, List.length_take_of_le hcount⟩
  · rintro ⟨rfl, rfl⟩
    rw [if_pos (by simp), List.splitAt_eq, List.take_left, List.drop_left]

theorem pathOf_eq_ok {offset : Nat} {bs : Bytes} {path : String} :
    pathOf offset bs = .ok path ↔ bs = Bytes.ofText path := by
  rw [pathOf, Outcome.elim_eq_ok, Bytes.text?_eq_some]

/-! ## Entries -/

/-- An entry is taken from the bytes that spell it, and what follows them is left. -/
theorem takeEntry_eq_ok {offset : Nat} {bs rest : Bytes} {e : StoredEntry} :
    takeEntry offset bs = .ok (e, rest) ↔
      e.offset = offset ∧ ∃ front, bs = front ++ rest ∧ e.IsSpelled front := by
  constructor
  · intro h
    obtain ⟨⟨_, _⟩, hpathSize, h⟩ := Outcome.bind_eq_ok.mp h
    obtain ⟨⟨_, _⟩, hpath, h⟩ := Outcome.bind_eq_ok.mp h
    obtain ⟨path, htext, h⟩ := Outcome.bind_eq_ok.mp h
    obtain ⟨⟨_, _⟩, hsize, h⟩ := Outcome.bind_eq_ok.mp h
    obtain ⟨⟨_, _⟩, hstoredSize, h⟩ := Outcome.bind_eq_ok.mp h
    obtain ⟨⟨crc, _⟩, hcrc, h⟩ := Outcome.bind_eq_ok.mp h
    obtain ⟨⟨stored, _⟩, hstored, h⟩ := Outcome.bind_eq_ok.mp h
    obtain ⟨rfl, rfl⟩ := Prod.mk.inj (Outcome.pure_eq_ok.mp h)
    obtain ⟨pathField, rfl, hpathField⟩ := takeNumber_eq_ok.mp hpathSize
    obtain ⟨rfl, rfl⟩ := takeBytes_eq_ok.mp hpath
    obtain rfl := pathOf_eq_ok.mp htext
    obtain ⟨sizeField, rfl, hsizeField⟩ := takeNumber_eq_ok.mp hsize
    obtain ⟨storedField, rfl, hstoredField⟩ := takeNumber_eq_ok.mp hstoredSize
    obtain ⟨rfl, hfour⟩ := takeBytes_eq_ok.mp hcrc
    obtain ⟨rfl, rfl⟩ := takeBytes_eq_ok.mp hstored
    refine ⟨rfl, pathField ++ Bytes.ofText path ++ sizeField ++ storedField ++ crc ++ stored, ?_,
      pathField, sizeField, storedField, crc, rfl, hpathField, hsizeField, hstoredField, hfour, rfl⟩
    simp only [List.append_assoc]
  · obtain ⟨_, path, size, _, stored⟩ := e
    rintro ⟨rfl, _, rfl, pathBytes, sizeBytes, storedBytes, crc, rfl, hpathSize, hsize,
      hstoredSize, hfour, rfl⟩
    have hnumber : ∀ {field n} (more : Bytes), Varint.Spells field n →
        takeNumber (field ++ more) = .ok (n, more) :=
      fun more h => takeNumber_eq_ok.mpr ⟨_, rfl, h⟩
    have hbytes : ∀ {offset count missing front} (more : Bytes), front.length = count →
        takeBytes offset missing count (front ++ more) = .ok (front, more) :=
      fun more h => takeBytes_eq_ok.mpr ⟨rfl, h⟩
    simp only [takeEntry, List.append_assoc, hnumber _ hpathSize, hbytes _ rfl,
      pathOf_eq_ok.mpr rfl, hnumber _ hsize, hnumber _ hstoredSize, hbytes _ hfour, bind,
      Except.bind, pure, Except.pure]

/-- The bytes of entries one after the other, the first of which starts at a place. -/
inductive Lists : (start : Nat) → List StoredEntry → Bytes → Prop
  | nil {start : Nat} : Lists start [] []
  | cons {start : Nat} {e : StoredEntry} {es : List StoredEntry} {bs rest : Bytes}
      (place : e.offset = start) (spelled : e.IsSpelled bs)
      (more : Lists (start + bs.length) es rest) : Lists start (e :: es) (bs ++ rest)

/-- Entries are taken from the bytes that list them, if no two of them have one path. -/
theorem takeEntries_eq_ok {ending count : Nat} {before es : List StoredEntry} {bs : Bytes}
    (hending : bs.length ≤ ending) (hbefore : (before.map StoredEntry.path).Nodup) :
    takeEntries ending count before bs = .ok es ↔
      ∃ ss, es = before.reverse ++ ss ∧ ss.length = count ∧ (es.map StoredEntry.path).Nodup ∧
        Lists (ending - bs.length) ss bs := by
  induction count generalizing before bs with
  | zero =>
    cases bs with
    | nil =>
      rw [takeEntries]
      constructor
      · intro h
        obtain rfl := Except.ok.inj h
        refine ⟨[], (List.append_nil _).symm, rfl, ?_, .nil⟩
        rw [List.map_reverse]
        exact List.nodup_reverse.mpr hbefore
      · rintro ⟨ss, rfl, hlength, _, _⟩
        rw [List.length_eq_zero_iff.mp hlength, List.append_nil]
    | cons b bs =>
      rw [takeEntries]
      constructor
      · intro h
        cases h
      · rintro ⟨ss, _, hlength, _, hlists⟩
        rw [List.length_eq_zero_iff.mp hlength] at hlists
        cases hlists
  | succ count ih =>
    rw [takeEntries, Outcome.bind_eq_ok]
    constructor
    · rintro ⟨⟨e, rest⟩, htake, h⟩
      obtain ⟨hplace, front, rfl, hspelled⟩ := takeEntry_eq_ok.mp htake
      simp only at h
      split_ifs at h with hany
      have hfresh : ∀ s ∈ before, s.path ≠ e.path := by simpa using hany
      have hnext : ((e :: before).map StoredEntry.path).Nodup := by
        rw [List.map_cons, List.nodup_cons]
        refine ⟨fun hmem => ?_, hbefore⟩
        obtain ⟨s, hs, heq⟩ := List.mem_map.mp hmem
        exact hfresh s hs heq
      have hshort : rest.length ≤ ending := by
        rw [List.length_append] at hending
        omega
      obtain ⟨ss, rfl, rfl, hnodup, hlists⟩ := (ih hshort hnext).mp h
      have hstart : ending - (front ++ rest).length + front.length = ending - rest.length := by
        rw [List.length_append] at hending ⊢
        omega
      refine ⟨e :: ss, by simp, rfl, hnodup, .cons hplace hspelled ?_⟩
      rwa [hstart]
    · rintro ⟨ss, rfl, hlength, hnodup, hlists⟩
      cases hlists with
      | nil => cases hlength
      | @cons _ e ss front rest hplace hspelled hmore =>
        refine ⟨(e, rest), takeEntry_eq_ok.mpr ⟨hplace, front, rfl, hspelled⟩, ?_⟩
        have hshort : rest.length ≤ ending := by
          rw [List.length_append] at hending
          omega
        have hstart : ending - (front ++ rest).length + front.length = ending - rest.length := by
          rw [List.length_append] at hending ⊢
          omega
        have hsplit : before.reverse ++ e :: ss = (e :: before).reverse ++ ss := by simp
        have hnext : ((e :: before).map StoredEntry.path).Nodup := by
          rw [hsplit, List.map_append, List.map_reverse] at hnodup
          exact List.nodup_reverse.mp hnodup.of_append_left
        have hfresh : (before.any fun f => f.path == e.path) = false := by
          rw [List.any_eq_false]
          intro s hs heq
          exact (List.nodup_cons.mp hnext).1 (List.mem_map.mpr ⟨s, hs, beq_iff_eq.mp heq⟩)
        simp only [hfresh, Bool.false_eq_true, if_false]
        refine (ih hshort hnext).mpr ⟨ss, hsplit, Nat.succ.inj hlength, hnodup, ?_⟩
        rwa [hstart] at hmore

/-! ## Packs -/

/-- The bytes of a pack without the hash behind them. -/
def hashed (bs : Bytes) : Bytes :=
  bs.take (bs.length - checksumSize)

/-- The last bytes of a pack. -/
def trailer (bs : Bytes) : Bytes :=
  bs.drop (bs.length - checksumSize)

/-- The bytes of a pack between the header and the hash. -/
def body (bs : Bytes) : Bytes :=
  (hashed bs).drop headerSize

variable [Codec]

/-- The bytes of a pack: its name, its version and the number of its entries, the entries, of which
no two have one path, and the hash of all this. -/
structure IsOf (p : Pack) (bs : Bytes) : Prop where
  long : headerSize + checksumSize ≤ bs.length
  magic : bs.take 4 = Bytes.ofText PackError.magic
  version : word bs 4 = 1
  count : word bs 8 = p.entries.length
  hash : (Codec.hash (hashed bs)).val = trailer bs
  checksum : p.checksum = trailer bs
  entries : Lists headerSize p.entries (body bs)
  distinct : p.paths.Nodup

omit [Codec] in
theorem length_hashed {bs : Bytes} : (hashed bs).length = bs.length - checksumSize :=
  List.length_take_of_le (Nat.sub_le _ _)

omit [Codec] in
theorem length_body {bs : Bytes} :
    (body bs).length = bs.length - checksumSize - headerSize := by
  rw [body, List.length_drop, length_hashed]

/-- What is checked when a pack is opened, and what is read then. -/
theorem decode_eq (bs : Bytes) : decode bs =
    if bs.length < headerSize + checksumSize then .error (.corruptEntry 0 .tooShort)
    else if bs.take 4 ≠ Bytes.ofText PackError.magic then .error (.invalidMagic (bs.take 4))
    else if word bs 4 ≠ 1 then .error (.unsupportedVersion (word bs 4))
    else if (Codec.hash (hashed bs)).val ≠ trailer bs then .error .checksumMismatch
    else (fun es => ⟨es, trailer bs⟩) <$>
      takeEntries (hashed bs).length (word bs 8) [] (body bs) := by
  have hsplit : bs.splitAt (bs.length - checksumSize) = (hashed bs, trailer bs) :=
    List.splitAt_eq ..
  rw [decode, hsplit]
  rfl

omit [Codec] in
/-- The entries between the header and the hash are taken, the first one from where the header
ends. -/
theorem takeEntries_body {bs : Bytes} (long : headerSize + checksumSize ≤ bs.length)
    {count : Nat} {es : List StoredEntry} :
    takeEntries (hashed bs).length count [] (body bs) = .ok es ↔
      es.length = count ∧ (es.map StoredEntry.path).Nodup ∧ Lists headerSize es (body bs) := by
  have hstart : (hashed bs).length - (body bs).length = headerSize := by
    rw [length_hashed, length_body]
    omega
  have hnone : (([] : List StoredEntry).map StoredEntry.path).Nodup := List.nodup_nil
  rw [takeEntries_eq_ok (by rw [length_hashed, length_body]; omega) hnone, hstart]
  simp

/-- **A pack is opened from its bytes, and from no others.** -/
theorem decode_eq_ok {bs : Bytes} {p : Pack} : decode bs = .ok p ↔ p.IsOf bs := by
  rw [decode_eq]
  constructor
  · intro h
    split_ifs at h with hshort hmagic hversion hhash
    have hlong := Nat.not_lt.mp hshort
    obtain ⟨es, hes, rfl⟩ := Outcome.map_eq_ok.mp h
    obtain ⟨hcount, hnodup, hlists⟩ := (takeEntries_body hlong).mp hes
    exact ⟨hlong, not_not.mp hmagic, not_not.mp hversion, hcount.symm, not_not.mp hhash, rfl,
      hlists, hnodup⟩
  · intro h
    rw [if_neg (Nat.not_lt.mpr h.long), if_neg (not_not_intro h.magic),
      if_neg (not_not_intro h.version), if_neg (not_not_intro h.hash),
      (takeEntries_body h.long).mpr ⟨h.count.symm, h.distinct, h.entries⟩, ← h.checksum]
    rfl

/-! ## Data -/

omit [Codec] in
theorem find?_of_mem {p : Pack} (distinct : p.paths.Nodup) {e : StoredEntry}
    (he : e ∈ p.entries) : p.find? e.path = some e := by
  have hnodup : (p.entries.map StoredEntry.path).Nodup := distinct
  rw [find?]
  generalize p.entries = entries at he hnodup
  induction entries with
  | nil => cases he
  | cons f entries ih =>
    obtain ⟨hf, hrest⟩ := List.nodup_cons.mp hnodup
    rcases List.mem_cons.mp he with rfl | he
    · simp
    · have hne : ¬ f.path = e.path := fun heq => hf (List.mem_map.mpr ⟨e, he, heq.symm⟩)
      simp only [List.find?_cons, beq_eq_false_iff_ne.mpr hne]
      exact ih he hrest

/-- The data of an entry is what is stored for it, decompressed, if the check value and the size
are those that are recorded. -/
theorem dataOf_eq_ok {e : StoredEntry} {data : Bytes} : dataOf e = .ok data ↔
    (Codec.crc e.stored).toNat = e.crc ∧ Codec.decompress? e.stored = some data ∧
      data.length = e.size := by
  rw [dataOf]
  constructor
  · intro h
    split_ifs at h with hcrc
    cases hdata : Codec.decompress? e.stored with
    | none =>
      rw [hdata] at h
      cases h
    | some found =>
      rw [hdata] at h
      simp only at h
      split_ifs at h with hsize
      obtain rfl := Except.ok.inj h
      exact ⟨not_not.mp hcrc, rfl, not_not.mp hsize⟩
  · rintro ⟨hcrc, hdata, hsize⟩
    rw [if_neg (not_not_intro hcrc), hdata]
    exact if_neg (not_not_intro hsize)

/-- Reading a path that is listed gives data only if what is stored is intact. -/
theorem read_eq_ok {p : Pack} (distinct : p.paths.Nodup) {e : StoredEntry} (he : e ∈ p.entries)
    {found : Option Bytes} : p.read e.path = .ok found ↔
      ∃ data, found = some data ∧ (Codec.crc e.stored).toNat = e.crc ∧
        Codec.decompress? e.stored = some data ∧ data.length = e.size := by
  rw [read, find?_of_mem distinct he]
  show some <$> dataOf e = .ok found ↔ _
  rw [Outcome.map_eq_ok]
  simp only [dataOf_eq_ok]
  constructor
  · rintro ⟨data, h, rfl⟩
    exact ⟨data, rfl, h⟩
  · rintro ⟨data, rfl, h⟩
    exact ⟨data, h, rfl⟩

/-! ## Failures -/

/-- What is checked when a pack is opened. -/
inductive Check where
  | length
  | magic
  | version
  | checksum
  | entries

/-- The checks in their order. -/
def Check.all : List Check :=
  [length, magic, version, checksum, entries]

/-- Whether bytes pass a check. -/
def Check.Passes (bs : Bytes) : Check → Prop
  | length => headerSize + checksumSize ≤ bs.length
  | magic => bs.take 4 = Bytes.ofText PackError.magic
  | version => word bs 4 = 1
  | checksum => (Codec.hash (hashed bs)).val = trailer bs
  | entries => ∃ es, es.length = word bs 8 ∧ (es.map StoredEntry.path).Nodup ∧
      Lists headerSize es (body bs)

/-- The errors of bytes that do not list entries. -/
def IsCorrupt (e : PackError) : Prop :=
  ∃ offset reason, e = .corruptEntry offset reason ∧ reason ≠ .tooShort

omit [Codec] in
theorem isCorrupt_of_takeNumber {bs : Bytes} {e : PackError} (h : takeNumber bs = .error e) :
    IsCorrupt e := by
  obtain ⟨c, hc, rfl⟩ := Outcome.mapError_eq_error.mp h
  refine ⟨0, c, rfl, ?_⟩
  rintro rfl
  rcases Varint.decodeFrom_eq_error hc with h | h <;> cases h

omit [Codec] in
theorem isCorrupt_of_takeBytes {offset count : Nat} {missing : Corruption} {bs : Bytes}
    {e : PackError} (h : takeBytes offset missing count bs = .error e)
    (hmissing : missing ≠ .tooShort) : IsCorrupt e := by
  rw [takeBytes] at h
  split_ifs at h
  obtain rfl := Except.error.inj h
  exact ⟨offset, missing, rfl, hmissing⟩

omit [Codec] in
theorem isCorrupt_of_pathOf {offset : Nat} {bs : Bytes} {e : PackError}
    (h : pathOf offset bs = .error e) : IsCorrupt e := by
  rw [pathOf] at h
  cases htext : Bytes.text? bs with
  | some path =>
    rw [htext] at h
    cases h
  | none =>
    rw [htext] at h
    obtain rfl := Except.error.inj h
    exact ⟨offset, .pathNotText, rfl, nofun⟩

omit [Codec] in
theorem isCorrupt_of_takeEntry {offset : Nat} {bs : Bytes} {e : PackError}
    (h : takeEntry offset bs = .error e) : IsCorrupt e := by
  rcases Outcome.bind_eq_error.mp h with h | ⟨_, _, h⟩
  · exact isCorrupt_of_takeNumber h
  rcases Outcome.bind_eq_error.mp h with h | ⟨_, _, h⟩
  · exact isCorrupt_of_takeBytes h nofun
  rcases Outcome.bind_eq_error.mp h with h | ⟨_, _, h⟩
  · exact isCorrupt_of_pathOf h
  rcases Outcome.bind_eq_error.mp h with h | ⟨_, _, h⟩
  · exact isCorrupt_of_takeNumber h
  rcases Outcome.bind_eq_error.mp h with h | ⟨_, _, h⟩
  · exact isCorrupt_of_takeNumber h
  rcases Outcome.bind_eq_error.mp h with h | ⟨_, _, h⟩
  · exact isCorrupt_of_takeBytes h nofun
  rcases Outcome.bind_eq_error.mp h with h | ⟨_, _, h⟩
  · exact isCorrupt_of_takeBytes h nofun
  · cases h

omit [Codec] in
/-- Entries that cannot be taken are corrupt. -/
theorem isCorrupt_of_takeEntries {ending count : Nat} {before : List StoredEntry} {bs : Bytes}
    {e : PackError} (h : takeEntries ending count before bs = .error e) : IsCorrupt e := by
  induction count generalizing before bs with
  | zero =>
    cases bs with
    | nil => cases h
    | cons b bs =>
      obtain rfl := Except.error.inj h
      exact ⟨_, .trailingBytes, rfl, nofun⟩
  | succ count ih =>
    rcases Outcome.bind_eq_error.mp h with h | ⟨⟨f, rest⟩, _, h⟩
    · exact isCorrupt_of_takeEntry h
    · simp only at h
      split_ifs at h
      · obtain rfl := Except.error.inj h
        exact ⟨_, .duplicatePath, rfl, nofun⟩
      · exact ih h

/-- The errors of bytes that do not pass a check. -/
def Check.Reports (bs : Bytes) : Check → PackError → Prop
  | length, e => e = .corruptEntry 0 .tooShort
  | magic, e => e = .invalidMagic (bs.take 4)
  | version, e => e = .unsupportedVersion (word bs 4)
  | checksum, e => e = .checksumMismatch
  | entries, e => IsCorrupt e

/-- **The error is that of the first check that bytes do not pass.** -/
theorem exists_failing {bs : Bytes} {e : PackError} (h : decode bs = .error e) :
    ∃ before c after, Check.all = before ++ c :: after ∧ (∀ b ∈ before, b.Passes bs) ∧
      ¬ c.Passes bs ∧ c.Reports bs e := by
  rw [decode_eq] at h
  split_ifs at h with hshort hmagic hversion hhash
  · obtain rfl := Except.error.inj h
    exact ⟨[], .length, _, rfl, by simp, Nat.not_le.mpr hshort, rfl⟩
  · obtain rfl := Except.error.inj h
    exact ⟨[.length], .magic, _, rfl, by simpa [Check.Passes] using hshort, hmagic, rfl⟩
  · obtain rfl := Except.error.inj h
    refine ⟨[.length, .magic], .version, _, rfl, ?_, hversion, rfl⟩
    simp only [List.forall_mem_cons]
    exact ⟨Nat.not_lt.mp hshort, not_not.mp hmagic, by simp⟩
  · obtain rfl := Except.error.inj h
    refine ⟨[.length, .magic, .version], .checksum, _, rfl, ?_, hhash, rfl⟩
    simp only [List.forall_mem_cons]
    exact ⟨Nat.not_lt.mp hshort, not_not.mp hmagic, not_not.mp hversion, by simp⟩
  · refine ⟨[.length, .magic, .version, .checksum], .entries, _, rfl, ?_, ?_, ?_⟩
    · simp only [List.forall_mem_cons]
      exact ⟨Nat.not_lt.mp hshort, not_not.mp hmagic, not_not.mp hversion, not_not.mp hhash,
        by simp⟩
    · rintro ⟨es, hcount, hnodup, hlists⟩
      rw [(takeEntries_body (Nat.not_lt.mp hshort)).mpr ⟨hcount, hnodup, hlists⟩] at h
      cases h
    · cases htake : takeEntries (hashed bs).length (word bs 8) [] (body bs) with
      | ok es =>
        rw [htake] at h
        cases h
      | error e' =>
        rw [htake] at h
        obtain rfl := Except.error.inj h
        exact isCorrupt_of_takeEntries htake

end Pack

end CollectionArchive
