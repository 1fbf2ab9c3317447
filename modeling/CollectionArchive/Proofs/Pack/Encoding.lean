import CollectionArchive.Pack.Reading
import CollectionArchive.Pack.Writing
import CollectionArchive.Proofs.Outcome
import CollectionArchive.Proofs.Pack.Varint
import CollectionArchive.Proofs.Text.Utf8

/-!
# Packs and their bytes

A pack is read back from its bytes, entry by entry. Where an entry starts is not told by what was
written, so the entries that are read are compared with those that were written field by field.

* `StoredEntry.Holds`: a stored entry that was written for an entry.
* `Pack.takeEntry_encodeStored`: an entry is read back, whatever follows it.
* `Pack.takeEntries_encoded`, `Pack.not_takeEntries_of_lt`: all entries are read back, and fewer
  entries than there are leave bytes behind.
* **`Pack.decode_encode`**: a pack that can be opened again has the entries that were written;
  **`Pack.exists_decode_encode`**: a pack of fewer than 2³² entries can be opened again.
-/

namespace CollectionArchive

/-- Whether a number fits 64 bits. -/
def fits64 (n : Nat) : Prop :=
  n < 0x10000000000000000

variable [Codec]

/-- What is stored for an entry at a level: its path, the size of its data, and the data compressed,
with its check value. -/
structure StoredEntry.Holds (level : Int) (s : StoredEntry) (e : Entry) : Prop where
  path : s.path = e.path
  size : s.size = e.data.length
  crc : s.crc = (Codec.crc s.stored).toNat
  stored : Codec.compress? level e.data = some s.stored

/-- The sizes that are written for an entry at a level fit 64 bits. -/
structure Entry.Fits (level : Int) (e : Entry) : Prop where
  path : fits64 (Bytes.ofText e.path).length
  data : fits64 e.data.length
  stored : ∀ stored, Codec.compress? level e.data = some stored → fits64 stored.length

namespace Pack

/-! ## Fields -/

omit [Codec] in
theorem takeNumber_encode {n : Nat} (h : fits64 n) (rest : Bytes) :
    takeNumber (Varint.encode n ++ rest) = .ok (n, rest) := by
  rw [takeNumber, Varint.decode_encode h]
  rfl

omit [Codec] in
theorem takeBytes_append (offset : Nat) (missing : Corruption) {count : Nat} {bs : Bytes}
    (h : bs.length = count) (rest : Bytes) :
    takeBytes offset missing count (bs ++ rest) = .ok (bs, rest) := by
  rw [takeBytes, if_pos (by rw [List.length_append]; omega), List.splitAt_eq, ← h,
    List.take_left, List.drop_left]

omit [Codec] in
theorem pathOf_ofText (offset : Nat) (path : String) :
    pathOf offset (Bytes.ofText path) = .ok path := by
  rw [pathOf, Bytes.text?_ofText]
  rfl

/-! ## Entries -/

/-- **An entry is read back**, whatever follows it. -/
theorem takeEntry_encodeStored (offset : Nat) {path : String} {size : Nat} {stored : Bytes}
    (hpath : fits64 (Bytes.ofText path).length) (hsize : fits64 size)
    (hstored : fits64 stored.length) (rest : Bytes) :
    takeEntry offset (encodeStored path size stored ++ rest) =
      .ok (⟨offset, path, size, (Codec.crc stored).toNat, stored⟩, rest) := by
  have hcrc : Bytes.toNat (Bytes.ofNat32 (Codec.crc stored).toNat) = (Codec.crc stored).toNat := by
    rw [Bytes.toNat_ofNat32, Nat.mod_eq_of_lt (Codec.crc stored).toNat_lt]
  have hlength : (Bytes.ofNat32 (Codec.crc stored).toNat).length = 4 := Bytes.length_ofNat32 _
  simp only [encodeStored, List.append_assoc, takeEntry, takeNumber_encode hpath,
    takeBytes_append _ _ rfl, pathOf_ofText, takeNumber_encode hsize, takeNumber_encode hstored,
    takeBytes_append _ _ hlength, hcrc, bind, Except.bind, pure, Except.pure]

/-- The bytes of entries at a level, and what is stored for each. -/
inductive Encoded (level : Int) : List Entry → Bytes → Prop
  | nil : Encoded level [] []
  | cons {e : Entry} {stored : Bytes} {es : List Entry} {bs : Bytes}
      (compressed : Codec.compress? level e.data = some stored) (more : Encoded level es bs) :
      Encoded level (e :: es) (encodeStored e.path e.data.length stored ++ bs)

theorem encoded_of_mapM {level : Int} {es : List Entry} {parts : List Bytes}
    (h : es.mapM (encodeEntry level) = .ok parts) : Encoded level es parts.flatten := by
  induction Outcome.mapM_eq_ok.mp h with
  | nil => exact .nil
  | @cons e part es parts he hes ih =>
    rw [encodeEntry] at he
    cases hstored : Codec.compress? level e.data with
    | none =>
      rw [hstored] at he
      cases he
    | some stored =>
      rw [hstored, Option.elim_some, Except.ok.injEq] at he
      subst he
      exact .cons hstored (ih (Outcome.mapM_eq_ok.mpr hes))

theorem encodeStored_ne_nil (path : String) (size : Nat) (stored : Bytes) :
    encodeStored path size stored ≠ [] := by
  simp [encodeStored, Varint.encode_ne_nil]

/-- All entries are read back if their paths differ from each other and from those before them. -/
theorem takeEntries_encoded {level : Int} {es : List Entry} {bs : Bytes} (h : Encoded level es bs)
    (hfits : ∀ e ∈ es, e.Fits level) (hpaths : (es.map Entry.path).Nodup) (ending : Nat) :
    ∀ before : List StoredEntry, (∀ s ∈ before, ∀ e ∈ es, s.path ≠ e.path) →
      ∃ ss, takeEntries ending es.length before bs = .ok (before.reverse ++ ss) ∧
        List.Forall₂ (StoredEntry.Holds level) ss es := by
  induction h with
  | nil =>
    intro before _
    exact ⟨[], by rw [List.length_nil, takeEntries, List.append_nil], .nil⟩
  | @cons e stored es bs hstored _ ih =>
    intro before hbefore
    -- The entry is refused if its path was taken before, so the next ones need it to be new, too.
    obtain ⟨hpath, hrest⟩ := List.nodup_cons.mp hpaths
    have he := hfits e List.mem_cons_self
    have hfresh : (before.any fun f => f.path == e.path) = false := by
      rw [List.any_eq_false]
      intro s hs
      exact mt beq_iff_eq.mp (hbefore s hs e List.mem_cons_self)
    have hnext : ∀ s ∈ (⟨ending - (encodeStored e.path e.data.length stored ++ bs).length, e.path,
        e.data.length, (Codec.crc stored).toNat, stored⟩ : StoredEntry) :: before,
        ∀ f ∈ es, s.path ≠ f.path := by
      intro s hs f hf
      rcases List.mem_cons.mp hs with rfl | hs
      · intro heq
        exact hpath (List.mem_map.mpr ⟨f, hf, heq.symm⟩)
      · exact hbefore s hs f (List.mem_cons_of_mem _ hf)
    obtain ⟨ss, hss, hall⟩ := ih (fun f hf => hfits f (List.mem_cons_of_mem _ hf)) hrest _ hnext
    have hholds : StoredEntry.Holds level ⟨ending - (encodeStored e.path e.data.length stored ++
        bs).length, e.path, e.data.length, (Codec.crc stored).toNat, stored⟩ e :=
      ⟨rfl, rfl, rfl, hstored⟩
    refine ⟨_ :: ss, ?_, .cons hholds hall⟩
    rw [List.length_cons, takeEntries,
      takeEntry_encodeStored _ he.path he.data (he.stored stored hstored)]
    simp only [bind, Except.bind, hfresh, Bool.false_eq_true, if_false]
    rw [hss, List.reverse_cons, List.append_assoc, List.singleton_append]

/-- Where fewer entries are taken than there are, bytes are left. -/
theorem not_takeEntries_of_lt {level : Int} {es : List Entry} {bs : Bytes}
    (h : Encoded level es bs) (hfits : ∀ e ∈ es, e.Fits level) (ending : Nat) :
    ∀ (count : Nat) (before ss : List StoredEntry), count < es.length →
      takeEntries ending count before bs ≠ .ok ss := by
  induction h with
  | nil => intro count before ss hlt; cases hlt
  | @cons e stored es bs hstored _ ih =>
    intro count before ss hlt htake
    have he := hfits e List.mem_cons_self
    cases count with
    | zero =>
      cases hbs : encodeStored e.path e.data.length stored ++ bs with
      | nil => exact encodeStored_ne_nil _ _ _ (List.append_eq_nil_iff.mp hbs).1
      | cons b rest =>
        rw [hbs, takeEntries] at htake
        cases htake
    | succ count =>
      rw [takeEntries, takeEntry_encodeStored _ he.path he.data (he.stored stored hstored)] at htake
      simp only [bind, Except.bind] at htake
      split at htake
      · cases htake
      · exact ih (fun f hf => hfits f (List.mem_cons_of_mem _ hf)) count _ ss
          (Nat.lt_of_succ_lt_succ hlt) htake

/-! ## Packs -/

omit [Codec] in
theorem length_magic : (Bytes.ofText PackError.magic).length = 4 := by
  rw [Bytes.ofText_eq]
  rfl

omit [Codec] in
theorem length_header (count : Nat) : (header count).length = headerSize := by
  simp only [header, List.length_append, length_magic, Bytes.length_ofNat32, headerSize]

omit [Codec] in
theorem take_header (count : Nat) (rest : Bytes) :
    (header count ++ rest).take 4 = Bytes.ofText PackError.magic := by
  rw [header, List.append_assoc, List.append_assoc, ← length_magic, List.take_left]

omit [Codec] in
theorem word_version (count : Nat) (rest : Bytes) : word (header count ++ rest) 4 = 1 := by
  rw [word, header, List.append_assoc, List.append_assoc, ← length_magic, List.drop_left,
    length_magic, ← Bytes.length_ofNat32 version, List.take_left, Bytes.toNat_ofNat32]
  rfl

omit [Codec] in
theorem word_count (count : Nat) (rest : Bytes) :
    word (header count ++ rest) 8 = count % 0x100000000 := by
  have hlength : (Bytes.ofText PackError.magic ++ Bytes.ofNat32 version).length = 8 := by
    rw [List.length_append, length_magic, Bytes.length_ofNat32]
  rw [word, header, List.append_assoc, ← hlength, List.drop_left,
    ← Bytes.length_ofNat32 count, List.take_left, Bytes.toNat_ofNat32]

/-- Opening what was written comes down to taking the entries. -/
theorem decode_withHash (count : Nat) (bs : Bytes) :
    decode (withHash (header count ++ bs)) =
      (takeEntries (header count ++ bs).length (count % 0x100000000) [] bs).map fun entries =>
        ⟨entries, Codec.hash (header count ++ bs)⟩ := by
  have hhash : (Codec.hash (header count ++ bs)).val.length = checksumSize :=
    (Codec.hash (header count ++ bs)).property
  have hlength : (withHash (header count ++ bs)).length =
      (header count ++ bs).length + checksumSize := by
    rw [withHash, List.length_append, hhash]
  have hlong : ¬ (withHash (header count ++ bs)).length < headerSize + checksumSize := by
    rw [hlength, List.length_append, length_header]
    omega
  have hsplit : (withHash (header count ++ bs)).splitAt
      ((withHash (header count ++ bs)).length - checksumSize) =
        (header count ++ bs, (Codec.hash (header count ++ bs)).val) := by
    rw [hlength, Nat.add_sub_cancel, List.splitAt_eq, withHash, List.take_left, List.drop_left]
  have hassoc : withHash (header count ++ bs) =
      header count ++ (bs ++ (Codec.hash (header count ++ bs)).val) := by
    rw [withHash, List.append_assoc]
  rw [decode, if_neg hlong, hsplit, hassoc, take_header, word_version, word_count]
  simp only [ne_eq, not_true_eq_false, if_false]
  rw [← length_header count, List.drop_left]
  cases takeEntries (header count ++ bs).length (count % 0x100000000) [] bs with
  | error e => rfl
  | ok entries => rfl

/-- The entries whose bytes make up a pack. -/
theorem encode_eq_ok {level : Int} {entries : List Entry} {bs : Bytes} :
    encode level entries = .ok bs ↔ ∃ parts, entries.mapM (encodeEntry level) = .ok parts ∧
      withHash (header entries.length ++ parts.flatten) = bs := by
  rw [encode, Outcome.bind_eq_ok]
  simp only [Outcome.pure_eq_ok]

/-- **A pack that can be opened again has the entries that were written**, in their order. -/
theorem decode_encode {level : Int} {entries : List Entry} {bs : Bytes} {p : Pack}
    (hfits : ∀ e ∈ entries, e.Fits level) (hpaths : (entries.map Entry.path).Nodup)
    (hencode : encode level entries = .ok bs) (hdecode : decode bs = .ok p) :
    List.Forall₂ (StoredEntry.Holds level) p.entries entries := by
  obtain ⟨parts, hparts, rfl⟩ := encode_eq_ok.mp hencode
  have hencoded := encoded_of_mapM hparts
  rw [decode_withHash] at hdecode
  obtain ⟨ss, hss, rfl⟩ := Outcome.map_eq_ok.mp hdecode
  by_cases hcount : entries.length < 0x100000000
  · rw [Nat.mod_eq_of_lt hcount] at hss
    obtain ⟨ts, hts, hall⟩ := takeEntries_encoded hencoded hfits hpaths _ []
      (fun s hs => absurd hs List.not_mem_nil)
    rw [hts] at hss
    obtain rfl := Except.ok.inj hss
    exact hall
  · refine absurd hss (not_takeEntries_of_lt hencoded hfits _ _ [] ss ?_)
    exact Nat.lt_of_lt_of_le (Nat.mod_lt _ (by decide)) (Nat.le_of_not_lt hcount)

/-- **A pack of fewer than 2³² entries can be opened again.** -/
theorem exists_decode_encode {level : Int} {entries : List Entry} {bs : Bytes}
    (hcount : entries.length < 0x100000000) (hfits : ∀ e ∈ entries, e.Fits level)
    (hpaths : (entries.map Entry.path).Nodup) (hencode : encode level entries = .ok bs) :
    ∃ p, decode bs = .ok p := by
  obtain ⟨parts, hparts, rfl⟩ := encode_eq_ok.mp hencode
  obtain ⟨ts, hts, _⟩ := takeEntries_encoded (encoded_of_mapM hparts) hfits hpaths
    (header entries.length ++ parts.flatten).length [] (fun s hs => absurd hs List.not_mem_nil)
  rw [decode_withHash, Nat.mod_eq_of_lt hcount, hts]
  exact ⟨_, rfl⟩

end Pack

end CollectionArchive
