import CollectionArchive.Proofs.Pack.Layout

/-!
# Packs read by places

A pack can be read by going from place to place in its bytes, where a size that is found in them
says how far to go. Reading so never leaves the bytes, whatever they are, and gives what opening
the pack gives.

* `Pack.slice?`: the bytes between two places, none if one of them lies outside.
* `Pack.openAt`: a pack read by places, where `none` says that a place lay outside.
* `Pack.Agrees`: reading by places gives what reading the bytes from there gives.
* **`Pack.openAt_eq`**: no place lies outside, and the outcome is that of opening the pack.
* `Pack.IsOf.exists_slice?`: what is stored for an entry lies between the header and the hash.
* **`decode_eq_ok_iff_isOf`**: which bytes are opened, how the others are refused, and what is read
  from those that are opened.
-/

namespace CollectionArchive

namespace Pack

/-- The outcome of reading by places; `none` where a place outside the bytes was asked for. -/
abbrev Access (α : Type) := ExceptT PackError Option α

/-- The bytes from one place to another, if both lie inside. -/
def slice? (bs : Bytes) (start stop : Nat) : Option Bytes :=
  if start ≤ stop ∧ stop ≤ bs.length then some ((bs.take stop).drop start) else none

namespace Access

/-- The bytes from one place to another, both of which must lie inside. -/
def slice (bs : Bytes) (start stop : Nat) : Access Bytes :=
  ExceptT.mk ((slice? bs start stop).map .ok)

/-- An outcome for which no place is asked. -/
def of {α : Type} (x : Except PackError α) : Access α :=
  ExceptT.mk (some x)

theorem of_ok_bind {α β : Type} (a : α) (f : α → Access β) : of (.ok a) >>= f = f a :=
  rfl

end Access

/-- The place so many bytes after another, if a machine of 64 bits can tell it and it is not after
the end. -/
def placeAfter (offset : Nat) (missing : Corruption) (count start stop : Nat) :
    Except PackError Nat :=
  if start + count < 0x10000000000000000 ∧ start + count ≤ stop then .ok (start + count)
  else .error (.corruptEntry offset missing)

/-- A number of variable length at a place, and the place after it. -/
def numberAt (bs : Bytes) (start stop : Nat) : Access (Nat × Nat) := do
  let field ← Access.slice bs start stop
  let (n, rest) ← Access.of (takeNumber field)
  return (n, start + (field.length - rest.length))

/-- So many bytes at a place, and the place after them. -/
def bytesAt (bs : Bytes) (offset : Nat) (missing : Corruption) (count start stop : Nat) :
    Access (Bytes × Nat) := do
  let next ← Access.of (placeAfter offset missing count start stop)
  return (← Access.slice bs start next, next)

/-- The entry at a place, and the place after it. -/
def entryAt (bs : Bytes) (offset stop : Nat) : Access (StoredEntry × Nat) := do
  let (pathSize, place) ← numberAt bs offset stop
  let (pathBytes, place) ← bytesAt bs offset .pathBeyondEnd pathSize place stop
  let path ← Access.of (pathOf offset pathBytes)
  let (size, place) ← numberAt bs place stop
  let (storedSize, place) ← numberAt bs place stop
  let (crc, place) ← bytesAt bs offset .crcTruncated 4 place stop
  let (stored, place) ← bytesAt bs offset .dataBeyondEnd storedSize place stop
  return (⟨offset, path, size, Bytes.toNat crc, stored⟩, place)

/-- So many entries from a place on, up to the end. Those before them are given, the last one
first. -/
def entriesAt (bs : Bytes) (stop : Nat) : (count : Nat) → (before : List StoredEntry) →
    (place : Nat) → Access (List StoredEntry)
  | 0, before, place =>
    Access.of (if place = stop then .ok before.reverse
      else .error (.corruptEntry place .trailingBytes))
  | count + 1, before, place => do
    let (e, next) ← entryAt bs place stop
    if before.any fun f => f.path == e.path then
      Access.of (.error (.corruptEntry e.offset .duplicatePath))
    else entriesAt bs stop count (e :: before) next

/-- The four bytes at a place, as a number. -/
def wordAt (bs : Bytes) (start : Nat) : Access Nat := do
  return Bytes.toNat (← Access.slice bs start (start + 4))

/-- A pack read by places. -/
def openAt [Codec] (bs : Bytes) : Access Pack :=
  if bs.length < headerSize + checksumSize then Access.of (.error (.corruptEntry 0 .tooShort))
  else do
    let magic ← Access.slice bs 0 4
    if magic ≠ Bytes.ofText PackError.magic then Access.of (.error (.invalidMagic magic))
    else do
      let version ← wordAt bs 4
      if version ≠ 1 then Access.of (.error (.unsupportedVersion version))
      else do
        let hashed ← Access.slice bs 0 (bs.length - checksumSize)
        let checksum ← Access.slice bs (bs.length - checksumSize) bs.length
        if (Codec.hash hashed).val ≠ checksum then Access.of (.error .checksumMismatch)
        else do
          let count ← wordAt bs 8
          let entries ← entriesAt bs (bs.length - checksumSize) count [] headerSize
          return ⟨entries, checksum⟩

/-! ## Agreement -/

section

variable {bs : Bytes} {stop : Nat}

/-- Reading by places agrees with reading the bytes up to `stop`: both fail alike, or they give the
same and go on at the same place. -/
inductive Agrees (bs : Bytes) (stop : Nat) {α : Type} :
    Access (α × Nat) → Except PackError (α × Bytes) → Prop
  | error (e : PackError) : Agrees bs stop (Access.of (.error e)) (.error e)
  | ok (a : α) {place : Nat} (inside : place ≤ stop) :
      Agrees bs stop (Access.of (.ok (a, place))) (.ok (a, (bs.take stop).drop place))

theorem Agrees.bind {α β : Type} {x : Access (α × Nat)} {y : Except PackError (α × Bytes)}
    {f : α × Nat → Access (β × Nat)} {g : α × Bytes → Except PackError (β × Bytes)}
    (h : Agrees bs stop x y) (next : ∀ a place, place ≤ stop →
      Agrees bs stop (f (a, place)) (g (a, (bs.take stop).drop place))) :
    Agrees bs stop (x >>= f) (y >>= g) := by
  cases h with
  | error e => exact .error e
  | ok a inside => exact next a _ inside

theorem Agrees.bind_of {α β : Type} (x : Except PackError α) {f : α → Access (β × Nat)}
    {g : α → Except PackError (β × Bytes)} (next : ∀ a, Agrees bs stop (f a) (g a)) :
    Agrees bs stop (Access.of x >>= f) (x >>= g) := by
  cases x with
  | error e => exact .error e
  | ok a => exact next a

theorem slice_eq {start : Nat} (hstart : start ≤ stop) (hstop : stop ≤ bs.length) :
    Access.slice bs start stop = Access.of (.ok ((bs.take stop).drop start)) := by
  rw [Access.slice, slice?, if_pos ⟨hstart, hstop⟩]
  rfl

theorem length_from (hstop : stop ≤ bs.length) (place : Nat) :
    ((bs.take stop).drop place).length = stop - place := by
  rw [List.length_drop, List.length_take_of_le hstop]

/-- What is left after a part of the bytes from a place are the bytes from a later place. -/
theorem drop_of_append {front rest : Bytes} (hstop : stop ≤ bs.length) {start : Nat}
    (hstart : start ≤ stop) (h : (bs.take stop).drop start = front ++ rest) :
    start + front.length ≤ stop ∧ rest = (bs.take stop).drop (start + front.length) := by
  have hlength := congrArg List.length h
  rw [length_from hstop, List.length_append] at hlength
  refine ⟨by omega, ?_⟩
  rw [← List.drop_drop, h, List.drop_left]

theorem agrees_numberAt (hstop : stop ≤ bs.length) {start : Nat} (hstart : start ≤ stop) :
    Agrees bs stop (numberAt bs start stop) (takeNumber ((bs.take stop).drop start)) := by
  rw [numberAt, slice_eq hstart hstop]
  cases h : takeNumber ((bs.take stop).drop start) with
  | error e =>
    show Agrees bs stop (Access.of (takeNumber ((bs.take stop).drop start)) >>= _) _
    rw [h]
    exact .error e
  | ok found =>
    obtain ⟨n, rest⟩ := found
    obtain ⟨field, hfield, _⟩ := takeNumber_eq_ok.mp h
    obtain ⟨hinside, rfl⟩ := drop_of_append hstop hstart hfield
    have hplace : start + (((bs.take stop).drop start).length -
        ((bs.take stop).drop (start + field.length)).length) = start + field.length := by
      rw [length_from hstop, length_from hstop]
      omega
    show Agrees bs stop (Access.of (takeNumber ((bs.take stop).drop start)) >>= _) _
    rw [h]
    show Agrees bs stop (Access.of (.ok (n, _))) _
    rw [hplace]
    exact .ok n hinside

theorem agrees_bytesAt (hfits : stop < 0x10000000000000000) (hstop : stop ≤ bs.length)
    (offset : Nat) (missing : Corruption) (count : Nat) {start : Nat} (hstart : start ≤ stop) :
    Agrees bs stop (bytesAt bs offset missing count start stop)
      (takeBytes offset missing count ((bs.take stop).drop start)) := by
  rw [bytesAt, placeAfter, takeBytes, length_from hstop]
  by_cases hcount : count ≤ stop - start
  · have hnext : start + count ≤ stop := by omega
    have hplace : start + count < 0x10000000000000000 ∧ start + count ≤ stop := by omega
    have hfront : ((bs.take stop).drop start).take count =
        (bs.take (start + count)).drop start := by
      rw [List.take_drop, List.take_take, Nat.min_eq_left hnext]
    rw [if_pos hplace, if_pos hcount, List.splitAt_eq, hfront, List.drop_drop]
    show Agrees bs stop (Access.slice bs start (start + count) >>= _) _
    rw [slice_eq (Nat.le_add_right _ _) (Nat.le_trans hnext hstop)]
    exact .ok _ hnext
  · have hplace : ¬ (start + count < 0x10000000000000000 ∧ start + count ≤ stop) := by omega
    rw [if_neg hplace, if_neg hcount]
    exact .error _

theorem agrees_entryAt (hfits : stop < 0x10000000000000000) (hstop : stop ≤ bs.length)
    {offset : Nat} (hoffset : offset ≤ stop) :
    Agrees bs stop (entryAt bs offset stop) (takeEntry offset ((bs.take stop).drop offset)) := by
  refine (agrees_numberAt hstop hoffset).bind fun pathSize place hplace => ?_
  refine (agrees_bytesAt hfits hstop _ _ _ hplace).bind fun pathBytes place hplace => ?_
  refine Agrees.bind_of _ fun path => ?_
  refine (agrees_numberAt hstop hplace).bind fun size place hplace => ?_
  refine (agrees_numberAt hstop hplace).bind fun storedSize place hplace => ?_
  refine (agrees_bytesAt hfits hstop _ _ _ hplace).bind fun crc place hplace => ?_
  refine (agrees_bytesAt hfits hstop _ _ _ hplace).bind fun stored place hplace => ?_
  exact .ok _ hplace

/-- Taking entries from a place on never leaves the bytes, and gives what is taken from the bytes
from there. -/
theorem entriesAt_eq (hfits : stop < 0x10000000000000000) (hstop : stop ≤ bs.length) (count : Nat)
    (before : List StoredEntry) {place : Nat} (hplace : place ≤ stop) :
    entriesAt bs stop count before place =
      Access.of (takeEntries stop count before ((bs.take stop).drop place)) := by
  induction count generalizing before place with
  | zero =>
    rw [entriesAt]
    have hlength := length_from hstop place
    cases hrest : (bs.take stop).drop place with
    | nil =>
      rw [hrest, List.length_nil] at hlength
      rw [if_pos (by omega), takeEntries]
    | cons b rest =>
      rw [hrest] at hlength
      have hleft : 0 < (b :: rest).length := Nat.succ_pos _
      have hoffset : stop - (b :: rest).length = place := by omega
      rw [if_neg (by omega), takeEntries, hoffset]
  | succ count ih =>
    have hoffset : stop - ((bs.take stop).drop place).length = place := by
      rw [length_from hstop]
      omega
    rw [entriesAt, takeEntries, hoffset]
    have hagrees := agrees_entryAt hfits hstop hplace
    generalize entryAt bs place stop = x at hagrees ⊢
    generalize takeEntry place ((bs.take stop).drop place) = y at hagrees ⊢
    cases hagrees with
    | error e => rfl
    | @ok e next hnext =>
      show (if _ then _ else entriesAt bs stop count (e :: before) next) = _
      rw [ih (e :: before) hnext]
      show _ = Access.of (if _ then _ else takeEntries stop count (e :: before) _)
      split_ifs <;> rfl

theorem wordAt_eq {start : Nat} (h : start + 4 ≤ bs.length) :
    wordAt bs start = Access.of (.ok (word bs start)) := by
  have hword : (bs.take (start + 4)).drop start = (bs.drop start).take 4 := by
    rw [List.take_drop]
  rw [wordAt, slice_eq (Nat.le_add_right _ _) h, hword]
  rfl

end

variable [Codec]

/-- **Reading a pack by places never leaves its bytes**, and gives what opening it gives. -/
theorem openAt_eq {bs : Bytes} (fits : bs.FitsMemory) :
    openAt bs = Access.of (decode bs) := by
  rw [openAt, decode_eq]
  by_cases hshort : bs.length < headerSize + checksumSize
  · rw [if_pos hshort, if_pos hshort]
  have hlong := Nat.not_lt.mp hshort
  have hstop : bs.length - checksumSize ≤ bs.length := Nat.sub_le _ _
  have hfits : bs.length - checksumSize < 0x10000000000000000 :=
    Nat.lt_of_le_of_lt hstop (Nat.lt_trans fits (by decide))
  have hheader : headerSize ≤ bs.length - checksumSize := by omega
  have hwords : 12 ≤ bs.length := Nat.le_trans (by decide) hlong
  have hmagic : Access.slice bs 0 4 = Access.of (.ok (bs.take 4)) := by
    rw [slice_eq (by omega) (by omega), List.drop_zero]
  have hhashed : Access.slice bs 0 (bs.length - checksumSize) = Access.of (.ok (hashed bs)) := by
    rw [slice_eq (Nat.zero_le _) hstop, List.drop_zero]
    rfl
  have htrailer : Access.slice bs (bs.length - checksumSize) bs.length =
      Access.of (.ok (trailer bs)) := by
    rw [slice_eq hstop (Nat.le_refl _), List.take_length]
    rfl
  have hentries : entriesAt bs (bs.length - checksumSize) (word bs 8) [] headerSize =
      Access.of (takeEntries (hashed bs).length (word bs 8) [] (body bs)) := by
    rw [entriesAt_eq hfits hstop _ _ hheader, length_hashed]
    rfl
  have hversion : wordAt bs 4 = Access.of (.ok (word bs 4)) := wordAt_eq (by omega)
  have hcount : wordAt bs 8 = Access.of (.ok (word bs 8)) := wordAt_eq (by omega)
  rw [if_neg hshort, if_neg hshort]
  simp only [hmagic, hversion, hhashed, htrailer, hcount, hentries, Access.of_ok_bind]
  split_ifs
  · rfl
  · rfl
  · rfl
  · cases takeEntries (hashed bs).length (word bs 8) [] (body bs) <;> rfl

/-! ## What is stored -/

omit [Codec] in
/-- What is stored for an entry lies among the bytes of the entries. -/
theorem Lists.exists_append {start : Nat} {es : List StoredEntry} {bs : Bytes}
    (h : Lists start es bs) {e : StoredEntry} (he : e ∈ es) :
    ∃ before after, bs = before ++ e.stored ++ after := by
  induction h with
  | nil => cases he
  | @cons start f es front rest _ spelled _ ih =>
    rcases List.mem_cons.mp he with rfl | he
    · obtain ⟨pathSize, size, storedSize, crc, rfl, _⟩ := spelled
      exact ⟨_, rest, rfl⟩
    · obtain ⟨before, after, rfl⟩ := ih he
      exact ⟨front ++ before, after, by simp only [List.append_assoc]⟩

/-- **What is stored for an entry lies between the header and the hash.** -/
theorem IsOf.exists_slice? {p : Pack} {bs : Bytes} (h : p.IsOf bs) {e : StoredEntry}
    (he : e ∈ p.entries) : ∃ start stop, headerSize ≤ start ∧ stop ≤ bs.length - checksumSize ∧
      slice? bs start stop = some e.stored := by
  obtain ⟨before, after, hbody⟩ := h.entries.exists_append he
  have hlong := h.long
  have hheader : headerSize ≤ bs.length - checksumSize := by omega
  rw [List.append_assoc] at hbody
  obtain ⟨hstart, hrest⟩ := drop_of_append (Nat.sub_le _ _) hheader hbody
  obtain ⟨hstop, _⟩ := drop_of_append (Nat.sub_le _ _) hstart hrest.symm
  refine ⟨headerSize + before.length, headerSize + before.length + e.stored.length,
    Nat.le_add_right _ _, hstop, ?_⟩
  have hinside : headerSize + before.length + e.stored.length ≤ bs.length := by omega
  have hpart : (bs.take (headerSize + before.length + e.stored.length)).drop
      (headerSize + before.length) =
        ((bs.take (bs.length - checksumSize)).drop (headerSize + before.length)).take
          e.stored.length := by
    rw [List.take_drop, List.take_take, Nat.min_eq_left hstop]
  rw [slice?, if_pos ⟨Nat.le_add_right _ _, hinside⟩, hpart, ← hrest, List.take_left]

end Pack

/-! ## Opening packs -/

/-- **Which bytes are opened as a pack, and what is read from it.** No place outside the bytes is
asked for. A pack is opened exactly from its bytes, with its entries in their order, and the error
of all others is that of the first check that fails. What is stored for an entry lies between the
header and the hash, and its data is given only if it is intact. -/
theorem decode_eq_ok_iff_isOf [Codec] {bs : Bytes} (fits : bs.FitsMemory) :
    Pack.openAt bs = Pack.Access.of (Pack.decode bs) ∧
    (∀ p, Pack.decode bs = .ok p ↔ p.IsOf bs) ∧
    (∀ e, Pack.decode bs = .error e → ∃ before c after,
      Pack.Check.all = before ++ c :: after ∧ (∀ b ∈ before, b.Passes bs) ∧ ¬ c.Passes bs ∧
        c.Reports bs e) ∧
    ∀ p, Pack.decode bs = .ok p → ∀ e ∈ p.entries,
      (∃ start stop, Pack.headerSize ≤ start ∧ stop ≤ bs.length - Pack.checksumSize ∧
        Pack.slice? bs start stop = some e.stored) ∧
      ∀ found, p.read e.path = .ok found → ∃ data, found = some data ∧
        (Codec.crc e.stored).toNat = e.crc ∧ Codec.decompress? e.stored = some data ∧
          data.length = e.size := by
  refine ⟨Pack.openAt_eq fits, fun p => Pack.decode_eq_ok,
    fun e h => Pack.exists_failing h, fun p h e he => ?_⟩
  have hp := Pack.decode_eq_ok.mp h
  exact ⟨hp.exists_slice? he, fun found hfound => (Pack.read_eq_ok hp.distinct he).mp hfound⟩

/-- A codec that stores data as it is and has one check value. -/
@[reducible]
def Codec.bare : Codec where
  compress? _ data := some data
  decompress? := some
  crc _ := 7
  hash _ := ⟨List.replicate 32 0, rfl⟩

/-- A pack with an empty entry and one of two bytes. -/
def Pack.sampleBytes : Bytes :=
  [0x4B, 0x42, 0x4E, 0x50, 0, 0, 0, 1, 0, 0, 0, 2] ++
    [1, 0x61, 0, 0, 0, 0, 0, 7, 1, 0x62, 2, 2, 0, 0, 0, 7, 5, 6] ++ List.replicate 32 0

/-- The entries of the pack, of which the second starts at the twentieth byte. -/
def Pack.sample : Pack :=
  ⟨[⟨12, "a", 0, 7, []⟩, ⟨20, "b", 2, 7, [5, 6]⟩], List.replicate 32 0⟩

theorem Pack.isOf_sample : @Pack.IsOf Codec.bare Pack.sample Pack.sampleBytes := by
  have hfirst : (⟨12, "a", 0, 7, []⟩ : StoredEntry).IsSpelled [1, 0x61, 0, 0, 0, 0, 0, 7] := by
    refine ⟨[1], [0], [0], [0, 0, 0, 7], ?_, ?_, rfl, rfl, rfl, rfl⟩ <;>
      rw [Bytes.ofText_eq] <;> rfl
  have hsecond : (⟨20, "b", 2, 7, [5, 6]⟩ : StoredEntry).IsSpelled
      [1, 0x62, 2, 2, 0, 0, 0, 7, 5, 6] := by
    refine ⟨[1], [2], [2], [0, 0, 0, 7], ?_, ?_, rfl, rfl, rfl, rfl⟩ <;>
      rw [Bytes.ofText_eq] <;> rfl
  have hmagic : Pack.sampleBytes.take 4 = Bytes.ofText PackError.magic := by
    rw [Bytes.ofText_eq]
    decide
  have hentries : Pack.Lists 12 Pack.sample.entries (Pack.body Pack.sampleBytes) :=
    .cons rfl hfirst (.cons rfl hsecond .nil)
  exact @Pack.IsOf.mk Codec.bare _ _ (by decide) hmagic (by decide) (by decide) (by decide)
    (by decide) hentries (by decide)

theorem decode_eq_ok_iff_isOf_sample :
    Pack.sampleBytes.FitsMemory ∧
      @Pack.openAt Codec.bare Pack.sampleBytes = Pack.Access.of (.ok Pack.sample) ∧
        @Pack.decode Codec.bare Pack.sampleBytes = .ok Pack.sample ∧
          ∀ found, @Pack.read Codec.bare Pack.sample "b" = .ok found →
            found = some [5, 6] := by
  have hfits : Pack.sampleBytes.FitsMemory := by
    unfold Bytes.FitsMemory
    decide
  obtain ⟨hplaces, hopen, _, hread⟩ := @decode_eq_ok_iff_isOf Codec.bare Pack.sampleBytes hfits
  have hdecode := (hopen Pack.sample).mpr Pack.isOf_sample
  refine ⟨hfits, hdecode ▸ hplaces, hdecode, fun found hfound => ?_⟩
  obtain ⟨data, rfl, _, hdata, _⟩ := (hread _ hdecode ⟨20, "b", 2, 7, [5, 6]⟩ (by
    simp [Pack.sample])).2 found hfound
  exact hdata.symm

end CollectionArchive
