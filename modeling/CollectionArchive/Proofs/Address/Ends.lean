import CollectionArchive.Address.Reading
import CollectionArchive.Proofs.Decimal.Digits
import CollectionArchive.Proofs.Outcome
import CollectionArchive.Proofs.Text.Blank
import Mathlib.Data.List.TakeDrop

/-!
# The ends of addresses

The written form of an address that was read neither starts nor ends in a blank. It may have blanks
within it, since the path of an address that is no list of segments keeps its spaces.

* `Address.HasBlanks.isPlain_encode`: what is encoded has no blanks if the set has them all.
* `Path.Ends`, `Path.ends_ofPieces`: a path of segments ends a text without a blank.
* `Host.endsPlain_of_parseOpaque`: so does a host, where no path has to follow it.
* **`Address.endsLocation_of_readLocation`**: an authority and its path, however they are read.
* **`Address.trim_text`**: nothing is taken off the text of an address.
-/

namespace CollectionArchive.Address

open Text (EndsPlain IsPlain isBlank)

/-! ## Encoded texts -/

theorem isControl_or_eq_of_isBlank {c : Char} (h : isBlank c = true) :
    isControl c = true ∨ c = ' ' := by
  by_cases hc : c = ' '
  · exact .inr hc
  · have hne : c.toNat ≠ 0x20 := fun h => hc (Char.toNat_inj.mp h)
    simp only [isBlank, isControl, Bool.or_eq_true, Bool.and_eq_true, decide_eq_true_eq,
      beq_iff_eq] at h ⊢
    omega

/-- The set has all blanks. -/
def HasBlanks (set : Char → Bool) : Prop :=
  ∀ c, isBlank c = true → set c = true

/-- All blanks are controls but for the space. -/
theorem HasBlanks.of_isControl {set : Char → Bool}
    (control : ∀ c, isControl c = true → set c = true) (space : set ' ' = true) :
    HasBlanks set := by
  intro c h
  rcases isControl_or_eq_of_isBlank h with h | rfl
  · exact control c h
  · exact space

theorem hasBlanks_inFragment : HasBlanks inFragment :=
  .of_isControl (fun c h => by rw [inFragment, h, Bool.true_or]) (by decide)

theorem hasBlanks_inPath : HasBlanks inPath := fun c h => by
  rw [inPath, hasBlanks_inFragment c h, Bool.true_or]

theorem hasBlanks_inQuery : HasBlanks inQuery :=
  .of_isControl (fun c h => by rw [inQuery, h, Bool.true_or]) (by decide)

theorem hasBlanks_inSpecialQuery : HasBlanks inSpecialQuery := fun c h => by
  rw [inSpecialQuery, hasBlanks_inQuery c h, Bool.true_or]

theorem isBlank_toUpper_digitChar : ∀ n < 16, isBlank (Nat.digitChar n).toUpper = false := by
  decide

theorem isPlain_encodedByte (b : UInt8) : IsPlain (encodedByte b) := by
  have hhigh : b.toNat / 16 < 16 := by
    have := b.toNat_lt
    omega
  have hlow : b.toNat % 16 < 16 := Nat.mod_lt _ (by decide)
  refine List.forall_mem_cons.mpr ⟨by decide, List.forall_mem_cons.mpr ⟨?_, ?_⟩⟩
  · exact isBlank_toUpper_digitChar _ hhigh
  · exact List.forall_mem_singleton.mpr (isBlank_toUpper_digitChar _ hlow)

theorem encode_append (set : Char → Bool) (cs ds : List Char) :
    encode set (cs ++ ds) = encode set cs ++ encode set ds := by
  rw [encode, encode, encode, List.flatMap_append]

theorem encode_singleton_ne_nil (set : Char → Bool) (c : Char) : encode set [c] ≠ [] := by
  rw [encode, List.flatMap_singleton]
  split
  · obtain ⟨b, bs, hbytes⟩ := List.exists_cons_of_ne_nil (@String.utf8EncodeChar_ne_nil c)
    rw [hbytes]
    exact List.cons_ne_nil _ _
  · exact List.cons_ne_nil _ _

/-- A character that is encoded if it is a blank leaves none. -/
theorem isPlain_encode_singleton {set : Char → Bool} {c : Char}
    (blank : isBlank c = true → set c = true) : IsPlain (encode set [c]) := by
  rw [encode, List.flatMap_singleton]
  split
  · intro d hd
    obtain ⟨b, _, hd⟩ := List.mem_flatMap.mp hd
    exact isPlain_encodedByte b d hd
  · rename_i hset
    exact List.forall_mem_singleton.mpr ((Bool.not_eq_true _).mp fun h => hset (blank h))

/-- **What is encoded has no blanks** if those in it are encoded. -/
theorem isPlain_encode {set : Char → Bool} {cs : List Char}
    (blanks : ∀ c ∈ cs, isBlank c = true → set c = true) : IsPlain (encode set cs) := by
  induction cs with
  | nil => exact .nil
  | cons c cs ih =>
    obtain ⟨hc, hcs⟩ := List.forall_mem_cons.mp blanks
    rw [← List.singleton_append, encode_append]
    exact (isPlain_encode_singleton hc).append (ih hcs)

theorem HasBlanks.isPlain_encode {set : Char → Bool} (h : HasBlanks set) (cs : List Char) :
    IsPlain (encode set cs) :=
  Address.isPlain_encode fun c _ => h c

/-- Where only controls are encoded, a text ends as well as it did before. -/
theorem endsPlain_encode_isControl {cs : List Char} (ends : ∀ c ∈ cs.getLast?, 0x20 < c.toNat) :
    EndsPlain (String.ofList (encode isControl cs)) := by
  rcases List.eq_nil_or_concat' cs with rfl | ⟨front, c, rfl⟩
  · exact IsPlain.endsPlain_ofList .nil
  · have hc : 0x20 < c.toNat := ends c List.getLast?_concat
    have hplain : IsPlain (encode isControl [c]) := by
      refine isPlain_encode_singleton fun hblank => ?_
      refine (isControl_or_eq_of_isBlank hblank).resolve_right ?_
      rintro rfl
      exact absurd hc (by decide)
    rw [encode_append, String.ofList_append]
    refine hplain.endsPlain_ofList.append_of_ne (fun h => ?_) _
    exact encode_singleton_ne_nil _ _ (String.ofList_eq_empty_iff.mp h)

/-! ## Paths -/

namespace Path

variable {isFile : Bool} {done pieces parts : List (List Char)}

theorem isPlain_of_mem_above (h : ∀ s ∈ done, IsPlain s) : ∀ s ∈ above done, IsPlain s := by
  cases done with
  | nil => exact h
  | cons last rest =>
    rw [above]
    split
    · exact h
    · exact (List.forall_mem_cons.mp h).2

theorem isPlain_driveName {cs : List Char} (h : IsPlain cs) : IsPlain (driveName cs) :=
  IsPlain.append (fun c hc => h c (List.mem_of_mem_take hc))
    (List.forall_mem_singleton.mpr (by decide))

theorem isPlain_of_mem_resolve (hdone : ∀ s ∈ done, IsPlain s) (hpieces : ∀ s ∈ pieces, IsPlain s) :
    ∀ s ∈ resolve isFile done pieces, IsPlain s := by
  induction pieces generalizing done with
  | nil => exact hdone
  | cons piece rest ih =>
    obtain ⟨hpiece, hrest⟩ := List.forall_mem_cons.mp hpieces
    have hnil : ∀ {segments : List (List Char)}, (∀ s ∈ segments, IsPlain s) →
        ∀ s ∈ [] :: segments, IsPlain s := fun h => List.forall_mem_cons.mpr ⟨.nil, h⟩
    simp only [resolve]
    split
    · split
      · exact ih (hnil (isPlain_of_mem_above hdone)) hrest
      · exact ih (isPlain_of_mem_above hdone) hrest
    · split
      · split
        · exact ih (hnil hdone) hrest
        · exact ih hdone hrest
      · split
        · exact ih (List.forall_mem_singleton.mpr (isPlain_driveName hpiece)) hrest
        · exact ih (List.forall_mem_cons.mpr ⟨hpiece, hdone⟩) hrest

/-- There is a segment for the last piece. -/
theorem resolve_ne_nil (h : pieces ≠ []) : resolve isFile done pieces ≠ [] := by
  induction pieces generalizing done with
  | nil => exact absurd rfl h
  | cons piece rest ih =>
    cases rest with
    | nil =>
      simp only [resolve]
      split
      · exact List.cons_ne_nil _ _
      · split
        · exact List.cons_ne_nil _ _
        · split
          · exact List.cons_ne_nil _ _
          · exact List.cons_ne_nil _ _
    | cons next rest =>
      have hnext : ∀ done, resolve isFile done (next :: rest) ≠ [] :=
        fun done => ih (List.cons_ne_nil _ _)
      rw [resolve]
      split
      · exact hnext _
      · split
        · exact hnext _
        · split
          · exact hnext _
          · exact hnext _

theorem mem_of_mem_trimEmpty {s : List Char} (h : s ∈ trimEmpty parts) : s ∈ parts := by
  fun_induction trimEmpty parts with
  | case1 next rest ih => exact List.mem_cons_of_mem _ (ih h)
  | case2 => exact h

theorem trimEmpty_ne_nil (h : parts ≠ []) : trimEmpty parts ≠ [] := by
  fun_induction trimEmpty parts with
  | case1 next rest ih => exact ih (List.cons_ne_nil _ _)
  | case2 => exact h

/-- The segments of a path have no blanks. -/
theorem ofPieces_eq (isFile : Bool) (pieces : List (List Char)) : ∃ parts : List (List Char),
    ofPieces isFile pieces = segments (parts.map String.ofList) ∧ (∀ s ∈ parts, IsPlain s) ∧
      (pieces ≠ [] → parts ≠ []) := by
  have hencoded : ∀ s ∈ pieces.map (encode inPath), IsPlain s := by
    intro s hs
    obtain ⟨piece, _, rfl⟩ := List.mem_map.mp hs
    exact hasBlanks_inPath.isPlain_encode piece
  have hplain : ∀ s ∈ (resolve isFile [] (pieces.map (encode inPath))).reverse, IsPlain s :=
    fun s hs => isPlain_of_mem_resolve (List.forall_mem_nil _) hencoded s (List.mem_reverse.mp hs)
  have hne : pieces ≠ [] → (resolve isFile [] (pieces.map (encode inPath))).reverse ≠ [] :=
    fun h => mt List.reverse_eq_nil_iff.mp (resolve_ne_nil (mt List.map_eq_nil_iff.mp h))
  cases isFile with
  | true =>
    refine ⟨_, rfl, fun s hs => hplain s (mem_of_mem_trimEmpty hs), fun h => ?_⟩
    exact trimEmpty_ne_nil (hne h)
  | false => exact ⟨_, rfl, hplain, hne⟩

theorem endsPlain_segments (h : ∀ s ∈ parts, IsPlain s) :
    EndsPlain (segments (parts.map String.ofList)).text := by
  refine IsPlain.endsPlain fun c hc => ?_
  rw [text, String.toList_join] at hc
  obtain ⟨t, ht, hc⟩ := List.mem_flatMap.mp hc
  obtain ⟨_, hu, rfl⟩ := List.mem_map.mp ht
  obtain ⟨s, hs, rfl⟩ := List.mem_map.mp hu
  rw [String.toList_append] at hc
  rcases List.mem_append.mp hc with hc | hc
  · rw [List.mem_singleton.mp (show c ∈ ['/'] from hc)]
    decide
  · rw [String.toList_ofList] at hc
    exact h s hs c hc

theorem text_segments_ne (h : parts ≠ []) : (segments (parts.map String.ofList)).text ≠ "" := by
  obtain ⟨s, rest, rfl⟩ := List.exists_cons_of_ne_nil h
  intro hempty
  have hchars := String.toList_eq_nil_iff.mpr hempty
  rw [text, String.toList_join, List.map_cons, List.map_cons, List.flatMap_cons,
    String.toList_append] at hchars
  cases hchars

/-- A path has a text that does not end in a blank. -/
structure Ends (p : Path) : Prop where
  endsPlain : EndsPlain p.text
  ne : p.text ≠ ""

theorem ends_ofPieces (isFile : Bool) (h : pieces ≠ []) : (ofPieces isFile pieces).Ends := by
  obtain ⟨parts, heq, hplain, hne⟩ := ofPieces_eq isFile pieces
  rw [heq]
  exact ⟨endsPlain_segments hplain, text_segments_ne (hne h)⟩

end Path

theorem pieces_ne_nil (special : Bool) (cs : List Char) : pieces special cs ≠ [] :=
  List.splitOnP_ne_nil _ cs

/-- The path after an authority ends the text, or there is none and the scheme is not well known. -/
theorem ends_pathAfter (scheme : String) (cs : List Char) :
    (pathAfter scheme cs).Ends ∨
      Scheme.isSpecial scheme = false ∧ (pathAfter scheme cs).text = "" := by
  cases cs with
  | nil =>
    cases hspecial : Scheme.isSpecial scheme with
    | true =>
      left
      rw [pathAfter, hspecial]
      exact ⟨Text.endsPlain_of_getLast? rfl (by decide), by decide⟩
    | false => exact .inr ⟨rfl, by rw [pathAfter, hspecial]; rfl⟩
  | cons c rest => exact .inl (Path.ends_ofPieces _ (pieces_ne_nil _ _))

/-! ## Hosts -/

theorem Host.eq_ipv6_of_parseBracketed {cs : List Char} {h : Host}
    (parsed : parseBracketed cs = .ok h) : ∃ pieces, h = .ipv6 pieces := by
  rw [parseBracketed] at parsed
  split at parsed
  · cases hread : Ipv6.parse? (cs.drop 1).dropLast with
    | none =>
      rw [hread] at parsed
      cases parsed
    | some pieces =>
      rw [hread] at parsed
      cases parsed
      exact ⟨pieces, rfl⟩
  · cases parsed

/-- The host of an address whose scheme is not well known does not end in a blank. -/
theorem Host.endsPlain_of_parseOpaque {cs : List Char} {h : Host}
    (parsed : parseOpaque cs = .ok h) : EndsPlain h.text := by
  rw [parseOpaque] at parsed
  split at parsed
  · obtain ⟨pieces, rfl⟩ := eq_ipv6_of_parseBracketed parsed
    have hclose : EndsPlain (String.ofList [']']) :=
      IsPlain.endsPlain_ofList (List.forall_mem_singleton.mpr (by decide))
    rw [text, String.ofList_append]
    exact hclose.append_of_ne (by decide) _
  · split at parsed
    · cases parsed
    · rename_i hallowed
      cases parsed
      refine IsPlain.endsPlain_ofList (isPlain_encode fun c hc hblank => ?_)
      refine (isControl_or_eq_of_isBlank hblank).resolve_right ?_
      -- A space is no control, but no host has it.
      rintro rfl
      exact hallowed (List.any_eq_true.mpr ⟨' ', hc, by decide⟩)

theorem isBlank_of_isDigit {c : Char} (h : c.isDigit = true) : isBlank c = false := by
  cases hblank : isBlank c with
  | false => rfl
  | true =>
    have hdigit : 48 ≤ c.toNat ∧ c.toNat ≤ 57 := Char.isDigit_iff_toNat.mp h
    simp only [isBlank, Bool.or_eq_true, Bool.and_eq_true, decide_eq_true_eq, beq_iff_eq] at hblank
    omega

theorem Authority.endsPlain {a : Authority} (host : EndsPlain a.host.text) : EndsPlain a.text := by
  have hmark : EndsPlain "@" := Text.endsPlain_of_getLast? rfl (by decide)
  have huser : EndsPlain (if a.userInfo.isEmpty then "" else a.userInfo ++ "@") := by
    split
    · exact IsPlain.endsPlain .nil
    · exact hmark.append_of_ne (by decide) _
  have hport :
      EndsPlain ((a.port.map fun n => ":" ++ String.ofList (Decimal.natChars n)).getD "") := by
    cases a.port with
    | none => exact IsPlain.endsPlain .nil
    | some n =>
      have hcolon : EndsPlain ":" := Text.endsPlain_of_getLast? rfl (by decide)
      refine hcolon.append (IsPlain.endsPlain_ofList fun c hc => ?_)
      exact isBlank_of_isDigit (Decimal.isDigit_of_mem_natChars hc)
  exact (huser.append host).append hport

theorem parseOpaque_of_readAuthority {scheme : String} {cs rest : List Char} {next : Following}
    {a : Authority} (h : readAuthority scheme cs next = .ok (a, rest))
    (other : Scheme.isSpecial scheme = false) : ∃ name, Host.parseOpaque name = .ok a.host := by
  rw [readAuthority] at h
  obtain ⟨_, h⟩ := Outcome.guard_eq_ok.mp h
  obtain ⟨_, h⟩ := Outcome.guard_eq_ok.mp h
  rw [if_neg (ne_true_of_eq_false other)] at h
  obtain ⟨host, hhost, h⟩ := Outcome.bind_eq_ok.mp h
  obtain ⟨_, h⟩ := Outcome.guard_eq_ok.mp h
  obtain ⟨_, _, h⟩ := Outcome.bind_eq_ok.mp h
  obtain ⟨_, h⟩ := Outcome.guard_eq_ok.mp h
  obtain ⟨rfl, _⟩ := Prod.mk.inj (Outcome.pure_eq_ok.mp h)
  exact ⟨_, hhost⟩

/-! ## Locations -/

/-- The path ends the text of an address, or it is empty and the authority ends it. Only a path that
is a text may end in a blank, and only if more follows. -/
def EndsLocation (location : Location) : Prop :=
  location.2.Ends ∨ location.2.text = "" ∧ ∀ a ∈ location.1, EndsPlain a.text

theorem endsLocation_of_readAuthority {scheme : String} {cs rest : List Char} {next : Following}
    {a : Authority} (h : readAuthority scheme cs next = .ok (a, rest)) :
    EndsLocation (some a, pathAfter scheme rest) := by
  rcases ends_pathAfter scheme rest with hends | ⟨other, hempty⟩
  · exact .inl hends
  · obtain ⟨name, hname⟩ := parseOpaque_of_readAuthority h other
    refine .inr ⟨hempty, fun b hb => ?_⟩
    obtain rfl := Option.some.inj hb
    exact Authority.endsPlain (Host.endsPlain_of_parseOpaque hname)

theorem ends_pathAfter_file (cs : List Char) : (pathAfter "file" cs).Ends := by
  refine (ends_pathAfter "file" cs).resolve_right fun h => ?_
  exact absurd h.1 (by decide)

theorem ends_of_readFileHost {cs : List Char} {location : Location}
    (h : readFileHost cs = .ok location) : location.2.Ends := by
  have hpieces : ∀ ds, (Path.ofPieces true (pieces true ds)).Ends :=
    fun ds => Path.ends_ofPieces true (pieces_ne_nil true ds)
  unfold readFileHost at h
  dsimp only at h
  split at h
  · cases h
    exact hpieces _
  · split at h
    · cases h
      exact hpieces _
    · obtain ⟨host, _, h⟩ := Outcome.bind_eq_ok.mp h
      split at h
      · cases h
        exact hpieces _
      · cases h
        exact ends_pathAfter_file _

theorem ends_of_readFile {cs : List Char} {location : Location} (h : readFile cs = .ok location) :
    location.2.Ends := by
  unfold readFile at h
  split at h
  · split at h
    · exact ends_of_readFileHost h
    · cases h
      exact ends_pathAfter_file (_ :: _ :: _)
  · cases h
    exact ends_pathAfter_file _

/-- **The authority and the path end the text of an address**, or one of them does. -/
theorem endsLocation_of_readLocation {scheme : String} {cs : List Char} {more : Bool}
    {location : Location} (h : readLocation scheme cs more = .ok location)
    (ends : ∀ c ∈ cs.getLast?, 0x20 < c.toNat) : EndsLocation location := by
  unfold readLocation at h
  dsimp only at h
  split at h
  · exact .inl (ends_of_readFile h)
  · split at h
    · obtain ⟨⟨a, rest⟩, ha, h⟩ := Outcome.bind_eq_ok.mp h
      cases h
      exact endsLocation_of_readAuthority ha
    · split at h
      · obtain ⟨⟨a, rest⟩, ha, h⟩ := Outcome.bind_eq_ok.mp h
        cases h
        exact endsLocation_of_readAuthority ha
      · cases h
        exact .inl (Path.ends_ofPieces false (pieces_ne_nil false _))
      · cases h
        have hends := endsPlain_encode_isControl ends
        by_cases hempty : String.ofList (encode isControl cs) = ""
        · exact .inr ⟨hempty, fun a ha => by cases ha⟩
        · exact .inl ⟨hends, hempty⟩

/-! ## Addresses -/

/-- What counts of a text does not end in a control or space. -/
theorem lt_of_getLast?_significant {s : String} :
    ∀ c ∈ (significant s).getLast?, 0x20 < c.toNat := by
  rw [significant]
  rcases List.eq_nil_or_concat' (Text.trimBoth (fun c => decide (c.toNat ≤ 0x20)) s.toList) with
    hcs | ⟨front, d, hcs⟩
  · rw [hcs]
    exact fun c hc => by cases hc
  · have hlast := Text.not_of_getLast?_trimBoth d (by rw [hcs]; exact List.getLast?_concat)
    have hd : 0x20 < d.toNat := Nat.lt_of_not_le (of_decide_eq_false hlast)
    have hkept : (d != '\t' && d != '\n' && d != '\r') = true := by
      simp only [Bool.and_eq_true, bne_iff_ne, ne_eq]
      refine ⟨⟨?_, ?_⟩, ?_⟩ <;> rintro rfl <;> exact absurd hd (by decide)
    intro c hc
    rw [hcs, List.filter_append, List.filter_singleton, hkept, cond_true,
      List.getLast?_concat] at hc
    exact Option.some.inj hc ▸ hd

theorem splitScheme?_eq_some {cs body : List Char} {scheme : String}
    (h : splitScheme? cs = some (scheme, body)) : ∃ c name, cs = c :: name ++ ':' :: body ∧
      c.isAlpha = true ∧ scheme = String.ofList ((c :: name).map Char.toLower) := by
  rw [splitScheme?, List.span_eq_takeWhile_dropWhile] at h
  dsimp only at h
  split at h
  · rename_i body' hrest
    split at h
    · rename_i hhead
      obtain ⟨rfl, rfl⟩ := Prod.mk.inj (Option.some.inj h)
      cases hname : cs.takeWhile isSchemeChar with
      | nil =>
        rw [hname] at hhead
        cases hhead
      | cons c name =>
        rw [hname] at hhead
        refine ⟨c, name, ?_, hhead, rfl⟩
        rw [← hname, ← hrest, List.takeWhile_append_dropWhile]
    · cases h
  · cases h

theorem cut_of_none {mark : Char} {cs before : List Char} (h : cut mark cs = (before, none)) :
    before = cs := by
  rw [cut, List.span_eq_takeWhile_dropWhile] at h
  dsimp only at h
  split at h
  · rename_i hrest
    rw [← (Prod.mk.inj h).1]
    have hsplit := List.takeWhile_append_dropWhile (p := (· != mark)) (l := cs)
    rw [hrest, List.append_nil] at hsplit
    exact hsplit
  · cases h

theorem lt_of_isAlpha {c : Char} (h : c.isAlpha = true) : c.toNat < 123 := by
  rcases (Bool.or_eq_true _ _).mp h with h | h
  · have hlast : c.toNat ≤ 90 := (of_decide_eq_true h).2
    omega
  · have hlast : c.toNat ≤ 122 := of_decide_eq_true ((Bool.and_eq_true _ _).mp h).2
    omega

theorem isBlank_toLower {c : Char} (h : c.isAlpha = true) : isBlank c.toLower = false := by
  have hsmall : ∀ n < 123, (Char.ofNat n).isAlpha = true →
      isBlank (Char.ofNat n).toLower = false := by decide
  rw [← Char.ofNat_toNat c] at h ⊢
  exact hsmall _ (lt_of_isAlpha (Char.ofNat_toNat c ▸ h)) h

section Text

variable {a : Address} {s : String}

/-- How the parts of an address that was read look. -/
theorem parse_eq_ok (h : parse s = .ok a) :
    (∃ c name, c.isAlpha = true ∧ a.scheme = String.ofList ((c :: name).map Char.toLower)) ∧
    (∀ q ∈ a.query, IsPlain q.toList) ∧ (∀ f ∈ a.fragment, IsPlain f.toList) ∧
    (a.query = none → a.fragment = none → EndsLocation (a.authority, a.path)) := by
  unfold parse at h
  split at h
  · cases h
  · rename_i scheme rest hscheme
    obtain ⟨c, name, hsplit, halpha, hlower⟩ := splitScheme?_eq_some hscheme
    dsimp only at h
    obtain ⟨⟨authority, path⟩, hlocation, h⟩ := Outcome.bind_eq_ok.mp h
    obtain rfl := Outcome.pure_eq_ok.mp h
    refine ⟨⟨c, name, halpha, hlower⟩, ?_, ?_, ?_⟩
    · intro q hq
      obtain ⟨cs, _, rfl⟩ := Option.map_eq_some_iff.mp hq
      rw [String.toList_ofList]
      split
      · exact hasBlanks_inSpecialQuery.isPlain_encode cs
      · exact hasBlanks_inQuery.isPlain_encode cs
    · intro f hf
      obtain ⟨cs, _, rfl⟩ := Option.map_eq_some_iff.mp hf
      rw [String.toList_ofList]
      exact hasBlanks_inFragment.isPlain_encode cs
    · intro hquery hfragment
      -- Without query and fragment the text ends where what counts of it does.
      have hbefore : (cut '#' rest).1 = rest :=
        cut_of_none (Prod.ext rfl (Option.map_eq_none_iff.mp hfragment))
      have hbody : (cut '?' (cut '#' rest).1).1 = rest :=
        (cut_of_none (Prod.ext rfl (Option.map_eq_none_iff.mp hquery))).trans hbefore
      refine endsLocation_of_readLocation hlocation fun c hc => ?_
      rw [hbody] at hc
      refine lt_of_getLast?_significant (s := s) c ?_
      cases rest with
      | nil => cases hc
      | cons r rest =>
        rw [hsplit, List.getLast?_append_of_ne_nil _ (List.cons_ne_nil _ _),
          List.getLast?_cons_cons]
        exact hc

/-- A mark and what follows it without blanks end a text. -/
theorem endsPlain_marked {mark t : String} {c : Char} (hmark : mark.toList = [c])
    (plain : isBlank c = false) (ht : IsPlain t.toList) (s : String) :
    EndsPlain (s ++ (mark ++ t)) := by
  have hchars : (mark ++ t).toList = c :: t.toList := by
    rw [String.toList_append, hmark, List.singleton_append]
  refine EndsPlain.append_of_ne (IsPlain.endsPlain ?_) (fun h => ?_) s
  · rw [hchars]
    exact List.forall_mem_cons.mpr ⟨plain, ht⟩
  · rw [h] at hchars
    cases hchars

theorem endsPlain_text (query : ∀ q ∈ a.query, IsPlain q.toList)
    (fragment : ∀ f ∈ a.fragment, IsPlain f.toList)
    (location : a.query = none → a.fragment = none → EndsLocation (a.authority, a.path)) :
    EndsPlain a.text := by
  obtain ⟨scheme, authority, path, query?, fragment?⟩ := a
  rw [text]
  dsimp only at query fragment location ⊢
  cases fragment? with
  | some f => exact endsPlain_marked rfl (by decide) (fragment f rfl) _
  | none =>
    rw [Option.map_none, Option.getD_none, String.append_empty]
    cases query? with
    | some q => exact endsPlain_marked rfl (by decide) (query q rfl) _
    | none =>
      rw [Option.map_none, Option.getD_none, String.append_empty]
      rcases location rfl rfl with hends | ⟨hempty, hauthority⟩
      · exact hends.endsPlain.append_of_ne hends.ne _
      · dsimp only at hempty hauthority
        rw [hempty, String.append_empty]
        have hcolon : EndsPlain ":" := Text.endsPlain_of_getLast? rfl (by decide)
        refine (hcolon.append_of_ne (by decide) _).append ?_
        cases authority with
        | some authority =>
          have hslashes : EndsPlain "//" := Text.endsPlain_of_getLast? rfl (by decide)
          exact hslashes.append (hauthority authority rfl)
        | none =>
          dsimp only
          split
          · exact Text.endsPlain_of_getLast? rfl (by decide)
          · exact IsPlain.endsPlain .nil

/-- **Nothing is taken off the text of an address.** -/
theorem trim_text (h : parse s = .ok a) : Text.trim a.text = a.text := by
  obtain ⟨⟨c, name, halpha, hscheme⟩, hquery, hfragment, hlocation⟩ := parse_eq_ok h
  refine Text.trim_eq_self_of_ends (fun d hd => ?_) (endsPlain_text hquery hfragment hlocation)
  have hfirst : a.text.toList.head? = some c.toLower := by
    simp only [text, hscheme, String.toList_append, String.toList_ofList, List.map_cons,
      List.cons_append, List.head?_cons]
  rw [hfirst] at hd
  exact Option.some.inj hd ▸ isBlank_toLower halpha

end Text

end CollectionArchive.Address
