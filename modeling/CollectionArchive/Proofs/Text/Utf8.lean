import CollectionArchive.Text.CodeSet
import CollectionArchive.Text.Utf8

/-!
# Texts and their bytes

* `Bytes.toList_eq`: the bytes of an array, in their order.
* `Bytes.ofText_ofList`: the bytes of a text are those of its characters.
* **`Bytes.text?_ofText`**: a text is read back from its bytes.
* `Bytes.text?_eq_some`: the bytes of which a text is read are those of the text.
* `Bytes.ofText_inj`: different texts have different bytes.
* `Bytes.toNat_ofNat32`: four bytes keep a number up to multiples of 2³².
* `Text.hexValue?_digitChar`: the value of a hexadecimal digit that is written.
-/

namespace CollectionArchive.Bytes

theorem toList_loop (bs : ByteArray) (i : Nat) (acc : List UInt8) :
    ByteArray.toList.loop bs i acc = acc.reverse ++ bs.data.toList.drop i := by
  induction i, acc using ByteArray.toList.loop.induct bs with
  | case1 i acc hlt ih =>
    have hi : i < bs.data.toList.length := hlt
    have hget : bs.get! i = bs.data.toList[i] := by
      rw [ByteArray.get!, getElem!_pos bs.data i hlt, Array.getElem_toList]
    rw [ByteArray.toList.loop, if_pos hlt, ih, List.drop_eq_getElem_cons hi, hget,
      List.reverse_cons, List.append_assoc, List.singleton_append]
  | case2 i acc hge =>
    have hi : bs.data.toList.length ≤ i := Nat.le_of_not_lt hge
    rw [ByteArray.toList.loop, if_neg hge, List.drop_eq_nil_of_le hi, List.append_nil]

theorem toList_eq (bs : ByteArray) : bs.toList = bs.data.toList := by
  rw [ByteArray.toList, toList_loop, List.reverse_nil, List.nil_append, List.drop_zero]

theorem ofText_eq (s : String) : ofText s = s.toByteArray.data.toList := by
  rw [ofText, toList_eq, String.toUTF8_eq_toByteArray]

/-- The bytes of a text are those of its characters. -/
theorem ofText_ofList (cs : List Char) :
    ofText (String.ofList cs) = cs.flatMap String.utf8EncodeChar := by
  rw [ofText_eq, String.toByteArray_ofList, List.utf8Encode, List.data_toByteArray,
    List.toList_toArray]

/-- Each character has at most four bytes. -/
theorem length_ofText_ofList_le (cs : List Char) :
    (ofText (String.ofList cs)).length ≤ 4 * cs.length := by
  rw [ofText_ofList]
  induction cs with
  | nil => exact Nat.le_refl 0
  | cons c cs ih =>
    have hsize : c.utf8Size ≤ 4 := c.utf8Size_le_four
    rw [List.flatMap_cons, List.length_append, String.length_utf8EncodeChar, List.length_cons]
    omega

/-- **A text is read back from its bytes.** -/
theorem text?_ofText (s : String) : text? (ofText s) = some s := by
  have hbytes : (⟨(ofText s).toArray⟩ : ByteArray) = s.toByteArray := by
    rw [ofText_eq, Array.toArray_toList]
  rw [text?, hbytes, String.fromUTF8?, dif_pos s.isValidUTF8]
  rfl

/-- The bytes of which a text is read are those of the text. -/
theorem text?_eq_some {bs : Bytes} {s : String} : text? bs = some s ↔ bs = ofText s := by
  constructor
  · intro h
    rw [text?, String.fromUTF8?] at h
    split at h
    · obtain rfl := Option.some.inj h
      rw [ofText_eq]
      rfl
    · cases h
  · rintro rfl
    exact text?_ofText s

/-- Different texts have different bytes. -/
theorem ofText_inj {s t : String} : ofText s = ofText t ↔ s = t := by
  rw [← text?_eq_some, text?_ofText, Option.some.injEq]

/-- Four bytes keep a number up to multiples of 2³². -/
theorem toNat_ofNat32 (n : Nat) : toNat (ofNat32 n) = n % 0x100000000 := by
  simp only [toNat, ofNat32, List.foldl_cons, List.foldl_nil, Nat.toUInt8_eq, UInt8.toNat_ofNat']
  omega

theorem length_ofNat32 (n : Nat) : (ofNat32 n).length = 4 :=
  rfl

end CollectionArchive.Bytes

/-- The value of a hexadecimal digit that is written. -/
theorem CollectionArchive.Text.hexValue?_digitChar {k : Nat} (h : k < 16) :
    hexValue? (Nat.digitChar k) = some k := by
  have hall : ∀ k < 16, hexValue? (Nat.digitChar k) = some k := by decide
  exact hall k h
