import CollectionArchive.Node
import CollectionArchive.Proofs.Identifier.Written
import CollectionArchive.Proofs.Json.Lines
import CollectionArchive.Registry.Basic

/-!
# The text of a node

The text of a node is written without building its JSON. It is the compact form of an object all the
same, and the keys of this object differ.

* `PropertyValue.chars_eq`: the text of a value is that of its JSON form.
* `Node.members`: the title, the cover images and the values of a node in JSON, under their keys.
* **`Node.json_eq`**: the text of a node is the compact form of its members.
* **`Node.nodup_keys_members`**: no key occurs twice in it.
* `Node.isLine_chars`: it stands on one line.
* **`pieces_nodeLines`**, `lines_nodeLines`: the lines of nodes are found again.
-/

namespace CollectionArchive

open Json (Value)

/-! ## Values -/

namespace PropertyValue

theorem textsChars_eq (ss : List String) : textsChars ss = (Value.texts ss).chars := by
  rw [textsChars, Value.texts, Value.chars, Value.itemChars_eq_map, List.map_map]
  rfl

theorem floatChars_eq (x : Binary64) : floatChars x = (floatJson x).chars := by
  cases x <;> rfl

mutual

/-- **The text of a value is that of its JSON form.** -/
theorem chars_eq (x : PropertyValue) : x.chars = x.toJson.chars := by
  cases x with
  | integer i => rfl
  | float x => exact floatChars_eq x
  | string s => rfl
  | boolean b => rfl
  | enumeration s => rfl
  | date d => rfl
  | selector kind values =>
    rw [chars, toJson, Value.chars, elementsChars_eq kind values]
  | list items =>
    rw [chars, toJson, Value.chars, itemsChars_eq items]
  | featureList flags =>
    rw [chars, toJson, Value.chars, Value.itemChars_eq_map, List.map_map]
    rfl
  | url a => rfl
  | textArea s => rfl
  | tags names => exact textsChars_eq names
  | hierarchies paths =>
    rw [chars, toJson, Value.chars, Value.itemChars_eq_map, List.map_map]
    exact congrArg Json.bracketed (List.map_congr_left fun p _ => textsChars_eq p)
  | location o => rfl

theorem itemsChars_eq (xs : List PropertyValue) :
    itemsChars xs = Value.itemChars (itemsJson xs) := by
  cases xs with
  | nil => rfl
  | cons x xs => rw [itemsChars, itemsJson, Value.itemChars, chars_eq x, itemsChars_eq xs]

theorem elementsChars_eq (kind : Kind) (xs : List PropertyValue) :
    elementsChars kind xs = Value.itemChars (elementsJson kind xs) := by
  cases xs with
  | nil => rfl
  | cons x xs =>
    rw [elementsChars, elementsJson, Value.itemChars, chars_eq x, elementsChars_eq kind xs]
    rfl

end

end PropertyValue

/-! ## Nodes -/

namespace Node

/-- The title, the cover images and the values of a node in JSON, under their keys. -/
def members (n : Node) : List (String × Value) :=
  ("title", .text n.title) :: ("coverImages", .texts n.coverImages) ::
    n.properties.map fun e => (e.1.text, e.2.toJson)

/-- **The text of a node is the compact form of its members.** -/
theorem json_eq (n : Node) : n.json = (Value.object n.members).compact := by
  have hvalues : (n.properties.map fun e => (e.1.text, e.2.chars)) =
      (n.properties.map fun e => (e.1.text, e.2.toJson)).map fun m => (m.1, m.2.chars) := by
    rw [List.map_map]
    exact List.map_congr_left fun e _ => congrArg (Prod.mk e.1.text) e.2.chars_eq
  rw [json, chars, Value.compact, Value.chars, Value.memberChars_eq_map, members, List.map_cons,
    List.map_cons, hvalues, PropertyValue.textsChars_eq]
  rfl

/-- **No key occurs twice.** Identifiers differ, and none is the name of what each node has. -/
theorem nodup_keys_members (n : Node) : (n.members.map Prod.fst).Nodup := by
  have hname : ∀ i : Identifier, i.text ≠ "title" ∧ i.text ≠ "coverImages" := fun i => by
    have hread := Identifier.parse_text i
    constructor
    · intro h
      rw [h] at hread
      cases hread
    · intro h
      rw [h] at hread
      cases hread
  have hkeys : (n.members.map Prod.fst) =
      "title" :: "coverImages" :: (Table.keys n.properties).map Identifier.text := by
    simp [members, Table.keys, Function.comp_def]
  have hmem : ∀ name, (∀ i : Identifier, i.text ≠ name) →
      name ∉ (Table.keys n.properties).map Identifier.text := by
    intro name hname hmem
    obtain ⟨i, _, hi⟩ := List.mem_map.mp hmem
    exact hname i hi
  rw [hkeys]
  refine List.nodup_cons.mpr ⟨?_, List.nodup_cons.mpr ⟨?_, ?_⟩⟩
  · refine List.not_mem_cons_of_ne_of_not_mem (by decide) (hmem _ fun i => (hname i).1)
  · exact hmem _ fun i => (hname i).2
  · refine List.pairwise_map.mpr ((Table.nodup_keys n.ascending).imp fun hne h => ?_)
    exact hne (Identifier.text_inj.mp h)

/-- The text of a node stands on one line. -/
theorem isLine_chars (n : Node) : Json.IsLine n.chars := by
  have hchars : n.chars = (Value.object n.members).chars := String.ofList_inj.mp n.json_eq
  rw [hchars]
  exact Value.isLine_chars _

/-- The bytes of a node lie between braces. -/
theorem exists_ofText_json (n : Node) :
    ∃ bs : Bytes, Bytes.ofText n.json = 0x7b :: bs ++ [0x7d] := by
  have hopen : String.utf8EncodeChar '\x7b' = [0x7b] := rfl
  have hclose : String.utf8EncodeChar '\x7d' = [0x7d] := rfl
  rw [json, Bytes.ofText_ofList, chars, Json.braced, List.flatMap_append, List.flatMap_cons,
    List.flatMap_singleton, hopen, hclose]
  exact ⟨_, rfl⟩

end Node

/-- **What stands between the line feeds are the texts of the nodes**, and nothing at the end. -/
theorem pieces_nodeLines (ns : List Node) :
    (nodeLines ns).pieces = (ns.map fun n => Bytes.ofText n.json) ++ [[]] := by
  have hlines : nodeLines ns =
      (ns.map fun n => Bytes.ofText n.json).flatMap fun l => l ++ [Bytes.lineFeed] := by
    rw [nodeLines, List.flatMap_map]
  rw [hlines, Bytes.pieces_flatMap]
  intro l hl
  obtain ⟨n, _, rfl⟩ := List.mem_map.mp hl
  exact Bytes.lineFeed_notMem_ofText n.isLine_chars

/-- No line of a node is empty. -/
theorem filter_pieces_nodeLines (ns : List Node) :
    (nodeLines ns).pieces.filter (fun p => !p.isEmpty) = ns.map fun n => Bytes.ofText n.json := by
  rw [pieces_nodeLines, List.filter_append, List.filter_eq_self.mpr]
  · simp
  · intro l hl
    obtain ⟨n, _, rfl⟩ := List.mem_map.mp hl
    obtain ⟨bs, hbs⟩ := n.exists_ofText_json
    rw [hbs]
    rfl

/-- The lines of the nodes of a collection are the texts of these nodes. -/
theorem lines_nodeLines (ns : List Node) :
    (nodeLines ns).lines = ns.map fun n => Bytes.ofText n.json := by
  have hsame : (ns.map fun n => Bytes.ofText n.json).map Bytes.withoutReturn =
      ns.map fun n => Bytes.ofText n.json := by
    rw [List.map_map]
    refine List.map_congr_left fun n _ => ?_
    -- A node ends in a brace, not in a carriage return.
    obtain ⟨bs, hbs⟩ := n.exists_ofText_json
    rw [Function.comp_apply, Bytes.withoutReturn, hbs, List.getLast?_concat]
    rfl
  simp [Bytes.lines, pieces_nodeLines, hsame]

end CollectionArchive
