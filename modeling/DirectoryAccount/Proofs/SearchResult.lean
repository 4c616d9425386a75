import DirectoryAccount.Proofs.Account.Outcome
import DirectoryAccount.Proofs.Traversal
import DirectoryAccount.Proofs.ValueText
import DirectoryAccount.SearchResult

/-!
# Two ways to read an entry

The attributes of a search result can be turned into texts and then be read, as
`SearchResult.texts` prepares it, or they can be kept as the bytes that they came as and be read
from these. The second way reads only what it is asked for; the first reads everything there is.

Main statement: `SearchResult.texts_named`. When all values are texts, both ways read the same under
every name. What counts is the first value of the last attribute of that name.

**One value that is no text spoils the whole entry.** Read from the bytes, such a value is absent
and the other attributes are as they were; turned into texts, the entry fails with it, even if
nobody asks for that value and even if a later attribute takes its place: `texts_undecodable`.
-/

namespace DirectoryAccount

/-! ### Entries as texts -/

theorem wireText_eq_ok_iff {bytes : List UInt8} {s : String} :
    wireText bytes = .ok s ↔ bytes = Utf8.encode s := by
  rw [← Utf8.decode_eq_ok_iff, wireText]
  cases Utf8.decode bytes <;> simp [Except.mapError]

/-- What is no text is refused, and the failure says no more. -/
theorem of_wireText_eq_error {bytes : List UInt8} {f : Failure} (h : wireText bytes = .error f) :
    f = .undecodable ∧ ∀ s, bytes ≠ Utf8.encode s := by
  constructor
  · rw [wireText] at h
    cases hread : Utf8.decode bytes with
    | error e =>
      rw [hread] at h
      cases h
      rfl
    | ok s =>
      rw [hread] at h
      cases h
  · intro s hs
    rw [wireText_eq_ok_iff.2 hs] at h
    cases h

namespace WireAttribute

/-- An attribute whose name is a text, with any values. -/
def named (p : String × List (List UInt8)) : WireAttribute := ⟨Utf8.encode p.1, p.2⟩

theorem texts_named_eq_bind (p : String × List (List UInt8)) :
    (named p).texts = (p.2.mapM wireText).map fun values ↦ (p.1, values) := by
  have hname : wireText (Utf8.encode p.1) = .ok p.1 := wireText_eq_ok_iff.2 rfl
  rw [texts, named, hname]
  rfl

theorem texts_named_eq_ok_iff {p : String × List (List UInt8)} {d : String × List String} :
    (named p).texts = .ok d ↔ p = (d.1, d.2.map Utf8.encode) := by
  rw [texts_named_eq_bind, Prod.ext_iff, ← mapM_eq_ok_iff fun _ _ ↦ wireText_eq_ok_iff]
  cases p.2.mapM wireText with
  | error f => simp [Except.map]
  | ok values => simp [Except.map, Prod.ext_iff]

theorem of_texts_named_eq_error {p : String × List (List UInt8)} {f : Failure}
    (h : (named p).texts = .error f) :
    f = .undecodable ∧ ∃ bytes ∈ p.2, ∀ s, bytes ≠ Utf8.encode s := by
  rw [texts_named_eq_bind] at h
  cases hvalues : p.2.mapM wireText with
  | ok values =>
    rw [hvalues] at h
    cases h
  | error e =>
    rw [hvalues] at h
    cases h
    obtain ⟨bytes, hmem, hbytes⟩ := exists_of_mapM_eq_error hvalues
    obtain ⟨hf, hne⟩ := of_wireText_eq_error hbytes
    exact ⟨hf, bytes, hmem, hne⟩

end WireAttribute

/-- An entry whose attributes have texts for names, with any values. -/
def SearchResult.named (attributes : List (String × List (List UInt8))) : SearchResult :=
  .entry (attributes.map WireAttribute.named)

/-! ### Entries as bytes -/

namespace Bag

/-- The values of an attribute as the bytes that they came as. -/
def wireSlot (values : List (List UInt8)) : Slot :=
  .value (.sequence .square (values.map .bytes))

/-- The attributes of an entry with their values as the bytes that they came as. -/
def ofWire (attributes : List (String × List (List UInt8))) : Bag :=
  Table.ofList (attributes.map fun p ↦ (p.1, wireSlot p.2))

theorem get?_ofWire (attributes : List (String × List (List UInt8))) (name : String) :
    (ofWire attributes).get? name = (Table.find? name attributes.reverse).map wireSlot := by
  rw [ofWire, Table.get?_ofList, ← List.map_reverse, Table.find?_map wireSlot]

/-- **The last attribute of a name is read for the text of its first value**, if there is one. -/
theorem outcome_text_ofWire (attributes : List (String × List (List UInt8))) (name : String) :
    ∃ text, ((ofWire attributes).text name).outcome = .ok text ∧ ∀ s, text = some s ↔
      (Table.find? name attributes.reverse).bind List.head? = some (Utf8.encode s) := by
  refine ⟨_, outcome_text _ name, fun s ↦ ?_⟩
  rw [Reading.text?_eq_some_iff, reading, get?_ofWire]
  cases Table.find? name attributes.reverse with
  | none => simp
  | some values =>
    cases values with
    | nil => simp [wireSlot, Slot.reading, firstReading]
    | cons bytes rest =>
      rw [Option.bind_some, List.head?_cons, Option.some.injEq]
      exact Value.reading_bytes_eq_found_iff

/-- Texts are read as the bytes that they are written as. -/
theorem reading_ofTexts_ofList (attributes : List (String × List String)) (name : String) :
    (ofTexts (.ofList attributes)).reading name =
      (ofWire (attributes.map fun d ↦ (d.1, d.2.map Utf8.encode))).reading name := by
  rw [reading, reading, get?_ofWire, ofTexts, Table.get?_map, Table.get?_ofList,
    ← List.map_reverse, Table.find?_map (List.map Utf8.encode)]
  cases Table.find? name attributes.reverse with
  | none => rfl
  | some values =>
    cases values with
    | nil => rfl
    | cons s rest => exact (Value.reading_bytes_eq_found_iff.2 rfl).symm

end Bag

/-! ### Both ways -/

namespace SearchResult

/-- **Both ways read the same, unless a value is no text.** From its bytes an entry is always read:
under each name stands the text of the first value of the last attribute, or nothing. Turned into
texts it is read in just this way, word for word, if every one of its values is a text; if one is
not, the entry is refused as a whole. -/
theorem texts_named (attributes : List (String × List (List UInt8))) :
    (∀ name, ∃ text, ((Bag.ofWire attributes).text name).outcome = .ok text ∧ ∀ s, text = some s ↔
        (Table.find? name attributes.reverse).bind List.head? = some (Utf8.encode s)) ∧
      ((∃ t, (named attributes).texts = .ok t ∧
          (∀ p ∈ attributes, ∀ bytes ∈ p.2, ∃ s, bytes = Utf8.encode s) ∧
          ∀ name, (Bag.ofTexts t).text name = (Bag.ofWire attributes).text name) ∨
        ((named attributes).texts = .error .undecodable ∧
          ∃ p ∈ attributes, ∃ bytes ∈ p.2, ∀ s, bytes ≠ Utf8.encode s)) := by
  refine ⟨Bag.outcome_text_ofWire attributes, ?_⟩
  rw [named, texts, List.mapM_map]
  -- All names are texts, so if anything is refused it is a value.
  cases hread : attributes.mapM (WireAttribute.texts ∘ WireAttribute.named) with
  | ok read =>
    obtain rfl := (mapM_eq_ok_iff fun _ _ ↦ WireAttribute.texts_named_eq_ok_iff).1 hread
    refine .inl ⟨.ofList read, rfl, fun p hp bytes hbytes ↦ ?_, fun name ↦ ?_⟩
    · obtain ⟨d, -, rfl⟩ := List.mem_map.1 hp
      obtain ⟨s, -, rfl⟩ := List.mem_map.1 hbytes
      exact ⟨s, rfl⟩
    · rw [Bag.text, Bag.text, Bag.reading_ofTexts_ofList]
  | error f =>
    obtain ⟨p, hp, hf⟩ := exists_of_mapM_eq_error hread
    obtain ⟨rfl, hbytes⟩ := WireAttribute.of_texts_named_eq_error hf
    exact .inr ⟨rfl, p, hp, hbytes⟩

/-- **A value that nobody reads can spoil an entry.** The first of these two attributes gives way to
the second, which is a text, but the entry is refused for it. -/
theorem texts_undecodable :
    (named [("cn", [[0xFF]]), ("cn", [Utf8.encode "a"])]).texts = .error .undecodable ∧
      ((Bag.ofWire [("cn", [[0xFF]]), ("cn", [Utf8.encode "a"])]).text "cn").outcome =
        .ok (some "a") := by
  refine ⟨?_, ?_⟩
  · rfl
  · rfl

end SearchResult

end DirectoryAccount
