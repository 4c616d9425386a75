import DirectoryAccount.Proofs.Account.Footprint
import DirectoryAccount.Proofs.SearchResult
import DirectoryAccount.Proofs.Table
import Mathlib.Data.List.Perm.Basic
import Mathlib.Data.Set.List

/-!
# An entry and its texts

An entry in which everything is a text loses nothing on the way to the texts that the checks read,
except what a later attribute of the same name takes the place of. `WireAttribute.ofTexts` writes a
name and values as they come over the wire, and `WireAttribute.texts_eq_ok_iff` says that reading is
the inverse.

Main statement: `SearchResult.texts_roundTrip`. Where no name occurs twice, writing the table gives
the entry back, and the order in which the attributes came makes no difference to any account.
-/

namespace DirectoryAccount

namespace WireAttribute

/-- A name and values as they come over the wire. -/
def ofTexts (p : String × List String) : WireAttribute :=
  ⟨Utf8.encode p.1, p.2.map Utf8.encode⟩

/-- The name and all values are UTF-8. -/
def IsText (a : WireAttribute) : Prop :=
  (∃ name, a.name = Utf8.encode name) ∧ ∀ bytes ∈ a.values, ∃ value, bytes = Utf8.encode value

variable {a : WireAttribute} {p : String × List String}

/-- **Reading an attribute is the inverse of writing it.** -/
theorem texts_eq_ok_iff : a.texts = .ok p ↔ a = ofTexts p := by
  obtain ⟨bytes, values⟩ := a
  cases hname : wireText bytes with
  | error f =>
    have hne := (of_wireText_eq_error hname).2 p.1
    simp [texts, ofTexts, hname, hne, bind, Except.bind]
  | ok name =>
    obtain rfl := wireText_eq_ok_iff.1 hname
    have hnamed := texts_named_eq_ok_iff (p := (name, values)) (d := p)
    rw [named] at hnamed
    rw [hnamed, ofTexts, Prod.ext_iff, mk.injEq, Utf8.encode_injective.eq_iff]

theorem ofTexts_injective : Function.Injective ofTexts := by
  intro p q h
  have hp : (ofTexts p).texts = .ok p := texts_eq_ok_iff.2 rfl
  exact Except.ok.inj (hp.symm.trans (texts_eq_ok_iff.2 h))

theorem IsText.exists_eq_ofTexts (h : a.IsText) : ∃ p, ofTexts p = a := by
  obtain ⟨⟨name, hname⟩, hvalues⟩ := h
  have hrange : a.values ∈ Set.range (List.map Utf8.encode) := by
    rw [Set.range_list_map]
    intro bytes hbytes
    obtain ⟨value, hvalue⟩ := hvalues bytes hbytes
    exact ⟨value, hvalue.symm⟩
  obtain ⟨values, hvalues⟩ := hrange
  exact ⟨(name, values), by rw [ofTexts, hvalues, ← hname]⟩

end WireAttribute

namespace SearchResult

open WireAttribute (ofTexts)

/-- Attributes that are texts are those of some names and values. -/
theorem exists_eq_map_ofTexts {attributes : List WireAttribute} (h : ∀ a ∈ attributes, a.IsText) :
    ∃ l : List (String × List String), l.map ofTexts = attributes := by
  have hrange : attributes ∈ Set.range (List.map ofTexts) := by
    rw [Set.range_list_map]
    exact fun a ha ↦ (h a ha).exists_eq_ofTexts
  exact hrange

/-- An entry is read as the table of its names and values. -/
theorem texts_entry_map (l : List (String × List String)) :
    (entry (l.map ofTexts)).texts = .ok (.ofList l) := by
  have hread : (l.map ofTexts).mapM WireAttribute.texts = .ok l :=
    (mapM_eq_ok_iff fun _ _ ↦ WireAttribute.texts_eq_ok_iff).2 rfl
  rw [texts, hread]
  rfl

theorem exists_name_eq_iff {l : List (String × List String)} {name : String} :
    (∃ a ∈ l.map ofTexts, a.name = Utf8.encode name) ↔ name ∈ l.map Prod.fst := by
  simp [ofTexts, Utf8.encode_injective.eq_iff]

/-- Where the names of an entry are distinct as bytes they are as texts. -/
theorem nodup_names {l : List (String × List String)}
    (h : ((l.map ofTexts).map WireAttribute.name).Nodup) : (l.map Prod.fst).Nodup := by
  have hnames : (l.map ofTexts).map WireAttribute.name = (l.map Prod.fst).map Utf8.encode := by
    rw [List.map_map, List.map_map]
    rfl
  exact List.Nodup.of_map _ (hnames ▸ h)

/-- What is found in the table of an entry is what the last attribute of the name has for values. -/
theorem get?_ofList_eq_some_iff_last {l : List (String × List String)} {name : String}
    {values : List String} : (Table.ofList l).get? name = some values ↔
      ∃ before after, l.map ofTexts = before ++ ofTexts (name, values) :: after ∧
        ∀ b ∈ after, b.name ≠ Utf8.encode name := by
  rw [Table.get?_ofList_eq_some_iff]
  constructor
  · rintro ⟨before, after, rfl, hafter⟩
    refine ⟨before.map ofTexts, after.map ofTexts, List.map_append, fun b hb hname ↦ ?_⟩
    exact hafter (exists_name_eq_iff.1 ⟨b, hb, hname⟩)
  · rintro ⟨before, after, heq, hafter⟩
    obtain ⟨before', rest, rfl, rfl, hrest⟩ := List.map_eq_append_iff.1 heq
    obtain ⟨p, after', rfl, hp, rfl⟩ := List.map_eq_cons_iff.1 hrest
    refine ⟨before', after', ?_, fun hmem ↦ ?_⟩
    · rw [WireAttribute.ofTexts_injective hp]
    · obtain ⟨b, hb, hname⟩ := exists_name_eq_iff.2 hmem
      exact hafter b hb hname

/-- Tables in which the same is found are assessed in the same way, and with the same log. -/
theorem reply_assess_ofTexts_congr {t t' : Table (List String)}
    (h : ∀ name, t'.get? name = t.get? name) (s : Session) (name : Option String) :
    { s with bag := .ofTexts t' }.reply (.assess name) =
      { s with bag := .ofTexts t }.reply (.assess name) := by
  refine Session.reply_assess_congr (s := { s with bag := .ofTexts t })
    (Bag.alikeInTexts_of_get? fun n _ ↦ ?_) name
  rw [Bag.ofTexts, Bag.ofTexts, Table.get?_map, Table.get?_map, h]

/-- A result without attributes stands well. -/
theorem outcome_reply_assess_empty (s : Session) (name : Option String) :
    ({ s with bag := .ofTexts .empty }.reply (.assess name)).outcome =
      .ok (.assessment ⟨true, true, true, true⟩) :=
  Session.reply_assess_eq_ok_iff.2
    (outcome_assess_of_textOf_eq_none (fun _ ↦ rfl) _ s.clock name)

/-- **An entry of texts is read as the table of its names and values.** The names of the table are
those of the entry, each once, and the values under a name are the ones of the last attribute that
has it, in their order and number. If no name occurs twice, the entries of the table are the
attributes, written as they came, and attributes in another order give a table in which the same is
found and by which every account stands the same. All other results give the empty table, by which
an account stands well. -/
theorem texts_roundTrip {attributes : List WireAttribute} (h : ∀ a ∈ attributes, a.IsText) :
    (∃ t, (entry attributes).texts = .ok t ∧ t.names.Nodup ∧
        (∀ name, name ∈ t.names ↔ ∃ a ∈ attributes, a.name = Utf8.encode name) ∧
        (∀ name values, t.get? name = some values ↔
          ∃ before after,
            attributes = before ++ ⟨Utf8.encode name, values.map Utf8.encode⟩ :: after ∧
              ∀ b ∈ after, b.name ≠ Utf8.encode name) ∧
        ((attributes.map WireAttribute.name).Nodup →
          (t.entries.map fun p ↦ ⟨Utf8.encode p.1, p.2.map Utf8.encode⟩) = attributes ∧
            ∀ attributes', attributes'.Perm attributes →
              ∃ t', (entry attributes').texts = .ok t' ∧
                (∀ name, t'.get? name = t.get? name ∧
                  (Bag.ofTexts t').text name = (Bag.ofTexts t).text name) ∧
                ∀ (s : Session) (name : Option String),
                  { s with bag := .ofTexts t' }.reply (.assess name) =
                    { s with bag := .ofTexts t }.reply (.assess name))) ∧
      ∀ r : SearchResult, (∀ others, r ≠ .entry others) → r.texts = .ok .empty ∧
        ∀ (s : Session) (name : Option String),
          ({ s with bag := .ofTexts .empty }.reply (.assess name)).outcome =
            .ok (.assessment ⟨true, true, true, true⟩) := by
  obtain ⟨l, rfl⟩ := exists_eq_map_ofTexts h
  refine ⟨⟨.ofList l, texts_entry_map l, (Table.ofList l).nodup, fun name ↦ ?_, fun name values ↦
    get?_ofList_eq_some_iff_last, fun hdistinct ↦ ⟨?_, fun attributes' hperm ↦ ?_⟩⟩,
    fun r hr ↦ ⟨?_, outcome_reply_assess_empty⟩⟩
  · rw [Table.mem_names_ofList, exists_name_eq_iff]
  · rw [Table.entries_ofList (nodup_names hdistinct)]
    rfl
  · -- Attributes in another order are those of names and values in another order.
    obtain ⟨l', rfl⟩ := exists_eq_map_ofTexts fun a ha ↦ h a (hperm.mem_iff.1 ha)
    have hperm := (List.map_perm_map_iff WireAttribute.ofTexts_injective).1 hperm
    have hget := Table.get?_ofList_of_perm hperm (nodup_names hdistinct)
    refine ⟨.ofList l', texts_entry_map l', fun name ↦ ⟨hget name, ?_⟩,
      reply_assess_ofTexts_congr hget⟩
    rw [Bag.text, Bag.text, Bag.reading, Bag.reading, Bag.ofTexts, Bag.ofTexts, Table.get?_map,
      Table.get?_map, hget]
  · cases r with
    | entry others => exact absurd rfl (hr others)
    | reference | done | foreign => rfl

/-- An entry with a name that comes twice, and that name once more in capitals. -/
def threeNames : List WireAttribute :=
  [ofTexts ("cn", ["a", "b"]), ofTexts ("CN", []), ofTexts ("cn", ["é", ""])]

/-- The later values of a name stand in for the earlier ones, an empty list of values stays, and
capitals make another name. -/
theorem texts_roundTrip_threeNames :
    (∀ a ∈ threeNames, a.IsText) ∧ ∃ t, (entry threeNames).texts = .ok t ∧
      t.get? "cn" = some ["é", ""] ∧ t.get? "CN" = some [] ∧ t.get? "Cn" = none := by
  have htext : ∀ a ∈ threeNames, a.IsText := by
    have hwritten (p : String × List String) : (ofTexts p).IsText :=
      ⟨⟨p.1, rfl⟩, fun bytes hbytes ↦ by
        obtain ⟨value, -, rfl⟩ := List.mem_map.1 hbytes
        exact ⟨value, rfl⟩⟩
    simp [threeNames, hwritten]
  obtain ⟨⟨t, ht, -, hnames, hget, -⟩, -⟩ := texts_roundTrip htext
  refine ⟨htext, t, ht, ?_, ?_, ?_⟩
  · exact (hget "cn" _).2 ⟨[ofTexts ("cn", ["a", "b"]), ofTexts ("CN", [])], [], rfl, by simp⟩
  · refine (hget "CN" _).2 ⟨[ofTexts ("cn", ["a", "b"])], [ofTexts ("cn", ["é", ""])], rfl, ?_⟩
    decide
  · rw [Table.get?_eq_none_iff, hnames]
    decide

end SearchResult

end DirectoryAccount
