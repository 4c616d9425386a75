import DirectoryAccount.Value

/-!
# Results of a directory search

A search yields entries, references to other servers, and a closing message. Only entries have
attributes. On the wire names and values are bytes; `SearchResult.texts` reads them all as UTF-8 and
fails if one of them is not.

An entry may bring an attribute twice. The later values then stand in for the earlier ones.
-/

namespace DirectoryAccount

/-- An attribute as it comes over the wire. -/
structure WireAttribute where
  name : List UInt8
  values : List (List UInt8)
  deriving DecidableEq, Repr

/-- One result of a directory search. -/
inductive SearchResult where
  | entry (attributes : List WireAttribute)
  | reference (addresses : List String)
  | done
  /-- Anything else that a client may yield. -/
  | foreign
  deriving DecidableEq, Repr

/-- The text that bytes of a search result encode. -/
def wireText (bytes : List UInt8) : Except Failure String :=
  (Utf8.decode bytes).mapError fun _ ↦ .undecodable

namespace WireAttribute

/-- The name and the values of an attribute as texts. -/
def texts (a : WireAttribute) : Except Failure (String × List String) := do
  let name ← wireText a.name
  let values ← a.values.mapM wireText
  pure (name, values)

end WireAttribute

namespace SearchResult

/-- The attributes of a search result as texts. -/
def texts : SearchResult → Except Failure (Table (List String))
  | entry attributes => (attributes.mapM WireAttribute.texts).map Table.ofList
  | _ => .ok .empty

end SearchResult

/-- Attributes with texts for values, for the checks to read. -/
def Bag.ofTexts (t : Table (List String)) : Bag :=
  t.map fun values ↦ .value (.sequence .square (values.map .text))

end DirectoryAccount
