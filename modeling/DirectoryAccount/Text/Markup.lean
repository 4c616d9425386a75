/-!
# Text among markup

Lines for the terminal carry markup: a tag is an opening bracket, one of `a` to `z`, `#`, `/` and
`@`, and then anything but an opening bracket up to the first closing one. A tag is taken as text if
an odd number of backslashes stands before it, and pairs of those stand for one each.

`Markup.escape` makes a text out of which no tag can be read: before every tag the backslashes are
doubled and one more is added. A backslash at the very end would escape what follows the text, so
one that stands there alone is doubled as well.
-/

namespace DirectoryAccount

namespace Markup

/-- A character that can follow the opening bracket of a tag. -/
def IsTagStart (c : Char) : Prop :=
  c.isLower ∨ c = '#' ∨ c = '/' ∨ c = '@'

instance (c : Char) : Decidable (IsTagStart c) :=
  inferInstanceAs (Decidable (_ ∨ _))

/-- A closing bracket comes before any opening one. -/
def closes : List Char → Bool
  | [] => false
  | c :: rest => if c = ']' then true else if c = '[' then false else closes rest

/-- A tag follows an opening bracket. -/
def completesTag : List Char → Bool
  | [] => false
  | c :: rest => decide (IsTagStart c) && closes rest

/-- The escaped form of `k` backslashes and then a text. -/
def escapeAfter (k : Nat) : List Char → List Char
  | [] => List.replicate k '\\'
  | c :: rest =>
    if c = '\\' then escapeAfter (k + 1) rest
    else if c = '[' ∧ completesTag rest then
      List.replicate (2 * k + 1) '\\' ++ c :: escapeAfter 0 rest
    else List.replicate k '\\' ++ c :: escapeAfter 0 rest

/-- Exactly one backslash ends a text. -/
def EndsInLoneBackslash (t : List Char) : Prop :=
  ['\\'] <:+ t ∧ ¬['\\', '\\'] <:+ t

instance (t : List Char) : Decidable (EndsInLoneBackslash t) :=
  inferInstanceAs (Decidable (_ ∧ _))

/-- A text with no tag left to read in it. -/
def escapeChars (t : List Char) : List Char :=
  let escaped := escapeAfter 0 t
  if EndsInLoneBackslash escaped then escaped ++ ['\\'] else escaped

/-- A text with no tag left to read in it. -/
def escape (text : String) : String :=
  String.ofList (escapeChars text.toList)

end Markup

end DirectoryAccount
