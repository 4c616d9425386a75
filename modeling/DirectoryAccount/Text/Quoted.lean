import DirectoryAccount.Text.Printable

/-!
# Quoted text

A text is quoted between single quotes, or between double quotes if it holds single quotes only.
Backslashes and the quote that surrounds the text are marked by a backslash, and what does not show
as itself is written by its code, in two, four or eight hexadecimal digits.

Bytes are quoted alike, with a mark in front, and only printable ASCII shows as itself. In a buffer
of bytes the single quote is marked by a backslash whichever quotes surround it.

Several texts are listed between brackets, parted by commas.
-/

namespace DirectoryAccount

namespace Quoted

/-- The quote to put around a text. -/
def quoteFor (t : List Char) : Char :=
  if '\x27' ∈ t ∧ '\x22' ∉ t then '\x22' else '\x27'

/-- A code in lower-case hexadecimal, filled up with zeros to a width. -/
def hexCode (width n : Nat) : List Char :=
  List.leftpad width '0' (Nat.toDigits 16 n)

/-- A character between quotes, where `marked` is the quote that a backslash marks and `shows` tells
which characters show as themselves. -/
def escapeChar (marked : Char) (shows : Char → Bool) (c : Char) : List Char :=
  if c = '\\' ∨ c = marked then ['\\', c]
  else if c = '\t' then ['\\', 't']
  else if c = '\n' then ['\\', 'n']
  else if c = '\r' then ['\\', 'r']
  else if shows c then [c]
  else if c.toNat < 0x100 then '\\' :: 'x' :: hexCode 2 c.toNat
  else if c.toNat < 0x10000 then '\\' :: 'u' :: hexCode 4 c.toNat
  else '\\' :: 'U' :: hexCode 8 c.toNat

/-- Characters between the quotes for them, where `marked` is the quote that a backslash marks. -/
def enclose (marked : Char) (shows : Char → Bool) (t : List Char) : List Char :=
  quoteFor t :: t.flatMap (escapeChar marked shows) ++ [quoteFor t]

/-- Characters between quotes, with those quotes marked. -/
def quoteChars (shows : Char → Bool) (t : List Char) : List Char :=
  enclose (quoteFor t) shows t

/-- A text between quotes. -/
def quote (text : String) : String :=
  String.ofList (quoteChars (fun c ↦ decide (IsPrintable c)) text.toList)

/-- The character of a byte shows as itself. -/
def showsByte (c : Char) : Bool :=
  decide (c.toNat < 0x7F ∧ IsPrintable c)

/-- The characters whose codes are the given bytes. -/
def byteChars (bytes : List UInt8) : List Char :=
  bytes.map fun b ↦ Char.ofNat b.toNat

/-- Bytes between quotes. -/
def quoteBytes (bytes : List UInt8) : String :=
  String.ofList ('b' :: quoteChars showsByte (byteChars bytes))

/-- A buffer of bytes, with the bytes between quotes. -/
def quoteBuffer (bytes : List UInt8) : String :=
  "bytearray(b" ++ String.ofList (enclose '\x27' showsByte (byteChars bytes)) ++ ")"

end Quoted

/-! ### Listings -/

/-- What stands around the items of a listing. -/
inductive Brackets where
  | square
  | round
  deriving DecidableEq, Repr

/-- The listing of items. In round brackets a comma follows an only item, lest the brackets be taken
for mere grouping. -/
def Brackets.listing : Brackets → List String → String
  | square, items => "[" ++ String.intercalate ", " items ++ "]"
  | round, [item] => "(" ++ item ++ ",)"
  | round, items => "(" ++ String.intercalate ", " items ++ ")"

end DirectoryAccount
