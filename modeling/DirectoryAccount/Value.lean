import DirectoryAccount.Failure
import DirectoryAccount.Table
import DirectoryAccount.Text.Integer
import DirectoryAccount.Text.Quoted
import DirectoryAccount.Text.Utf8

/-!
# Values of directory attributes

Directory clients hand over the attributes of an entry in many shapes: one value or several, as
text, as bytes, as numbers, as sequences in sequences, or as objects of their own that may fail when
they are looked at. `Bag` holds them by name, and `Slot.reading` says which text such a slot stands
for.

**Only the first value counts**, and what lies behind it is never looked at. There are three
outcomes, and they are kept apart: a text, nothing there, and something there that could not be
read.

**A sequence gives up its first value only once.** If that value is a sequence in its turn, its text
is the listing of all its items, in which texts and bytes stand between quotes.
-/

namespace DirectoryAccount

/-- What a client hands over for an attribute, or for a part of it. -/
inductive Value where
  /-- A place that is there with nothing in it. -/
  | missing
  | text (text : String)
  | truth (isTrue : Bool)
  | number (n : Int)
  | bytes (bytes : List UInt8)
  /-- Bytes in a buffer, which shows itself as one. -/
  | buffer (bytes : List UInt8)
  /-- An object of the client's own, with the text that it shows itself as. -/
  | object (text : String)
  /-- An object of the client's own that fails to show itself. -/
  | brokenObject (reason : String)
  | sequence (brackets : Brackets) (items : List Value)
  deriving Repr

/-- What a client answers when it is asked for an attribute. -/
inductive Slot where
  /-- The client fails to look the attribute up. -/
  | brokenLookup (reason : String)
  | value (value : Value)
  /-- Values in order, and a failure that follows the last of them. -/
  | brokenSequence (values : List Value) (reason : String)
  deriving Repr

/-- What comes of reading an attribute. -/
inductive Reading where
  | absent
  | found (text : String)
  | failed (reason : String)
  deriving DecidableEq, Repr

/-- The attributes of one entry by name. -/
abbrev Bag := Table Slot

/-! ### Values as text -/

/-- The text that shows a truth value. -/
def truthText (b : Bool) : String :=
  if b then "True" else "False"

/-- The failure to write down a number of too many digits. -/
def tooManyDigitsToShow : String :=
  "Exceeds the limit (" ++ toString Integer.maxDigits ++
    " digits) for integer string conversion; use sys.set_int_max_str_digits() to increase the limit"

namespace Value

mutual

/-- The text of a value in a listing, or why it has none. -/
def itemText : Value → Except String String
  | missing => .ok "None"
  | text t => .ok (Quoted.quote t)
  | truth b => .ok (truthText b)
  | number n =>
    match Integer.text? n with
    | some t => .ok t
    | none => .error tooManyDigitsToShow
  | bytes bs => .ok (Quoted.quoteBytes bs)
  | buffer bs => .ok (Quoted.quoteBuffer bs)
  | object t => .ok t
  | brokenObject reason => .error reason
  | sequence brackets items => (itemTexts items).map brackets.listing

/-- The texts of all values of a listing, or why the first that has none has none. -/
def itemTexts : List Value → Except String (List String)
  | [] => .ok []
  | v :: vs => do
    let t ← itemText v
    let ts ← itemTexts vs
    pure (t :: ts)

end

theorem itemTexts_eq_mapM (vs : List Value) : itemTexts vs = vs.mapM itemText := by
  induction vs with
  | nil => simp [itemTexts, pure, Except.pure]
  | cons v vs ih => simp [itemTexts, ih]

/-- The text of a value on its own, or why it has none. Other than in a listing, a text stands for
itself. -/
def shown : Value → Except String String
  | text t => .ok t
  | v => v.itemText

/-- What comes of reading a value. Bytes are read for the text that they encode. -/
def reading : Value → Reading
  | missing => .absent
  | bytes bs | buffer bs =>
    match Utf8.decode bs with
    | .ok t => .found t
    | .error fault => .failed fault.message
  | v =>
    match v.shown with
    | .ok t => .found t
    | .error reason => .failed reason

end Value

/-- What comes of reading the first of several values. -/
def firstReading : List Value → Reading
  | [] => .absent
  | v :: _ => v.reading

/-- What comes of reading a slot. -/
def Slot.reading : Slot → Reading
  | brokenLookup reason => .failed reason
  | value (.sequence _ items) => firstReading items
  | value v => v.reading
  | brokenSequence [] reason => .failed reason
  | brokenSequence values _ => firstReading values

/-- What comes of reading the attribute with the given name. -/
def Bag.reading (bag : Bag) (name : String) : Reading :=
  match bag.get? name with
  | none => .absent
  | some slot => slot.reading

/-! ### Texts that stand for truth values -/

/-- A text is this word, given in small letters, in any case of its ASCII letters. -/
def IsWord (word text : String) : Prop :=
  text.toList.map Char.toLower = word.toList

instance (word text : String) : Decidable (IsWord word text) :=
  inferInstanceAs (Decidable (_ = _))

theorem isWord_iff {word text : String} : IsWord word text ↔ text.toLower = word := by
  rw [IsWord, ← String.toList_map, String.toList_inj]
  rfl

/-- The directory's word for truth; all other texts stand for falsehood. -/
def isTrueText (text : String) : Bool :=
  decide (IsWord "true" text)

theorem not_isTrueText (text : String) : (!isTrueText text) = decide (text.toLower ≠ "true") := by
  rw [isTrueText, decide_not, decide_eq_decide.2 isWord_iff]

/-- A text that may be missing stands for truth. -/
def saysTrue : Option String → Bool
  | none => false
  | some text => isTrueText text

/-! ### Values offered as times -/

/-- The instant that a value names. Only texts name instants, and the complaint about any other
value shows it. -/
def readTimeValue : Value → Except Failure Instant
  | .text t => readTime t
  | v =>
    match v.shown with
    | .ok t => .error (.malformedTime t Failure.defaultReason)
    | .error reason => .error (.unshowable reason)

end DirectoryAccount
