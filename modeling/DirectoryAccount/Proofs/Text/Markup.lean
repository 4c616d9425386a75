import DirectoryAccount.Proofs.Text.Tags
import Mathlib.Algebra.Ring.Parity

/-!
# Escaped texts

Escaping changes the number of backslashes before each tag, and nothing else in a text but the last
backslash. So does reading the escaped text. Both are `Markup.replaceRuns` for a function of the
numbers.

**Other numbers of backslashes make no tag and unmake none**, `Markup.pieces_replaceRuns`: the
pieces of the changed text are those of the old one with the new numbers. So an escaped text has the
tags of the text, `Markup.exists_tagAt_escapeChars_iff`. Escaping makes all numbers odd, so that no
tag is live, and halving them undoes it, `Markup.unescapeChars_escapeChars`.

The backslash that escaping may put at the end stands before no tag, so it stays.
-/

namespace DirectoryAccount

namespace Markup

/-- Changes the number of backslashes before a tag. -/
def Piece.map (f : ℕ → ℕ) : Piece → Piece
  | .plain c => .plain c
  | .opening k => .opening (f k)

/-- What the pieces of `k` backslashes and then a text make up with other numbers of backslashes
before the tags. -/
def replaceRunsAfter (f : ℕ → ℕ) (k : ℕ) (t : List Char) : List Char :=
  textOf ((piecesAfter k t).map (.map f))

/-- The text with another number of backslashes before each of its tags. -/
def replaceRuns (f : ℕ → ℕ) (t : List Char) : List Char :=
  replaceRunsAfter f 0 t

/-- The text with `k` for every `2 * k + 1` backslashes before a tag, which is what is shown of a
text without live tags. -/
def unescapeChars (t : List Char) : List Char :=
  replaceRuns (· / 2) t

/-! ### Other backslashes before the tags -/

variable {k : ℕ} {c : Char} {t before tag after : List Char}

section ReplaceRuns

variable (f g : ℕ → ℕ)

@[simp] theorem replaceRunsAfter_nil (k : ℕ) :
    replaceRunsAfter f k [] = List.replicate k '\\' := by
  simp [replaceRunsAfter, piecesAfter, Piece.map]

theorem replaceRunsAfter_backslash (k : ℕ) (t : List Char) :
    replaceRunsAfter f k ('\\' :: t) = replaceRunsAfter f (k + 1) t := by
  rw [replaceRunsAfter, piecesAfter_backslash, replaceRunsAfter]

theorem replaceRunsAfter_tag (k : ℕ) (htag : completesTag t) :
    replaceRunsAfter f k ('[' :: t) =
      List.replicate (f k) '\\' ++ '[' :: replaceRunsAfter f 0 t := by
  rw [replaceRunsAfter, piecesAfter_tag k htag, pieces]
  simp [Piece.map, Piece.text, replaceRunsAfter]

theorem replaceRunsAfter_plain (k : ℕ) (hc : c ≠ '\\') (htag : ¬(c = '[' ∧ completesTag t)) :
    replaceRunsAfter f k (c :: t) =
      List.replicate k '\\' ++ c :: replaceRunsAfter f 0 t := by
  rw [replaceRunsAfter, piecesAfter_plain k hc htag, pieces]
  simp [Piece.map, Piece.text, replaceRunsAfter]

theorem closes_replaceRunsAfter (k : ℕ) (t : List Char) :
    closes (replaceRunsAfter f k t) = closes t := by
  fun_induction piecesAfter k t with
  | case1 k =>
    rw [replaceRunsAfter_nil, ← List.append_nil (List.replicate k _), closes_replicate_append]
  | case2 k rest ih =>
    rw [replaceRunsAfter_backslash, ih, closes, if_neg (by decide), if_neg (by decide)]
  | case3 k c rest hc htag ih =>
    obtain ⟨rfl, htag⟩ := htag
    rw [replaceRunsAfter_tag f k htag, closes_replicate_append]
    rfl
  | case4 k c rest hc htag ih =>
    rw [replaceRunsAfter_plain f k hc htag, closes_replicate_append, closes, ih, closes]

/-- With backslashes before it, a text completes no tag, and with other numbers of backslashes it
does not either. -/
theorem completesTag_replaceRunsAfter_succ (k : ℕ) (t : List Char) :
    completesTag (replaceRunsAfter f (k + 1) t) = false := by
  induction t generalizing k with
  | nil =>
    rw [replaceRunsAfter_nil]
    rfl
  | cons c rest ih =>
    by_cases hc : c = '\\'
    · rw [hc, replaceRunsAfter_backslash, ih]
    · by_cases htag : c = '[' ∧ completesTag rest
      · rw [htag.1, replaceRunsAfter_tag f _ htag.2]
        exact (standsApart_replicate_append _ _).2
      · rw [replaceRunsAfter_plain f _ hc htag, completesTag_replicate_succ_append]

theorem completesTag_replaceRuns (t : List Char) :
    completesTag (replaceRuns f t) = completesTag t := by
  rw [replaceRuns]
  cases t with
  | nil => rfl
  | cons c rest =>
    by_cases hc : c = '\\'
    · rw [hc, replaceRunsAfter_backslash, completesTag_replaceRunsAfter_succ]
      rfl
    · by_cases htag : c = '[' ∧ completesTag rest
      · rw [htag.1, replaceRunsAfter_tag f _ htag.2, (standsApart_replicate_append _ _).2]
        rfl
      · rw [replaceRunsAfter_plain f _ hc htag, List.replicate_zero, List.nil_append, completesTag,
          closes_replaceRunsAfter, completesTag]

/-- **Other numbers of backslashes before the tags make no tag and unmake none.** -/
theorem pieces_replaceRunsAfter (k : ℕ) (t : List Char) :
    pieces (replaceRunsAfter f k t) = (piecesAfter k t).map (.map f) := by
  fun_induction piecesAfter k t with
  | case1 k =>
    rw [replaceRunsAfter_nil, ← List.append_nil (List.replicate k _), pieces_replicate_append,
      piecesAfter, List.map_replicate, Piece.map]
  | case2 k rest ih => rw [replaceRunsAfter_backslash, ih]
  | case3 k c rest hc htag ih =>
    obtain ⟨rfl, htag⟩ := htag
    have hcompletes : completesTag (replaceRunsAfter f 0 rest) := by
      rwa [← completesTag_replaceRuns f rest] at htag
    rw [replaceRunsAfter_tag f k htag, pieces_replicate_append, piecesAfter_tag _ hcompletes, ih,
      List.map_cons, Piece.map]
  | case4 k c rest hc htag ih =>
    have hcompletes : ¬(c = '[' ∧ completesTag (replaceRunsAfter f 0 rest)) := by
      rwa [← replaceRuns, completesTag_replaceRuns]
    rw [replaceRunsAfter_plain f k hc htag, pieces_replicate_append,
      piecesAfter_plain _ hc hcompletes, ih, List.map_append, List.map_cons, List.map_replicate,
      Piece.map, Piece.map]

theorem pieces_replaceRuns (t : List Char) :
    pieces (replaceRuns f t) = (pieces t).map (.map f) :=
  pieces_replaceRunsAfter f 0 t

theorem replaceRuns_replaceRuns (t : List Char) :
    replaceRuns g (replaceRuns f t) = replaceRuns (g ∘ f) t := by
  have hcomp (p : Piece) : (p.map f).map g = p.map (g ∘ f) := by cases p <;> rfl
  rw [replaceRuns, replaceRunsAfter, ← pieces, pieces_replaceRuns, List.map_map, replaceRuns,
    replaceRunsAfter, ← pieces]
  exact congrArg textOf (List.map_congr_left fun p _ ↦ hcomp p)

theorem replaceRuns_id (t : List Char) : replaceRuns id t = t := by
  have hid (p : Piece) : p.map id = id p := by cases p <;> rfl
  rw [replaceRuns, replaceRunsAfter, funext hid, List.map_id, ← pieces, textOf_pieces]

/-- A backslash at the end is before no tag. -/
theorem replaceRuns_append_backslash (t : List Char) :
    replaceRuns f (t ++ ['\\']) = replaceRuns f t ++ ['\\'] := by
  rw [replaceRuns, replaceRunsAfter, ← pieces, pieces_append_backslash, List.map_append,
    textOf_append]
  rfl

/-- The backslashes at the end are as many as they were. -/
theorem replicate_suffix_replaceRunsAfter_iff (m k : ℕ) (t : List Char) :
    List.replicate m '\\' <:+ replaceRunsAfter f k t ↔
      List.replicate m '\\' <:+ List.replicate k '\\' ++ t := by
  fun_induction piecesAfter k t with
  | case1 k => rw [replaceRunsAfter_nil, List.append_nil]
  | case2 k rest ih =>
    rw [replaceRunsAfter_backslash, ih, List.replicate_succ', List.append_assoc,
      List.singleton_append]
  | case3 k c rest hc htag ih =>
    obtain ⟨rfl, htag⟩ := htag
    rw [replaceRunsAfter_tag f k htag, replicate_suffix_append_cons_iff hc, ih,
      replicate_suffix_append_cons_iff hc, List.replicate_zero, List.nil_append]
  | case4 k c rest hc htag ih =>
    rw [replaceRunsAfter_plain f k hc htag, replicate_suffix_append_cons_iff hc, ih,
      replicate_suffix_append_cons_iff hc, List.replicate_zero, List.nil_append]

theorem endsInLoneBackslash_replaceRuns_iff (t : List Char) :
    EndsInLoneBackslash (replaceRuns f t) ↔ EndsInLoneBackslash t :=
  and_congr (replicate_suffix_replaceRunsAfter_iff f 1 0 t)
    (not_congr (replicate_suffix_replaceRunsAfter_iff f 2 0 t))

end ReplaceRuns

/-! ### Escaping -/

/-- **Escaping changes the backslashes before each tag.** -/
theorem escapeAfter_eq (k : ℕ) (t : List Char) :
    escapeAfter k t = replaceRunsAfter (2 * · + 1) k t := by
  fun_induction escapeAfter k t with
  | case1 k => rw [replaceRunsAfter_nil]
  | case2 k rest ih => rw [replaceRunsAfter_backslash, ih]
  | case3 k c rest hc htag ih =>
    obtain ⟨rfl, htag⟩ := htag
    rw [replaceRunsAfter_tag _ k htag, ih]
  | case4 k c rest hc htag ih => rw [replaceRunsAfter_plain _ k hc htag, ih]

/-- The backslash that escaping puts behind a text. -/
def closingBackslash (t : List Char) : List Char :=
  if EndsInLoneBackslash t then ['\\'] else []

theorem escapeChars_eq (t : List Char) :
    escapeChars t = replaceRuns (2 * · + 1) t ++ closingBackslash t := by
  rw [escapeChars, escapeAfter_eq, ← replaceRuns, closingBackslash]
  simp only [endsInLoneBackslash_replaceRuns_iff]
  split
  · rfl
  · rw [List.append_nil]

/-- **An escaped text is shown as the text**, but for the backslash behind it. -/
theorem unescapeChars_escapeChars (t : List Char) :
    unescapeChars (escapeChars t) = t ++ closingBackslash t := by
  have hhalf : (· / 2) ∘ (2 * · + 1) = (id : ℕ → ℕ) := by
    funext k
    simp only [Function.comp_apply, id]
    omega
  have hinverse : unescapeChars (replaceRuns (2 * · + 1) t) = t := by
    rw [unescapeChars, replaceRuns_replaceRuns, hhalf, replaceRuns_id]
  rw [escapeChars_eq, closingBackslash]
  split
  · rw [unescapeChars, replaceRuns_append_backslash, ← unescapeChars, hinverse]
  · rw [List.append_nil, List.append_nil, hinverse]

/-- A bracket that is no tag, a tag, a tag behind a backslash, and a backslash at the end. -/
example : escapeChars "[[b]\\[/]\\".toList = "[\\[b]\\\\\\[/]\\\\".toList := by
  decide +kernel

/-- The pieces of an escaped text are those of the text with the new numbers of backslashes, and the
backslash behind it. -/
theorem pieces_escapeChars (t : List Char) : pieces (escapeChars t) =
    (pieces t).map (.map (2 * · + 1)) ++ (closingBackslash t).map .plain := by
  rw [escapeChars_eq, closingBackslash, ← pieces_replaceRuns]
  split
  · exact pieces_append_backslash _
  · rw [List.append_nil, List.map_nil, List.append_nil]

/-- **The tags of an escaped text are those of the text**, each behind one more than twice as many
backslashes. -/
theorem exists_tagAt_escapeChars_iff :
    (∃ before tag after, TagAt (escapeChars t) before k tag after) ↔
      ∃ j, k = 2 * j + 1 ∧ ∃ before tag after, TagAt t before j tag after := by
  simp only [← opening_mem_pieces_iff, pieces_escapeChars, List.mem_append, List.mem_map]
  constructor
  · rintro (⟨p, hp, heq⟩ | ⟨c, -, heq⟩)
    · cases p with
      | plain c => cases heq
      | opening j => exact ⟨j, (Piece.opening.inj heq).symm, hp⟩
    · cases heq
  · rintro ⟨j, rfl, hj⟩
    exact .inl ⟨.opening j, hj, rfl⟩

/-- No tag of an escaped text is live. -/
theorem TagAt.odd_of_escapeChars (h : TagAt (escapeChars t) before k tag after) : Odd k := by
  obtain ⟨j, hj, -⟩ := exists_tagAt_escapeChars_iff.1 ⟨before, tag, after, h⟩
  exact ⟨j, hj⟩

end Markup

end DirectoryAccount
