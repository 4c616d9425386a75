import DirectoryAccount.Text.Markup
import Mathlib.Data.List.Basic
import Mathlib.Data.List.Infix

/-!
# Tags in texts

Which characters of a text are a tag is said twice. `Markup.TagAt` says it of one place: some
backslashes, all that stand there, then a bracket, the start of a tag and no further bracket before
the closing one. `Markup.pieces` goes through the whole text and takes it apart, so that each tag
shows as its opening bracket with the number of backslashes before it.

**The tags of a text are the opening brackets among its pieces**, `Markup.opening_mem_pieces_iff`.
So the one way of speaking is there for statements, and the other for proofs by recursion.

Texts put one behind the other have the tags of each, unless a tag opens in the first of them and
closes in the second. `Markup.TagAt.of_append` says so for a first text in which all is closed.
-/

namespace DirectoryAccount

namespace Markup

/-! ### Tags in their places -/

/-- An opening bracket, the start of a tag, and then no bracket up to the first closing one. -/
def IsTag (tag : List Char) : Prop :=
  ∃ c inside, tag = '[' :: c :: inside ++ [']'] ∧ IsTagStart c ∧ ∀ d ∈ inside, d ≠ '[' ∧ d ≠ ']'

/-- Somewhere in a text stand so many backslashes, no more, and right behind them a tag. -/
structure TagAt (t before : List Char) (k : ℕ) (tag after : List Char) : Prop where
  eq_append : t = before ++ List.replicate k '\\' ++ tag ++ after
  isTag : IsTag tag
  no_more : ¬['\\'] <:+ before

/-! ### Pieces -/

/-- A character, or the opening bracket of a tag with the backslashes before it. -/
inductive Piece where
  | plain (c : Char)
  | opening (backslashes : ℕ)
  deriving DecidableEq, Repr

namespace Piece

/-- The characters of a piece. -/
def text : Piece → List Char
  | plain c => [c]
  | opening k => List.replicate k '\\' ++ ['[']

end Piece

/-- The pieces of `k` backslashes and then a text. -/
def piecesAfter (k : ℕ) : List Char → List Piece
  | [] => List.replicate k (.plain '\\')
  | c :: rest =>
    if c = '\\' then piecesAfter (k + 1) rest
    else if c = '[' ∧ completesTag rest then .opening k :: piecesAfter 0 rest
    else List.replicate k (.plain '\\') ++ .plain c :: piecesAfter 0 rest

/-- The pieces of a text. -/
def pieces (t : List Char) : List Piece :=
  piecesAfter 0 t

/-- The text that pieces make up. -/
def textOf (ps : List Piece) : List Char :=
  ps.flatMap Piece.text

variable {k : ℕ} {c : Char} {t u before tag after : List Char}

@[simp] theorem textOf_nil : textOf [] = [] := rfl

@[simp] theorem textOf_cons (p : Piece) (ps : List Piece) :
    textOf (p :: ps) = p.text ++ textOf ps := rfl

@[simp] theorem textOf_append (ps qs : List Piece) : textOf (ps ++ qs) = textOf ps ++ textOf qs :=
  List.flatMap_append

@[simp] theorem textOf_replicate_plain (k : ℕ) (c : Char) :
    textOf (List.replicate k (.plain c)) = List.replicate k c := by
  induction k with
  | zero => rfl
  | succ k ih => rw [List.replicate_succ, textOf_cons, ih, List.replicate_succ]; rfl

theorem piecesAfter_backslash (k : ℕ) (t : List Char) :
    piecesAfter k ('\\' :: t) = piecesAfter (k + 1) t := by
  rw [piecesAfter, if_pos rfl]

theorem piecesAfter_tag (k : ℕ) (htag : completesTag t) :
    piecesAfter k ('[' :: t) = .opening k :: pieces t := by
  rw [piecesAfter, if_neg (by decide), if_pos ⟨rfl, htag⟩, pieces]

theorem piecesAfter_plain (k : ℕ) (hc : c ≠ '\\') (htag : ¬(c = '[' ∧ completesTag t)) :
    piecesAfter k (c :: t) = List.replicate k (.plain '\\') ++ .plain c :: pieces t := by
  rw [piecesAfter, if_neg hc, if_neg htag, pieces]

/-- Backslashes in front of a text count as those before it. -/
theorem piecesAfter_replicate_append (k m : ℕ) (u : List Char) :
    piecesAfter k (List.replicate m '\\' ++ u) = piecesAfter (k + m) u := by
  induction m generalizing k with
  | zero => rfl
  | succ m ih =>
    rw [List.replicate_succ, List.cons_append, piecesAfter_backslash, ih, Nat.add_right_comm,
      Nat.add_assoc]

theorem pieces_replicate_append (k : ℕ) (u : List Char) :
    pieces (List.replicate k '\\' ++ u) = piecesAfter k u := by
  rw [pieces, piecesAfter_replicate_append, Nat.zero_add]

/-- The pieces make up the text. -/
theorem textOf_piecesAfter (k : ℕ) (t : List Char) :
    textOf (piecesAfter k t) = List.replicate k '\\' ++ t := by
  fun_induction piecesAfter k t with
  | case1 k => simp
  | case2 k rest ih => rw [ih, List.replicate_succ', List.append_assoc, List.singleton_append]
  | case3 k c rest _ htag ih => simp [ih, htag.1, Piece.text]
  | case4 k c rest _ _ ih => simp [ih, Piece.text]

theorem textOf_pieces (t : List Char) : textOf (pieces t) = t :=
  textOf_piecesAfter 0 t

/-- Backslashes at the end stand behind all other characters. -/
theorem replicate_suffix_append_cons_iff (hc : c ≠ '\\') (m : ℕ) (before after : List Char) :
    List.replicate m '\\' <:+ before ++ c :: after ↔ List.replicate m '\\' <:+ after := by
  have hafter : after <:+ before ++ c :: after := ⟨before ++ [c], by simp⟩
  refine ⟨fun h ↦ ?_, fun h ↦ h.trans hafter⟩
  rcases List.suffix_or_suffix_of_suffix h (List.suffix_append before (c :: after)) with h | h
  · exact (List.suffix_cons_iff.1 h).resolve_left fun heq ↦
      absurd (List.eq_of_mem_replicate (heq ▸ List.mem_cons_self)) hc
  · exact absurd (List.eq_of_mem_replicate (h.subset List.mem_cons_self)) hc

theorem backslash_suffix_of_prefix_replicate (hne : t ≠ []) (h : t <+: List.replicate k '\\') :
    ['\\'] <:+ t := by
  obtain ⟨-, ht⟩ := List.prefix_replicate_iff.1 h
  obtain ⟨j, hj⟩ := Nat.exists_eq_succ_of_ne_zero (List.length_pos_of_ne_nil hne).ne'
  rw [ht, hj, List.replicate_succ']
  exact List.suffix_append _ _

/-! ### What completes a tag -/

/-- A text that completes no tag which a bracket before it opens. -/
def StandsApart (u : List Char) : Prop :=
  closes u = false ∧ completesTag u = false

instance : DecidablePred StandsApart :=
  fun _ ↦ inferInstanceAs (Decidable (_ ∧ _))

@[simp] theorem closes_replicate_append (k : ℕ) (u : List Char) :
    closes (List.replicate k '\\' ++ u) = closes u := by
  induction k with
  | zero => rfl
  | succ k ih => rw [List.replicate_succ, List.cons_append, closes, if_neg (by decide),
      if_neg (by decide), ih]

@[simp] theorem completesTag_replicate_succ_append (k : ℕ) (u : List Char) :
    completesTag (List.replicate (k + 1) '\\' ++ u) = false :=
  rfl

/-- Text up to an opening bracket stands apart, if there is nothing but backslashes in it. -/
theorem standsApart_replicate_append (k : ℕ) (u : List Char) :
    StandsApart (List.replicate k '\\' ++ '[' :: u) := by
  refine ⟨by rw [closes_replicate_append]; rfl, ?_⟩
  cases k <;> rfl

theorem closes_append (hu : closes u = false) (t : List Char) : closes (t ++ u) = closes t := by
  fun_induction closes t with
  | case1 => exact hu
  | case2 rest => rfl
  | case3 rest _ => rfl
  | case4 c rest hclosing hopening ih =>
    rw [List.cons_append, closes, if_neg hclosing, if_neg hopening, ih]

theorem StandsApart.completesTag_append (hu : StandsApart u) (t : List Char) :
    completesTag (t ++ u) = completesTag t := by
  cases t with
  | nil => exact hu.2
  | cons c rest => rw [List.cons_append, completesTag, closes_append hu.1, completesTag]

theorem closes_eq_true_iff : closes t = true ↔
    ∃ inside after, t = inside ++ ']' :: after ∧ ∀ d ∈ inside, d ≠ '[' ∧ d ≠ ']' := by
  fun_induction closes t with
  | case1 => simp
  | case2 rest => exact ⟨fun _ ↦ ⟨[], rest, rfl, by simp⟩, fun _ ↦ rfl⟩
  | case3 rest hne =>
    refine ⟨fun h ↦ absurd h (by decide), ?_⟩
    rintro ⟨- | ⟨d, inside⟩, after, ht, hinside⟩
    · cases ht
    · obtain ⟨rfl, -⟩ := List.cons.inj ht
      exact absurd rfl (hinside _ List.mem_cons_self).1
  | case4 c rest hclosing hopening ih =>
    rw [ih]
    constructor
    · rintro ⟨inside, after, rfl, hinside⟩
      exact ⟨c :: inside, after, rfl, List.forall_mem_cons.2 ⟨⟨hopening, hclosing⟩, hinside⟩⟩
    · rintro ⟨- | ⟨d, inside⟩, after, ht, hinside⟩
      · exact absurd (List.cons.inj ht).1 hclosing
      · obtain ⟨rfl, rfl⟩ := List.cons.inj ht
        exact ⟨inside, after, rfl, (List.forall_mem_cons.1 hinside).2⟩

/-- **An opening bracket is read as the start of a tag just if a tag starts there.** -/
theorem completesTag_eq_true_iff :
    completesTag t = true ↔ ∃ tag after, IsTag tag ∧ '[' :: t = tag ++ after := by
  cases t with
  | nil =>
    refine ⟨fun h ↦ absurd h (by decide), ?_⟩
    rintro ⟨_, after, ⟨c, inside, rfl, -, -⟩, ht⟩
    cases ht
  | cons c rest =>
    rw [completesTag, Bool.and_eq_true, decide_eq_true_iff, closes_eq_true_iff]
    constructor
    · rintro ⟨hc, inside, after, rfl, hinside⟩
      exact ⟨'[' :: c :: inside ++ [']'], after, ⟨c, inside, rfl, hc, hinside⟩, by simp⟩
    · rintro ⟨_, after, ⟨d, inside, rfl, hd, hinside⟩, ht⟩
      simp only [List.cons_append, List.cons.injEq, true_and, List.append_assoc] at ht
      obtain ⟨rfl, rfl⟩ := ht
      exact ⟨hd, inside, after, by simp, hinside⟩

/-! ### Every tag shows as a piece -/

/-- The pieces of two texts are those of each, if the second stands apart and the backslashes at the
end of the first stand before no tag of it. -/
theorem piecesAfter_append (hu : StandsApart u) (k : ℕ) (t : List Char)
    (h : ∀ j, List.replicate j '\\' <:+ List.replicate k '\\' ++ t →
      piecesAfter j u = List.replicate j (.plain '\\') ++ pieces u) :
    piecesAfter k (t ++ u) = piecesAfter k t ++ pieces u := by
  fun_induction piecesAfter k t with
  | case1 k => exact h k (by rw [List.append_nil])
  | case2 k rest ih =>
    rw [List.cons_append, piecesAfter_backslash]
    refine ih fun j hj ↦ h j ?_
    rwa [List.replicate_succ', List.append_assoc, List.singleton_append] at hj
  | case3 k c rest hc htag ih =>
    obtain ⟨rfl, htag⟩ := htag
    rw [List.cons_append, piecesAfter_tag k (hu.completesTag_append rest ▸ htag), pieces,
      ih fun j hj ↦ h j (hj.trans ⟨List.replicate k '\\' ++ ['['], by simp⟩), List.cons_append]
  | case4 k c rest hc htag ih =>
    rw [List.cons_append, piecesAfter_plain k hc (by rwa [hu.completesTag_append]), pieces,
      ih fun j hj ↦ h j (hj.trans ⟨List.replicate k '\\' ++ [c], by simp⟩), List.append_assoc,
      List.cons_append]

/-- A backslash at the end is a piece of its own. -/
theorem pieces_append_backslash (t : List Char) :
    pieces (t ++ ['\\']) = pieces t ++ [.plain '\\'] :=
  piecesAfter_append (by decide) 0 t fun _ _ ↦ List.replicate_succ'

/-- **A tag in a text is one of the pieces**, with all backslashes before it. -/
theorem TagAt.pieces_eq (h : TagAt t before k tag after) :
    pieces t = pieces before ++ .opening k :: pieces (tag.tail ++ after) := by
  obtain ⟨c, inside, rfl, hc, hinside⟩ := h.isTag
  have htag : completesTag (c :: inside ++ [']'] ++ after) = true :=
    completesTag_eq_true_iff.2 ⟨_, after, h.isTag, rfl⟩
  have hopening : pieces (List.replicate k '\\' ++ '[' :: (c :: inside ++ [']'] ++ after)) =
      .opening k :: pieces (c :: inside ++ [']'] ++ after) := by
    rw [pieces_replicate_append, piecesAfter_tag k htag]
  have ht : t = before ++ (List.replicate k '\\' ++ '[' :: (c :: inside ++ [']'] ++ after)) := by
    rw [h.eq_append]
    simp
  rw [ht, pieces, piecesAfter_append (standsApart_replicate_append k _) 0 before, hopening]
  · rfl
  · rintro (- | j) hj
    · rfl
    · exact absurd ((List.suffix_append _ _).trans (List.replicate_succ' ▸ hj)) h.no_more

/-- An opening bracket among the pieces completes a tag, and no backslash before it is left out. -/
theorem completesTag_of_piecesAfter_eq {ps qs : List Piece} {j : ℕ}
    (h : piecesAfter j t = ps ++ .opening k :: qs) :
    completesTag (textOf qs) ∧ ¬['\\'] <:+ textOf ps := by
  -- No opening bracket is among the backslashes that stand before none.
  have hnone {j : ℕ} : .opening k ∉ List.replicate j (Piece.plain '\\') := fun hmem ↦ by
    cases List.eq_of_mem_replicate hmem
  fun_induction piecesAfter j t generalizing ps with
  | case1 j => exact absurd (h ▸ List.mem_append_right ps List.mem_cons_self) hnone
  | case2 j rest ih => exact ih h
  | case3 j c rest hc htag ih =>
    cases ps with
    | nil =>
      obtain ⟨-, rfl⟩ := List.cons.inj h
      rw [← pieces, textOf_pieces]
      exact ⟨htag.2, by decide⟩
    | cons p ps =>
      obtain ⟨rfl, hrest⟩ := List.cons.inj h
      obtain ⟨hcompletes, hmore⟩ := ih hrest
      refine ⟨hcompletes, ?_⟩
      rw [textOf_cons, Piece.text, List.append_assoc, List.singleton_append]
      exact (replicate_suffix_append_cons_iff (by decide) 1 _ _).not.2 hmore
  | case4 j c rest hc htag ih =>
    rcases List.append_eq_append_iff.1 h with ⟨ps', rfl, hrest⟩ | ⟨more, hrun, hrest⟩
    · cases ps' with
      | nil => cases hrest
      | cons p ps' =>
        obtain ⟨rfl, htail⟩ := List.cons.inj hrest
        obtain ⟨hcompletes, hmore⟩ := ih htail
        refine ⟨hcompletes, ?_⟩
        rw [textOf_append, textOf_cons, Piece.text, List.singleton_append]
        exact (replicate_suffix_append_cons_iff hc 1 _ _).not.2 hmore
    · cases more with
      | nil => cases hrest
      | cons p more =>
        obtain ⟨rfl, -⟩ := List.cons.inj hrest
        exact absurd (hrun ▸ List.mem_append_right ps List.mem_cons_self) hnone

/-- **The tags of a text are the opening brackets among its pieces.** -/
theorem opening_mem_pieces_iff :
    .opening k ∈ pieces t ↔ ∃ before tag after, TagAt t before k tag after := by
  constructor
  · intro hmem
    obtain ⟨ps, qs, hpieces⟩ := List.append_of_mem hmem
    obtain ⟨hcompletes, hmore⟩ := completesTag_of_piecesAfter_eq hpieces
    obtain ⟨tag, after, htag, hqs⟩ := completesTag_eq_true_iff.1 hcompletes
    refine ⟨textOf ps, tag, after, ?_, htag, hmore⟩
    rw [← textOf_pieces t, hpieces, textOf_append, textOf_cons, Piece.text]
    simp [hqs]
  · rintro ⟨before, tag, after, h⟩
    rw [h.pieces_eq]
    exact List.mem_append_right _ List.mem_cons_self

/-! ### What stands in front -/

/-- No bracket and no backslash of the text can be of a tag that ends behind it. -/
def IsSealed (t : List Char) : Prop :=
  (∀ rest ∈ t.tails, rest.head? = some '[' → ']' ∈ rest) ∧ ¬['\\'] <:+ t

instance : DecidablePred IsSealed :=
  fun _ ↦ inferInstanceAs (Decidable (_ ∧ _))

/-- A tag closes with its last character only. -/
theorem IsTag.closing_notMem (htag : IsTag (t ++ u)) (hu : u ≠ []) : ']' ∉ t := by
  obtain ⟨c, inside, heq, hc, hinside⟩ := htag
  -- What stands before the last character is the opening bracket, the start and the inside.
  have hfront : t ++ u.dropLast = '[' :: c :: inside := by
    rw [← List.dropLast_append_of_ne_nil hu, heq, List.dropLast_concat]
  intro hmem
  have hmem : ']' ∈ '[' :: c :: inside := hfront ▸ List.mem_append_left _ hmem
  rcases List.mem_cons.1 hmem with h | hmem
  · exact absurd h (by decide)
  · rcases List.mem_cons.1 hmem with rfl | hmem
    · exact absurd hc (by decide)
    · exact (hinside _ hmem).2 rfl

/-- **A tag in a text behind a sealed one is in either of them.** -/
theorem TagAt.of_append (h : TagAt (t ++ u) before k tag after) (ht : IsSealed t) :
    before ++ List.replicate k '\\' ++ tag <+: t ∨
      ∃ before', before = t ++ before' ∧ TagAt u before' k tag after := by
  have heq : t ++ u = before ++ (List.replicate k '\\' ++ (tag ++ after)) := by
    rw [h.eq_append, List.append_assoc, List.append_assoc]
  rcases List.append_eq_append_iff.1 heq with ⟨before', rfl, hu⟩ | ⟨more, rfl, hmore⟩
  · refine .inr ⟨before', rfl, by rw [hu, List.append_assoc, List.append_assoc], h.isTag,
      fun hsuffix ↦ h.no_more (hsuffix.trans (List.suffix_append t before'))⟩
  rcases eq_or_ne more [] with rfl | hne
  · refine .inr ⟨[], by rw [List.append_nil, List.append_nil], ?_, h.isTag, by decide⟩
    rw [← List.nil_append u, ← hmore, List.nil_append, List.append_assoc]
  -- The first text does not end among the backslashes, so it ends within the tag or behind it.
  have hmixed : ¬more <+: List.replicate k '\\' := by
    intro hrun
    exact ht.2 ((backslash_suffix_of_prefix_replicate hne hrun).trans (List.suffix_append _ _))
  rcases List.append_eq_append_iff.1 hmore with ⟨inner, rfl, htag⟩ | ⟨run, hrun, -⟩
  · rcases List.append_eq_append_iff.1 htag with ⟨behind, rfl, -⟩ | ⟨outer, hsplit, -⟩
    · exact .inl ⟨behind, by simp⟩
    · rcases eq_or_ne outer [] with rfl | houter
      · exact .inl ⟨[], by simp [hsplit]⟩
      · cases inner with
        | nil => exact absurd ⟨[], by simp⟩ hmixed
        | cons c inner =>
          have hclosing : ']' ∉ c :: inner := (hsplit ▸ h.isTag).closing_notMem houter
          obtain ⟨d, inside, hd, -⟩ := h.isTag
          obtain rfl : c = '[' := (List.cons.inj (hsplit.symm.trans hd)).1
          have hsuffix : '[' :: inner <:+ before ++ (List.replicate k '\\' ++ '[' :: inner) :=
            ⟨before ++ List.replicate k '\\', by simp⟩
          exact absurd (ht.1 _ ((List.mem_tails _ _).2 hsuffix) rfl) hclosing
  · exact absurd ⟨run, hrun.symm⟩ hmixed

end Markup

end DirectoryAccount
