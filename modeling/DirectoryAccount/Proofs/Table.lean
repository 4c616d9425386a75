import DirectoryAccount.Table

/-!
# Tables of lists

A list of values under names becomes a table by putting them in one by one (`Table.ofList`). Of the
values under one name the last is found, and which one that is, a list says by the place after which
the name does not occur: `Table.get?_ofList_eq_some_iff`. Where no name occurs twice the table is
the list (`Table.entries_ofList`), and then its order makes no difference to what is found,
`Table.get?_ofList_of_perm`.
-/

namespace DirectoryAccount

namespace Table

variable {α : Type} {l l' : List (String × α)} {name : String} {a : α}

theorem find?_eq_map_find? (name : String) (l : List (String × α)) :
    find? name l = (l.find? fun p ↦ p.1 = name).map Prod.snd := by
  induction l with
  | nil => rfl
  | cons p l ih =>
    rw [find?, List.find?_cons, ih]
    by_cases hp : p.1 = name <;> simp [hp]

/-- What is found is the first value under the name. -/
theorem find?_eq_some_iff : find? name l = some a ↔
    ∃ before after, l = before ++ (name, a) :: after ∧ name ∉ before.map Prod.fst := by
  simp only [find?_eq_map_find?, Option.map_eq_some_iff, List.find?_eq_some_iff_append]
  constructor
  · rintro ⟨p, ⟨hname, before, after, rfl, hbefore⟩, rfl⟩
    obtain rfl : p.1 = name := by simpa using hname
    refine ⟨before, after, rfl, fun hmem ↦ ?_⟩
    obtain ⟨q, hq, heq⟩ := List.mem_map.1 hmem
    simpa [heq] using hbefore q hq
  · rintro ⟨before, after, rfl, hbefore⟩
    refine ⟨(name, a), ⟨by simp, before, after, rfl, fun q hq ↦ ?_⟩, rfl⟩
    have hne : q.1 ≠ name := fun heq ↦ hbefore (heq ▸ List.mem_map_of_mem hq)
    simpa using hne

/-- **The last value under a name is found.** -/
theorem get?_ofList_eq_some_iff : (ofList l).get? name = some a ↔
    ∃ before after, l = before ++ (name, a) :: after ∧ name ∉ after.map Prod.fst := by
  rw [get?_ofList, find?_eq_some_iff]
  constructor
  · rintro ⟨before, after, heq, hbefore⟩
    refine ⟨after.reverse, before.reverse, ?_, ?_⟩
    · rw [← List.reverse_reverse l, heq, List.reverse_append, List.reverse_cons,
        List.append_assoc, List.singleton_append]
    · rwa [List.map_reverse, List.mem_reverse]
  · rintro ⟨before, after, rfl, hafter⟩
    refine ⟨after.reverse, before.reverse, ?_, ?_⟩
    · rw [List.reverse_append, List.reverse_cons, List.append_assoc, List.singleton_append]
    · rwa [List.map_reverse, List.mem_reverse]

/-- The names of the table are those of the list. -/
theorem mem_names_ofList : name ∈ (ofList l).names ↔ name ∈ l.map Prod.fst := by
  rw [← Decidable.not_iff_not, ← get?_eq_none_iff, get?_ofList, find?_eq_none_iff, List.map_reverse,
    List.mem_reverse]

/-! ### Lists in which no name occurs twice -/

theorem put_of_notMem (h : name ∉ l.map Prod.fst) : put name a l = l ++ [(name, a)] := by
  induction l with
  | nil => rfl
  | cons p l ih =>
    rw [List.map_cons, List.mem_cons, not_or] at h
    rw [put, if_neg fun hp ↦ h.1 hp.symm, ih h.2, List.cons_append]

/-- **The table of such a list has the list for its entries.** -/
theorem entries_ofList (h : (l.map Prod.fst).Nodup) : (ofList l).entries = l := by
  -- The induction is on what is still to be put, next to a table that has none of it.
  have hfold (t : Table α) (hnew : (t.names ++ l.map Prod.fst).Nodup) :
      (l.foldl (fun t p ↦ t.insert p.1 p.2) t).entries = t.entries ++ l := by
    clear h
    induction l generalizing t with
    | nil => rw [List.foldl_nil, List.append_nil]
    | cons p l ih =>
      have hnotMem : p.1 ∉ t.names := fun hmem ↦
        (List.nodup_append.1 hnew).2.2 _ hmem _ (List.mem_map_of_mem List.mem_cons_self) rfl
      have hentries : (t.insert p.1 p.2).entries = t.entries ++ [p] := put_of_notMem hnotMem
      rw [List.foldl_cons, ih, hentries, List.append_assoc, List.singleton_append]
      rw [names, hentries]
      simpa [names] using hnew
  exact hfold empty (by simpa [names, empty] using h)

theorem get?_ofList_eq_some_iff_mem (h : (l.map Prod.fst).Nodup) :
    (ofList l).get? name = some a ↔ (name, a) ∈ l := by
  rw [get?_ofList_eq_some_iff]
  constructor
  · rintro ⟨before, after, rfl, -⟩
    exact List.mem_append_right _ List.mem_cons_self
  · intro hmem
    obtain ⟨before, after, rfl⟩ := List.append_of_mem hmem
    rw [List.map_append, List.map_cons, List.nodup_append, List.nodup_cons] at h
    exact ⟨before, after, rfl, h.2.1.1⟩

/-- **The order of such a list makes no difference.** -/
theorem get?_ofList_of_perm (hperm : l'.Perm l) (h : (l.map Prod.fst).Nodup) (name : String) :
    (ofList l').get? name = (ofList l).get? name := by
  have h' : (l'.map Prod.fst).Nodup := (hperm.map Prod.fst).nodup_iff.2 h
  refine Option.ext fun a ↦ ?_
  rw [get?_ofList_eq_some_iff_mem h, get?_ofList_eq_some_iff_mem h', hperm.mem_iff]

end Table

end DirectoryAccount
