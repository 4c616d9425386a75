/-!
# Tables by name

A table holds at most one value under each name and keeps the order in which the names arrived. A
value put under a name that is there already takes the place of the old one, and stays where that
was.

**Names are compared exactly**, case included.

Each operation is pinned by what `Table.get?` finds afterwards.
-/

namespace DirectoryAccount

/-- Values under distinct names, in the order in which the names arrived. -/
structure Table (α : Type) where
  entries : List (String × α)
  nodup : (entries.map Prod.fst).Nodup

namespace Table

variable {α β : Type}

/-- The names of a table. -/
def names (t : Table α) : List String :=
  t.entries.map Prod.fst

/-- The first value under a name among entries. -/
def find? (name : String) : List (String × α) → Option α
  | [] => none
  | p :: rest => if p.1 = name then some p.2 else find? name rest

/-- The value under a name. -/
def get? (t : Table α) (name : String) : Option α :=
  find? name t.entries

/-- The table that holds nothing. -/
def empty : Table α :=
  ⟨[], List.nodup_nil⟩

@[simp] theorem get?_empty (name : String) : (empty : Table α).get? name = none := rfl

theorem find?_eq_none_iff {l : List (String × α)} {name : String} :
    find? name l = none ↔ name ∉ l.map Prod.fst := by
  induction l with
  | nil => simp [find?]
  | cons p l ih =>
    rw [find?, List.map_cons, List.mem_cons, not_or]
    split
    · rename_i h
      simp [h]
    · rename_i h
      rw [ih]
      exact ⟨fun hl ↦ ⟨fun heq ↦ h heq.symm, hl⟩, fun hl ↦ hl.2⟩

/-- **Something is found under the names of a table, and under no others.** -/
theorem get?_eq_none_iff {t : Table α} {name : String} : t.get? name = none ↔ name ∉ t.names :=
  find?_eq_none_iff

/-! ### Putting and removing -/

/-- Replaces the value under a name that is there, and adds one at the end otherwise. -/
def put (name : String) (a : α) : List (String × α) → List (String × α)
  | [] => [(name, a)]
  | p :: rest => if p.1 = name then (name, a) :: rest else p :: put name a rest

theorem mem_map_fst_put {name n : String} {a : α} {l : List (String × α)} :
    n ∈ (put name a l).map Prod.fst ↔ n = name ∨ n ∈ l.map Prod.fst := by
  induction l with
  | nil => simp [put]
  | cons p l ih =>
    rw [put]
    split
    · rename_i h
      simp [h]
    · simp only [List.map_cons, List.mem_cons, ih]
      constructor <;> rintro (h | h | h) <;> simp [h]

theorem nodup_put {name : String} {a : α} {l : List (String × α)} (h : (l.map Prod.fst).Nodup) :
    ((put name a l).map Prod.fst).Nodup := by
  induction l with
  | nil => simp [put]
  | cons p l ih =>
    simp only [List.map_cons, List.nodup_cons] at h
    rw [put]
    split
    · rename_i hp
      rw [List.map_cons, List.nodup_cons]
      exact hp ▸ h
    · rename_i hp
      rw [List.map_cons, List.nodup_cons, mem_map_fst_put]
      exact ⟨fun hmem ↦ hmem.elim hp h.1, ih h.2⟩

/-- Puts a value under a name, in place of one that is there. -/
def insert (t : Table α) (name : String) (a : α) : Table α :=
  ⟨put name a t.entries, nodup_put t.nodup⟩

/-- Removes the value under a name, if there is one. -/
def erase (t : Table α) (name : String) : Table α :=
  ⟨t.entries.filter fun p ↦ p.1 ≠ name, t.nodup.sublist (List.filter_sublist.map _)⟩

/-- Keeps what is under the given names, and nothing else. -/
def restrict (t : Table α) (names : List String) : Table α :=
  ⟨t.entries.filter fun p ↦ p.1 ∈ names, t.nodup.sublist (List.filter_sublist.map _)⟩

/-- Changes every value. -/
def map (f : α → β) (t : Table α) : Table β :=
  ⟨t.entries.map fun p ↦ (p.1, f p.2), by
    have h : (Prod.fst ∘ fun p : String × α ↦ (p.1, f p.2)) = Prod.fst := rfl
    rw [List.map_map, h]
    exact t.nodup⟩

/-- The table of some values under their names, where the last value under a name counts. -/
def ofList (l : List (String × α)) : Table α :=
  l.foldl (fun t p ↦ t.insert p.1 p.2) empty

theorem find?_put (l : List (String × α)) (name n : String) (a : α) :
    find? n (put name a l) = if n = name then some a else find? n l := by
  induction l with
  | nil => simp [put, find?, eq_comm]
  | cons p l ih =>
    rw [put]
    by_cases hp : p.1 = name
    · rw [if_pos hp]
      by_cases h : n = name
      · simp [find?, h]
      · have h' : name ≠ n := fun he ↦ h he.symm
        simp [find?, hp, h, h']
    · rw [if_neg hp, find?, find?, ih]
      by_cases h : p.1 = n
      · simp [h, h ▸ hp]
      · simp [h]

/-- Among the entries whose names are kept a name is found if it is kept. -/
theorem find?_filter (keep : String → Bool) (l : List (String × α)) (n : String) :
    find? n (l.filter fun p ↦ keep p.1) = if keep n then find? n l else none := by
  induction l with
  | nil => simp [find?]
  | cons p l ih =>
    by_cases hp : keep p.1 = true
    · rw [List.filter_cons_of_pos (by exact hp), find?, find?, ih]
      by_cases h : p.1 = n
      · simp [h, h ▸ hp]
      · simp [h]
    · rw [List.filter_cons_of_neg (by exact hp), ih, find?]
      by_cases h : p.1 = n
      · simp [h ▸ hp]
      · simp [h]

theorem find?_map (f : α → β) (l : List (String × α)) (name : String) :
    find? name (l.map fun p ↦ (p.1, f p.2)) = (find? name l).map f := by
  induction l with
  | nil => rfl
  | cons p l ih =>
    rw [List.map_cons, find?, find?, ih]
    split <;> rfl

@[simp] theorem get?_insert (t : Table α) (name n : String) (a : α) :
    (t.insert name a).get? n = if n = name then some a else t.get? n :=
  find?_put t.entries name n a

@[simp] theorem get?_erase (t : Table α) (name n : String) :
    (t.erase name).get? n = if n = name then none else t.get? n := by
  rw [get?, erase, find?_filter fun m ↦ decide (m ≠ name)]
  by_cases h : n = name <;> simp [h, get?]

@[simp] theorem get?_restrict (t : Table α) (names : List String) (n : String) :
    (t.restrict names).get? n = if n ∈ names then t.get? n else none := by
  rw [get?, restrict, find?_filter fun m ↦ decide (m ∈ names)]
  by_cases h : n ∈ names <;> simp [h, get?]

@[simp] theorem get?_map (f : α → β) (t : Table α) (name : String) :
    (t.map f).get? name = (t.get? name).map f :=
  find?_map f t.entries name

/-- Under each name of a list its last value is found, the first from the end. -/
theorem get?_ofList (l : List (String × α)) (name : String) :
    (ofList l).get? name = find? name l.reverse := by
  rw [ofList, List.foldl_eq_foldr_reverse]
  induction l.reverse with
  | nil => rfl
  | cons p l ih =>
    rw [List.foldr_cons, get?_insert, ih, find?]
    simp only [eq_comm]

end Table

end DirectoryAccount
