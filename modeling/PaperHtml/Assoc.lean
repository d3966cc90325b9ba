import PaperHtml.Text.Basic

/-!
# Association lists in order of insertion

Fields of a record, citation numbers and attributes keep the order in which
their names first came.  A name that comes again keeps its place and takes the
new value.
-/

namespace PaperHtml

/-- Values by name, in the order in which the names first came. -/
abbrev Assoc (α : Type) := List (Text × α)

namespace Assoc

variable {α : Type}

/-- The value of a name. -/
def get? (name : Text) : Assoc α → Option α
  | [] => none
  | (n, a) :: rest => if n = name then some a else get? name rest

/-- Sets the value of a name, in its place or at the end. -/
def insert (name : Text) (value : α) : Assoc α → Assoc α
  | [] => [(name, value)]
  | (n, a) :: rest => if n = name then (n, value) :: rest else (n, a) :: insert name value rest

/-- The pairs put in one after another. -/
def ofList (pairs : List (Text × α)) : Assoc α :=
  pairs.foldl (fun table pair => insert pair.1 pair.2 table) []

/-- The names, in order. -/
def names (table : Assoc α) : List Text := table.map Prod.fst

/-- The value of a name, unless it is empty. -/
def filled? (name : Text) (table : Assoc Text) : Option Text :=
  (get? name table).filter fun value => value ≠ []

theorem get?_insert (name other : Text) (value : α) (table : Assoc α) :
    get? other (insert name value table) =
      if name = other then some value else get? other table := by
  induction table with
  | nil => simp [insert, get?]
  | cons pair rest ih =>
      obtain ⟨n, a⟩ := pair
      by_cases h : n = name
      · subst h
        by_cases h' : n = other <;> simp [insert, get?, h']
      · by_cases h' : n = other
        · subst h'
          have hn : name ≠ n := fun e => h e.symm
          simp [insert, get?, h, hn]
        · simp [insert, get?, h, h', ih]

/-- The value of a name stands in the table. -/
theorem mem_of_get? {name : Text} {value : α} {table : Assoc α} (h : get? name table = some value) :
    (name, value) ∈ table := by
  induction table with
  | nil => cases h
  | cons pair rest ih =>
      obtain ⟨n, a⟩ := pair
      rw [get?] at h
      split at h
      · rename_i hname
        cases h
        exact hname ▸ List.mem_cons_self ..
      · exact List.mem_cons_of_mem _ (ih h)

/-! ## Lists without repeated names -/

theorem insert_of_not_mem {name : Text} {value : α} {table : Assoc α}
    (h : name ∉ names table) : insert name value table = table ++ [(name, value)] := by
  induction table with
  | nil => rfl
  | cons pair rest ih =>
      obtain ⟨n, a⟩ := pair
      simp only [names, List.map_cons, List.mem_cons, not_or] at h
      have hne : n ≠ name := fun e => h.1 e.symm
      simp [insert, hne, ih h.2]

private theorem foldl_insert_of_nodup (pairs table : Assoc α)
    (h : (names (table ++ pairs)).Nodup) :
    pairs.foldl (fun table pair => insert pair.1 pair.2 table) table = table ++ pairs := by
  induction pairs generalizing table with
  | nil => simp
  | cons pair rest ih =>
      have hnew : pair.1 ∉ names table := by
        rw [names, List.map_append, List.nodup_append] at h
        exact fun hmem => h.2.2 _ hmem _ (List.mem_cons_self ..) rfl
      rw [List.foldl_cons, insert_of_not_mem hnew, ih _ (by simpa using h)]
      simp

/-- Pairs whose names differ are kept as they are. -/
theorem ofList_of_nodup {pairs : Assoc α} (h : (names pairs).Nodup) : ofList pairs = pairs := by
  rw [ofList, foldl_insert_of_nodup pairs [] (by simpa using h), List.nil_append]

theorem get?_eq_none_iff {name : Text} {table : Assoc α} :
    get? name table = none ↔ name ∉ names table := by
  induction table with
  | nil => simp [get?, names]
  | cons pair rest ih =>
      obtain ⟨n, a⟩ := pair
      by_cases h : n = name
      · simp [get?, names, h]
      · have h' : name ≠ n := fun e => h e.symm
        simpa [get?, names, h, h'] using ih

end Assoc

end PaperHtml
