/-!
# Tables by name

Method tables, instance variables and the bindings of a scope are finite maps from names.  Their
names are listed in ascending order of code points, whatever the order in which they were
entered.  The table keeps its entries in that order, so listing is reading, and the order is part
of the type.

## Main definitions

* `NameTable` — entries with strictly ascending names.
* `NameTable.get?`, `NameTable.insert`, `NameTable.names` — reading, entering, listing.
* `NameTable.insertAll` — entering several values.

## Main results

* `NameTable.get?_insert` — entering a name changes the answer for that name only.
* `NameTable.get?_insertAll_of_mem`, `NameTable.get?_insertAll_of_not_mem` — what a table holds when
  several names have been entered, none of them twice.
* `NameTable.mem_names` — exactly the entered names are listed.
* `NameTable.names_insert` — entering a name that is there already changes no name.
* `NameTable.ext_get?` — a table is determined by its answers.
-/

namespace ObjectModel

/-- A finite map from names, listed in ascending order of names. -/
@[ext] structure NameTable (α : Type) where
  entries : List (String × α)
  ascending : entries.Pairwise fun a b => a.1 < b.1

namespace NameTable

variable {α : Type}

/-! ### Entries -/

/-- What a list of entries holds under a name. -/
def find (name : String) : List (String × α) → Option α
  | [] => none
  | (key, value) :: rest => if key = name then some value else find name rest

/-- Puts an entry at its place, instead of an entry of the same name. -/
def place (name : String) (value : α) : List (String × α) → List (String × α)
  | [] => [(name, value)]
  | (key, old) :: rest =>
    if name = key then (name, value) :: rest
    else if name < key then (name, value) :: (key, old) :: rest
    else (key, old) :: place name value rest

theorem find_place (name other : String) (value : α) (entries : List (String × α)) :
    find other (place name value entries) =
      if other = name then some value else find other entries := by
  induction entries with
  | nil => simp [place, find, eq_comm]
  | cons entry rest ih =>
    obtain ⟨key, old⟩ := entry
    by_cases heq : name = key
    · simp only [place, heq, if_true, find]
      grind
    · by_cases hlt : name < key
      · simp only [place, heq, hlt, if_true, if_false, find]
        grind
      · simp only [place, heq, hlt, if_false, find, ih]
        grind

theorem mem_place {name : String} {value : α} {entries : List (String × α)}
    {entry : String × α} (h : entry ∈ place name value entries) :
    entry = (name, value) ∨ entry ∈ entries := by
  induction entries with
  | nil => simpa [place] using h
  | cons first rest ih =>
    obtain ⟨key, old⟩ := first
    by_cases heq : name = key
    · simp only [place, heq, if_true, List.mem_cons] at h ⊢
      grind
    · by_cases hlt : name < key
      · simpa only [place, heq, hlt, if_true, if_false, List.mem_cons] using h
      · simp only [place, heq, hlt, if_false, List.mem_cons] at h ⊢
        grind

theorem pairwise_place (name : String) (value : α) {entries : List (String × α)}
    (h : entries.Pairwise fun a b => a.1 < b.1) :
    (place name value entries).Pairwise fun a b => a.1 < b.1 := by
  induction entries with
  | nil => simp [place]
  | cons first rest ih =>
    obtain ⟨key, old⟩ := first
    obtain ⟨hfirst, hrest⟩ := List.pairwise_cons.1 h
    simp only [place]
    split
    · next heq => exact List.pairwise_cons.2 ⟨fun b hb => heq ▸ hfirst b hb, hrest⟩
    · next hne =>
      split
      · next hlt =>
        refine List.pairwise_cons.2 ⟨fun b hb => ?_, h⟩
        rcases List.mem_cons.1 hb with rfl | hb
        · exact hlt
        · exact String.lt_trans hlt (hfirst b hb)
      · next hnlt =>
        refine List.pairwise_cons.2 ⟨fun b hb => ?_, ih hrest⟩
        rcases mem_place hb with rfl | hb
        · exact Classical.byContradiction fun hlt =>
            hne (String.le_antisymm (String.not_lt.1 hlt) (String.not_lt.1 hnlt))
        · exact hfirst b hb

theorem find_eq_none_of_forall_lt {name : String} {entries : List (String × α)}
    (h : ∀ entry ∈ entries, name < entry.1) : find name entries = none := by
  induction entries with
  | nil => rfl
  | cons first rest ih =>
    have hne : first.1 ≠ name := fun heq => String.lt_irrefl name (heq ▸ h first (by simp))
    simp [find, hne, ih fun entry hentry => h entry (by simp [hentry])]

/-- Ascending lists of entries that answer alike are the same list. -/
theorem eq_of_find_eq {as bs : List (String × α)}
    (ha : as.Pairwise fun a b => a.1 < b.1) (hb : bs.Pairwise fun a b => a.1 < b.1)
    (h : ∀ name, find name as = find name bs) : as = bs := by
  induction as generalizing bs with
  | nil =>
    cases bs with
    | nil => rfl
    | cons b bs => have := h b.1; simp [find] at this
  | cons a as ih =>
    obtain ⟨ha₁, ha₂⟩ := List.pairwise_cons.1 ha
    cases bs with
    | nil => have := h a.1; simp [find] at this
    | cons b bs =>
      obtain ⟨hb₁, hb₂⟩ := List.pairwise_cons.1 hb
      have hkey : a.1 = b.1 := by
        have hab := h a.1
        have hba := h b.1
        refine Classical.byContradiction fun hne => ?_
        rcases Decidable.em (a.1 < b.1) with hlt | hnlt
        · have habsent : find a.1 (b :: bs) = none :=
            find_eq_none_of_forall_lt fun entry hentry => by
              rcases List.mem_cons.1 hentry with rfl | hentry
              · exact hlt
              · exact String.lt_trans hlt (hb₁ entry hentry)
          rw [habsent] at hab
          simp [find] at hab
        · have hlt : b.1 < a.1 := Classical.byContradiction fun hnot =>
            hne (String.le_antisymm (String.not_lt.1 hnot) (String.not_lt.1 hnlt))
          have habsent : find b.1 (a :: as) = none :=
            find_eq_none_of_forall_lt fun entry hentry => by
              rcases List.mem_cons.1 hentry with rfl | hentry
              · exact hlt
              · exact String.lt_trans hlt (ha₁ entry hentry)
          rw [habsent] at hba
          simp [find] at hba
      have hvalue : a.2 = b.2 := by
        have := h a.1
        simpa [find, hkey] using this
      have hrest : as = bs := by
        refine ih ha₂ hb₂ fun name => ?_
        by_cases hname : a.1 = name
        · rw [find_eq_none_of_forall_lt fun entry hentry => hname ▸ ha₁ entry hentry,
            find_eq_none_of_forall_lt fun entry hentry => hname ▸ hkey ▸ hb₁ entry hentry]
        · have := h name
          simpa [find, hname, hkey ▸ hname] using this
      rw [hrest, Prod.ext hkey hvalue]

/-! ### Tables -/

/-- The table without entries. -/
def empty : NameTable α := ⟨[], .nil⟩

instance : EmptyCollection (NameTable α) := ⟨empty⟩

instance : Inhabited (NameTable α) := ⟨empty⟩

/-- What the table holds under a name. -/
def get? (table : NameTable α) (name : String) : Option α := find name table.entries

/-- Whether the table holds something under a name. -/
def contains (table : NameTable α) (name : String) : Bool := (table.get? name).isSome

/-- Enters a value under a name, instead of what the name held. -/
def insert (table : NameTable α) (name : String) (value : α) : NameTable α :=
  ⟨place name value table.entries, pairwise_place name value table.ascending⟩

/-- The names of the table, in ascending order. -/
def names (table : NameTable α) : List String := table.entries.map (·.1)

/-- The number of names. -/
def size (table : NameTable α) : Nat := table.entries.length

@[simp] theorem get?_empty (name : String) : (∅ : NameTable α).get? name = none := rfl

@[simp] theorem names_empty : (∅ : NameTable α).names = [] := rfl

theorem get?_insert (table : NameTable α) (name other : String) (value : α) :
    (table.insert name value).get? other =
      if other = name then some value else table.get? other :=
  find_place name other value table.entries

@[simp] theorem get?_insert_self (table : NameTable α) (name : String) (value : α) :
    (table.insert name value).get? name = some value := by
  simp [get?_insert]

theorem get?_insert_of_ne (table : NameTable α) {name other : String} (value : α)
    (h : other ≠ name) : (table.insert name value).get? other = table.get? other := by
  simp [get?_insert, h]

/-- Enters several values, one after the other. -/
def insertAll (table : NameTable α) (entries : List (String × α)) : NameTable α :=
  entries.foldl (fun table entry => table.insert entry.1 entry.2) table

@[simp] theorem insertAll_nil (table : NameTable α) : table.insertAll [] = table := rfl

@[simp] theorem insertAll_cons (table : NameTable α) (entry : String × α)
    (entries : List (String × α)) :
    table.insertAll (entry :: entries) = (table.insert entry.1 entry.2).insertAll entries := rfl

theorem insertAll_append (table : NameTable α) (first second : List (String × α)) :
    table.insertAll (first ++ second) = (table.insertAll first).insertAll second :=
  List.foldl_append

/-- A name that is not entered holds what it held. -/
theorem get?_insertAll_of_not_mem (table : NameTable α) {entries : List (String × α)}
    {name : String} (h : name ∉ entries.map (·.1)) :
    (table.insertAll entries).get? name = table.get? name := by
  induction entries generalizing table with
  | nil => rw [insertAll_nil]
  | cons entry entries ih =>
    rw [List.map_cons, List.mem_cons, not_or] at h
    rw [insertAll_cons, ih _ h.2, get?_insert_of_ne _ _ h.1]

/-- If no name is entered twice, each name that is entered holds its own value. -/
theorem get?_insertAll_of_mem (table : NameTable α) {entries : List (String × α)}
    (hnodup : (entries.map (·.1)).Nodup) {name : String} {value : α}
    (h : (name, value) ∈ entries) :
    (table.insertAll entries).get? name = some value := by
  induction entries generalizing table with
  | nil => cases h
  | cons entry entries ih =>
    rw [List.map_cons, List.nodup_cons] at hnodup
    rw [insertAll_cons]
    rcases List.mem_cons.1 h with rfl | h
    · rw [get?_insertAll_of_not_mem _ hnodup.1, get?_insert_self]
    · exact ih _ hnodup.2 h

theorem mem_entries_of_find {name : String} {value : α} {entries : List (String × α)}
    (h : find name entries = some value) : (name, value) ∈ entries := by
  induction entries with
  | nil => cases h
  | cons entry rest ih =>
    obtain ⟨key, old⟩ := entry
    rw [find] at h
    split at h
    · next heq =>
      cases h
      rw [heq]
      exact List.mem_cons_self
    · exact List.mem_cons_of_mem _ (ih h)

/-- Whatever a table holds under a name is one of its entries. -/
theorem mem_entries {table : NameTable α} {name : String} {value : α}
    (h : table.get? name = some value) : (name, value) ∈ table.entries :=
  mem_entries_of_find h

theorem names_pairwise (table : NameTable α) : table.names.Pairwise (· < ·) :=
  List.pairwise_map.2 table.ascending

/-- No name is listed twice. -/
theorem names_nodup (table : NameTable α) : table.names.Nodup := by
  refine table.names_pairwise.imp fun {a b} hlt => ?_
  rintro rfl
  exact String.lt_irrefl a hlt

theorem mem_names (table : NameTable α) (name : String) :
    name ∈ table.names ↔ (table.get? name).isSome := by
  unfold names get?
  induction table.entries with
  | nil => simp [find]
  | cons entry rest ih =>
    obtain ⟨key, value⟩ := entry
    by_cases h : key = name
    · simp [find, h]
    · simp [find, h, ih, Ne.symm h]

/-- To put an entry instead of one of the same name leaves the names as they are. -/
theorem map_fst_place {name : String} {value : α} {entries : List (String × α)}
    (hentries : entries.Pairwise fun a b => a.1 < b.1)
    (h : (find name entries).isSome = true) :
    (place name value entries).map (·.1) = entries.map (·.1) := by
  induction entries with
  | nil => cases h
  | cons entry rest ih =>
    obtain ⟨key, old⟩ := entry
    obtain ⟨hfirst, hrest⟩ := List.pairwise_cons.1 hentries
    by_cases heq : name = key
    · simp [place, heq]
    · by_cases hlt : name < key
      · -- a name before all others is not among them
        have habsent : find name ((key, old) :: rest) = none := by
          refine find_eq_none_of_forall_lt fun other hother => ?_
          rcases List.mem_cons.1 hother with rfl | hother
          · exact hlt
          · exact String.lt_trans hlt (hfirst other hother)
        rw [habsent] at h
        cases h
      · simp only [find, Ne.symm heq, if_false] at h
        simp only [place, heq, hlt, if_false, List.map_cons, ih hrest h]

theorem names_insert (table : NameTable α) {name : String} (value : α)
    (h : (table.get? name).isSome = true) : (table.insert name value).names = table.names :=
  map_fst_place table.ascending h

/-- A table is determined by what it holds under each name. -/
theorem ext_get? {a b : NameTable α} (h : ∀ name, a.get? name = b.get? name) : a = b :=
  NameTable.ext (eq_of_find_eq a.ascending b.ascending h)

end NameTable

end ObjectModel
