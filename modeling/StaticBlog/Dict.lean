/-!
# Dictionaries

A dictionary is a list of entries whose order is kept. Putting a value under a name that is there
already keeps the place of the entry.

- `Dict.get?` : the value under a name
- `Dict.insert` : puts a value under a name
- `Dict.ofEntries` : the dictionary of a list in which a name may occur more than once
- `Dict.keys` : the names in order
-/

namespace StaticBlog

/-- Entries in order. -/
abbrev Dict (α : Type u) := List (String × α)

namespace Dict

variable {α : Type u}

/-- The value of the first entry with a name. -/
def get? (d : Dict α) (name : String) : Option α :=
  match d with
  | [] => none
  | (k, v) :: d => if k = name then some v else get? d name

/-- Puts a value under a name: in place of the entry that has the name, or at the end. -/
def insert (d : Dict α) (name : String) (value : α) : Dict α :=
  match d with
  | [] => [(name, value)]
  | (k, v) :: d => if k = name then (k, value) :: d else (k, v) :: insert d name value

/-- Whether there is an entry with a name. -/
def has (d : Dict α) (name : String) : Bool := (get? d name).isSome

/-- The dictionary that holds the last value given for each name, in the order in which the names
first occur. -/
def ofEntries (entries : List (String × α)) : Dict α :=
  entries.foldl (fun d (k, v) => insert d k v) []

/-- The names of the entries. -/
def keys (d : Dict α) : List String := d.map (·.1)

/-- Applies a function to every value. -/
def mapValues {β : Type v} (f : α → β) (d : Dict α) : Dict β := d.map fun (k, v) => (k, f v)

/-! ## Look-up after a change -/

@[simp] theorem get?_insert_self (d : Dict α) (k : String) (v : α) :
    get? (insert d k v) k = some v := by
  induction d with
  | nil => simp [insert, get?]
  | cons e d ih =>
    obtain ⟨k', v'⟩ := e
    by_cases h : k' = k
    · simp [insert, get?, h]
    · simp [insert, get?, h, ih]

theorem get?_insert_of_ne (d : Dict α) {k k' : String} (v : α) (h : k ≠ k') :
    get? (insert d k v) k' = get? d k' := by
  induction d with
  | nil => simp [insert, get?, h]
  | cons e d ih =>
    obtain ⟨k₀, v₀⟩ := e
    by_cases h₀ : k₀ = k
    · subst h₀
      simp [insert, get?, h]
    · by_cases h₁ : k₀ = k'
      · subst h₁
        simp [insert, get?, h₀]
      · simp [insert, get?, h₀, h₁, ih]

theorem insert_insert (d : Dict α) (k : String) (v w : α) :
    insert (insert d k v) k w = insert d k w := by
  induction d with
  | nil => simp [insert]
  | cons e d ih =>
    obtain ⟨k₀, v₀⟩ := e
    by_cases h : k₀ = k
    · simp [insert, h]
    · simp [insert, h, ih]

end Dict
end StaticBlog
