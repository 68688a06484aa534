/-!
# Ordered entries

Node data keeps its keys in the order in which they were first given. Giving a key again replaces
its value and keeps its place.
-/

namespace SetupRecipe.Node

/-- Values by key, in order. -/
abbrev Entries (α : Type) := List (String × α)

namespace Entries

/-- The value of a key. -/
def get? (entries : Entries α) (key : String) : Option α := entries.lookup key

/-- A value for a key, at the key's place or at the end. -/
def insert (entries : Entries α) (key : String) (value : α) : Entries α :=
  match entries with
  | [] => [(key, value)]
  | (k, v) :: rest => if k = key then (k, value) :: rest else (k, v) :: insert rest key value

/-- The entries that a list of keys and values leaves, each given after the ones before it. -/
def ofList (entries : List (String × α)) : Entries α :=
  entries.foldl (fun acc entry => acc.insert entry.1 entry.2) []

theorem get?_cons (k : String) (v : α) (rest : Entries α) (key : String) :
    Entries.get? ((k, v) :: rest) key = if key = k then some v else Entries.get? rest key := by
  by_cases h : key = k
  · simp [get?, h]
  · simp [get?, List.lookup_cons, beq_eq_false_iff_ne.2 h, h]

theorem get?_insert (entries : Entries α) (key other : String) (value : α) :
    (entries.insert key value).get? other = if other = key then some value else entries.get? other := by
  induction entries with
  | nil => simp [insert, get?_cons]
  | cons entry rest ih =>
    obtain ⟨k, v⟩ := entry
    by_cases hk : k = key
    · subst hk
      by_cases ho : other = k <;> simp [insert, get?_cons, ho]
    · by_cases ho : other = k
      · subst ho
        simp [insert, get?_cons, hk]
      · simp [insert, get?_cons, hk, ho, ih]

end Entries

end SetupRecipe.Node
