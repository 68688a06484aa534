import SetupRecipe.Node.Data
import Mathlib.Data.List.Nodup

/-!
# The shape of node data

A value holds other values in its items and entries, at any depth. This file has the induction over
values, and says of a value that no decimal stands in it, that no object in it repeats a key, and how
deep its arrays and objects go.
-/

namespace SetupRecipe

namespace Node

namespace Entries

variable {α : Type}

/-- The keys in their order. -/
def keys (entries : Entries α) : List String := entries.map Prod.fst

@[simp] lemma keys_nil : Entries.keys ([] : Entries α) = [] := rfl

@[simp] lemma keys_cons (entry : String × α) (entries : Entries α) :
    Entries.keys (entry :: entries) = entry.1 :: Entries.keys entries := rfl

@[simp] lemma keys_append (entries more : Entries α) :
    Entries.keys (entries ++ more) = entries.keys ++ more.keys := List.map_append

lemma keys_insert (entries : Entries α) (key : String) (value : α) :
    (entries.insert key value).keys =
      if key ∈ entries.keys then entries.keys else entries.keys ++ [key] := by
  induction entries with
  | nil => simp [insert, keys]
  | cons entry rest ih =>
    obtain ⟨k, v⟩ := entry
    by_cases hk : k = key
    · subst hk
      simp [insert]
    · by_cases hrest : key ∈ Entries.keys rest
      · simp [insert, hk, ih, hrest]
      · simp [insert, hk, ih, hrest, Ne.symm hk]

/-- A new key goes to the end. -/
lemma insert_of_not_mem (entries : Entries α) (key : String) (value : α)
    (hnew : key ∉ entries.keys) : entries.insert key value = entries ++ [(key, value)] := by
  induction entries with
  | nil => rfl
  | cons entry rest ih =>
    obtain ⟨k, v⟩ := entry
    rw [keys_cons, List.mem_cons, not_or] at hnew
    simp [insert, Ne.symm hnew.1, ih hnew.2]

lemma nodup_keys_insert (entries : Entries α) (key : String) (value : α)
    (hkeys : entries.keys.Nodup) : (entries.insert key value).keys.Nodup := by
  rw [keys_insert]
  split
  · exact hkeys
  · rename_i hnew
    rw [← List.concat_eq_append]
    exact hkeys.concat hnew

/-- What an insertion leaves: the new value, or an entry that was there. -/
lemma mem_insert {entries : Entries α} {key : String} {value : α} {entry : String × α}
    (hentry : entry ∈ entries.insert key value) : entry = (key, value) ∨ entry ∈ entries := by
  induction entries with
  | nil => simpa [insert] using hentry
  | cons head rest ih =>
    obtain ⟨k, v⟩ := head
    by_cases hk : k = key
    · subst hk
      rw [insert, if_pos rfl, List.mem_cons] at hentry
      exact hentry.imp_right fun h => List.mem_cons_of_mem _ h
    · rw [insert, if_neg hk, List.mem_cons] at hentry
      obtain rfl | hrest := hentry
      · exact .inr List.mem_cons_self
      · exact (ih hrest).imp_right fun h => List.mem_cons_of_mem _ h

end Entries

namespace Value

/-- Induction over a value, with the hypothesis for every item and for the value of every entry. -/
@[elab_as_elim]
lemma induction {motive : Value → Prop} (boolean : ∀ b, motive (boolean b))
    (integer : ∀ i, motive (integer i)) (decimal : ∀ x, motive (decimal x))
    (text : ∀ s, motive (text s))
    (array : ∀ items, (∀ item ∈ items, motive item) → motive (array items))
    (object : ∀ entries, (∀ entry ∈ entries, motive entry.2) → motive (object entries))
    (value : Value) : motive value :=
  Value.rec (motive_1 := motive) (motive_2 := fun items => ∀ item ∈ items, motive item)
    (motive_3 := fun entries => ∀ entry ∈ entries, motive entry.2)
    (motive_4 := fun entry => motive entry.2)
    boolean integer decimal text (fun items ih => array items ih) (fun entries ih => object entries ih)
    (by simp) (fun _ _ hitem hitems => List.forall_mem_cons.2 ⟨hitem, hitems⟩)
    (by simp) (fun _ _ hentry hentries => List.forall_mem_cons.2 ⟨hentry, hentries⟩)
    (fun _ _ hvalue => hvalue) value

mutual

/-- Whether a check holds of a value and of every value inside it. -/
def everywhere (check : Value → Bool) : Value → Bool
  | array items => check (array items) && itemsEverywhere check items
  | object entries => check (object entries) && entriesEverywhere check entries
  | value => check value

def itemsEverywhere (check : Value → Bool) : List Value → Bool
  | [] => true
  | item :: items => item.everywhere check && itemsEverywhere check items

def entriesEverywhere (check : Value → Bool) : List (String × Value) → Bool
  | [] => true
  | (_, value) :: entries => value.everywhere check && entriesEverywhere check entries

end

lemma itemsEverywhere_iff (check : Value → Bool) (items : List Value) :
    itemsEverywhere check items ↔ ∀ item ∈ items, item.everywhere check := by
  induction items with
  | nil => simp [itemsEverywhere]
  | cons item items ih => simp [itemsEverywhere, ih]

lemma entriesEverywhere_iff (check : Value → Bool) (entries : List (String × Value)) :
    entriesEverywhere check entries ↔ ∀ entry ∈ entries, entry.2.everywhere check := by
  induction entries with
  | nil => simp [entriesEverywhere]
  | cons entry entries ih => simp [entriesEverywhere, ih]

/-- Whether no decimal stands anywhere in a value. -/
def decimalFree (value : Value) : Bool :=
  value.everywhere fun
    | decimal _ => false
    | _ => true

@[simp] lemma decimalFree_decimal (x : Float) : ¬ (decimal x).decimalFree := nofun

@[simp] lemma decimalFree_array (items : List Value) :
    (array items).decimalFree ↔ ∀ item ∈ items, item.decimalFree := by
  simp [decimalFree, everywhere, itemsEverywhere_iff]

@[simp] lemma decimalFree_object (entries : List (String × Value)) :
    (object entries).decimalFree ↔ ∀ entry ∈ entries, entry.2.decimalFree := by
  simp [decimalFree, everywhere, entriesEverywhere_iff]

/-- Whether no object in a value has two entries with one key. -/
def distinctKeys (value : Value) : Bool :=
  value.everywhere fun
    | object entries => decide (Entries.keys entries).Nodup
    | _ => true

@[simp] lemma distinctKeys_array (items : List Value) :
    (array items).distinctKeys ↔ ∀ item ∈ items, item.distinctKeys := by
  simp [distinctKeys, everywhere, itemsEverywhere_iff]

@[simp] lemma distinctKeys_object (entries : List (String × Value)) :
    (object entries).distinctKeys ↔
      (Entries.keys entries).Nodup ∧ ∀ entry ∈ entries, entry.2.distinctKeys := by
  simp [distinctKeys, everywhere, entriesEverywhere_iff]

/-- An object stays without repeated keys when it gets a value that has none. -/
lemma distinctKeys_insert {entries : Entries Value} {value : Value} (key : String)
    (hentries : (object entries).distinctKeys) (hvalue : value.distinctKeys) :
    (object (entries.insert key value)).distinctKeys := by
  rw [distinctKeys_object] at hentries ⊢
  refine ⟨entries.nodup_keys_insert key value hentries.1, fun entry hentry => ?_⟩
  obtain rfl | hmem := Entries.mem_insert hentry
  · exact hvalue
  · exact hentries.2 entry hmem

mutual

/-- How many arrays and objects stand inside one another. -/
def nesting : Value → Nat
  | array items => itemsNesting items + 1
  | object entries => entriesNesting entries + 1
  | _ => 0

def itemsNesting : List Value → Nat
  | [] => 0
  | item :: items => max item.nesting (itemsNesting items)

def entriesNesting : List (String × Value) → Nat
  | [] => 0
  | (_, value) :: entries => max value.nesting (entriesNesting entries)

end

lemma nesting_array_le_iff {items : List Value} {n : Nat} :
    (array items).nesting ≤ n ↔ 0 < n ∧ ∀ item ∈ items, item.nesting < n := by
  rw [nesting]
  induction items with
  | nil => exact ⟨fun h => ⟨h, nofun⟩, And.left⟩
  | cons item items ih =>
    have hmax : itemsNesting (item :: items) + 1 ≤ n ↔
        item.nesting < n ∧ itemsNesting items + 1 ≤ n := by
      rw [itemsNesting]
      omega
    rw [hmax, ih, List.forall_mem_cons, and_left_comm]

lemma nesting_object_le_iff {entries : List (String × Value)} {n : Nat} :
    (object entries).nesting ≤ n ↔ 0 < n ∧ ∀ entry ∈ entries, entry.2.nesting < n := by
  rw [nesting]
  induction entries with
  | nil => exact ⟨fun h => ⟨h, nofun⟩, And.left⟩
  | cons entry entries ih =>
    have hmax : entriesNesting (entry :: entries) + 1 ≤ n ↔
        entry.2.nesting < n ∧ entriesNesting entries + 1 ≤ n := by
      rw [entriesNesting]
      omega
    rw [hmax, ih, List.forall_mem_cons, and_left_comm]

end Value

end Node

namespace NodeData

/-- Whether no decimal stands anywhere in the data. -/
def decimalFree (node : NodeData) : Bool := (Node.Value.object node.entries).decimalFree

/-- Whether every key leads to one value, in the data and in every object inside it. -/
def distinctKeys (node : NodeData) : Bool := (Node.Value.object node.entries).distinctKeys

/-- How many arrays and objects stand inside one another, the data itself among them. -/
def nesting (node : NodeData) : Nat := (Node.Value.object node.entries).nesting

lemma distinctKeys_empty : empty.distinctKeys := by
  simp [distinctKeys, empty]

lemma distinctKeys_insert {node : NodeData} {value : Node.Value} (key : String)
    (hnode : node.distinctKeys) (hvalue : value.distinctKeys) :
    (node.insert key value).2.distinctKeys :=
  Node.Value.distinctKeys_insert key hnode hvalue

/-- Data from a list of entries repeats no key, whatever keys the list repeats. -/
lemma distinctKeys_ofList {entries : List (String × Node.Value)}
    (hvalues : ∀ entry ∈ entries, entry.2.distinctKeys) : (ofList entries).distinctKeys := by
  have hfold : ∀ acc : Node.Entries Node.Value, (Node.Value.object acc).distinctKeys →
      (Node.Value.object
        (entries.foldl (fun acc entry => Node.Entries.insert acc entry.1 entry.2) acc)).distinctKeys := by
    induction entries with
    | nil => exact fun acc hacc => hacc
    | cons entry rest ih =>
      obtain ⟨hentry, hrest⟩ := List.forall_mem_cons.1 hvalues
      exact fun acc hacc => ih hrest _ (Node.Value.distinctKeys_insert entry.1 hacc hentry)
  exact hfold [] distinctKeys_empty

end NodeData

end SetupRecipe
