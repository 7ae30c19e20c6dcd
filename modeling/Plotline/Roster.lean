/-!
# Rosters

A roster is a list of items with distinct keys, in the order in which they came. An item whose key
is taken is refused, and no item is ever taken off, so the first item with a key stays.

* `Roster.insert?` adds an item at the end, or refuses it.
* `Roster.get?` finds the item with a key, `Roster.keys` lists the keys.
* `Roster.modify` changes the item with a key in a way that keeps its key.
-/

namespace Plotline

/-- Items with distinct keys, in order of arrival. -/
structure Roster (α : Type) (key : α → String) where
  items : List α := []
  nodup : (items.map key).Nodup := by exact List.nodup_nil

namespace Roster

variable {α : Type} {key : α → String}

theorem ext_items {r s : Roster α key} (h : r.items = s.items) : r = s := by
  cases r; cases s; cases h; rfl

instance [DecidableEq α] : DecidableEq (Roster α key) := fun r s =>
  if h : r.items = s.items then isTrue (ext_items h) else isFalse fun e => h (e ▸ rfl)

instance : EmptyCollection (Roster α key) := ⟨{}⟩

instance : Inhabited (Roster α key) := ⟨∅⟩

/-- The keys, in order. -/
def keys (r : Roster α key) : List String := r.items.map key

/-- How many items there are. -/
def size (r : Roster α key) : Nat := r.items.length

/-- The item with this key. -/
def get? (r : Roster α key) (k : String) : Option α := r.items.find? (key · = k)

/-- Whether some item has this key. -/
def contains (r : Roster α key) (k : String) : Bool := (r.get? k).isSome

theorem get?_eq_none_iff {r : Roster α key} {k : String} : r.get? k = none ↔ k ∉ r.keys := by
  simp [get?, keys]

theorem key_of_get? {r : Roster α key} {k : String} {a : α} (h : r.get? k = some a) :
    key a = k := by
  simpa using List.find?_some h

theorem mem_of_get? {r : Roster α key} {k : String} {a : α} (h : r.get? k = some a) :
    a ∈ r.items :=
  List.mem_of_find?_eq_some h

/-- Adds an item at the end, unless its key is taken. -/
def insert? (r : Roster α key) (a : α) : Option (Roster α key) :=
  if h : r.get? (key a) = none then
    some ⟨r.items ++ [a], by
      have := get?_eq_none_iff.1 h
      simp only [keys, List.mem_map, not_exists, not_and] at this
      simp only [List.map_append, List.map_cons, List.map_nil, List.nodup_append, r.nodup,
        List.mem_map, List.mem_singleton, forall_exists_index, and_imp, true_and]
      refine ⟨by simp, ?_⟩
      rintro _ x hx rfl _ rfl e
      exact this x hx e⟩
  else none

/-- Changes the item with this key; the change keeps keys. -/
def modify (r : Roster α key) (k : String) (f : α → α)
    (hf : ∀ a, key (f a) = key a := by intros; rfl) : Roster α key :=
  ⟨r.items.map fun a => if key a = k then f a else a, by
    have : (r.items.map fun a => if key a = k then f a else a).map key = r.items.map key := by
      simp only [List.map_map]
      refine List.map_congr_left fun a _ => ?_
      simp only [Function.comp_apply]
      split <;> simp [hf]
    rw [this]
    exact r.nodup⟩

end Roster

end Plotline
