import Plotline.Proofs.Roster

/-!
# Rosters keep what was offered first

Items are offered to a roster, and between the offers the items are changed in ways that keep their
keys. In the end the roster has, for each key that was ever offered, the item that was offered with
it first, in the order of these first offers, and in the state that the later changes left it in.

* `firsts` takes from a list the first item with each key.
* A `Deed` is an offer or a change, and `Roster.run` does one after the other.
* `offered` lists what was offered, refused or not, each item as the changes since left it.
* `items_run` is the law: the items are the firsts of all that was offered.
-/

namespace Plotline

/-! ## The first item with each key -/

section Firsts

variable {α : Type} (key : α → String)

/-- The first item with each key, in order. -/
def firsts : List α → List α
  | [] => []
  | a :: l => a :: (firsts l).filter (key · ≠ key a)

variable {key} {a : α} {l l' : List α}

/-- A list with distinct keys has nothing but firsts. -/
theorem firsts_of_nodup (h : (l.map key).Nodup) : firsts key l = l := by
  induction l with
  | nil => rfl
  | cons a l ih =>
    rw [List.map_cons, List.nodup_cons] at h
    rw [firsts, ih h.2, List.filter_eq_self.2 fun b hb => ?_]
    have hne : key b ≠ key a := fun e => h.1 (e ▸ List.mem_map_of_mem hb)
    exact decide_eq_true hne

/-- Of what comes later, only the items with new keys are firsts. -/
theorem firsts_append : firsts key (l ++ l') =
    firsts key l ++ (firsts key l').filter (key · ∉ l.map key) := by
  induction l with
  | nil => simp [firsts]
  | cons a l ih =>
    rw [List.cons_append, firsts, ih, firsts, List.filter_append, List.filter_filter,
      List.cons_append]
    congr 3
    funext b
    simp [not_or]

/-- **A first is an item that none with its key comes before.** -/
theorem mem_firsts :
    a ∈ firsts key l ↔ ∃ before later, l = before ++ a :: later ∧ key a ∉ before.map key := by
  constructor
  · intro h
    induction l with
    | nil => exact absurd h List.not_mem_nil
    | cons b l ih =>
      rw [firsts, List.mem_cons, List.mem_filter, decide_eq_true_iff] at h
      obtain rfl | ⟨hmem, hne⟩ := h
      · exact ⟨[], l, rfl, List.not_mem_nil⟩
      · obtain ⟨before, later, rfl, hbefore⟩ := ih hmem
        exact ⟨b :: before, later, rfl, by simp [hne, hbefore]⟩
  · rintro ⟨before, later, rfl, h⟩
    rw [firsts_append, List.mem_append, List.mem_filter, firsts]
    exact .inr ⟨List.mem_cons_self, decide_eq_true h⟩

/-- Every key has a first item. -/
theorem mem_keys_firsts {k : String} : k ∈ (firsts key l).map key ↔ k ∈ l.map key := by
  induction l with
  | nil => rfl
  | cons a l ih =>
    simp only [firsts, List.map_cons, List.mem_cons, ← ih, List.mem_map, List.mem_filter,
      decide_eq_true_iff]
    by_cases hk : k = key a
    · simp [hk]
    · grind

/-- The firsts are in the order of the list. -/
theorem firsts_sublist : (firsts key l).Sublist l := by
  induction l with
  | nil => exact .slnil
  | cons a l ih => exact .cons_cons a (List.filter_sublist.trans ih)

/-- An item whose key was there before is no first. -/
theorem firsts_append_cons_of_mem (h : key a ∈ l.map key) :
    firsts key (l ++ a :: l') = firsts key (l ++ l') := by
  rw [firsts_append, firsts_append, firsts, List.filter_cons_of_neg (by simpa using h),
    List.filter_filter]
  congr 2
  funext b
  grind

end Firsts

/-! ## Offers and changes -/

namespace Roster

variable {α : Type} {key : α → String}

variable (α key) in
/-- What is done with a roster: an item is offered, or the items are changed. -/
inductive Deed
  | offer (a : α)
  | change (f : α → α) (keeps : ∀ a, key (f a) = key a)

/-- What a deed makes of an item that is there. -/
def Deed.on : Deed α key → α → α
  | offer _, a => a
  | change f _, a => f a

theorem Deed.key_on (deed : Deed α key) (a : α) : key (deed.on a) = key a := by
  cases deed with
  | offer => rfl
  | change f keeps => exact keeps a

/-- The roster after a deed; an item whose key is taken is refused. -/
def after (r : Roster α key) : Deed α key → Roster α key
  | .offer a => (r.insert? a).getD r
  | .change f keeps => r.map f keeps

/-- The roster after some deeds. -/
def run (r : Roster α key) (deeds : List (Deed α key)) : Roster α key := deeds.foldl after r

/-- What became of an item that was there before the deeds. -/
def since (deeds : List (Deed α key)) (a : α) : α := deeds.foldl (fun a deed => deed.on a) a

/-- All that was offered, as it became. -/
def offered : List (Deed α key) → List α
  | [] => []
  | .offer a :: deeds => since deeds a :: offered deeds
  | .change _ _ :: deeds => offered deeds

theorem key_since (deeds : List (Deed α key)) (a : α) : key (since deeds a) = key a := by
  induction deeds generalizing a with
  | nil => rfl
  | cons deed deeds ih => rw [since, List.foldl_cons, ← since, ih, deed.key_on]

theorem keys_map_since (deeds : List (Deed α key)) (l : List α) :
    (l.map (since deeds)).map key = l.map key := by
  rw [List.map_map]
  exact List.map_congr_left fun a _ => key_since deeds a

/-- **A roster keeps what was offered first.** -/
theorem items_run (r : Roster α key) (deeds : List (Deed α key)) :
    (r.run deeds).items = firsts key (r.items.map (since deeds) ++ offered deeds) := by
  induction deeds generalizing r with
  | nil =>
    have hsince : since ([] : List (Deed α key)) = id := rfl
    rw [offered, List.append_nil, hsince, List.map_id, firsts_of_nodup r.nodup]
    rfl
  | cons deed deeds ih =>
    rw [run, List.foldl_cons, ← run, ih]
    cases deed with
    | change f keeps =>
      have hsince : since (.change f keeps :: deeds) = since deeds ∘ f := rfl
      rw [hsince, offered, after, Roster.map, List.map_map]
    | offer a =>
      have hsince : since (.offer a :: deeds) = since deeds := rfl
      rw [hsince, offered, after]
      by_cases hk : key a ∈ r.keys
      · -- refused, and no first either
        have htaken : key (since deeds a) ∈ (r.items.map (since deeds)).map key := by
          rw [keys_map_since, key_since deeds a]
          exact hk
        rw [insert?_eq_none_iff.2 hk, Option.getD_none, firsts_append_cons_of_mem htaken]
      · obtain ⟨s, hs⟩ := exists_insert? hk
        rw [hs, Option.getD_some, (insert?_eq_some_iff.1 hs).2, List.map_append, List.append_assoc]
        rfl

/-- An item that was there before is still there. -/
theorem get?_run {r : Roster α key} {a : α} (ha : a ∈ r.items) (deeds : List (Deed α key)) :
    (r.run deeds).get? (key a) = some (since deeds a) := by
  have hnodup : ((r.items.map (since deeds)).map key).Nodup := by
    rw [keys_map_since]
    exact r.nodup
  rw [get?_eq_some_iff, items_run, firsts_append, firsts_of_nodup hnodup]
  exact ⟨List.mem_append_left _ (List.mem_map_of_mem ha), key_since deeds a⟩

end Roster

end Plotline
