import Mathlib.Data.List.Nodup
import Mathlib.Data.List.Forall2
import Plotline.Roster

/-!
# Rosters by their items

A roster is known by the list of its items. Looking up a key finds the one item that has it
(`get?_eq_some_iff`), an insertion succeeds exactly if the key is new and then puts the item at the
end (`insert?_eq_some_iff`), and a change at the key of the last item changes that item only
(`items_modify_of_concat`).

Two rosters with related items (`Each`) behave alike: what is found, taken in and changed is related
again.
-/

namespace Plotline.Roster

variable {α : Type} {key : α → String} {r s : Roster α key} {a b : α} {k : String}

theorem eq_of_mem_of_key_eq (ha : a ∈ r.items) (hb : b ∈ r.items) (h : key a = key b) : a = b :=
  List.inj_on_of_nodup_map r.nodup ha hb h

/-- **A key names the item that has it.** -/
theorem get?_eq_some_iff : r.get? k = some a ↔ a ∈ r.items ∧ key a = k := by
  constructor
  · exact fun h => ⟨mem_of_get? h, key_of_get? h⟩
  · rintro ⟨ha, rfl⟩
    cases h : r.get? (key a) with
    | none =>
      have := get?_eq_none_iff.1 h
      exact absurd (List.mem_map_of_mem ha) this
    | some b => rw [eq_of_mem_of_key_eq (mem_of_get? h) ha (key_of_get? h)]

theorem contains_eq_true_iff : r.contains k = true ↔ k ∈ r.keys := by
  rw [contains, ← not_iff_not, Bool.not_eq_true, Option.isSome_eq_false_iff,
    Option.isNone_iff_eq_none, get?_eq_none_iff]

theorem exists_get?_of_mem_keys (h : k ∈ r.keys) : ∃ a, r.get? k = some a := by
  obtain ⟨a, ha, hk⟩ := List.mem_map.1 h
  exact ⟨a, get?_eq_some_iff.2 ⟨ha, hk⟩⟩

/-- **An item is taken in at the end, exactly if its key is new.** -/
theorem insert?_eq_some_iff :
    r.insert? a = some s ↔ key a ∉ r.keys ∧ s.items = r.items ++ [a] := by
  rw [insert?]
  split
  · rename_i h
    have hk := get?_eq_none_iff.1 h
    constructor
    · intro e
      obtain rfl := Option.some.inj e
      exact ⟨hk, rfl⟩
    · rintro ⟨-, e⟩
      exact congrArg some (ext_items e.symm)
  · rename_i h
    rw [get?_eq_none_iff, not_not] at h
    exact iff_of_false (by simp) fun e => e.1 h

theorem insert?_eq_none_iff : r.insert? a = none ↔ key a ∈ r.keys := by
  rw [insert?, dite_eq_right_iff]
  simp [get?_eq_none_iff]

theorem items_modify {f : α → α} {hf : ∀ a, key (f a) = key a} :
    (r.modify k f hf).items = r.items.map fun a => if key a = k then f a else a := rfl

/-- A change shows in nothing that it keeps for every item. -/
theorem map_items_modify {β : Type} {g : α → β} {f : α → α} (hf : ∀ a, key (f a) = key a)
    (h : ∀ a, g (f a) = g a) : (r.modify k f hf).items.map g = r.items.map g := by
  rw [items_modify, List.map_map]
  refine List.map_congr_left fun a _ => ?_
  rw [Function.comp_apply]
  split
  · exact h a
  · rfl

theorem keys_modify {f : α → α} (hf : ∀ a, key (f a) = key a) :
    (r.modify k f hf).keys = r.keys := map_items_modify hf hf

/-- A change at the key of the last item changes that item only. -/
theorem items_modify_of_concat {l : List α} {f : α → α} {hf : ∀ a, key (f a) = key a}
    (h : r.items = l ++ [a]) : (r.modify (key a) f hf).items = l ++ [f a] := by
  have hn := r.nodup
  rw [h, List.map_append, List.nodup_append] at hn
  have hl : ∀ b ∈ l, key b ≠ key a := fun b hb =>
    hn.2.2 _ (List.mem_map_of_mem hb) _ (by simp)
  have hm : (l.map fun b => if key b = key a then f b else b) = l := by
    rw [List.map_congr_left fun b hb => if_neg (hl b hb), List.map_id']
  rw [items_modify, h, List.map_append, hm]
  simp

/-- The items turned into others with the same keys. -/
def map {β : Type} {key' : β → String} (r : Roster α key) (f : α → β)
    (hf : ∀ a, key' (f a) = key a) : Roster β key' :=
  ⟨r.items.map f, by
    have hkey : key' ∘ f = key := funext hf
    rw [List.map_map, hkey]
    exact r.nodup⟩

/-! ## Two rosters item by item -/

theorem map_eq_map_of_forall₂ {β γ δ : Type} {R : β → γ → Prop} {f : β → δ} {g : γ → δ}
    {l : List β} {m : List γ} (h : List.Forall₂ R l m) (hR : ∀ a b, R a b → f a = g b) :
    l.map f = m.map g := by
  induction h with
  | nil => rfl
  | cons h _ ih => rw [List.map_cons, List.map_cons, hR _ _ h, ih]

/-- The items of two rosters are related one by one. -/
def Each (R : α → α → Prop) (r s : Roster α key) : Prop := List.Forall₂ R r.items s.items

theorem exists_insert? (h : key a ∉ r.keys) : ∃ s, r.insert? a = some s := by
  rw [← Option.ne_none_iff_exists']
  exact fun hn => h (insert?_eq_none_iff.1 hn)

namespace Each

variable {R : α → α → Prop} (hR : ∀ a b, R a b → key a = key b)

theorem empty : Each R (∅ : Roster α key) ∅ := .nil

include hR

theorem keys (h : Each R r s) : r.keys = s.keys := map_eq_map_of_forall₂ h hR

theorem get? (h : Each R r s) (k : String) : Option.Rel R (r.get? k) (s.get? k) := by
  rw [Roster.get?, Roster.get?]
  rw [Each] at h
  generalize r.items = l, s.items = m at h
  induction h with
  | nil => exact .none
  | @cons a b l m hab _ ih =>
    by_cases hk : key a = k
    · rw [List.find?_cons_of_pos (by simpa using hk),
        List.find?_cons_of_pos (by simpa [hR a b hab] using hk)]
      exact .some hab
    · rw [List.find?_cons_of_neg (by simpa using hk),
        List.find?_cons_of_neg (by simpa [hR a b hab] using hk)]
      exact ih

theorem insert? (h : Each R r s) (hab : R a b) :
    Option.Rel (Each R) (r.insert? a) (s.insert? b) := by
  by_cases hk : key a ∈ r.keys
  · have hk' : key b ∈ s.keys := by rwa [← h.keys hR, ← hR a b hab]
    rw [insert?_eq_none_iff.2 hk, insert?_eq_none_iff.2 hk']
    exact .none
  · have hk' : key b ∉ s.keys := by rwa [← h.keys hR, ← hR a b hab]
    obtain ⟨r', hr⟩ := exists_insert? hk
    obtain ⟨s', hs⟩ := exists_insert? hk'
    rw [hr, hs]
    refine .some ?_
    rw [Each, (insert?_eq_some_iff.1 hr).2, (insert?_eq_some_iff.1 hs).2]
    exact List.rel_append h (.cons hab .nil)

theorem modify {f g : α → α} (hf : ∀ a, key (f a) = key a) (hg : ∀ a, key (g a) = key a)
    (h : Each R r s) (hfg : ∀ a b, R a b → R (f a) (g b)) :
    Each R (r.modify k f hf) (s.modify k g hg) := by
  rw [Each, items_modify, items_modify]
  refine List.rel_map (fun a b hab => ?_) h
  rw [hR a b hab]
  split
  · exact hfg a b hab
  · exact hab

end Each

end Plotline.Roster
