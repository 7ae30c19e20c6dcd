import Plotline.Proofs.Story.Prompt

/-!
# Numbers of decisions

A presenter counts the decisions twice: once when it writes them below a dialog, from 1 upwards, and
once when it looks for the decision that the player asks for by a number. Both counts agree, for
every dialog and however the disabled decisions are shown.

* `Presenter.Writes` says how a decision is written under its number.
* `Presenter.pick_eq_some_iff_of_int`: which decision an integer picks.
* `Presenter.existsUnique_pick`: every enabled decision has one number.
* `Presenter.shown_number_is_picked` puts them together.
-/

namespace Plotline.Presenter

variable {p : Presenter} {d : Dialog} {n : ℕ} {x : Decision}

/-! ## What is written -/

/-- What a decision is called: what it says, or its id if it says nothing. -/
inductive Called (x : Decision) : String → Prop
  | message {m : String} (h : x.message = some m) (hne : m ≠ "") : Called x m
  | id (h : x.message.getD "" = "") : Called x x.id

/-- What stands behind a decision: the mark exactly if it is disabled. -/
inductive Marked (p : Presenter) (x : Decision) : String → Prop
  | enabled (h : x.enabled = true) : Marked p x ""
  | disabled (h : x.enabled = false) : Marked p x p.disabledMark

/-- The text is the decision under its number. -/
structure Writes (p : Presenter) (n : ℕ) (x : Decision) (text : String) : Prop where
  parts : ∃ name mark, Called x name ∧ p.Marked x mark ∧ text = toString n ++ ") " ++ name ++ mark

theorem called_caption (x : Decision) : Called x x.caption := by
  rw [Decision.caption]
  split
  · rename_i h
    exact .id h
  · rename_i h
    cases hm : x.message with
    | none => simp [hm] at h
    | some m =>
      rw [hm] at h
      exact .message hm h

theorem writes_item (p : Presenter) (n : ℕ) (x : Decision) : p.Writes n x (p.item n x) := by
  refine ⟨x.caption, if x.enabled then "" else p.disabledMark, called_caption x, ?_, rfl⟩
  cases he : x.enabled with
  | true => exact .enabled he
  | false => exact .disabled he

/-- The items below a dialog. -/
def items (p : Presenter) (d : Dialog) : List String :=
  ((p.visible d).zipIdx 1).map fun (x, n) => p.item n x

theorem lines_eq (p : Presenter) (d : Dialog) : p.lines d = d.messageLines ++ p.items d := rfl

theorem length_items (p : Presenter) (d : Dialog) :
    (p.items d).length = (p.visible d).length := by
  rw [items, List.length_map, List.length_zipIdx]

/-- **The `n`-th item is the `n`-th decision that is listed**, under its number. -/
theorem Lists.getElem?_items (h : p.Lists d n x) : (p.items d)[n - 1]? = some (p.item n x) := by
  have hn : 1 + (n - 1) = n := by
    have := h.pos
    omega
  rw [items, List.getElem?_map, List.getElem?_zipIdx, h.listed, hn]
  rfl

/-! ## What is picked -/

theorem pick_of_lt_one {k : ℤ} (hk : k < 1) : p.pick d k = none := if_pos hk

/-- **An integer picks the enabled decision that is listed under it**; so one below 1 picks none,
and neither does one that is too large. -/
theorem pick_eq_some_iff_of_int {k : ℤ} :
    p.pick d k = some x ↔ 1 ≤ k ∧ p.Lists d k.toNat x ∧ x.enabled = true := by
  by_cases hk : k < 1
  · rw [pick_of_lt_one hk]
    exact iff_of_false (by simp) fun h => by omega
  · have hcast : ((k.toNat : ℕ) : ℤ) = k := by omega
    rw [← hcast, pick_eq_some_iff, hcast, and_iff_right (by omega : 1 ≤ k)]

theorem nodup_visible (p : Presenter) (d : Dialog) : (p.visible d).Nodup :=
  (d.decisions.nodup.of_map Decision.id).filter _

/-- A decision is listed once. -/
theorem Lists.unique {m : ℕ} (h : p.Lists d n x) (h' : p.Lists d m x) : n = m := by
  obtain ⟨hlt, -⟩ := List.getElem?_eq_some_iff.1 h.listed
  have hindex : n - 1 = m - 1 :=
    (List.getElem?_inj hlt (p.nodup_visible d)).1 (h.listed.trans h'.listed.symm)
  have hn := h.pos
  have hm := h'.pos
  omega

/-- **Every enabled decision has exactly one number.** -/
theorem existsUnique_pick (p : Presenter) (hx : x ∈ d.decisions.items) (he : x.enabled = true) :
    ∃! k : ℤ, p.pick d k = some x := by
  obtain ⟨n, hn⟩ := exists_lists_of_enabled p hx he
  refine ⟨n, pick_eq_some_iff.2 ⟨hn, he⟩, ?_⟩
  intro k hk
  obtain ⟨hpos, hlists, -⟩ := pick_eq_some_iff_of_int.1 hk
  have hnk : k.toNat = n := hlists.unique hn
  omega

/-! ## Shown and hidden -/

/-- The presenter that lists the disabled decisions, or leaves them out. -/
def listing (p : Presenter) (disabled : Bool) : Presenter := { p with showDisabled := disabled }

theorem visible_listing_true (p : Presenter) (d : Dialog) :
    (p.listing true).visible d = d.decisions.items := by
  rw [visible, List.filter_eq_self]
  intro x _
  exact Bool.or_true x.enabled

theorem visible_listing_false (p : Presenter) (d : Dialog) :
    (p.listing false).visible d = ((p.listing true).visible d).filter (·.enabled) := by
  rw [visible_listing_true, visible]
  apply List.filter_congr
  intro x _
  exact Bool.or_false x.enabled

/-! ## Both counts together -/

/-- The numbers at a dialog are those that the player can use. -/
structure Numbers (p : Presenter) (d : Dialog) : Prop where
  /-- What is listed are the decisions in their order, the disabled ones only if they are shown. -/
  listed : (p.visible d).Sublist d.decisions.items ∧
    ∀ x, x ∈ p.visible d ↔ x ∈ d.decisions.items ∧ (x.enabled = true ∨ p.showDisabled = true)
  /-- The lines end with one item for each decision that is listed, with its number in front. -/
  items : ∃ items, p.lines d = d.messageLines ++ items ∧ items.length = (p.visible d).length ∧
    ∀ n x, p.Lists d n x → ∃ text, items[n - 1]? = some text ∧ p.Writes n x text
  /-- A number picks the enabled decision that stands under it, and nothing else. -/
  picks : ∀ (k : ℤ) x, p.pick d k = some x ↔ 1 ≤ k ∧ p.Lists d k.toNat x ∧ x.enabled = true
  /-- An enabled decision has one number, a disabled one has none. -/
  enabled : ∀ x ∈ d.decisions.items, x.enabled = true → ∃! k : ℤ, p.pick d k = some x
  disabled : ∀ x ∈ d.decisions.items, x.enabled = false → ∀ k : ℤ, p.pick d k ≠ some x
  /-- Without the disabled decisions the others are listed in the same order. -/
  hidden : (p.listing false).visible d = ((p.listing true).visible d).filter (·.enabled)

/-- **The number that is shown is the number that is picked**, at every dialog, with the disabled
decisions listed or hidden, and whatever integer the player asks for. -/
theorem shown_number_is_picked (p : Presenter) (d : Dialog) : p.Numbers d where
  listed := ⟨List.filter_sublist, fun _ => mem_visible_iff⟩
  items := by
    refine ⟨p.items d, p.lines_eq d, p.length_items d, ?_⟩
    intro n x h
    exact ⟨p.item n x, h.getElem?_items, p.writes_item n x⟩
  picks _ _ := pick_eq_some_iff_of_int
  enabled _ hx he := p.existsUnique_pick hx he
  disabled x _ he k h := by
    have := (pick_eq_some_iff_of_int.1 h).2.2
    rw [he] at this
    cases this
  hidden := p.visible_listing_false d

end Plotline.Presenter
