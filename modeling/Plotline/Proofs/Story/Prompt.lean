import Plotline.Proofs.Number.Numeral
import Plotline.Proofs.Roster
import Plotline.Story.Play

/-!
# What the player says

What stands on the screen under a number (`Presenter.Lists`), and what the player's line asks for.

* `Presenter.pick_eq_some_iff`: a number picks the decision that is listed under it, if that one is
  enabled.
* A line is a word for leaving (`Play.Leaves`), asks for a number (`Play.Asks`), is made of digits
  that give no number (`Play.Stumbles`), or is none of these; `Play.request_cases` says that the
  line is read as what it is.
* `Play.asks_typed`: every number with not too many digits can be asked for.
-/

namespace Plotline

/-! ## Numbers on the screen -/

namespace Presenter

variable {presenter : Presenter} {d : Dialog} {n : Nat} {x : Decision}

/-- The decision `x` is the `n`-th one that is listed at the dialog. -/
structure Lists (presenter : Presenter) (d : Dialog) (n : Nat) (x : Decision) : Prop where
  pos : 0 < n
  listed : (presenter.visible d)[n - 1]? = some x

theorem mem_visible_iff : x ∈ presenter.visible d ↔
    x ∈ d.decisions.items ∧ (x.enabled = true ∨ presenter.showDisabled = true) := by
  rw [visible, List.mem_filter, Bool.or_eq_true]

theorem Lists.mem_visible (h : presenter.Lists d n x) : x ∈ presenter.visible d :=
  List.mem_of_getElem? h.listed

theorem Lists.mem_items (h : presenter.Lists d n x) : x ∈ d.decisions.items :=
  (mem_visible_iff.1 h.mem_visible).1

theorem Lists.le_size (h : presenter.Lists d n x) : n ≤ d.decisions.size := by
  obtain ⟨hlt, -⟩ := List.getElem?_eq_some_iff.1 h.listed
  have hle : (presenter.visible d).length ≤ d.decisions.size := List.length_filter_le _ _
  omega

/-- **What is listed stands on the screen under its number.** -/
theorem Lists.item_mem_lines (h : presenter.Lists d n x) :
    presenter.item n x ∈ presenter.lines d := by
  have hm : (x, n) ∈ (presenter.visible d).zipIdx 1 :=
    List.mk_mem_zipIdx_iff_le_and_getElem?_sub.2 ⟨h.pos, h.listed⟩
  exact List.mem_append_right _ (List.mem_map.2 ⟨_, hm, rfl⟩)

/-- **A number picks the enabled decision that is listed under it.** -/
theorem pick_eq_some_iff :
    presenter.pick d n = some x ↔ presenter.Lists d n x ∧ x.enabled = true := by
  have hindex : ((n : Int) - 1).toNat = n - 1 := by omega
  rw [pick, hindex]
  split
  · rename_i hn
    exact iff_of_false (by simp) fun h => by have := h.1.pos; omega
  · rename_i hn
    rw [Option.filter_eq_some_iff]
    exact ⟨fun h => ⟨⟨by omega, h.1⟩, h.2⟩, fun h => ⟨h.1.listed, h.2⟩⟩

/-- Every enabled decision has a number. -/
theorem exists_lists_of_enabled (presenter : Presenter) (hx : x ∈ d.decisions.items)
    (he : x.enabled = true) : ∃ n, presenter.Lists d n x := by
  obtain ⟨i, hi⟩ := List.getElem?_of_mem (mem_visible_iff.2 ⟨hx, .inl he⟩ : x ∈ presenter.visible d)
  exact ⟨i + 1, Nat.succ_pos i, hi⟩

end Presenter

/-! ## The player's line -/

namespace Play

open Number (digitLimit)
open Number.Numeral (Spells spelled)

variable {line : String} {n : Nat}

/-- The line without the blanks at its ends. -/
def said (line : String) : List Char := Text.strip line.toList

/-- The line is a word for leaving. -/
def Leaves (line : String) : Prop := said line = ['q'] ∨ said line = ['q', 'u', 'i', 't']

/-- The line is a number, written with no more digits than are read. -/
structure Asks (line : String) (n : Nat) : Prop where
  spells : Spells (said line) n
  short : (said line).length ≤ digitLimit

/-- The line is made of digits that give no number: one of them has another shape, or they are too
many. -/
structure Stumbles (line : String) : Prop where
  nonempty : said line ≠ []
  digits : ∀ c ∈ said line, Text.isDigit c = true
  unread : (∃ c ∈ said line, Text.decimalValue? c = none) ∨
    digitLimit < (said line).length

theorem withoutMargins_said (line : String) :
    Number.Numeral.withoutMargins (said line) = said line :=
  Number.Numeral.withoutMargins_eq_self (fun _ => Text.isBlank_of_mem_head?_strip)
    fun _ => Text.isBlank_of_mem_getLast?_strip

/-- A line of digits is a number or makes the player stumble. -/
theorem asks_or_stumbles (hs : said line ≠ []) (hd : ∀ c ∈ said line, Text.isDigit c = true) :
    (∃ n, Asks line n) ∨ Stumbles line := by
  by_cases hx : ∃ c ∈ said line, Text.decimalValue? c = none
  · exact .inr ⟨hs, hd, .inl hx⟩
  · by_cases hlong : digitLimit < (said line).length
    · exact .inr ⟨hs, hd, .inr hlong⟩
    · obtain ⟨n, hn⟩ := Number.Numeral.exists_spells hs fun c hc hv => hx ⟨c, hc, hv⟩
      exact .inl ⟨n, hn, Nat.not_lt.1 hlong⟩

theorem request_of_leaves (h : Leaves line) : request line = .leave := if_pos h

/-- How a line of digits is read. -/
theorem request_of_digits {r : Except Number.Fault Int} (hs : said line ≠ [])
    (hd : ∀ c ∈ said line, Text.isDigit c = true)
    (h : Number.Numeral.read (String.ofList (said line)) = r) :
    request line =
      match r with
      | .ok n => .number n
      | .error f => .badNumber f := by
  have hq : Text.isDigit 'q' = false := by decide
  have hn : ¬Leaves line := by
    rintro (h | h) <;> rw [h] at hd <;> exact absurd (hd 'q' List.mem_cons_self) (by simp [hq])
  have hall : (said line).all Text.isDigit = true := List.all_eq_true.2 hd
  rw [Leaves] at hn
  rw [said] at h hs hall hn
  simp only [request]
  rw [if_neg hn, if_pos ⟨hs, hall⟩, h]
  cases r <;> rfl

theorem Asks.digits (h : Asks line n) : ∀ c ∈ said line, Text.isDigit c = true := fun _ hc =>
  let ⟨_, hv⟩ := h.spells.decimal hc
  Text.isDigit_of_decimalValue? hv

theorem request_of_asks (h : Asks line n) : request line = .number n := by
  have hread : Number.Numeral.read (String.ofList (said line)) = .ok n :=
    Number.Numeral.read_of_spells (withoutMargins_said line) h.short h.spells
  exact request_of_digits h.spells.ne_nil h.digits hread

theorem request_of_stumbles (h : Stumbles line) : ∃ f, request line = .badNumber f := by
  obtain ⟨f, hf⟩ :=
    Number.Numeral.exists_fault (withoutMargins_said line) h.nonempty h.digits h.unread
  exact ⟨f, request_of_digits h.nonempty h.digits hf⟩

/-- **What the player's line is, it is read as.** -/
theorem request_cases (line : String) :
    Leaves line ∧ request line = .leave ∨ (∃ n, Asks line n ∧ request line = .number n) ∨
      (∃ f, Stumbles line ∧ request line = .badNumber f) ∨
      ¬Leaves line ∧ (∀ n, ¬Asks line n) ∧ ¬Stumbles line ∧ request line = .other := by
  by_cases hl : Leaves line
  · exact .inl ⟨hl, request_of_leaves hl⟩
  · by_cases hd : said line ≠ [] ∧ ∀ c ∈ said line, Text.isDigit c = true
    · rcases asks_or_stumbles hd.1 hd.2 with ⟨n, hn⟩ | hs
      · exact .inr (.inl ⟨n, hn, request_of_asks hn⟩)
      · obtain ⟨f, hf⟩ := request_of_stumbles hs
        exact .inr (.inr (.inl ⟨f, hs, hf⟩))
    · refine .inr (.inr (.inr ⟨hl, fun n hn => hd ⟨hn.spells.ne_nil, hn.digits⟩,
        fun hs => hd ⟨hs.nonempty, hs.digits⟩, ?_⟩))
      rw [← List.all_eq_true, said] at hd
      rw [Leaves, said] at hl
      simp only [request]
      rw [if_neg hl, if_neg hd]

/-! ## Typing a number -/

/-- What the player types for a positive number. -/
def typed (n : Nat) : String := String.ofList (spelled n)

/-- **A positive number can be asked for if it is not too long.** -/
theorem asks_typed (hn : 0 < n) (h : n < 10 ^ digitLimit) : Asks (typed n) n := by
  have hsaid : said (typed n) = spelled n := by
    rw [said, typed, String.toList_ofList]
    exact Text.strip_eq_self
      (fun c hc => Number.Numeral.isBlank_of_mem_spelled (List.mem_of_mem_head? hc))
      fun c hc => Number.Numeral.isBlank_of_mem_spelled (List.mem_of_getLast? hc)
  constructor
  · rw [hsaid]
    exact Number.Numeral.spells_spelled hn
  · rw [hsaid]
    exact Number.Numeral.length_spelled_le_iff.2 h

end Play

end Plotline
