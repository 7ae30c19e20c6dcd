import Mathlib.Data.List.TakeWhile
import Mathlib.Data.Nat.Digits.Lemmas
import Mathlib.Tactic.IntervalCases
import Plotline.Proofs.Text.Lines
import Plotline.Number.Numeral

/-!
# Numerals of digits alone

A text of decimal digits spells a number (`Numeral.Spells`), whatever scripts its digits are from.

* `read_of_spells`: such a text reads as the number that it spells, if it has no more digits than
  allowed. Any other text of digits is a fault (`exists_fault`).
* `spells_spelled`: every positive number can be spelled (`Numeral.spelled`).
-/

namespace Plotline.Number.Numeral

open Text (decimalValue? isDigit isBlank strip)

variable {s : List Char} {ds : List Nat} {n : Nat}

/-- The text consists of the decimal digits of `n`, highest first; zeros may stand in front. -/
def Spells (s : List Char) (n : Nat) : Prop :=
  ∃ ds, ds ≠ [] ∧ s.map decimalValue? = ds.map some ∧ Nat.ofDigits 10 ds.reverse = n

/-! ## Reading digits -/

theorem value_eq_ofDigits (base : Nat) (ds : List Nat) :
    value base ds = Nat.ofDigits base ds.reverse := by
  rw [value, Nat.ofDigits_eq_foldr, List.foldr_reverse]
  congr 1
  funext m d
  rw [Nat.cast_id, Nat.add_comm, Nat.mul_comm]

theorem exists_of_map_eq (h : s.map decimalValue? = ds.map some) {c : Char} (hc : c ∈ s) :
    ∃ v, decimalValue? c = some v := by
  have hm : decimalValue? c ∈ ds.map some := h ▸ List.mem_map_of_mem hc
  obtain ⟨v, -, hv⟩ := List.mem_map.1 hm
  exact ⟨v, hv.symm⟩

theorem ne_of_decimalValue? {c : Char} {v : Nat} (h : decimalValue? c = some v) :
    c ≠ '_' ∧ c ≠ '-' ∧ c ≠ '+' := by
  refine ⟨?_, ?_, ?_⟩ <;> rintro rfl <;> revert h <;> revert v <;> decide

theorem digits?_of_map_eq (h : s.map decimalValue? = ds.map some) (hs : s ≠ []) :
    digits? s = some ds := by
  induction s generalizing ds with
  | nil => exact absurd rfl hs
  | cons c s ih =>
    obtain ⟨v, vs, rfl, hv, hvs⟩ : ∃ v vs, ds = v :: vs ∧ decimalValue? c = some v ∧
        s.map decimalValue? = vs.map some := by
      cases ds with
      | nil => cases h
      | cons v vs => exact ⟨v, vs, rfl, List.cons.inj h⟩
    cases s with
    | nil =>
      obtain rfl : vs = [] := by simpa using hvs
      simp [digits?, hv]
    | cons c' s =>
      obtain ⟨v', hv'⟩ := exists_of_map_eq hvs List.mem_cons_self
      have hc' : c' ≠ '_' := (ne_of_decimalValue? hv').1
      rw [digits?.eq_4 _ _ (by simp) (by simpa using hc'), hv, ih hvs (by simp)]
      rfl

theorem takeSign_of_isDigit (h : ∀ c ∈ s, isDigit c = true) : takeSign s = (false, s) := by
  cases s with
  | nil => rfl
  | cons c s =>
    have hd := h c List.mem_cons_self
    have hm : c ≠ '-' := by rintro rfl; revert hd; decide
    have hp : c ≠ '+' := by rintro rfl; revert hd; decide
    rw [takeSign.eq_3 _ (by simpa using hm) (by simpa using hp)]

theorem withoutMargins_eq_self (hf : ∀ c ∈ s.head?, isBlank c = false)
    (hl : ∀ c ∈ s.getLast?, isBlank c = false) : withoutMargins s = s := by
  have hdrop : ∀ t : List Char, (∀ c ∈ t.head?, isBlank c = false) → t.dropWhile isMargin = t := by
    intro t ht
    cases t with
    | nil => rfl
    | cons c t => exact List.dropWhile_cons_of_neg (by simp [isMargin, ht c rfl])
  rw [withoutMargins, hdrop s hf, hdrop s.reverse (by simpa using hl), List.reverse_reverse]

theorem isPart_of_decimalValue? {c : Char} {v : Nat} (h : decimalValue? c = some v) :
    isPart c = true := by
  simp [isPart, h]

theorem isPart_of_shaped {c : Char} (hd : isDigit c = true) (h : decimalValue? c = none) :
    isPart c = false := by
  have hc : c ≠ '_' := by rintro rfl; revert hd; decide
  simp [isPart, h, hc]

/-- Reading a text without margins whose characters are digits. -/
theorem read_of_isDigit (hm : withoutMargins s = s) (hd : ∀ c ∈ s, isDigit c = true) :
    read (String.ofList s) =
      match digits? (s.takeWhile isPart) with
      | none => .error (.notANumeral 10 (String.ofList s))
      | some ds =>
        if digitLimit < ds.length then .error (.tooManyDigits ds.length)
        else if s.all isPart then .ok (value 10 ds)
        else .error (.notANumeral 10 (String.ofList s)) := by
  simp only [read, String.toList_ofList, hm, takeSign_of_isDigit hd]
  rfl

theorem read_of_map_eq (hm : withoutMargins s = s) (hs : s ≠ [])
    (h : s.map decimalValue? = ds.map some) :
    read (String.ofList s) =
      if digitLimit < s.length then .error (.tooManyDigits s.length)
      else .ok (Nat.ofDigits 10 ds.reverse : Nat) := by
  have hd : ∀ c ∈ s, isDigit c = true := fun c hc =>
    let ⟨_, hv⟩ := exists_of_map_eq h hc
    Text.isDigit_of_decimalValue? hv
  have hp : ∀ c ∈ s, isPart c = true := fun c hc =>
    let ⟨_, hv⟩ := exists_of_map_eq h hc
    isPart_of_decimalValue? hv
  have hlength : ds.length = s.length := by simpa using (congrArg List.length h).symm
  rw [read_of_isDigit hm hd, List.takeWhile_eq_self_iff.2 hp, digits?_of_map_eq h hs]
  simp only [hlength, List.all_eq_true.2 hp, if_true, value_eq_ofDigits]

theorem map_eq_of_decimal (h : ∀ c ∈ s, decimalValue? c ≠ none) :
    s.map decimalValue? = (s.map fun c => (decimalValue? c).getD 0).map some := by
  rw [List.map_map]
  refine List.map_congr_left fun c hc => ?_
  obtain ⟨v, hv⟩ := Option.ne_none_iff_exists'.1 (h c hc)
  simp [hv]

theorem exists_spells (hs : s ≠ []) (h : ∀ c ∈ s, decimalValue? c ≠ none) : ∃ n, Spells s n :=
  ⟨_, _, by simpa using hs, map_eq_of_decimal h, rfl⟩

theorem Spells.decimal (h : Spells s n) {c : Char} (hc : c ∈ s) :
    ∃ v, decimalValue? c = some v := by
  obtain ⟨ds, -, hds, -⟩ := h
  exact exists_of_map_eq hds hc

theorem Spells.ne_nil (h : Spells s n) : s ≠ [] := by
  obtain ⟨ds, hne, hds, -⟩ := h
  rintro rfl
  exact hne (by simpa using hds.symm)

/-- **A text of decimal digits reads as the number that it spells.** -/
theorem read_of_spells (hm : withoutMargins s = s) (hl : s.length ≤ digitLimit)
    (h : Spells s n) : read (String.ofList s) = .ok n := by
  have hs : s ≠ [] := h.ne_nil
  obtain ⟨ds, -, hds, rfl⟩ := h
  rw [read_of_map_eq hm hs hds, if_neg (Nat.not_lt.2 hl)]

/-- A text of digits is no numeral if it is too long or if one of them has another shape. -/
theorem exists_fault (hm : withoutMargins s = s) (hs : s ≠ []) (hd : ∀ c ∈ s, isDigit c = true)
    (h : (∃ c ∈ s, decimalValue? c = none) ∨ digitLimit < s.length) :
    ∃ f, read (String.ofList s) = .error f := by
  by_cases hx : ∃ c ∈ s, decimalValue? c = none
  · obtain ⟨c, hc, hv⟩ := hx
    have hall : s.all isPart = false := by
      rw [List.all_eq_false]
      exact ⟨c, hc, by simp [isPart_of_shaped (hd c hc) hv]⟩
    rw [read_of_isDigit hm hd, hall]
    cases digits? (s.takeWhile isPart) with
    | none => exact ⟨_, rfl⟩
    | some ds =>
      by_cases hlong : digitLimit < ds.length
      · exact ⟨.tooManyDigits ds.length, by simp [hlong]⟩
      · exact ⟨.notANumeral 10 (String.ofList s), by simp [hlong]⟩
  · have hlong := h.resolve_left hx
    have hds := map_eq_of_decimal fun c hc hn => hx ⟨c, hc, hn⟩
    exact ⟨.tooManyDigits s.length, by rw [read_of_map_eq hm hs hds, if_pos hlong]⟩

/-! ## Spelling a number -/

/-- The digits of a positive number, highest first. -/
def spelled (n : Nat) : List Char := ((Nat.digits 10 n).map Nat.digitChar).reverse

theorem decimalValue?_digitChar {d : Nat} (h : d < 10) :
    decimalValue? (Nat.digitChar d) = some d ∧ isBlank (Nat.digitChar d) = false := by
  interval_cases d <;> decide

theorem map_decimalValue?_spelled (n : Nat) :
    (spelled n).map decimalValue? = (Nat.digits 10 n).reverse.map some := by
  rw [spelled, List.map_reverse, List.map_reverse, List.map_map]
  congr 1
  refine List.map_congr_left fun d hd => ?_
  exact (decimalValue?_digitChar (Nat.digits_lt_base (by decide) hd)).1

theorem isBlank_of_mem_spelled {c : Char} (h : c ∈ spelled n) : isBlank c = false := by
  rw [spelled, List.mem_reverse] at h
  obtain ⟨d, hd, rfl⟩ := List.mem_map.1 h
  exact (decimalValue?_digitChar (Nat.digits_lt_base (by decide) hd)).2

/-- **Every positive number can be spelled.** -/
theorem spells_spelled (h : 0 < n) : Spells (spelled n) n := by
  refine ⟨(Nat.digits 10 n).reverse, ?_, map_decimalValue?_spelled n, ?_⟩
  · rw [Ne, List.reverse_eq_nil_iff, Nat.digits_eq_nil_iff_eq_zero]
    exact Nat.ne_of_gt h
  · rw [List.reverse_reverse, Nat.ofDigits_digits]

theorem length_spelled_le_iff {k : Nat} : (spelled n).length ≤ k ↔ n < 10 ^ k := by
  rw [spelled, List.length_reverse, List.length_map]
  exact Nat.digits_length_le_iff (by decide) n

end Plotline.Number.Numeral
