import Plotline.Text.Utf8

/-!
# What is UTF-8

The octets that are read to their end are exactly those that some text is written as, and the text
that is read is that one (`Utf8.decode_eq_iff`). Of other octets the text in front of the fault is
read (`Utf8.prefix_encode_text`).

* `Utf8.Spells` is the table of the octets of one character and their code points. A character is
  written as the octets of the table (`Utf8.Spells.encode_ofNat`, `Utf8.spells_encodeChar`).
* `Utf8.decodeFrom_spells` and `Utf8.spells_or_fault`: a reading goes on behind such octets, and
  without them it stops.
-/

namespace Plotline.Text.Utf8

/-- The octets of a text. -/
def encode (text : List Char) : List UInt8 := text.flatMap String.utf8EncodeChar

/-! ## One character -/

/-- The octet continues a character. -/
def Continues (b : UInt8) : Prop := 0x80 ≤ b.toNat ∧ b.toNat ≤ 0xBF

/-- The octets of one character and its code point. No character has more octets than it needs, and
none is a surrogate or above U+10FFFF. -/
inductive Spells : List UInt8 → Nat → Prop
  | one {a : UInt8} (ha : a.toNat < 0x80) : Spells [a] a.toNat
  | two {a b : UInt8} {v : Nat} (ha : 0xC0 ≤ a.toNat ∧ a.toNat < 0xE0) (hb : Continues b)
    (hv : v = (a.toNat - 0xC0) * 64 + (b.toNat - 0x80)) (hmin : 0x80 ≤ v) : Spells [a, b] v
  | three {a b c : UInt8} {v : Nat} (ha : 0xE0 ≤ a.toNat ∧ a.toNat < 0xF0) (hb : Continues b)
    (hc : Continues c)
    (hv : v = ((a.toNat - 0xE0) * 64 + (b.toNat - 0x80)) * 64 + (c.toNat - 0x80))
    (hmin : 0x800 ≤ v) (hscalar : ¬(0xD800 ≤ v ∧ v < 0xE000)) : Spells [a, b, c] v
  | four {a b c d : UInt8} {v : Nat} (ha : 0xF0 ≤ a.toNat ∧ a.toNat < 0xF5) (hb : Continues b)
    (hc : Continues c) (hd : Continues d)
    (hv : v = (((a.toNat - 0xF0) * 64 + (b.toNat - 0x80)) * 64 + (c.toNat - 0x80)) * 64 +
      (d.toNat - 0x80))
    (hmin : 0x10000 ≤ v) (hmax : v < 0x110000) : Spells [a, b, c, d] v

variable {octets : List UInt8} {v : Nat}

theorem Spells.isValidChar (h : Spells octets v) : v.isValidChar := by
  cases h with
  | one ha => exact .inl (by omega)
  | two ha hb hv hmin =>
    obtain ⟨hb, hb'⟩ := hb
    exact .inl (by omega)
  | three ha hb hc hv hmin hscalar =>
    obtain ⟨hb, hb'⟩ := hb
    obtain ⟨hc, hc'⟩ := hc
    unfold Nat.isValidChar
    omega
  | four _ _ _ _ _ hmin hmax => exact .inr ⟨by omega, hmax⟩

theorem Spells.toNat_ofNat (h : Spells octets v) : (Char.ofNat v).toNat = v := by
  rw [Char.ofNat, dif_pos h.isValidChar]
  rfl

theorem ofNat_eq {n : Nat} {a : UInt8} (h : n = a.toNat) : UInt8.ofNat n = a := by
  rw [h, UInt8.ofNat_toNat]

/-- The octets of the table are those that the character is written as. -/
theorem Spells.encode_ofNat (h : Spells octets v) :
    String.utf8EncodeChar (Char.ofNat v) = octets := by
  have hval : (Char.ofNat v).val.toNat = v := h.toNat_ofNat
  unfold String.utf8EncodeChar
  rw [hval]
  cases h with
  | one ha => rw [if_pos (by omega), ofNat_eq rfl]
  | @two a b _ ha hb hv hmin =>
    obtain ⟨hb, hb'⟩ := hb
    rw [if_neg (by omega), if_pos (by omega), ofNat_eq (a := a) (by omega),
      ofNat_eq (a := b) (by omega)]
  | @three a b c _ ha hb hc hv hmin hscalar =>
    obtain ⟨hb, hb'⟩ := hb
    obtain ⟨hc, hc'⟩ := hc
    rw [if_neg (by omega), if_neg (by omega), if_pos (by omega), ofNat_eq (a := a) (by omega),
      ofNat_eq (a := b) (by omega), ofNat_eq (a := c) (by omega)]
  | @four a b c d _ ha hb hc hd hv hmin hmax =>
    obtain ⟨hb, hb'⟩ := hb
    obtain ⟨hc, hc'⟩ := hc
    obtain ⟨hd, hd'⟩ := hd
    rw [if_neg (by omega), if_neg (by omega), if_neg (by omega), ofNat_eq (a := a) (by omega),
      ofNat_eq (a := b) (by omega), ofNat_eq (a := c) (by omega), ofNat_eq (a := d) (by omega)]

theorem spells_encodeChar (c : Char) : Spells (String.utf8EncodeChar c) c.toNat := by
  have hvalid : c.toNat < 0xD800 ∨ 0xDFFF < c.toNat ∧ c.toNat < 0x110000 := c.valid
  have hval : c.val.toNat = c.toNat := rfl
  unfold String.utf8EncodeChar
  rw [hval]
  generalize c.toNat = v at hvalid
  have octet {n : Nat} (hn : n < 256) : (UInt8.ofNat n).toNat = n := by
    rw [UInt8.toNat_ofNat', Nat.mod_eq_of_lt hn]
  have more (n : Nat) : (UInt8.ofNat (n % 64 + 0x80)).toNat = n % 64 + 0x80 := octet (by omega)
  have continues (n : Nat) : Continues (UInt8.ofNat (n % 64 + 0x80)) := by
    rw [Continues, more]
    omega
  dsimp only
  split
  · have h := octet (n := v) (by omega)
    have hone := Spells.one (a := UInt8.ofNat v) (by omega)
    rwa [h] at hone
  · split
    · have h := octet (n := v / 64 % 0x20 + 0xC0) (by omega)
      exact .two (by omega) (continues v) (by rw [h, more]; omega) (by omega)
    · split
      · have h := octet (n := v / 4096 % 0x10 + 0xE0) (by omega)
        exact .three (by omega) (continues (v / 64)) (continues v)
          (by rw [h, more, more]; omega) (by omega) (by omega)
      · have h := octet (n := v / 262144 % 0x08 + 0xF0) (by omega)
        exact .four (by omega) (continues (v / 4096)) (continues (v / 64)) (continues v)
          (by rw [h, more, more, more]; omega) (by omega) (by omega)

/-! ## First octets -/

variable {a : UInt8}

theorem lead?_one (h : a.toNat < 0x80) : lead? a = some ⟨0, 0, 0, a.toNat⟩ := if_pos h

theorem lead?_two (h : 0xC2 ≤ a.toNat ∧ a.toNat < 0xE0) :
    lead? a = some ⟨1, 0x80, 0xBF, a.toNat - 0xC0⟩ := by
  unfold lead?
  dsimp only
  rw [if_neg (by omega), if_neg (by omega), if_pos (by omega)]

/-- The range of the second octet leaves out what has fewer octets, and the surrogates. -/
theorem lead?_three (h : 0xE0 ≤ a.toNat ∧ a.toNat < 0xF0) :
    ∃ l, lead? a = some l ∧ l.more = 2 ∧ l.bits = a.toNat - 0xE0 ∧ ∀ b : UInt8,
      (l.low ≤ b.toNat ∧ b.toNat ≤ l.high) ↔ Continues b ∧
        0x20 ≤ (a.toNat - 0xE0) * 64 + (b.toNat - 0x80) ∧
        ¬(0x360 ≤ (a.toNat - 0xE0) * 64 + (b.toNat - 0x80) ∧
          (a.toNat - 0xE0) * 64 + (b.toNat - 0x80) < 0x380) := by
  unfold lead? Continues
  dsimp only
  rw [if_neg (by omega), if_neg (by omega), if_neg (by omega)]
  by_cases hlow : a.toNat = 0xE0
  · rw [if_pos hlow, hlow]
    exact ⟨_, rfl, rfl, rfl, fun b => by dsimp only; omega⟩
  · rw [if_neg hlow]
    by_cases hsurrogate : a.toNat = 0xED
    · rw [if_pos hsurrogate, hsurrogate]
      exact ⟨_, rfl, rfl, rfl, fun b => by dsimp only; omega⟩
    · rw [if_neg hsurrogate, if_pos (by omega)]
      exact ⟨_, rfl, rfl, rfl, fun b => by dsimp only; omega⟩

/-- The range of the second octet leaves out what has fewer octets, and what is too large. -/
theorem lead?_four (h : 0xF0 ≤ a.toNat ∧ a.toNat < 0xF5) :
    ∃ l, lead? a = some l ∧ l.more = 3 ∧ l.bits = a.toNat - 0xF0 ∧ ∀ b : UInt8,
      (l.low ≤ b.toNat ∧ b.toNat ≤ l.high) ↔ Continues b ∧
        0x10 ≤ (a.toNat - 0xF0) * 64 + (b.toNat - 0x80) ∧
        (a.toNat - 0xF0) * 64 + (b.toNat - 0x80) < 0x110 := by
  unfold lead? Continues
  dsimp only
  rw [if_neg (by omega), if_neg (by omega), if_neg (by omega), if_neg (by omega),
    if_neg (by omega), if_neg (by omega)]
  by_cases hlow : a.toNat = 0xF0
  · rw [if_pos hlow, hlow]
    exact ⟨_, rfl, rfl, rfl, fun b => by dsimp only; omega⟩
  · rw [if_neg hlow]
    by_cases hhigh : a.toNat = 0xF4
    · rw [if_neg (by omega), if_pos hhigh, hhigh]
      exact ⟨_, rfl, rfl, rfl, fun b => by dsimp only; omega⟩
    · rw [if_pos (by omega)]
      exact ⟨_, rfl, rfl, rfl, fun b => by dsimp only; omega⟩

theorem lead?_none (h : 0x80 ≤ a.toNat ∧ a.toNat < 0xC2 ∨ 0xF5 ≤ a.toNat) : lead? a = none := by
  unfold lead?
  dsimp only
  rcases h with h | h
  · rw [if_neg (by omega), if_pos (by omega)]
  · rw [if_neg (by omega), if_neg (by omega), if_neg (by omega), if_neg (by omega),
      if_neg (by omega), if_neg (by omega), if_neg (by omega), if_neg (by omega),
      if_neg (by omega)]

/-! ## One step of a reading -/

/-- What was read with one more character in front. -/
def Reading.cons (c : Char) (r : Reading) : Reading := { r with text := c :: r.text }

/-- Nothing is read, since there is a fault at once. -/
structure Reading.Stops (r : Reading) : Prop where
  text : r.text = []
  fault : r.fault ≠ none

/-- What is known of a character behind its first octet. -/
def Lead.begin (l : Lead) (first : UInt8) (position : Nat) : Begun :=
  ⟨first, position, 1, l.more, l.low, l.high, l.bits⟩

/-- The octet is in the range of those that continue the character. -/
def Begun.Takes (p : Begun) (b : UInt8) : Prop := p.low ≤ b.toNat ∧ b.toNat ≤ p.high

/-- The bits of a character with those of one more octet. -/
def Begun.bitsWith (p : Begun) (b : UInt8) : Nat := p.bits * 64 + (b.toNat - 0x80)

/-- What is known of a character behind one more octet. -/
def Begun.next (p : Begun) (b : UInt8) : Begun :=
  { p with read := p.read + 1, missing := p.missing - 1, low := 0x80, high := 0xBF
           bits := p.bitsWith b }

variable {l : Lead} {p : Begun} {b : UInt8}

theorem decodeFrom_single (h : lead? a = some l) (hmore : l.more = 0) (position : Nat)
    (rest : List UInt8) :
    decodeFrom position none (a :: rest) =
      (decodeFrom (position + 1) none rest).cons (Char.ofNat l.bits) := by
  simp only [decodeFrom, h, hmore, if_pos, Reading.cons]

theorem decodeFrom_first (h : lead? a = some l) (hmore : l.more ≠ 0) (position : Nat)
    (rest : List UInt8) :
    decodeFrom position none (a :: rest) =
      decodeFrom (position + 1) (some (l.begin a position)) rest := by
  simp only [decodeFrom, h, if_neg hmore, Lead.begin]

theorem decodeFrom_next (h : p.Takes b) (hmissing : 1 < p.missing) (position : Nat)
    (rest : List UInt8) :
    decodeFrom position (some p) (b :: rest) =
      decodeFrom (position + 1) (some (p.next b)) rest := by
  have hmore : ¬p.missing ≤ 1 := by omega
  exact (if_pos h).trans (if_neg hmore)

theorem decodeFrom_last (h : p.Takes b) (hmissing : p.missing ≤ 1) (position : Nat)
    (rest : List UInt8) :
    decodeFrom position (some p) (b :: rest) =
      (decodeFrom (position + 1) none rest).cons (Char.ofNat (p.bitsWith b)) :=
  (if_pos h).trans (if_pos hmissing)

/-- A character that has begun goes on with an octet in its range, or the reading stops. -/
theorem takes_or_stops (p : Begun) (octets : List UInt8) (position : Nat) :
    (∃ b rest, octets = b :: rest ∧ p.Takes b) ∨ (decodeFrom position (some p) octets).Stops := by
  cases octets with
  | nil => exact .inr ⟨rfl, Option.some_ne_none _⟩
  | cons b rest =>
    by_cases h : p.Takes b
    · exact .inl ⟨b, rest, rfl, h⟩
    · have hstop : decodeFrom position (some p) (b :: rest) =
          ⟨[], some (p.fault .badContinuation)⟩ := if_neg h
      rw [hstop]
      exact .inr ⟨rfl, Option.some_ne_none _⟩

/-! ## One character of a reading -/

theorem decodeFrom_two (h : lead? a = some l) (hmore : l.more = 1)
    (hb : l.low ≤ b.toNat ∧ b.toNat ≤ l.high) (position : Nat) (rest : List UInt8) :
    decodeFrom position none (a :: b :: rest) =
      (decodeFrom (position + 2) none rest).cons (Char.ofNat (l.bits * 64 + (b.toNat - 0x80))) := by
  have hfirst : (l.begin a position).missing = 1 := hmore
  have hsecond : (l.begin a position).Takes b := hb
  rw [decodeFrom_first h (by omega), decodeFrom_last hsecond (by omega)]
  rfl

theorem decodeFrom_three {c : UInt8} (h : lead? a = some l) (hmore : l.more = 2)
    (hb : l.low ≤ b.toNat ∧ b.toNat ≤ l.high) (hc : Continues c) (position : Nat)
    (rest : List UInt8) :
    decodeFrom position none (a :: b :: c :: rest) =
      (decodeFrom (position + 3) none rest).cons
        (Char.ofNat ((l.bits * 64 + (b.toNat - 0x80)) * 64 + (c.toNat - 0x80))) := by
  have hfirst : (l.begin a position).missing = 2 := hmore
  have hsecond : (l.begin a position).Takes b := hb
  have hthird : ((l.begin a position).next b).Takes c := hc
  rw [decodeFrom_first h (by omega), decodeFrom_next hsecond (by omega),
    decodeFrom_last hthird (by simp [Begun.next, hfirst])]
  rfl

theorem decodeFrom_four {c d : UInt8} (h : lead? a = some l) (hmore : l.more = 3)
    (hb : l.low ≤ b.toNat ∧ b.toNat ≤ l.high) (hc : Continues c) (hd : Continues d)
    (position : Nat) (rest : List UInt8) :
    decodeFrom position none (a :: b :: c :: d :: rest) =
      (decodeFrom (position + 4) none rest).cons
        (Char.ofNat (((l.bits * 64 + (b.toNat - 0x80)) * 64 + (c.toNat - 0x80)) * 64 +
          (d.toNat - 0x80))) := by
  have hfirst : (l.begin a position).missing = 3 := hmore
  have hsecond : (l.begin a position).Takes b := hb
  have hthird : ((l.begin a position).next b).Takes c := hc
  have hfourth : (((l.begin a position).next b).next c).Takes d := hd
  rw [decodeFrom_first h (by omega), decodeFrom_next hsecond (by omega),
    decodeFrom_next hthird (by simp [Begun.next, hfirst]),
    decodeFrom_last hfourth (by simp [Begun.next, hfirst])]
  rfl

/-- A reading goes on behind the octets of a character. -/
theorem decodeFrom_spells (h : Spells octets v) (position : Nat) (rest : List UInt8) :
    decodeFrom position none (octets ++ rest) =
      (decodeFrom (position + octets.length) none rest).cons (Char.ofNat v) := by
  cases h with
  | one ha => exact decodeFrom_single (lead?_one ha) rfl position rest
  | @two a b _ ha hb hv hmin =>
    have hlead := lead?_two (a := a) (by obtain ⟨hb, hb'⟩ := hb; omega)
    rw [hv]
    exact decodeFrom_two hlead rfl hb position rest
  | @three a b c _ ha hb hc hv hmin hscalar =>
    obtain ⟨l, hlead, hmore, hbits, hrange⟩ := lead?_three ha
    have hsecond := (hrange b).2 ⟨hb, by obtain ⟨hc, hc'⟩ := hc; omega⟩
    rw [hv, ← hbits]
    exact decodeFrom_three hlead hmore hsecond hc position rest
  | @four a b c d _ ha hb hc hd hv hmin hmax =>
    obtain ⟨l, hlead, hmore, hbits, hrange⟩ := lead?_four ha
    have hsecond := (hrange b).2
      ⟨hb, by obtain ⟨hc, hc'⟩ := hc; obtain ⟨hd, hd'⟩ := hd; omega⟩
    rw [hv, ← hbits]
    exact decodeFrom_four hlead hmore hsecond hc hd position rest

/-- Octets start with those of a character, or their reading stops. -/
theorem spells_or_stops (a : UInt8) (octets : List UInt8) (position : Nat) :
    (∃ first rest v, a :: octets = first ++ rest ∧ Spells first v) ∨
      (decodeFrom position none (a :: octets)).Stops := by
  have hranges : a.toNat < 0x80 ∨ (0xC2 ≤ a.toNat ∧ a.toNat < 0xE0) ∨
      (0xE0 ≤ a.toNat ∧ a.toNat < 0xF0) ∨ (0xF0 ≤ a.toNat ∧ a.toNat < 0xF5) ∨
      (0x80 ≤ a.toNat ∧ a.toNat < 0xC2 ∨ 0xF5 ≤ a.toNat) := by omega
  rcases hranges with h | h | h | h | h
  · exact .inl ⟨[a], octets, _, rfl, .one h⟩
  · rw [decodeFrom_first (lead?_two h) Nat.one_ne_zero]
    refine (takes_or_stops _ _ _).imp_left ?_
    rintro ⟨b, rest, rfl, hb⟩
    obtain ⟨hb, hb'⟩ : Continues b := hb
    exact ⟨[a, b], rest, _, rfl, .two (by omega) ⟨hb, hb'⟩ rfl (by omega)⟩
  · obtain ⟨l, hlead, hmore, -, hrange⟩ := lead?_three h
    have hfirst : (l.begin a position).missing = 2 := hmore
    rw [decodeFrom_first hlead (by omega)]
    rcases takes_or_stops (l.begin a position) octets (position + 1) with
      ⟨b, octets, rfl, hsecond⟩ | hstops
    · obtain ⟨hb, hmin, hscalar⟩ := (hrange b).1 hsecond
      rw [decodeFrom_next hsecond (by omega)]
      refine (takes_or_stops _ _ _).imp_left ?_
      rintro ⟨c, rest, rfl, hc⟩
      obtain ⟨hc, hc'⟩ : Continues c := hc
      exact ⟨[a, b, c], rest, _, rfl, .three h hb ⟨hc, hc'⟩ rfl (by omega) (by omega)⟩
    · exact .inr hstops
  · obtain ⟨l, hlead, hmore, -, hrange⟩ := lead?_four h
    have hfirst : (l.begin a position).missing = 3 := hmore
    rw [decodeFrom_first hlead (by omega)]
    rcases takes_or_stops (l.begin a position) octets (position + 1) with
      ⟨b, octets, rfl, hsecond⟩ | hstops
    · obtain ⟨hb, hmin, hmax⟩ := (hrange b).1 hsecond
      rw [decodeFrom_next hsecond (by omega)]
      rcases takes_or_stops ((l.begin a position).next b) octets (position + 1 + 1) with
        ⟨c, octets, rfl, hthird⟩ | hstops
      · rw [decodeFrom_next hthird (by simp [Begun.next, hfirst])]
        refine (takes_or_stops _ _ _).imp_left ?_
        rintro ⟨d, rest, rfl, hd⟩
        obtain ⟨hc, hc'⟩ : Continues c := hthird
        obtain ⟨hd, hd'⟩ : Continues d := hd
        exact ⟨[a, b, c, d], rest, _, rfl,
          .four h hb ⟨hc, hc'⟩ ⟨hd, hd'⟩ rfl (by omega) (by omega)⟩
      · exact .inr hstops
    · exact .inr hstops
  · have hstop : decodeFrom position none (a :: octets) =
        ⟨[], some ⟨a, position, 1, .badStart⟩⟩ := by
      rw [decodeFrom]
      simp only [lead?_none h]
    rw [hstop]
    exact .inr ⟨rfl, Option.some_ne_none _⟩

/-! ## Whole texts -/

theorem encode_cons (c : Char) (text : List Char) :
    encode (c :: text) = String.utf8EncodeChar c ++ encode text := List.flatMap_cons

theorem decodeFrom_encode (text : List Char) (position : Nat) :
    decodeFrom position none (encode text) = ⟨text, none⟩ := by
  induction text generalizing position with
  | nil => rfl
  | cons c text ih =>
    rw [encode_cons, decodeFrom_spells (spells_encodeChar c), ih, Char.ofNat_toNat]
    rfl

/-- What is read is written at the start of the octets, and there is no fault exactly if this is
all of them. -/
theorem prefix_decodeFrom (octets : List UInt8) (position : Nat) :
    encode (decodeFrom position none octets).text <+: octets ∧
      ((decodeFrom position none octets).fault = none →
        encode (decodeFrom position none octets).text = octets) := by
  induction h : octets.length using Nat.strongRecOn generalizing octets position with
  | _ n ih =>
    cases octets with
    | nil => exact ⟨List.prefix_rfl, fun _ => rfl⟩
    | cons a octets =>
      rcases spells_or_stops a octets position with ⟨first, rest, v, hsplit, hfirst⟩ | hstops
      · have hne : first ≠ [] := by
          rintro rfl
          cases hfirst
        have hlt : rest.length < n := by
          have := List.length_pos_iff.2 hne
          rw [← h, hsplit, List.length_append]
          omega
        obtain ⟨hstart, hall⟩ := ih _ hlt rest (position + first.length) rfl
        rw [hsplit, decodeFrom_spells hfirst]
        simp only [Reading.cons, encode_cons, hfirst.encode_ofNat]
        exact ⟨(List.prefix_append_right_inj first).2 hstart, fun hf => by rw [hall hf]⟩
      · rw [hstops.text]
        exact ⟨List.nil_prefix, fun hf => absurd hf hstops.fault⟩

/-- The text that is read is written at the start of the octets. -/
theorem prefix_encode_text (octets : List UInt8) : encode (decode octets).text <+: octets :=
  (prefix_decodeFrom octets 0).1

/-- **Octets are read to their end exactly if they are those of a text**, and then it is this text
that is read. -/
theorem decode_eq_iff {octets : List UInt8} {text : List Char} :
    decode octets = ⟨text, none⟩ ↔ octets = encode text := by
  constructor
  · intro h
    have hall := (prefix_decodeFrom octets 0).2
    rw [← decode, h] at hall
    exact (hall rfl).symm
  · rintro rfl
    exact decodeFrom_encode text 0

/-- There is a fault exactly if the octets are those of no text. -/
theorem fault_ne_none_iff {octets : List UInt8} :
    (decode octets).fault ≠ none ↔ ∀ text, octets ≠ encode text := by
  constructor
  · rintro h text rfl
    rw [decode_eq_iff.2 rfl] at h
    exact h rfl
  · intro h hnone
    exact h (decode octets).text ((prefix_decodeFrom octets 0).2 hnone).symm

end Plotline.Text.Utf8
