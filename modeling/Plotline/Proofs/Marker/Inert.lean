import Plotline.Proofs.Marker.Grammar
import Plotline.Proofs.Text.Padded

/-!
# Text without markers

What a scan leaves behind as text holds no marker, although the markers that stood in it were taken
out and characters have come together that were apart. The reason is that every `$` of the text has
kept what was looked at behind it, and only the end of a line can leave one without.

* `Unmarked` is text in which no `$` begins a marker. That is all text in which a scan finds no id
  and no link (`unmarked_iff`), and a scan gives it back as it is (`inert_iff`).
* A beginning of unmarked text is unmarked (`Unmarked.of_shorter`), and so are two unmarked texts
  with a newline in the middle (`Unmarked.append_newline`).
* `unmarked_plain_take`: the text of the first segments of a line is unmarked, however many they
  are.
-/

namespace Plotline.Marker

open Text (cutLines joinLines joinLines_cons_cons)

variable {trim : Bool} {line s t : List Char}

/-- Text in which no `$` begins a marker. A `$` takes the next character along, and one more behind
a letter that announces a link. -/
inductive Unmarked : List Char → Prop
  | nil : Unmarked []
  | char {c : Char} {s : List Char} (hc : c ≠ '$') (h : Unmarked s) : Unmarked (c :: s)
  | other {c : Char} {s : List Char} (hc : c ≠ '[') (hk : ∀ kind, ¬Announces c kind)
      (h : Unmarked s) : Unmarked ('$' :: c :: s)
  | letter {k c : Char} {kind : LinkKind} {s : List Char} (hk : Announces k kind) (hc : c ≠ '[')
      (h : Unmarked s) : Unmarked ('$' :: k :: c :: s)
  | last : Unmarked ['$']
  | lastLetter {k : Char} {kind : LinkKind} (hk : Announces k kind) : Unmarked ['$', k]

/-! ## What a scan finds in it -/

/-- A piece that is no marker makes no marker with the text behind it, whatever that is, unless the
piece ended its line. -/
theorem Piece.StandsBefore.unmarked {p : Piece} (h : p.StandsBefore trim line)
    (hid : p.meaning.id? = none) (hlink : p.meaning.link? = none) (hend : line = [] → s = [])
    (hs : Unmarked s) : Unmarked (p.written ++ s) := by
  cases h with
  | char hc => exact .char hc hs
  | id => cases hid
  | link => cases hlink
  | other hc hk => exact .other hc hk hs
  | letter hk hc => exact .letter hk hc hs
  | last =>
    rw [hend rfl]
    exact .last
  | lastLetter hk =>
    rw [hend rfl]
    exact .lastLetter hk

theorem Unmarked.exists_decomposes (trim : Bool) (h : Unmarked s) :
    ∃ ps, Decomposes trim s ps ∧ ∀ p ∈ ps, p.meaning.id? = none ∧ p.meaning.link? = none := by
  have cons : ∀ {p : Piece} {s : List Char}, p.StandsBefore trim s →
      p.meaning.id? = none ∧ p.meaning.link? = none →
      (∃ ps, Decomposes trim s ps ∧ ∀ p ∈ ps, p.meaning.id? = none ∧ p.meaning.link? = none) →
      ∃ ps, Decomposes trim (p.written ++ s) ps ∧
        ∀ p ∈ ps, p.meaning.id? = none ∧ p.meaning.link? = none := by
    rintro p s hp hm ⟨ps, hps, hall⟩
    exact ⟨p :: ps, .cons rfl hp hps, List.forall_mem_cons.2 ⟨hm, hall⟩⟩
  have nil : ∃ ps, Decomposes trim [] ps ∧
      ∀ p ∈ ps, p.meaning.id? = none ∧ p.meaning.link? = none :=
    ⟨[], .nil, fun _ hp => absurd hp List.not_mem_nil⟩
  induction h with
  | nil => exact nil
  | char hc _ ih => exact cons (.char hc) ⟨rfl, rfl⟩ ih
  | other hc hk _ ih => exact cons (.other hc hk) ⟨rfl, rfl⟩ ih
  | letter hk hc _ ih => exact cons (.letter hk hc) ⟨rfl, rfl⟩ ih
  | last => exact cons .last ⟨rfl, rfl⟩ nil
  | lastLetter hk => exact cons (.lastLetter hk) ⟨rfl, rfl⟩ nil

/-- **Unmarked text is text in which a scan finds no id and no link.** -/
theorem unmarked_iff : Unmarked s ↔ ids (segments trim s) = [] ∧ links (segments trim s) = [] := by
  constructor
  · intro h
    obtain ⟨ps, hps, hall⟩ := h.exists_decomposes trim
    rw [hps.segments_eq, ids, links, List.filterMap_eq_nil_iff, List.filterMap_eq_nil_iff]
    exact ⟨List.forall_mem_map.2 fun p hp => (hall p hp).1,
      List.forall_mem_map.2 fun p hp => (hall p hp).2⟩
  · rintro ⟨hid, hlink⟩
    obtain ⟨ps, h⟩ := exists_decomposes trim s
    rw [h.segments_eq] at hid hlink
    induction h with
    | nil => exact .nil
    | cons hl hp _ ih =>
      rw [List.map_cons, ids_cons, List.append_eq_nil_iff, Option.toList_eq_nil_iff] at hid
      rw [List.map_cons, links_cons, List.append_eq_nil_iff, Option.toList_eq_nil_iff] at hlink
      rw [← hl]
      exact hp.unmarked hid.1 hlink.1 id (ih hlink.2 hid.2)

/-- A scan of the text into a fresh token, with the trimming or without it, finds no id and no link
and gives the text back. -/
def Inert (text : String) : Prop :=
  ∀ trim, ({} : Token).scan trim text.toList = .ok { text := text }

theorem inert_iff {text : String} : Inert text ↔ Unmarked text.toList := by
  constructor
  · intro h
    obtain ⟨⟨hid, hlink⟩, ht⟩ := Token.scan_eq_ok_iff.1 (h true)
    have hids : ids (segments true text.toList) = [] :=
      List.head?_eq_none_iff.1 (congrArg Token.id ht).symm
    have hlinks : links (segments true text.toList) = [] := by
      cases hl : links (segments true text.toList) with
      | nil => rfl
      | cons l more =>
        have hmem : l ∈ links (segments true text.toList) := by simp [hl]
        obtain ⟨kind, target, rfl⟩ := exists_into_of_mem_links hmem
        have htarget := congrArg (·.link.target) ht
        simp [Token.ofSegments, hl, Link.into] at htarget
    exact unmarked_iff.2 ⟨hids, hlinks⟩
  · intro h trim
    obtain ⟨hid, hlink⟩ := unmarked_iff.1 h
    have hplain : plain (segments trim text.toList) = text := by
      rw [plain_segments_of_unmarked hid hlink, String.ofList_toList]
    rw [Token.scan_eq_ok_iff, hid, hlink, Token.ofSegments, hid, hlink, hplain]
    exact ⟨⟨Nat.zero_le 1, Nat.zero_le 1⟩, rfl⟩

/-! ## Beginnings and lines -/

theorem Unmarked.take (h : Unmarked s) (n : ℕ) : Unmarked (s.take n) := by
  induction h generalizing n with
  | nil =>
    rw [List.take_nil]
    exact .nil
  | char hc _ ih =>
    match n with
    | 0 => exact .nil
    | n + 1 => exact .char hc (ih n)
  | other hc hk _ ih =>
    match n with
    | 0 => exact .nil
    | 1 => exact .last
    | n + 2 => exact .other hc hk (ih n)
  | letter hk hc _ ih =>
    match n with
    | 0 => exact .nil
    | 1 => exact .last
    | 2 => exact .lastLetter hk
    | n + 3 => exact .letter hk hc (ih n)
  | last =>
    match n with
    | 0 => exact .nil
    | n + 1 =>
      rw [List.take_succ_cons, List.take_nil]
      exact .last
  | lastLetter hk =>
    match n with
    | 0 => exact .nil
    | 1 => exact .last
    | n + 2 =>
      rw [List.take_succ_cons, List.take_succ_cons, List.take_nil]
      exact .lastLetter hk

/-- A beginning of unmarked text is unmarked: a `$` at which it was cut off begins nothing. -/
theorem Unmarked.of_shorter (h : Unmarked t) (hp : s <+: t) : Unmarked s := by
  rw [List.prefix_iff_eq_take.1 hp]
  exact h.take s.length

theorem not_announces_newline (kind : LinkKind) : ¬Announces '\n' kind := by
  rintro ⟨⟩

/-- A newline ends what a `$` takes along, so other text can follow it. -/
theorem Unmarked.append_newline (hs : Unmarked s) (ht : Unmarked t) :
    Unmarked (s ++ '\n' :: t) := by
  have hnewline : Unmarked ('\n' :: t) := .char (by decide) ht
  induction hs with
  | nil => exact hnewline
  | char hc _ ih => exact .char hc ih
  | other hc hk _ ih => exact .other hc hk ih
  | letter hk hc _ ih => exact .letter hk hc ih
  | last => exact .other (by decide) not_announces_newline ht
  | lastLetter hk => exact .letter hk (by decide) ht

theorem unmarked_joinLines {pieces : List (List Char)} (h : ∀ piece ∈ pieces, Unmarked piece) :
    Unmarked (joinLines pieces) := by
  induction pieces with
  | nil => exact .nil
  | cons piece pieces ih =>
    obtain ⟨hpiece, hpieces⟩ := List.forall_mem_cons.1 h
    cases pieces with
    | nil => simpa [joinLines, List.intercalate] using hpiece
    | cons next pieces =>
      rw [joinLines_cons_cons]
      exact hpiece.append_newline (ih hpieces)

theorem exists_cutLines_eq (s : List Char) : ∃ piece pieces, cutLines s = piece :: pieces :=
  List.exists_cons_of_ne_nil (Text.cutAt_ne_nil '\n' s)

theorem cutLines_newline (s : List Char) : cutLines ('\n' :: s) = [] :: cutLines s := rfl

theorem cutLines_cons {c : Char} {piece : List Char} {pieces : List (List Char)} (hc : c ≠ '\n')
    (hs : cutLines s = piece :: pieces) : cutLines (c :: s) = (c :: piece) :: pieces := by
  rw [cutLines] at hs
  rw [cutLines, Text.cutAt, if_neg hc, hs]

/-- Unmarked text is unmarked line by line, since a newline is the last character that a `$` takes
along, if it takes one. -/
theorem Unmarked.of_mem_cutLines (h : Unmarked s) : ∀ piece ∈ cutLines s, Unmarked piece := by
  induction h with
  | nil => exact List.forall_mem_singleton.2 .nil
  | @char c s hc _ ih =>
    by_cases hn : c = '\n'
    · rw [hn, cutLines_newline]
      exact List.forall_mem_cons.2 ⟨.nil, ih⟩
    · obtain ⟨piece, pieces, hs⟩ := exists_cutLines_eq s
      obtain ⟨hpiece, hpieces⟩ := List.forall_mem_cons.1 (hs ▸ ih)
      rw [cutLines_cons hn hs]
      exact List.forall_mem_cons.2 ⟨.char hc hpiece, hpieces⟩
  | @other c s hc hk _ ih =>
    by_cases hn : c = '\n'
    · rw [cutLines_cons (by decide) (hn ▸ cutLines_newline s)]
      exact List.forall_mem_cons.2 ⟨.last, ih⟩
    · obtain ⟨piece, pieces, hs⟩ := exists_cutLines_eq s
      obtain ⟨hpiece, hpieces⟩ := List.forall_mem_cons.1 (hs ▸ ih)
      rw [cutLines_cons (by decide) (cutLines_cons hn hs)]
      exact List.forall_mem_cons.2 ⟨.other hc hk hpiece, hpieces⟩
  | @letter k c kind s hk hc _ ih =>
    have hkn : k ≠ '\n' := fun e => not_announces_newline kind (e ▸ hk)
    by_cases hn : c = '\n'
    · rw [cutLines_cons (by decide) (cutLines_cons hkn (hn ▸ cutLines_newline s))]
      exact List.forall_mem_cons.2 ⟨.lastLetter hk, ih⟩
    · obtain ⟨piece, pieces, hs⟩ := exists_cutLines_eq s
      obtain ⟨hpiece, hpieces⟩ := List.forall_mem_cons.1 (hs ▸ ih)
      rw [cutLines_cons (by decide) (cutLines_cons hkn (cutLines_cons hn hs))]
      exact List.forall_mem_cons.2 ⟨.letter hk hc hpiece, hpieces⟩
  | last => exact List.forall_mem_singleton.2 .last
  | @lastLetter k kind hk =>
    have hkn : k ≠ '\n' := fun e => not_announces_newline kind (e ▸ hk)
    rw [cutLines_cons (by decide) (cutLines_cons hkn rfl)]
    exact List.forall_mem_singleton.2 (.lastLetter hk)

/-! ## What a scan leaves behind -/

/-- **The text outside the markers is unmarked**, wherever the scan stops: a `$` that begins no
marker is followed by what it takes along, unless it ends the line. -/
theorem Decomposes.unmarked_plain {ps : List Piece} (h : Decomposes trim line ps) (n : ℕ) :
    Unmarked (plain ((ps.take n).map (·.meaning))).toList := by
  induction h generalizing n with
  | nil =>
    rw [List.take_nil]
    exact .nil
  | @cons line rest p ps hl hp hps ih =>
    cases n with
    | zero => exact .nil
    | succ n =>
      rw [List.take_succ_cons, List.map_cons, plain_cons, String.toList_append]
      cases hm : p.meaning with
      | id value => exact ih n
      | link kind value => exact ih n
      | literal text =>
        have hid : p.meaning.id? = none := by rw [hm]; rfl
        have hlink : p.meaning.link? = none := by rw [hm]; rfl
        have hend : rest = [] → (plain ((ps.take n).map (·.meaning))).toList = [] := by
          rintro rfl
          obtain rfl : ps = [] := hps.unique .nil
          rw [List.take_nil]
          rfl
        rw [← hm, hp.plain_eq hid hlink, String.toList_ofList]
        exact hp.unmarked hid hlink hend (ih n)

theorem unmarked_plain_take (trim : Bool) (line : List Char) (n : ℕ) :
    Unmarked (plain ((segments trim line).take n)).toList := by
  obtain ⟨ps, h⟩ := exists_decomposes trim line
  rw [h.segments_eq, ← List.map_take]
  exact h.unmarked_plain n

/-- The text of a whole line is unmarked, also if a scan refuses the line. -/
theorem unmarked_plain (trim : Bool) (line : List Char) :
    Unmarked (plain (segments trim line)).toList := by
  have h := unmarked_plain_take trim line (segments trim line).length
  rwa [List.take_length] at h

/-- The token that a scan leaves behind: the one it gives, or the one that its fault carries. -/
def Token.left : Except Fault Token → Option Token
  | .ok t => some t
  | .error f => f.token?

/-- **A scan leaves a token behind, and its text is inert**, also when the scan fails. -/
theorem exists_left_inert (trim : Bool) (line : List Char) :
    ∃ t, Token.left (({} : Token).scan trim line) = some t ∧ Inert t.text := by
  rw [Token.scan]
  cases h : ({} : Token).absorbAll (segments trim line) with
  | ok t =>
    refine ⟨t, rfl, inert_iff.2 ?_⟩
    rw [(Token.takes_of_absorbAll h).text, String.empty_append]
    exact unmarked_plain trim line
  | error f =>
    obtain ⟨-, -, before, value, after, t, ht, hf, hsegs⟩ := Token.stops_of_absorbAll h
    refine ⟨t, hf, inert_iff.2 ?_⟩
    have hbefore : before = (segments trim line).take before.length := by
      rcases hsegs with ⟨hsegs, -⟩ | ⟨kind, hsegs, -⟩ <;> rw [hsegs, List.take_left]
    rw [ht.text, String.empty_append, hbefore]
    exact unmarked_plain_take trim line before.length

end Plotline.Marker
