import Mathlib.Data.List.TakeWhile
import Plotline.Proofs.Marker.Position
import Plotline.Proofs.Marker.Scan

/-!
# The grammar of script lines

A line is made of pieces: single characters, markers, and `$` signs that begin no marker. Which
piece it is depends on what comes next, so a piece is judged together with the rest of its line
(`Piece.StandsBefore`).

* `Decomposes` says that some pieces make up a line. Every line decomposes (`exists_decomposes`),
  and in one way only (`Decomposes.unique`); cutting the line gives what the pieces mean
  (`Decomposes.segments_eq`).
* `Token.Outcome` says what comes of taking segments into a token: a token that has gathered them
  all (`Token.Takes`), or a stop at the first marker that is one too many (`Token.Stops`).
* `Token.scan_follows_grammar`: a scan from any position has that outcome for the one decomposition
  of the rest of the line.
-/

namespace Plotline.Marker

variable {trim : Bool} {line rest s : List Char}

/-! ## Pieces -/

/-- A piece of a line: how it is written and what it means. -/
structure Piece where
  written : List Char
  meaning : Segment
  deriving DecidableEq, Repr

/-- The letters that announce a link. -/
inductive Announces : Char → LinkKind → Prop
  | upperTree : Announces 'T' .tree
  | lowerTree : Announces 't' .tree
  | upperDialog : Announces 'D' .dialog
  | lowerDialog : Announces 'd' .dialog

/-- How a marker is closed in front of the rest of a line: by the end of the line, or by a `]` and,
with `trim`, all the spaces behind it. -/
inductive Closes (trim : Bool) : List Char → List Char → Prop
  | lineEnd : Closes trim [] []
  | bracket {rest : List Char} (h : trim = false) : Closes trim [']'] rest
  | spaces {spaces rest : List Char} (h : trim = true) (hs : ∀ c ∈ spaces, c = ' ')
      (hr : rest.head? ≠ some ' ') : Closes trim (']' :: spaces) rest

/-- The pieces that can stand before the rest of a line. The content of a marker has no `]`, so it
is as long as it can be. -/
inductive Piece.StandsBefore (trim : Bool) : Piece → List Char → Prop
  | char {c : Char} {rest : List Char} (hc : c ≠ '$') :
    StandsBefore trim ⟨[c], .literal (.ofList [c])⟩ rest
  | id {content closing rest : List Char} (hc : ']' ∉ content) (h : Closes trim closing rest) :
    StandsBefore trim ⟨'$' :: '[' :: (content ++ closing), .id (.ofList content)⟩ rest
  | link {k : Char} {kind : LinkKind} {content closing rest : List Char} (hk : Announces k kind)
      (hc : ']' ∉ content) (h : Closes trim closing rest) :
    StandsBefore trim ⟨'$' :: k :: '[' :: (content ++ closing), .link kind (.ofList content)⟩ rest
  | other {c : Char} {rest : List Char} (hc : c ≠ '[') (hk : ∀ kind, ¬Announces c kind) :
    StandsBefore trim ⟨['$', c], .literal (.ofList ['$', c])⟩ rest
  | letter {k c : Char} {kind : LinkKind} {rest : List Char} (hk : Announces k kind)
      (hc : c ≠ '[') : StandsBefore trim ⟨['$', k, c], .literal (.ofList ['$', k, c])⟩ rest
  | last : StandsBefore trim ⟨['$'], .literal (.ofList ['$'])⟩ []
  | lastLetter {k : Char} {kind : LinkKind} (hk : Announces k kind) :
    StandsBefore trim ⟨['$', k], .literal (.ofList ['$', k])⟩ []

/-- The pieces make up the line, each of them in front of those behind it. -/
inductive Decomposes (trim : Bool) : List Char → List Piece → Prop
  | nil : Decomposes trim [] []
  | cons {line rest : List Char} {p : Piece} {ps : List Piece} (hl : p.written ++ rest = line)
      (hp : p.StandsBefore trim rest) (h : Decomposes trim rest ps) : Decomposes trim line (p :: ps)

/-! ## The first piece of a line -/

theorem linkLetter?_eq_some_iff {k : Char} {kind : LinkKind} :
    linkLetter? k = some kind ↔ Announces k kind := by
  constructor
  · intro h
    unfold linkLetter? at h
    split at h
    · rename_i hk
      obtain rfl := Option.some.inj h
      rcases hk with rfl | rfl
      · exact .upperTree
      · exact .lowerTree
    · split at h
      · rename_i hk
        obtain rfl := Option.some.inj h
        rcases hk with rfl | rfl
        · exact .upperDialog
        · exact .lowerDialog
      · cases h
  · intro h
    cases h <;> rfl

theorem Announces.ne_bracket {k : Char} {kind : LinkKind} (h : Announces k kind) : k ≠ '[' := by
  cases h <;> decide

theorem markerValue_of_closes {content closing : List Char} (hc : ']' ∉ content)
    (h : Closes trim closing rest) :
    markerValue trim (content ++ (closing ++ rest)) = (.ofList content, rest) := by
  have hp : ∀ c ∈ content, decide (c ≠ ']') = true := by
    intro c hm
    exact decide_eq_true fun e => hc (e ▸ hm)
  have hcut : (closing ++ rest).takeWhile (· ≠ ']') = [] ∧
      afterMarker trim (closing ++ rest) = rest := by
    cases h with
    | lineEnd => cases trim <;> exact ⟨rfl, rfl⟩
    | bracket h => simp [afterMarker, h]
    | @spaces sp _ h hs hr =>
      have hsp : ∀ c ∈ sp, decide (c = ' ') = true := fun c hm => decide_eq_true (hs c hm)
      have hrest : rest.dropWhile (· = ' ') = rest := by
        cases rest with
        | nil => rfl
        | cons c rest => exact List.dropWhile_cons_of_neg (by simpa using hr)
      simp [afterMarker, h, List.dropWhile_append_of_pos hsp, hrest]
  have hafter : afterMarker trim (content ++ (closing ++ rest)) =
      afterMarker trim (closing ++ rest) := by
    rw [afterMarker, List.dropWhile_append_of_pos hp, afterMarker]
  rw [markerValue, List.takeWhile_append_of_pos hp, hcut.1, List.append_nil,
    hafter, hcut.2]

/-- **The first segment of a line is the piece that stands before the rest.** -/
theorem Piece.StandsBefore.nextSegment {p : Piece} (h : p.StandsBefore trim rest) :
    ∃ c s, p.written ++ rest = c :: s ∧ nextSegment trim c s = (p.meaning, rest) := by
  cases h with
  | @char c _ hc => exact ⟨c, rest, rfl, by simp [Marker.nextSegment, hc]⟩
  | @id content closing _ hc h =>
    refine ⟨'$', '[' :: (content ++ closing ++ rest), rfl, ?_⟩
    simp [Marker.nextSegment, markerValue_of_closes hc h]
  | @link k kind content closing _ hk hc h =>
    refine ⟨'$', k :: '[' :: (content ++ closing ++ rest), rfl, ?_⟩
    simp [Marker.nextSegment, hk.ne_bracket, linkLetter?_eq_some_iff.2 hk,
      markerValue_of_closes hc h]
  | @other c _ hc hk =>
    refine ⟨'$', c :: rest, rfl, ?_⟩
    have hl : linkLetter? c = none := by
      cases hl : linkLetter? c with
      | none => rfl
      | some kind => exact absurd (linkLetter?_eq_some_iff.1 hl) (hk kind)
    simp [Marker.nextSegment, hc, hl]
  | @letter k c kind _ hk hc =>
    refine ⟨'$', k :: c :: rest, rfl, ?_⟩
    simp [Marker.nextSegment, hk.ne_bracket, linkLetter?_eq_some_iff.2 hk]
  | last => exact ⟨'$', [], rfl, rfl⟩
  | @lastLetter k kind hk =>
    refine ⟨'$', [k], rfl, ?_⟩
    simp [Marker.nextSegment, hk.ne_bracket, linkLetter?_eq_some_iff.2 hk]

theorem exists_closes (trim : Bool) (s : List Char) :
    ∃ closing, s.takeWhile (· ≠ ']') ++ closing ++ afterMarker trim s = s ∧
      Closes trim closing (afterMarker trim s) := by
  have hs := List.takeWhile_append_dropWhile (p := fun c => decide (c ≠ ']')) (l := s)
  cases hd : s.dropWhile (· ≠ ']') with
  | nil =>
    have ha : afterMarker trim s = [] := by
      simp only [afterMarker, hd, List.drop_nil, List.dropWhile_nil, ite_self]
    rw [hd] at hs
    rw [ha]
    exact ⟨[], by rw [List.append_nil]; exact hs, .lineEnd⟩
  | cons c t =>
    obtain rfl : c = ']' := by
      have h := List.head?_dropWhile_not (fun c => decide (c ≠ ']')) s
      rw [hd] at h
      simpa using h
    rw [hd] at hs
    cases trim with
    | false =>
      have ha : afterMarker false s = t := by
        simp only [afterMarker, hd, List.drop_succ_cons, List.drop_zero, Bool.false_eq_true,
          if_false]
      exact ⟨[']'], by rw [ha, List.append_assoc]; exact hs, .bracket rfl⟩
    | true =>
      have ha : afterMarker true s = t.dropWhile (· = ' ') := by
        simp only [afterMarker, hd, List.drop_succ_cons, List.drop_zero, if_true]
      refine ⟨']' :: t.takeWhile (· = ' '), ?_, .spaces rfl (fun c hc => ?_) ?_⟩
      · rw [ha, List.append_assoc, List.cons_append, List.takeWhile_append_dropWhile]
        exact hs
      · simpa using List.mem_takeWhile_imp hc
      · rw [ha]
        intro h
        have := List.head?_dropWhile_not (fun c => decide (c = ' ')) t
        rw [h] at this
        simp at this

theorem notMem_takeWhile_ne (s : List Char) : ']' ∉ s.takeWhile (· ≠ ']') := by
  intro h
  simpa using List.mem_takeWhile_imp h

/-- Some piece stands at the beginning of every line that is not empty. -/
theorem exists_standsBefore (trim : Bool) (c : Char) (s : List Char) :
    ∃ p : Piece, p.written ++ (nextSegment trim c s).2 = c :: s ∧
      p.StandsBefore trim (nextSegment trim c s).2 := by
  by_cases hc : c = '$'
  · subst hc
    match s with
    | [] => exact ⟨_, rfl, .last⟩
    | k :: s =>
      by_cases hk : k = '['
      · subst hk
        obtain ⟨closing, hs, h⟩ := exists_closes trim s
        refine ⟨_, ?_, .id (notMem_takeWhile_ne s) h⟩
        exact congrArg (fun s => '$' :: '[' :: s) hs
      · cases hl : linkLetter? k with
        | none =>
          refine ⟨⟨['$', k], .literal (.ofList ['$', k])⟩, ?_, .other hk fun kind h => ?_⟩
          · simp [nextSegment, hk, hl]
          · rw [linkLetter?_eq_some_iff.2 h] at hl
            cases hl
        | some kind =>
          have ha : Announces k kind := linkLetter?_eq_some_iff.1 hl
          match s with
          | [] =>
            simp only [nextSegment, hk, hl, if_true, if_false]
            exact ⟨_, rfl, .lastLetter ha⟩
          | x :: s =>
            by_cases hx : x = '['
            · subst hx
              obtain ⟨closing, hs, h⟩ := exists_closes trim s
              simp only [nextSegment, hk, hl, if_true, if_false]
              refine ⟨_, ?_, .link ha (notMem_takeWhile_ne s) h⟩
              exact congrArg (fun s => '$' :: k :: '[' :: s) hs
            · refine ⟨⟨['$', k, x], .literal (.ofList ['$', k, x])⟩, ?_, .letter ha hx⟩
              simp [nextSegment, hk, hl]
  · simp only [nextSegment, hc, if_false]
    exact ⟨_, rfl, .char hc⟩

/-! ## Lines -/

/-- **Every line decomposes into pieces.** -/
theorem exists_decomposes (trim : Bool) (line : List Char) : ∃ ps, Decomposes trim line ps := by
  induction h : line.length using Nat.strong_induction_on generalizing line with
  | _ n ih =>
    cases line with
    | nil => exact ⟨[], .nil⟩
    | cons c s =>
      obtain ⟨p, hl, hp⟩ := exists_standsBefore trim c s
      have hlt : (nextSegment trim c s).2.length < n := by
        have := nextSegment_rest_length trim c s
        rw [← h, List.length_cons]
        omega
      obtain ⟨ps, hps⟩ := ih _ hlt _ rfl
      exact ⟨p :: ps, .cons hl hp hps⟩

/-- **A line decomposes in one way only**: what the first piece leaves over is settled, and with it
how the piece is written and what it means. -/
theorem Decomposes.unique {ps qs : List Piece} (h : Decomposes trim line ps)
    (h' : Decomposes trim line qs) : ps = qs := by
  induction h generalizing qs with
  | nil =>
    cases h' with
    | nil => rfl
    | cons hl hp _ =>
      obtain ⟨c, s, hcs, -⟩ := hp.nextSegment
      rw [hcs] at hl
      cases hl
  | @cons line rest p ps hl hp _ ih =>
    obtain ⟨c, s, hcs, hnext⟩ := hp.nextSegment
    cases h' with
    | nil =>
      rw [hcs] at hl
      cases hl
    | @cons _ rest' q qs hl' hq h' =>
      obtain ⟨c', s', hcs', hnext'⟩ := hq.nextSegment
      have hsame : c :: s = c' :: s' := by rw [← hcs, ← hcs', hl, hl']
      obtain ⟨rfl, rfl⟩ := List.cons.inj hsame
      rw [hnext] at hnext'
      obtain ⟨hmeaning, rfl⟩ := Prod.mk.inj hnext'
      have hwritten : p.written = q.written := List.append_cancel_right (hl.trans hl'.symm)
      have hpq : p = q := by
        cases p
        cases q
        simp_all
      rw [hpq, ih h']

theorem Piece.StandsBefore.segments_append {p : Piece} (h : p.StandsBefore trim rest) :
    segments trim (p.written ++ rest) = p.meaning :: segments trim rest := by
  obtain ⟨c, s, hcs, hnext⟩ := h.nextSegment
  rw [hcs, segments, hnext]

/-- **Cutting a line gives what its pieces mean.** -/
theorem Decomposes.segments_eq {ps : List Piece} (h : Decomposes trim line ps) :
    segments trim line = ps.map (·.meaning) := by
  induction h with
  | nil => rw [segments, List.map_nil]
  | cons hl hp _ ih => rw [← hl, hp.segments_append, ih, List.map_cons]

/-! ## Written markers and plain text -/

theorem closes_bracket (hr : rest.head? ≠ some ' ') : Closes trim [']'] rest := by
  cases trim with
  | false => exact .bracket rfl
  | true => exact .spaces rfl (by simp) hr

theorem segments_id_marker {content : List Char} (hc : ']' ∉ content)
    (hr : rest.head? ≠ some ' ') :
    segments trim ('$' :: '[' :: (content ++ ']' :: rest)) =
      .id (.ofList content) :: segments trim rest := by
  have hclosing : Closes trim [']'] rest := closes_bracket hr
  have h := (Piece.StandsBefore.id hc hclosing).segments_append
  simpa using h

theorem segments_link_marker {k : Char} {kind : LinkKind} {content : List Char}
    (hk : Announces k kind) (hc : ']' ∉ content) (hr : rest.head? ≠ some ' ') :
    segments trim ('$' :: k :: '[' :: (content ++ ']' :: rest)) =
      .link kind (.ofList content) :: segments trim rest := by
  have hclosing : Closes trim [']'] rest := closes_bracket hr
  have h := (Piece.StandsBefore.link hk hc hclosing).segments_append
  simpa using h

/-- A piece that is no marker means what is written. -/
theorem Piece.StandsBefore.plain_eq {p : Piece} (h : p.StandsBefore trim rest)
    (hid : p.meaning.id? = none) (hlink : p.meaning.link? = none) :
    p.meaning.plain = .ofList p.written := by
  cases h with
  | id => cases hid
  | link => cases hlink
  | char | other | letter | last | lastLetter => rfl

/-- **A line without markers stands for itself.** -/
theorem plain_segments_of_unmarked (hid : ids (segments trim line) = [])
    (hlink : links (segments trim line) = []) : plain (segments trim line) = .ofList line := by
  obtain ⟨ps, h⟩ := exists_decomposes trim line
  rw [h.segments_eq] at *
  induction h with
  | nil => rfl
  | @cons line rest p ps hl hp h ih =>
    rw [List.map_cons, ids_cons, List.append_eq_nil_iff, Option.toList_eq_nil_iff] at hid
    rw [List.map_cons, links_cons, List.append_eq_nil_iff, Option.toList_eq_nil_iff] at hlink
    rw [List.map_cons, plain_cons, hp.plain_eq hid.1 hlink.1, ih hid.2 hlink.2, ← hl,
      String.ofList_append]

/-! ## What comes of a scan -/

namespace Token

variable {t u : Token} {segs : List Segment} {f : Fault}

/-- The token `u` is `t` with some segments gathered: their texts at the end, and an id and a link
from the only markers that give one. -/
structure Takes (t : Token) (segs : List Segment) (u : Token) : Prop where
  text : u.text = t.text ++ plain segs
  id : ids segs = [] ∧ u.id = t.id ∨
    ∃ value, ids segs = [value] ∧ t.id = none ∧ u.id = some value
  link : links segs = [] ∧ u.link = t.link ∨
    ∃ kind value, links segs = [.into kind value] ∧ t.link.target = none ∧
      u.link = .into kind value

/-- The fault names the first marker that gives a second id or a second link, and carries the token
that has gathered what is in front of that marker. -/
structure Stops (t : Token) (segs : List Segment) (f : Fault) : Prop where
  family : f.family = .script
  details : f.details = []
  marker : ∃ before value after u, t.Takes before u ∧ f.token? = some u ∧
    ((segs = before ++ .id value :: after ∧ u.hasId = true ∧
        f.headline = "found another id within token: " ++ value) ∨
      ∃ kind, segs = before ++ .link kind value :: after ∧ u.hasLink = true ∧
        f.headline = "found another link within token: " ++ value)

/-- What comes of taking segments into a token. -/
inductive Outcome (t : Token) (segs : List Segment) : Except Fault Token → Prop
  | taken {u : Token} (hf : t.Fits segs) (h : t.Takes segs u) : Outcome t segs (.ok u)
  | stopped {f : Fault} (hf : ¬t.Fits segs) (h : t.Stops segs f) : Outcome t segs (.error f)

theorem takes_of_absorbAll (h : t.absorbAll segs = .ok u) : t.Takes segs u := by
  obtain ⟨⟨hid, hlink⟩, rfl⟩ := absorbAll_eq_ok_iff.1 h
  refine ⟨rfl, ?_, ?_⟩
  · cases hi : ids segs with
    | nil => exact .inl ⟨rfl, by simp⟩
    | cons value more =>
      rw [hi, List.length_cons] at hid
      have hmore : more = [] := List.eq_nil_of_length_eq_zero (by omega)
      have ht : t.id.toList = [] := List.eq_nil_of_length_eq_zero (by omega)
      exact .inr ⟨value, by rw [hmore], by simpa using ht, by simp⟩
  · cases hl : links segs with
    | nil => exact .inl ⟨rfl, by simp⟩
    | cons l more =>
      rw [hl, List.length_cons] at hlink
      have hmore : more = [] := List.eq_nil_of_length_eq_zero (by omega)
      have ht : t.link.target.toList = [] := List.eq_nil_of_length_eq_zero (by omega)
      obtain ⟨kind, value, rfl⟩ := exists_into_of_mem_links (l := l) (by rw [hl]; simp)
      exact .inr ⟨kind, value, by rw [hmore], by simpa using ht, by simp⟩

/-- A failure comes from one segment, and those in front of it were taken. -/
theorem exists_of_absorbAll_eq_error (h : t.absorbAll segs = .error f) :
    ∃ before s after u, segs = before ++ s :: after ∧ t.absorbAll before = .ok u ∧
      u.absorb s = .error f := by
  induction segs generalizing t with
  | nil => cases h
  | cons s segs ih =>
    rw [absorbAll] at h
    cases hs : t.absorb s with
    | error f' =>
      rw [hs] at h
      obtain rfl := Except.error.inj h
      exact ⟨[], s, segs, t, rfl, rfl, hs⟩
    | ok t' =>
      rw [hs] at h
      obtain ⟨before, s', after, u, rfl, hb, hu⟩ := ih h
      exact ⟨s :: before, s', after, u, rfl, by rw [absorbAll, hs]; exact hb, hu⟩

theorem stops_of_absorbAll (h : t.absorbAll segs = .error f) : t.Stops segs f := by
  obtain ⟨before, s, after, u, hsegs, hb, hu⟩ := exists_of_absorbAll_eq_error h
  have htakes := takes_of_absorbAll hb
  unfold absorb at hu
  cases s with
  | literal text => cases hu
  | id value =>
    cases hid : u.hasId with
    | false => simp [hid] at hu
    | true =>
      obtain rfl : Fault.secondId value u = f := by simpa [hid] using hu
      exact ⟨rfl, rfl, before, value, after, u, htakes, rfl, .inl ⟨hsegs, hid, rfl⟩⟩
  | link kind value =>
    cases hlink : u.hasLink with
    | false => simp [hlink] at hu
    | true =>
      obtain rfl : Fault.secondLink value u = f := by simpa [hlink] using hu
      exact ⟨rfl, rfl, before, value, after, u, htakes, rfl, .inr ⟨kind, hsegs, hlink, rfl⟩⟩

theorem outcome_absorbAll (t : Token) (segs : List Segment) :
    t.Outcome segs (t.absorbAll segs) := by
  cases h : t.absorbAll segs with
  | ok u => exact .taken (absorbAll_eq_ok_iff.1 h).1 (takes_of_absorbAll h)
  | error f =>
    refine .stopped (fun hf => ?_) (stops_of_absorbAll h)
    have := absorbAll_eq_ok_iff.2 ⟨hf, rfl⟩
    rw [h] at this
    cases this

theorem scanFrom_natCast (trim : Bool) (line : List Char) (pos : Nat) (t : Token) :
    t.scanFrom trim line pos = t.absorbAll (segments trim (line.drop pos)) := by
  have hpos : ¬(line.length : Int) + (pos : Int) < 0 := by omega
  rw [scanFrom, if_neg hpos, segmentsFrom_natCast]

/-- **A scan accepts exactly the marker grammar.** The rest of the line behind any position
decomposes in one way, and the scan either gathers all its pieces, if no id and no link is one too
many, or stops at the first that is. -/
theorem scan_follows_grammar (trim : Bool) (line : List Char) (pos : Nat) (t : Token) :
    ∃ pieces, (Decomposes trim (line.drop pos) pieces ∧
        ∀ others, Decomposes trim (line.drop pos) others → others = pieces) ∧
      t.Outcome (pieces.map (·.meaning)) (t.scanFrom trim line pos) := by
  obtain ⟨pieces, h⟩ := exists_decomposes trim (line.drop pos)
  refine ⟨pieces, ⟨h, fun others h' => h'.unique h⟩, ?_⟩
  rw [scanFrom_natCast, h.segments_eq]
  exact outcome_absorbAll t _

/-- A sign in front of an id marker takes the sign of the marker, and the brackets are text. -/
example : segments true "$T$[a]".toList =
    [.literal "$T$", .literal "[", .literal "a", .literal "]"] := by
  decide +kernel

end Token

end Plotline.Marker
