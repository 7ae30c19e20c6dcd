import Plotline.Proofs.Marker.Grammar

/-!
# Scanning a line in pieces

A line can be cut in two and its parts scanned one after the other into the same token. This gives
what a scan of the whole line gives, as long as the cut goes between two pieces of the line: the
last piece in front of the cut has to be complete (`Piece.Complete`), and spaces that a marker takes
along must not be cut off from it (`Piece.Precedes`).

* `Piece.StandsBefore.append`: a piece in front of the first part stands there in the whole line.
* `Decomposes.append`: the pieces of the whole line are those of its parts.
* `Token.scan_in_parts`: scanning the parts is scanning the line, also where it fails, and a scan
  from a position on is a scan of the rest of the line.
-/

namespace Plotline.Marker

variable {trim : Bool} {rest a b : List Char} {p : Piece} {ps qs : List Piece}

/-! ## Cutting a line -/

/-- The piece gives an id or a link. -/
def Piece.IsMarker (p : Piece) : Prop := p.meaning.id? ≠ none ∨ p.meaning.link? ≠ none

/-- Nothing of the piece is missing: it is no `$` that has nothing or only the letter of a link
behind it, and no marker without its `]`. -/
structure Piece.Complete (p : Piece) : Prop where
  sign : p.written ≠ ['$']
  letter : ∀ k kind, Announces k kind → p.written ≠ ['$', k]
  closed : p.IsMarker → ']' ∈ p.written

/-- A line that ends in the piece `p` can go on with `b` behind it: the piece is complete, and if it
is a marker that takes spaces along, `b` does not start with one. -/
structure Piece.Precedes (trim : Bool) (p : Piece) (b : List Char) : Prop where
  complete : p.Complete
  spaces : trim = true → p.IsMarker → b.head? ≠ some ' '

theorem Closes.append {closing : List Char} (h : Closes trim closing rest)
    (hclosed : rest = [] → closing ≠ []) (hb : rest = [] → trim = true → b.head? ≠ some ' ') :
    Closes trim closing (rest ++ b) := by
  cases h with
  | lineEnd => exact absurd rfl (hclosed rfl)
  | bracket ht => exact .bracket ht
  | spaces ht hs hr =>
    apply Closes.spaces ht hs
    cases rest with
    | nil => exact hb rfl ht
    | cons c rest => exact hr

theorem Announces.ne_closing {k : Char} {kind : LinkKind} (h : Announces k kind) : k ≠ ']' := by
  cases h <;> decide

/-- **A piece in front of a part stands there in the whole line.** What it looks at is in the part
itself, unless the part ends with it. -/
theorem Piece.StandsBefore.append (h : p.StandsBefore trim rest)
    (hb : rest = [] → p.Precedes trim b) : p.StandsBefore trim (rest ++ b) := by
  cases h with
  | char hc => exact .char hc
  | other hc hk => exact .other hc hk
  | letter hk hc => exact .letter hk hc
  | last => exact absurd rfl (hb rfl).complete.sign
  | lastLetter hk => exact absurd rfl ((hb rfl).complete.letter _ _ hk)
  | @id content closing _ hc h =>
    have hmarker : Piece.IsMarker ⟨'$' :: '[' :: (content ++ closing), .id (.ofList content)⟩ :=
      .inl (by simp [Segment.id?])
    apply Piece.StandsBefore.id hc
    apply h.append
    · rintro hr rfl
      have hclosed := (hb hr).complete.closed hmarker
      simp [hc] at hclosed
    · intro hr ht
      exact (hb hr).spaces ht hmarker
  | @link k kind content closing _ hk hc h =>
    have hmarker : Piece.IsMarker
        ⟨'$' :: k :: '[' :: (content ++ closing), .link kind (.ofList content)⟩ :=
      .inr (by simp [Segment.link?])
    apply Piece.StandsBefore.link hk hc
    apply h.append
    · rintro hr rfl
      have hclosed := (hb hr).complete.closed hmarker
      simp [hc, hk.ne_closing.symm] at hclosed
    · intro hr ht
      exact (hb hr).spaces ht hmarker

theorem Decomposes.eq_nil_iff (h : Decomposes trim a ps) : a = [] ↔ ps = [] := by
  cases h with
  | nil => simp
  | cons hl hp _ =>
    obtain ⟨c, s, hcs, -⟩ := hp.nextSegment
    simp [← hl, hcs]

/-- **The pieces of a line are those of its parts**, if the first part ends in a piece that the
second can follow. -/
theorem Decomposes.append (ha : Decomposes trim a ps) (hb : Decomposes trim b qs)
    (h : ∀ p ∈ ps.getLast?, p.Precedes trim b) : Decomposes trim (a ++ b) (ps ++ qs) := by
  induction ha with
  | nil => exact hb
  | @cons line rest p ps hl hp hps ih =>
    have hwritten : p.written ++ (rest ++ b) = line ++ b := by rw [← List.append_assoc, hl]
    refine .cons hwritten (hp.append ?_) (ih ?_)
    · intro hrest
      obtain rfl := hps.eq_nil_iff.1 hrest
      exact h p rfl
    · intro q hq
      apply h q
      cases ps with
      | nil => cases hq
      | cons q' ps => rwa [List.getLast?_cons_cons]

/-! ## Scanning the parts -/

namespace Token

theorem absorbAll_append (t : Token) (segs more : List Segment) :
    t.absorbAll (segs ++ more) =
      match t.absorbAll segs with
      | .error f => .error f
      | .ok u => u.absorbAll more := by
  induction segs generalizing t with
  | nil => rfl
  | cons s segs ih =>
    rw [List.cons_append, absorbAll, absorbAll]
    cases t.absorb s with
    | error f => rfl
    | ok u => exact ih u

/-- **Scanning in parts is scanning at once.** If the first part of a line scans and ends in a piece
that the second part can follow, the whole line gives what the second part gives with the token that
the first one left: the same token, or the same fault with the same token. And a scan from a
position on is a scan of what is behind it. -/
theorem scan_in_parts (trim : Bool) :
    (∀ (a b : List Char) (ps : List Piece) (t u : Token), Decomposes trim a ps →
      (∀ p ∈ ps.getLast?, p.Precedes trim b) → t.scan trim a = .ok u →
        t.scan trim (a ++ b) = u.scan trim b) ∧
      ∀ (line : List Char) (pos : Nat) (t : Token),
        t.scanFrom trim line pos = t.scan trim (line.drop pos) ∧
          t.scanFrom trim line pos = t.scanFrom trim (line.drop pos) (0 : Nat) := by
  refine ⟨?_, ?_⟩
  · intro a b ps t u ha hlast hu
    obtain ⟨qs, hb⟩ := exists_decomposes trim b
    have hsegs : segments trim (a ++ b) = segments trim a ++ segments trim b := by
      rw [(ha.append hb hlast).segments_eq, List.map_append, ha.segments_eq, hb.segments_eq]
    rw [scan] at hu
    rw [scan, hsegs, absorbAll_append, hu]
    rfl
  · intro line pos t
    have hpos := scanFrom_natCast trim line pos t
    have hzero := scanFrom_natCast trim (line.drop pos) 0 t
    rw [List.drop_zero] at hzero
    exact ⟨hpos, hpos.trans hzero.symm⟩

/-- The two parts of a line in which the second one brings a second id. -/
theorem scan_in_parts_second_id :
    (({} : Token).scan true "a $[b]".toList = .ok { text := "a ", id := some "b" }) ∧
      ({} : Token).scan true "a $[b]c $[d]".toList =
        ({ text := "a ", id := some "b" } : Token).scan true "c $[d]".toList ∧
      ({} : Token).scan true "a $[b]c $[d]".toList =
        .error (.secondId "d" { text := "a c ", id := some "b" }) := by
  have hdec : Decomposes true "a $[b]".toList
      [⟨['a'], .literal "a"⟩, ⟨[' '], .literal " "⟩, ⟨['$', '[', 'b', ']'], .id "b"⟩] := by
    have hclosing : Closes true [']'] [] := closes_bracket (by simp)
    have hid : Piece.StandsBefore true ⟨'$' :: '[' :: (['b'] ++ [']']), .id (.ofList ['b'])⟩ [] :=
      .id (by decide) hclosing
    apply Decomposes.cons rfl (.char (by decide))
    apply Decomposes.cons rfl (.char (by decide))
    exact .cons rfl hid .nil
  have hlast : ∀ p ∈ ([⟨['a'], .literal "a"⟩, ⟨[' '], .literal " "⟩,
      ⟨['$', '[', 'b', ']'], .id "b"⟩] : List Piece).getLast?, p.Precedes true "c $[d]".toList := by
    intro p hp
    obtain rfl := Option.some.inj hp
    exact ⟨⟨by decide, fun k kind _ => by simp, fun _ => by decide⟩, fun _ _ => by decide⟩
  have hscan : ({} : Token).scan true "a $[b]".toList = .ok { text := "a ", id := some "b" } := by
    decide +kernel
  exact ⟨hscan, (scan_in_parts true).1 _ _ _ _ _ hdec hlast hscan, by decide +kernel⟩

end Token

end Plotline.Marker
