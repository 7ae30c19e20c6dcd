import Mathlib.Data.List.Chain
import Plotline.Proofs.Text.Lines

/-!
# The lines of a file

A file is lines with their ends, and a last line that has none (`Page`). Every text is one, and in
one way if `\r\n` always counts as one end (`exists_page`, `Page.Faithful`); then its lines are what
`fileLines` gives (`fileLines_text`). Where a `\r` is followed by an empty line with the end `\n`,
that empty line is lost, and nothing else is (`cutLines_text`).

Lines that are complete stay when the file goes on (`prefix_completeLines`).
-/

namespace Plotline.Text

/-! ## Files as lines -/

/-- What can end a line of a file. -/
inductive LineEnd
  | lf
  | crlf
  | cr
  deriving DecidableEq, Repr

/-- The characters of a line end. -/
def LineEnd.chars : LineEnd → List Char
  | lf => ['\n']
  | crlf => ['\r', '\n']
  | cr => ['\r']

/-- The text holds no character of a line end. -/
structure Unbroken (s : List Char) : Prop where
  cr : '\r' ∉ s
  lf : '\n' ∉ s

/-- A line of a file with its end. -/
structure EndedLine where
  text : List Char
  stop : LineEnd
  unbroken : Unbroken text

/-- The line is nothing but a `\n`. -/
def EndedLine.IsBareLf (l : EndedLine) : Prop := l.text = [] ∧ l.stop = .lf

instance (l : EndedLine) : Decidable l.IsBareLf := inferInstanceAs (Decidable (_ ∧ _))

/-- A file: lines with their ends, and the last line, which has none. -/
structure Page where
  ended : List EndedLine
  last : List Char
  unbroken : Unbroken last

/-- The text of ended lines, and what comes after them. -/
def textOf (ls : List EndedLine) (rest : List Char) : List Char :=
  ls.flatMap (fun l => l.text ++ l.stop.chars) ++ rest

namespace Page

def text (p : Page) : List Char := textOf p.ended p.last

/-- The lines; the last one counts unless it is empty. -/
def lines (p : Page) : List (List Char) :=
  p.ended.map (·.text) ++ if p.last = [] then [] else [p.last]

/-- No end `\r` comes right before a `\n`, which would be one end with it. -/
def Faithful (p : Page) : Prop := p.ended.IsChain fun l m => l.stop = .cr → ¬m.IsBareLf

/-- The lines of the two files are the same, whatever ends them. -/
structure SameLines (p q : Page) : Prop where
  ended : p.ended.map (·.text) = q.ended.map (·.text)
  last : p.last = q.last

end Page

/-! ## Every text is a file -/

theorem unbroken_nil : Unbroken [] := ⟨List.not_mem_nil, List.not_mem_nil⟩

theorem Unbroken.cons {c : Char} {s : List Char} (h : Unbroken s) (hcr : c ≠ '\r')
    (hlf : c ≠ '\n') : Unbroken (c :: s) :=
  ⟨by simp [h.cr, hcr.symm], by simp [h.lf, hlf.symm]⟩

theorem textOf_cons (l : EndedLine) (ls : List EndedLine) (rest : List Char) :
    textOf (l :: ls) rest = l.text ++ (l.stop.chars ++ textOf ls rest) := by
  simp [textOf, List.flatMap_cons]

/-- **Every text is a file** in which no end is torn apart. -/
theorem exists_page (s : List Char) : ∃ p : Page, p.Faithful ∧ p.text = s := by
  induction s with
  | nil => exact ⟨⟨[], [], unbroken_nil⟩, .nil, rfl⟩
  | cons c s ih =>
    obtain ⟨⟨ls, last, hlast⟩, hp, rfl⟩ := ih
    by_cases hlf : c = '\n'
    · subst hlf
      exact ⟨⟨⟨[], .lf, unbroken_nil⟩ :: ls, last, hlast⟩, .cons hp (fun _ _ h => nomatch h), rfl⟩
    · by_cases hcr : c = '\r'
      · subst hcr
        by_cases hbare : ∃ l rest, ls = l :: rest ∧ l.IsBareLf
        · -- the `\r` and the `\n` of the first line are one end
          obtain ⟨⟨_, _, _⟩, rest, rfl, rfl, rfl⟩ := hbare
          exact ⟨⟨⟨[], .crlf, unbroken_nil⟩ :: rest, last, hlast⟩,
            .cons hp.tail (fun _ _ h => nomatch h), rfl⟩
        · refine ⟨⟨⟨[], .cr, unbroken_nil⟩ :: ls, last, hlast⟩, .cons hp ?_, rfl⟩
          exact fun m hm _ hlf => hbare ⟨m, ls.tail, List.eq_cons_of_mem_head? hm, hlf⟩
      · match ls, hp with
        | [], _ => exact ⟨⟨[], c :: last, hlast.cons hcr hlf⟩, .nil, rfl⟩
        | l :: ls, hp =>
          have hp := List.isChain_cons.1 hp
          exact ⟨⟨⟨c :: l.text, l.stop, l.unbroken.cons hcr hlf⟩ :: ls, last, hlast⟩,
            List.isChain_cons.2 hp, rfl⟩

/-! ## Reading the lines -/

variable {s t : List Char}

theorem unifyLineEnds_cons {c : Char} (h : c ≠ '\r') (s : List Char) :
    unifyLineEnds (c :: s) = c :: unifyLineEnds s :=
  unifyLineEnds.eq_4 c s (fun _ hc _ => h hc) h

/-- A `\r` that no `\n` follows is a line end of its own. -/
theorem unifyLineEnds_cr (h : s.head? ≠ some '\n') :
    unifyLineEnds ('\r' :: s) = '\n' :: unifyLineEnds s :=
  unifyLineEnds.eq_3 s fun rest hs => h (by rw [hs]; rfl)

theorem Unbroken.unifyLineEnds_append (hs : Unbroken s) (t : List Char) :
    unifyLineEnds (s ++ t) = s ++ unifyLineEnds t := by
  induction s with
  | nil => rfl
  | cons c s ih =>
    have hc : c ≠ '\r' := fun hc => hs.cr (by simp [hc])
    have htail : Unbroken s :=
      ⟨fun h => hs.cr (List.mem_cons_of_mem _ h), fun h => hs.lf (List.mem_cons_of_mem _ h)⟩
    rw [List.cons_append, unifyLineEnds_cons hc, ih htail, List.cons_append]

theorem Unbroken.cutLines_append_lf (hs : Unbroken s) (t : List Char) :
    cutLines (s ++ '\n' :: t) = s :: cutLines t := by
  rw [cutLines, cutAt_append, cutAt_eq_singleton hs.lf]
  rfl

/-- A line that is no bare `\n` starts with no `\n`. -/
theorem head?_textOf_ne {l : EndedLine} (h : ¬l.IsBareLf) (ls : List EndedLine)
    (rest : List Char) : (textOf (l :: ls) rest).head? ≠ some '\n' := by
  rw [textOf_cons]
  cases htext : l.text with
  | nil =>
    cases hstop : l.stop with
    | lf => exact absurd ⟨htext, hstop⟩ h
    | crlf | cr => simp [LineEnd.chars]
  | cons c s =>
    have hlf := l.unbroken.lf
    rintro hc
    obtain rfl := Option.some.inj hc
    exact hlf (by rw [htext]; exact List.mem_cons_self)

/-- The lines that are read, after a `\r` or not: a `\n` that is one end with a `\r` makes no line
of its own. -/
def keptLines : Bool → List EndedLine → List (List Char)
  | _, [] => []
  | afterCr, l :: ls =>
    if afterCr ∧ l.IsBareLf then keptLines false ls else l.text :: keptLines (l.stop = .cr) ls

/-- **What is read of a file**: its lines but for those that a torn line end seems to make. -/
theorem cutLines_text (ls : List EndedLine) {last : List Char} (hlast : Unbroken last) :
    cutLines (unifyLineEnds (textOf ls last)) = keptLines false ls ++ [last] ∧
      ∃ rest, unifyLineEnds ('\r' :: textOf ls last) = '\n' :: rest ∧
        cutLines rest = keptLines true ls ++ [last] := by
  induction ls with
  | nil =>
    have hunify : unifyLineEnds last = last := by
      simpa [unifyLineEnds] using hlast.unifyLineEnds_append []
    have hcut : cutLines last = [last] := cutAt_eq_singleton hlast.lf
    refine ⟨by rw [textOf, List.flatMap_nil, List.nil_append, hunify, hcut]; rfl,
      last, ?_, hcut⟩
    rw [textOf, List.flatMap_nil, List.nil_append, unifyLineEnds_cr, hunify]
    exact fun h => hlast.lf (List.mem_of_mem_head? h)
  | cons l ls ih =>
    obtain ⟨hls, rest, hrest, hcut⟩ := ih
    have hfirst : cutLines (unifyLineEnds (textOf (l :: ls) last)) =
        keptLines false (l :: ls) ++ [last] := by
      have hkept : keptLines false (l :: ls) = l.text :: keptLines (l.stop = .cr) ls := by
        simp [keptLines]
      rw [textOf_cons, l.unbroken.unifyLineEnds_append, hkept]
      cases hstop : l.stop with
      | lf | crlf =>
        have hend := l.unbroken.cutLines_append_lf (unifyLineEnds (textOf ls last))
        rw [hls] at hend
        exact hend
      | cr =>
        have hend := l.unbroken.cutLines_append_lf rest
        rw [hcut, ← hrest] at hend
        exact hend
    refine ⟨hfirst, ?_⟩
    by_cases hbare : l.IsBareLf
    · have hkept : keptLines true (l :: ls) = keptLines false ls := by simp [keptLines, hbare]
      refine ⟨unifyLineEnds (textOf ls last), ?_, by rw [hkept, hls]⟩
      rw [textOf_cons, hbare.1, hbare.2]
      rfl
    · have hkept : keptLines true (l :: ls) = keptLines false (l :: ls) := by
        simp [keptLines, hbare]
      refine ⟨unifyLineEnds (textOf (l :: ls) last), unifyLineEnds_cr ?_, by rw [hkept, hfirst]⟩
      exact head?_textOf_ne hbare ls last

/-- In a faithful file every line is kept. -/
theorem keptLines_of_isChain {ls : List EndedLine} {afterCr : Bool}
    (h : ls.IsChain fun l m => l.stop = .cr → ¬m.IsBareLf)
    (hfirst : afterCr = true → ∀ l ∈ ls.head?, ¬l.IsBareLf) :
    keptLines afterCr ls = ls.map (·.text) := by
  induction ls generalizing afterCr with
  | nil => rfl
  | cons l ls ih =>
    obtain ⟨hnext, htail⟩ := List.isChain_cons.1 h
    have hkeep : ¬(afterCr = true ∧ l.IsBareLf) := fun hl => hfirst hl.1 l rfl hl.2
    rw [keptLines, if_neg hkeep, ih htail fun hstop m hm => hnext m hm (of_decide_eq_true hstop)]
    rfl

/-- The lines of a file: those that are kept, and the last one unless it is empty. -/
theorem fileLines_textOf (ls : List EndedLine) {last : List Char} (hlast : Unbroken last) :
    fileLines (textOf ls last) = keptLines false ls ++ if last = [] then [] else [last] := by
  rw [fileLines, (cutLines_text ls hlast).1, List.getLast?_concat, List.dropLast_concat]
  by_cases h : last = []
  · rw [if_pos h, if_pos (congrArg some h), List.append_nil]
  · rw [if_neg h, if_neg (fun hs => h (Option.some.inj hs))]

/-- **The lines of a file are what stands between its line ends.** -/
theorem Page.Faithful.fileLines_text {p : Page} (hp : p.Faithful) : fileLines p.text = p.lines := by
  rw [Page.text, fileLines_textOf _ p.unbroken,
    keptLines_of_isChain hp fun h => absurd h Bool.false_ne_true, Page.lines]

/-- The first two characters are one end; a form feed is none. -/
example :
    fileLines ['\r', '\n', 'a', '\r', '\r', 'b', '\x0c', '\n'] = [[], ['a'], [], ['b', '\x0c']] := by
  decide

/-! ## The beginning of a file -/

theorem unifyLineEnds_append (s t : List Char)
    (h : s.getLast? = some '\r' → t.head? ≠ some '\n') :
    unifyLineEnds (s ++ t) = unifyLineEnds s ++ unifyLineEnds t := by
  have getLast?_tail {c : Char} {s : List Char} (hs : s.getLast? = some '\r') :
      (c :: s).getLast? = some '\r' := by simp [List.getLast?_cons, hs]
  induction s using unifyLineEnds.induct with
  | case1 => rfl
  | case2 s ih =>
    have hs := ih fun hs => h (getLast?_tail (getLast?_tail hs))
    exact congrArg ('\n' :: ·) hs
  | case3 s hs ih =>
    have hhead : s.head? ≠ some '\n' := by
      cases s with
      | nil => exact (Option.some_ne_none _).symm
      | cons c s => exact fun hc => hs s (by rw [Option.some.inj hc])
    have hhead' : (s ++ t).head? ≠ some '\n' := by
      cases s with
      | nil => exact h rfl
      | cons c s => exact hhead
    rw [List.cons_append, unifyLineEnds_cr hhead', unifyLineEnds_cr hhead,
      ih fun hs => h (getLast?_tail hs), List.cons_append]
  | case4 c s _ hc ih =>
    rw [List.cons_append, unifyLineEnds_cons hc, unifyLineEnds_cons hc,
      ih fun hs => h (getLast?_tail hs), List.cons_append]

/-- Cutting on behind a text leaves its pieces but the last as they are. -/
theorem exists_cutAt_append (sep : Char) (s t : List Char) :
    ∃ piece pieces, cutAt sep (s ++ t) = (cutAt sep s).dropLast ++ piece :: pieces := by
  induction s with
  | nil =>
    obtain ⟨piece, pieces, h⟩ := List.exists_cons_of_ne_nil (cutAt_ne_nil sep t)
    exact ⟨piece, pieces, h⟩
  | cons c s ih =>
    obtain ⟨piece, pieces, h⟩ := ih
    by_cases hc : c = sep
    · refine ⟨piece, pieces, ?_⟩
      rw [List.cons_append, cutAt, if_pos hc, h, cutAt, if_pos hc,
        List.dropLast_cons_of_ne_nil (cutAt_ne_nil sep s), List.cons_append]
    · obtain ⟨first, rest, hs, hcs⟩ := cutAt_cons_of_ne hc s
      obtain ⟨first', rest', hst, hcst⟩ := cutAt_cons_of_ne hc (s ++ t)
      rw [List.cons_append, hcst, hcs]
      cases rest with
      | nil => exact ⟨_, _, rfl⟩
      | cons x xs =>
        rw [hst, hs, List.dropLast_cons_cons, List.cons_append] at h
        obtain ⟨rfl, rfl⟩ := List.cons.inj h
        exact ⟨piece, pieces, rfl⟩

/-- The complete lines are those of a beginning of the text that tears no line end apart. -/
theorem exists_completeLines (s t : List Char) :
    ∃ known more, s ++ t = known ++ more ∧
      completeLines s = (cutLines (unifyLineEnds known)).dropLast ∧
      (known.getLast? = some '\r' → more.head? ≠ some '\n') := by
  unfold completeLines
  by_cases h : s.getLast? = some '\r'
  · refine ⟨s.dropLast, '\r' :: t, ?_, by rw [if_pos h], fun _ => by simp⟩
    obtain ⟨s, rfl⟩ := List.getLast?_eq_some_iff.1 h
    simp
  · exact ⟨s, t, rfl, by rw [if_neg h], fun h' => absurd h' h⟩

/-- **Lines that are complete stay** when the file goes on. -/
theorem prefix_completeLines (s t : List Char) : completeLines s <+: fileLines (s ++ t) := by
  obtain ⟨known, more, hsplit, hlines, hend⟩ := exists_completeLines s t
  obtain ⟨piece, pieces, hcut⟩ :=
    exists_cutAt_append '\n' (unifyLineEnds known) (unifyLineEnds more)
  rw [hlines, hsplit, fileLines, unifyLineEnds_append known more hend, cutLines, cutLines, hcut]
  split
  · rw [List.dropLast_append_of_ne_nil (List.cons_ne_nil piece pieces)]
    exact List.prefix_append _ _
  · exact List.prefix_append _ _

end Plotline.Text
