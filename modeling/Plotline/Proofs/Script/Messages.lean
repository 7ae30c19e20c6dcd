import Plotline.Proofs.Marker.Inert
import Plotline.Proofs.Script.Parse

/-!
# Messages

What becomes of the text of a script. The texts of the lines that continue each other are put
together, cut at newlines, trimmed and put together again, and a `$` may stand at the end of a line
by then that had a space behind it. No marker comes about in any of this, because a newline ends
what a `$` takes along.

* `Tidy` is a text without empty lines and without blanks at the ends of its lines.
* `joinLines_tidied`: cutting, trimming and joining unmarked texts gives an inert and tidy one.
* `no_marker_survives`: what a scan leaves behind is inert, and the messages of a tree that was
  parsed are inert and tidy.
-/

namespace Plotline

open Marker (Token Inert Unmarked inert_iff plain segments)
open Text (isBlank cutAt cutLines joinLines stripEnd)

/-! ## Lines of a text -/

namespace Text

theorem notMem_of_mem_cutAt {sep : Char} {s : List Char} : ∀ piece ∈ cutAt sep s, sep ∉ piece := by
  induction s with
  | nil => simp [cutAt]
  | cons c s ih =>
    by_cases hc : c = sep
    · rw [cutAt, if_pos hc]
      exact List.forall_mem_cons.2 ⟨List.not_mem_nil, ih⟩
    · obtain ⟨piece, pieces, hs, hcut⟩ := cutAt_cons_of_ne hc s
      rw [hs] at ih
      obtain ⟨hpiece, hpieces⟩ := List.forall_mem_cons.1 ih
      rw [hcut]
      exact List.forall_mem_cons.2 ⟨by simp [hpiece, Ne.symm hc], hpieces⟩

/-- Cutting undoes joining, if no line has a newline in it. -/
theorem cutLines_joinLines {ls : List (List Char)} (hne : ls ≠ []) (h : ∀ l ∈ ls, '\n' ∉ l) :
    cutLines (joinLines ls) = ls := by
  induction ls with
  | nil => exact absurd rfl hne
  | cons l ls ih =>
    obtain ⟨hl, hls⟩ := List.forall_mem_cons.1 h
    cases ls with
    | nil => simpa [cutLines, joinLines, List.intercalate] using cutAt_eq_singleton hl
    | cons m ls =>
      rw [joinLines_cons_cons, cutLines, cutAt_append, cutAt_eq_singleton hl, ← cutLines,
        ih (List.cons_ne_nil m ls) hls]
      rfl

/-- The lines of a text, cut at newlines. An empty text has none. -/
def linesIn (text : String) : List (List Char) := if text = "" then [] else cutLines text.toList

/-- No line of the text is empty, and none ends in a blank. -/
structure Tidy (text : String) : Prop where
  nonempty : ∀ line ∈ linesIn text, line ≠ []
  trimmed : ∀ line ∈ linesIn text, ∀ c ∈ line.getLast?, isBlank c = false

theorem linesIn_joinLines {ls : List (List Char)} (h : ∀ l ∈ ls, l ≠ [] ∧ '\n' ∉ l) :
    linesIn (.ofList (joinLines ls)) = ls := by
  cases ls with
  | nil => rfl
  | cons l ls =>
    have hne : joinLines (l :: ls) ≠ [] := by
      have hl := (h l List.mem_cons_self).1
      cases ls <;> simp [joinLines, List.intercalate, hl]
    rw [linesIn, if_neg (by simpa using hne), String.toList_ofList]
    exact cutLines_joinLines (List.cons_ne_nil l ls) fun l hl => (h l hl).2

theorem isBlank_of_mem_getLast?_stripEnd {s : List Char} {c : Char}
    (h : c ∈ (stripEnd s).getLast?) : isBlank c = false := by
  rw [stripEnd, List.getLast?_reverse] at h
  exact isBlank_of_mem_head?_stripStart h

end Text

/-! ## Messages of groups -/

namespace Script

/-- **Lines that are trimmed and put together** make an inert and tidy text, if they are unmarked
and have no newline in them. -/
theorem joinLines_tidied {pieces : List (List Char)}
    (h : ∀ piece ∈ pieces, Unmarked piece ∧ '\n' ∉ piece) :
    Inert (.ofList (joinLines ((pieces.map stripEnd).filter (· ≠ [])))) ∧
      Text.Tidy (.ofList (joinLines ((pieces.map stripEnd).filter (· ≠ [])))) := by
  have hkept : ∀ line ∈ (pieces.map stripEnd).filter (· ≠ []),
      line ≠ [] ∧ ∃ piece ∈ pieces, stripEnd piece = line := by
    intro line hline
    obtain ⟨hmem, hne⟩ := List.mem_filter.1 hline
    exact ⟨by simpa using hne, List.mem_map.1 hmem⟩
  have hlines : Text.linesIn (.ofList (joinLines ((pieces.map stripEnd).filter (· ≠ [])))) =
      (pieces.map stripEnd).filter (· ≠ []) := by
    apply Text.linesIn_joinLines
    intro line hline
    obtain ⟨hne, piece, hpiece, rfl⟩ := hkept line hline
    exact ⟨hne, fun hn => (h piece hpiece).2 ((Text.stripEnd_prefix piece).subset hn)⟩
  refine ⟨inert_iff.2 ?_, ⟨?_, ?_⟩⟩
  · rw [String.toList_ofList]
    apply Marker.unmarked_joinLines
    intro line hline
    obtain ⟨-, piece, hpiece, rfl⟩ := hkept line hline
    exact (h piece hpiece).1.of_shorter (Text.stripEnd_prefix piece)
  · rw [hlines]
    exact fun line hline => (hkept line hline).1
  · rw [hlines]
    intro line hline c hc
    obtain ⟨-, piece, -, rfl⟩ := hkept line hline
    exact Text.isBlank_of_mem_getLast?_stripEnd hc

/-- A line that was cut into segments. -/
theorem exists_segments_of_mem_linesOf {trim : Bool} {script : List String} {l : Line}
    (h : l ∈ linesOf trim script) : ∃ text, l.segments = segments trim text := by
  obtain ⟨text, -, rfl⟩ := List.mem_map.1 h
  rw [Line.ofText]
  split
  · exact ⟨_, rfl⟩
  · exact ⟨_, rfl⟩

theorem Group.message_tidied {trim : Bool} {script : List String} {g : Group}
    (h : ∀ l ∈ g.lines, l ∈ linesOf trim script) : Inert g.message ∧ Text.Tidy g.message := by
  apply joinLines_tidied
  intro piece hpiece
  obtain ⟨l, hl, hpiece⟩ := List.mem_flatMap.1 hpiece
  obtain ⟨text, htext⟩ := exists_segments_of_mem_linesOf (h l hl)
  rw [htext] at hpiece
  exact ⟨(Marker.unmarked_plain trim text).of_mem_cutLines piece hpiece,
    Text.notMem_of_mem_cutAt piece hpiece⟩

end Script

/-! ## Messages of trees -/

/-- The messages of a dialog and of its decisions. -/
def Dialog.messages (d : Dialog) : List (Option String) :=
  d.message :: d.decisions.items.map (·.message)

/-- The messages of all dialogs and decisions. -/
def Tree.messages (t : Tree) : List (Option String) := t.dialogs.items.flatMap Dialog.messages

namespace Script

variable {options : Options} {script : List String} {t : Tree}

/-- Every message of a tree is that of a group of the script. -/
theorem exists_group_of_mem_messages {m : Option String}
    (ht : Describes options (Outline.ofScript options.trim script).chapters t)
    (hm : m ∈ t.messages) :
    ∃ g : Group, m = some g.message ∧ ∀ l ∈ g.lines, l ∈ linesOf options.trim script := by
  obtain ⟨d, hd, hm⟩ := List.mem_flatMap.1 hm
  obtain ⟨c, hc, hcd⟩ := exists_mem_of_forall₂ ht.dialogs.flip hd
  -- chapters are made of groups, and groups of lines
  have hgroup : ∀ g ∈ c.head :: c.rest, ∀ l ∈ g.lines, l ∈ linesOf options.trim script :=
    fun g hg => mem_of_mem_passages.2 g (mem_of_mem_passages.2 c hc g hg)
  rcases List.mem_cons.1 hm with rfl | hm
  · exact ⟨c.head, hcd.message, hgroup c.head List.mem_cons_self⟩
  · rw [hcd.decisions, List.map_map] at hm
    obtain ⟨g, hg, rfl⟩ := List.mem_map.1 hm
    exact ⟨g, rfl, hgroup g (List.mem_cons_of_mem _ hg)⟩

/-- **No marker survives into text.** The text that a scan leaves behind, also when it fails, can be
scanned again as often as one likes and stays the same. So do the messages of a tree that was
parsed, and these have no empty line and no blanks at the ends of their lines. -/
theorem no_marker_survives :
    (∀ trim line, ∃ t, Token.left (({} : Token).scan trim line) = some t ∧ Inert t.text) ∧
      ∀ options script t notices, parse options script = .ok (t, notices) →
        ∀ m ∈ t.messages, ∃ text, m = some text ∧ Inert text ∧ Text.Tidy text := by
  refine ⟨Marker.exists_left_inert, fun options script t notices h m hm => ?_⟩
  have hy := parse_yields options script
  rw [h] at hy
  obtain ⟨g, rfl, hg⟩ := exists_group_of_mem_messages hy.2.1 hm
  exact ⟨g.message, rfl, Group.message_tidied hg⟩

/-- A sign that loses the space behind it stands in front of a newline, not of the bracket below. -/
example :
    (parse {} ["$[a] One $ $D[b]", "[two] $T $ three"]).toOption.map (·.1.messages) =
      some [some "One $\n[two] $T $ three"] := by
  decide +kernel

end Script

end Plotline
