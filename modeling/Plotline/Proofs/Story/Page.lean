import Plotline.Proofs.Script.Messages
import Plotline.Proofs.Story.Numbers

/-!
# Pages

A dialog is shown as one page: a console puts out the first line of its message as it is and
everything else behind its indent. The message comes to the console line by line, but a decision in
one piece. So the indent stands before every line of the page but the first, except for the further
lines of a decision that has more than one.

* `Sheet` is a page as its lines, each with or without the indent, and `Presenter.sheet` is the one
  of a dialog. `Presenter.page_eq_chars` says that it is what is written, for every indent.
* `Presenter.Indents` says that all lines below the first begin with the indent, and
  `Presenter.indents_iff` at which dialogs they do.
* `Script.only_decisions_lack_indent` is about the dialogs of a script, and
  `Script.second_line_lacks_indent` shows one with a line that stands flush left.
-/

namespace Plotline

open Marker (plain)
open Text (breakLines breakLinesFrom cutLines cutLines_joinLines endsLine joinLines
  joinLines_cutLines notMem_of_mem_cutAt stripEnd)

/-! ## Lines -/

namespace Text

/-- The lines that a text is cut into for display have no line ends in them. -/
theorem endsLine_of_mem_breakLinesFrom {present s : List Char}
    (h : ∀ c ∈ present, endsLine c = false) :
    ∀ line ∈ breakLinesFrom present s, ∀ c ∈ line, endsLine c = false := by
  have hreverse : ∀ c ∈ present.reverse, endsLine c = false :=
    fun c hc => h c (List.mem_reverse.1 hc)
  induction present, s using breakLinesFrom.induct with
  | case1 present hempty => simp [breakLinesFrom, hempty]
  | case2 present hne =>
    rw [breakLinesFrom, if_neg hne]
    simpa using hreverse
  | case3 present rest ih =>
    rw [breakLinesFrom]
    exact List.forall_mem_cons.2 ⟨hreverse, ih (by simp) (by simp)⟩
  | case4 present c rest hcr hc ih =>
    rw [breakLinesFrom, if_pos hc]
    · exact List.forall_mem_cons.2 ⟨hreverse, ih (by simp) (by simp)⟩
    · exact hcr
  | case5 present c rest hcr hc ih =>
    have hpresent : ∀ x ∈ c :: present, endsLine x = false :=
      List.forall_mem_cons.2 ⟨Bool.eq_false_iff.2 hc, h⟩
    rw [breakLinesFrom, if_neg hc]
    · exact ih hpresent fun x hx => hpresent x (List.mem_reverse.1 hx)
    · exact hcr

theorem notMem_of_mem_breakLines {s line : List Char} (h : line ∈ breakLines s) : '\n' ∉ line := by
  intro hn
  have := endsLine_of_mem_breakLinesFrom (by simp) line h '\n' hn
  cases this

theorem joinLines_cons (l : List Char) (ls : List (List Char)) :
    joinLines (l :: ls) = l ++ ls.flatMap ('\n' :: ·) := by
  induction ls generalizing l with
  | nil => simp [joinLines]
  | cons m ls ih => rw [joinLines_cons_cons, ih, List.flatMap_cons, List.cons_append]

/-- What stands in front of a text without a newline in it belongs to the first line. -/
theorem exists_cutLines_append {s : List Char} (hs : '\n' ∉ s) (t : List Char) :
    ∃ first more, cutLines t = first :: more ∧ cutLines (s ++ t) = (s ++ first) :: more := by
  obtain ⟨first, more, ht⟩ := List.exists_cons_of_ne_nil (cutAt_ne_nil '\n' t)
  refine ⟨first, more, ht, ?_⟩
  induction s with
  | nil => exact ht
  | cons c s ih =>
    rw [List.mem_cons, not_or] at hs
    obtain ⟨piece, pieces, hcut, hcons⟩ := cutAt_cons_of_ne (Ne.symm hs.1) (s ++ t)
    rw [← cutLines, ih hs.2] at hcut
    obtain ⟨rfl, rfl⟩ := List.cons.inj hcut
    exact hcons

theorem notMem_toString (n : ℕ) : '\n' ∉ (toString n).toList := by
  intro h
  rw [Nat.toString_eq_repr, Nat.repr_eq_ofList_toDigits, String.toList_ofList] at h
  have hdigit : '\n'.isDigit = true := Nat.isDigit_of_mem_toDigits (by decide) (by decide) h
  cases hdigit

end Text

theorem Dialog.messageLines_ne_nil (d : Dialog) : d.messageLines ≠ [] := by
  unfold messageLines
  split
  · exact List.cons_ne_nil _ _
  · rename_i hne
    simpa using hne

theorem Dialog.notMem_messageLines {d : Dialog} {line : String} (h : line ∈ d.messageLines) :
    '\n' ∉ line.toList := by
  unfold messageLines at h
  split at h
  · obtain rfl := List.mem_singleton.1 h
    simp
  · obtain ⟨l, hl, rfl⟩ := List.mem_map.1 h
    rw [String.toList_ofList]
    exact Text.notMem_of_mem_breakLines hl

/-! ## Sheets -/

/-- A line of a page below the first one: what is in it, and whether the indent stands before it. -/
structure Sheet.Row where
  indented : Bool
  text : List Char

/-- The line with the indent, if it has one. -/
def Sheet.Row.chars (indent : List Char) (r : Row) : List Char :=
  if r.indented then indent ++ r.text else r.text

/-- A page as its lines. -/
structure Sheet where
  first : List Char
  below : List Sheet.Row

namespace Sheet

variable {s : Sheet} {indent text : List Char}

/-- The lines of the page. -/
def lines (indent : List Char) (s : Sheet) : List (List Char) :=
  s.first :: s.below.map (Row.chars indent)

/-- The page: its lines, and a newline at the end. -/
def chars (indent : List Char) (s : Sheet) : List Char := joinLines (s.lines indent) ++ ['\n']

/-- No line has a newline in it. -/
structure Clean (s : Sheet) : Prop where
  first : '\n' ∉ s.first
  below : ∀ r ∈ s.below, '\n' ∉ r.text

/-- The lines of a text that a console puts out in one piece: it indents the first one. -/
def rowsOf (text : List Char) : List Row :=
  match cutLines text with
  | [] => []
  | first :: more => ⟨true, first⟩ :: more.map (⟨false, ·⟩)

theorem exists_rowsOf (text : List Char) :
    ∃ first more, cutLines text = first :: more ∧
      rowsOf text = ⟨true, first⟩ :: more.map (⟨false, ·⟩) := by
  obtain ⟨first, more, h⟩ := List.exists_cons_of_ne_nil (Text.cutAt_ne_nil '\n' text)
  refine ⟨first, more, h, ?_⟩
  rw [rowsOf, cutLines, h]

/-- A text that is put out in one piece stands behind the indent as a whole. -/
theorem flatMap_rowsOf (indent text : List Char) :
    (rowsOf text).flatMap (fun r => '\n' :: r.chars indent) = '\n' :: (indent ++ text) := by
  obtain ⟨first, more, hcut, hrows⟩ := exists_rowsOf text
  have htext : text = first ++ more.flatMap ('\n' :: ·) := by
    rw [← Text.joinLines_cons, ← hcut, joinLines_cutLines]
  rw [hrows, List.flatMap_cons, List.flatMap_map, htext]
  simp [Row.chars]

/-- The first line of the text has the indent, the others only if they bring it themselves. -/
theorem prefix_rowsOf_iff :
    (∀ r ∈ rowsOf text, indent <+: r.chars indent) ↔
      ∀ line ∈ (cutLines text).tail, indent <+: line := by
  obtain ⟨first, more, hcut, hrows⟩ := exists_rowsOf text
  rw [hrows, hcut, List.forall_mem_cons, List.forall_mem_map]
  exact and_iff_right (List.prefix_append indent first)

theorem notMem_of_mem_rowsOf {r : Row} (h : r ∈ rowsOf text) : '\n' ∉ r.text := by
  obtain ⟨first, more, hcut, hrows⟩ := exists_rowsOf text
  have hlines : r.text ∈ cutLines text := by
    rw [hrows, List.mem_cons, List.mem_map] at h
    rw [hcut]
    rcases h with rfl | ⟨line, hline, rfl⟩
    · exact List.mem_cons_self
    · exact List.mem_cons_of_mem first hline
  exact notMem_of_mem_cutAt r.text hlines

theorem Clean.notMem_lines (h : s.Clean) (hindent : '\n' ∉ indent) :
    ∀ line ∈ s.lines indent, '\n' ∉ line := by
  intro line hline
  rcases List.mem_cons.1 hline with rfl | hline
  · exact h.first
  · obtain ⟨r, hr, rfl⟩ := List.mem_map.1 hline
    have htext := h.below r hr
    cases hi : r.indented <;> simp [Row.chars, hi, hindent, htext]

/-- Cut at newlines, a page gives its lines, unless the indent itself has a newline. -/
theorem Clean.cutLines_chars (h : s.Clean) (hindent : '\n' ∉ indent) :
    cutLines (s.chars indent) = s.lines indent ++ [[]] := by
  have hne : s.lines indent ≠ [] := List.cons_ne_nil _ _
  rw [chars, cutLines, Text.cutAt_append, ← cutLines,
    cutLines_joinLines hne (h.notMem_lines hindent)]
  rfl

end Sheet

/-! ## The sheet of a dialog -/

namespace Presenter

variable {p : Presenter} {d : Dialog}

/-- A dialog as it is shown: its message line by line, and each decision in one piece. -/
def sheet (p : Presenter) (d : Dialog) : Sheet where
  first := (d.messageLines.headD "").toList
  below := d.messageLines.tail.map (⟨true, ·.toList⟩) ++
    (p.items d).flatMap (Sheet.rowsOf ·.toList)

/-- **What is written to show a dialog is its sheet**, whatever the indent of the console is. -/
theorem page_eq_chars (p : Presenter) (d : Dialog) :
    (p.page d).toList = (p.sheet d).chars p.console.indent.toList := by
  obtain ⟨first, below, h⟩ := List.exists_cons_of_ne_nil d.messageLines_ne_nil
  have hpage : p.page d = p.console.out first (below ++ p.items d) := by
    rw [page, lines_eq, h]
    rfl
  have hitems : ∀ items : List String,
      (items.flatMap (Sheet.rowsOf ·.toList)).flatMap
          (fun r => '\n' :: r.chars p.console.indent.toList) =
        items.flatMap fun i => '\n' :: (p.console.indent.toList ++ i.toList) := by
    intro items
    rw [List.flatMap_assoc]
    exact congrArg items.flatMap (funext fun i => Sheet.flatMap_rowsOf _ _)
  rw [hpage, Console.out, Console.format, layOut_eq, Sheet.chars, Sheet.lines, sheet, h,
    Text.joinLines_cons, List.flatMap_map, List.flatMap_append, hitems]
  simp [Sheet.Row.chars, List.flatMap_map]

theorem clean_sheet (p : Presenter) (d : Dialog) : (p.sheet d).Clean where
  first := by
    obtain ⟨first, below, h⟩ := List.exists_cons_of_ne_nil d.messageLines_ne_nil
    have hfirst : first ∈ d.messageLines := h ▸ List.mem_cons_self
    rw [sheet, h]
    exact Dialog.notMem_messageLines hfirst
  below r hr := by
    rcases List.mem_append.1 hr with hr | hr
    · obtain ⟨line, hline, rfl⟩ := List.mem_map.1 hr
      exact Dialog.notMem_messageLines (List.mem_of_mem_tail hline)
    · obtain ⟨item, -, hr⟩ := List.mem_flatMap.1 hr
      exact Sheet.notMem_of_mem_rowsOf hr

/-- Cut at newlines, what is written gives the lines of the sheet. -/
theorem cutLines_page (hindent : '\n' ∉ p.console.indent.toList) :
    cutLines (p.page d).toList = (p.sheet d).lines p.console.indent.toList ++ [[]] := by
  rw [page_eq_chars, (p.clean_sheet d).cutLines_chars hindent]

/-- The page begins with the first line of the message, flush left, and all its other lines begin
with the indent. -/
def Indents (p : Presenter) (d : Dialog) : Prop :=
  ∃ below, cutLines (p.page d).toList = (d.messageLines.headD "").toList :: below ++ [[]] ∧
    ∀ line ∈ below, p.console.indent.toList <+: line

/-- **A page is indented but for the further lines of its decisions**, which are indented only if
they have the indent in their own text. -/
theorem indents_iff (hindent : '\n' ∉ p.console.indent.toList) :
    p.Indents d ↔ ∀ item ∈ p.items d, ∀ line ∈ (cutLines item.toList).tail,
      p.console.indent.toList <+: line := by
  have hcut := cutLines_page (d := d) hindent
  rw [Sheet.lines] at hcut
  have hrows : p.Indents d ↔
      ∀ r ∈ (p.sheet d).below, p.console.indent.toList <+: r.chars p.console.indent.toList := by
    rw [← List.forall_mem_map (f := Sheet.Row.chars p.console.indent.toList)
      (P := (p.console.indent.toList <+: ·))]
    constructor
    · rintro ⟨below, hbelow, h⟩
      obtain rfl := List.append_cancel_right (List.cons.inj (hcut.symm.trans hbelow)).2
      exact h
    · intro h
      exact ⟨_, hcut, h⟩
  have hmessage : ∀ line ∈ d.messageLines.tail, p.console.indent.toList <+:
      Sheet.Row.chars p.console.indent.toList ⟨true, line.toList⟩ :=
    fun line _ => List.prefix_append _ line.toList
  rw [hrows, sheet, List.forall_mem_append, List.forall_mem_map, List.forall_mem_flatMap,
    and_iff_right hmessage]
  exact forall₂_congr fun item _ => Sheet.prefix_rowsOf_iff

/-! ## Enabled decisions -/

/-- The number takes up no line of its own, and an enabled decision has no mark. -/
theorem tail_cutLines_item {x : Decision} (n : ℕ) (he : x.enabled = true) :
    (cutLines (p.item n x).toList).tail = (cutLines x.caption.toList).tail := by
  have hnumber : '\n' ∉ (toString n ++ ") ").toList := by
    rw [String.toList_append, List.mem_append, not_or]
    exact ⟨Text.notMem_toString n, by decide⟩
  obtain ⟨first, more, hcaption, hitem⟩ :=
    Text.exists_cutLines_append hnumber x.caption.toList
  rw [item, if_pos he, String.append_empty, String.toList_append, hitem, hcaption]
  rfl

theorem visible_of_enabled (he : ∀ x ∈ d.decisions.items, x.enabled = true) :
    p.visible d = d.decisions.items := by
  rw [visible, List.filter_eq_self]
  intro x hx
  rw [he x hx, Bool.true_or]

theorem indents_iff_of_enabled (hindent : '\n' ∉ p.console.indent.toList)
    (he : ∀ x ∈ d.decisions.items, x.enabled = true) :
    p.Indents d ↔ ∀ x ∈ d.decisions.items, ∀ line ∈ (cutLines x.caption.toList).tail,
      p.console.indent.toList <+: line := by
  rw [indents_iff hindent, items, visible_of_enabled he, List.forall_mem_map]
  constructor
  · intro h x hx
    rw [← List.zipIdx_map_fst 1 d.decisions.items] at hx
    obtain ⟨⟨x, n⟩, hq, rfl⟩ := List.mem_map.1 hx
    have := h (x, n) hq
    rwa [tail_cutLines_item n (he x (List.fst_mem_of_mem_zipIdx hq))] at this
  · rintro h ⟨x, n⟩ hq
    have hx := List.fst_mem_of_mem_zipIdx hq
    rw [tail_cutLines_item n (he x hx)]
    exact h x hx

end Presenter

/-! ## Dialogs of a script -/

namespace Script

variable {options : Options} {script : List String} {t : Tree} {d : Dialog}

/-- The lines of text in a group. -/
def Group.texts (g : Group) : List (List Char) :=
  ((g.lines.flatMap fun l => cutLines (plain l.segments).toList).map stripEnd).filter (· ≠ [])

/-- The lines that a decision is shown with: those of its text, or else those of its id. -/
def Group.captionLines (g : Group) : List (List Char) :=
  if g.texts = [] then cutLines g.id.toList else g.texts

theorem Group.cutLines_caption (g : Group) :
    cutLines g.decision.caption.toList = g.captionLines := by
  have htexts : ∀ line ∈ g.texts, line ≠ [] ∧ '\n' ∉ line := by
    intro line hline
    obtain ⟨hmem, hne⟩ := List.mem_filter.1 hline
    obtain ⟨piece, hpiece, rfl⟩ := List.mem_map.1 hmem
    obtain ⟨l, -, hpiece⟩ := List.mem_flatMap.1 hpiece
    refine ⟨by simpa using hne, ?_⟩
    intro hn
    exact notMem_of_mem_cutAt piece hpiece ((Text.stripEnd_prefix piece).subset hn)
  have hlines : Text.linesIn g.message = g.texts := Text.linesIn_joinLines htexts
  have hcaption : g.decision.caption = if g.message = "" then g.id else g.message := rfl
  rw [hcaption, captionLines, ← hlines, Text.linesIn]
  by_cases hm : g.message = ""
  · rw [if_pos hm, if_pos hm, if_pos rfl]
  · have hne : cutLines g.message.toList ≠ [] := Text.cutAt_ne_nil '\n' g.message.toList
    rw [if_neg hm, if_neg hm, if_neg hne]

/-- **Only decisions lack the indent.** The page of a dialog from a script is the first line of its
message, and below it, each behind the indent, the further lines of the message and the first line
of each decision; the further lines of a decision stand there as they are. So all lines below the
first begin with the indent exactly if the further lines of the decisions bring it with them. -/
theorem only_decisions_lack_indent {notices : List Posting}
    (h : parse options script = .ok (t, notices)) (hd : d ∈ t.dialogs.items) (p : Presenter) :
    (p.page d).toList = (p.sheet d).chars p.console.indent.toList ∧ (p.sheet d).Clean ∧
      ∃ c ∈ (Outline.ofScript options.trim script).chapters,
        c.Describes options.console d ∧ p.visible d = c.rest.map Group.decision ∧
          ('\n' ∉ p.console.indent.toList →
            cutLines (p.page d).toList = (p.sheet d).lines p.console.indent.toList ++ [[]] ∧
              (p.Indents d ↔ ∀ g ∈ c.rest, ∀ line ∈ g.captionLines.tail,
                p.console.indent.toList <+: line)) := by
  obtain ⟨c, hc, hcd⟩ := exists_mem_of_forall₂ (describes_of_parse h).2.dialogs.flip hd
  have he : ∀ x ∈ d.decisions.items, x.enabled = true := by
    intro x hx
    rw [hcd.decisions] at hx
    obtain ⟨g, -, rfl⟩ := List.mem_map.1 hx
    rfl
  refine ⟨p.page_eq_chars d, p.clean_sheet d, c, hc, hcd, ?_, ?_⟩
  · rw [Presenter.visible_of_enabled he, hcd.decisions]
  · intro hindent
    refine ⟨Presenter.cutLines_page hindent, ?_⟩
    rw [Presenter.indents_iff_of_enabled hindent he, hcd.decisions, List.forall_mem_map]
    exact forall₂_congr fun g _ => by rw [g.cutLines_caption]

/-- A script with a decision that goes on for a second line. -/
def twoLineScript : List String := ["$[gate] Well?", "> $[in] Go in.", "and stay."]

/-- Its dialog. -/
def twoLineGate : Dialog where
  id := "gate"
  message := some "Well?"
  decisions := ⟨[{ id := "in", message := some "Go in.\nand stay." }], by decide⟩

/-- Its tree. -/
def twoLineTree : Tree where
  root := "gate"
  dialogs := ⟨[twoLineGate], by decide⟩

theorem parse_twoLineScript : parse {} twoLineScript = .ok (twoLineTree, []) := by decide +kernel

theorem twoLineGate_mem : twoLineGate ∈ twoLineTree.dialogs.items := List.mem_singleton.2 rfl

theorem page_twoLineGate :
    ({} : Presenter).page twoLineGate = "Well?\n  1) Go in.\nand stay.\n" := by
  decide +kernel

theorem gate_lacks_indent_in_decisions :
    parse {} twoLineScript = .ok (twoLineTree, []) ∧ twoLineGate ∈ twoLineTree.dialogs.items ∧
      ∃ c ∈ (Outline.ofScript true twoLineScript).chapters, c.Describes {} twoLineGate ∧
        (({} : Presenter).Indents twoLineGate ↔
          ∀ g ∈ c.rest, ∀ line ∈ g.captionLines.tail, [' ', ' '] <+: line) := by
  obtain ⟨-, -, c, hc, hcd, -, hiff⟩ :=
    only_decisions_lack_indent parse_twoLineScript twoLineGate_mem {}
  exact ⟨parse_twoLineScript, twoLineGate_mem, c, hc, hcd, (hiff (by decide)).2⟩

/-- The second line of a decision stands flush left. -/
theorem second_line_lacks_indent :
    ¬∀ (options : Options) (script : List String) (t : Tree) (notices : List Posting) (d : Dialog)
      (p : Presenter), parse options script = .ok (t, notices) → d ∈ t.dialogs.items →
        '\n' ∉ p.console.indent.toList → p.Indents d := by
  intro h
  obtain ⟨below, hbelow, hindent⟩ :=
    h {} _ _ _ twoLineGate {} parse_twoLineScript twoLineGate_mem (by decide)
  have hcut : cutLines (({} : Presenter).page twoLineGate).toList =
      "Well?".toList :: ["  1) Go in.".toList, "and stay.".toList] ++ [[]] := by
    rw [page_twoLineGate]
    decide
  obtain rfl := List.append_cancel_right (List.cons.inj (hcut.symm.trans hbelow)).2
  have hlast := hindent "and stay.".toList (by simp)
  revert hlast
  decide

end Script

end Plotline
