import Plotline.Proofs.Marker.Grammar
import Plotline.Proofs.Marker.Spaces
import Plotline.Proofs.Roster
import Plotline.Proofs.Script.Outline
import Plotline.Proofs.Text.Lines

/-!
# Writing stories

A story is what an author wants to tell, apart from any script: dialogs with their decisions, links
and messages. Its parts carry what makes them writable, so that every story can be written.

* `Legible` is a line of a message that reads as itself, and an `Entry` is what is written of a
  dialog or a decision: ids and targets have no `]`, and no line of a message but the first looks
  like a decision or a comment.
* `Story.write` writes a story as a script, and `Story.tree` is the tree that it stands for.
* `linesOf_write`: the lines of the script that count are those of the groups in `Story.chapters`,
  one chapter for each scene.
-/

namespace Plotline

open Marker (Token Segment Announces ids links plain segments)
open Text (isBlank strip strip_eq_self)

/-! ## Text without markers -/

namespace Marker

theorem ids_of_padded {l m : List Segment} (h : Text.Padded (.literal " ") l m) :
    ids l = ids m := by
  induction h with
  | nil => rfl
  | pad _ ih => exact ih
  | cons s _ ih => rw [ids_cons, ids_cons, ih]

theorem links_of_padded {l m : List Segment} (h : Text.Padded (.literal " ") l m) :
    links l = links m := by
  induction h with
  | nil => rfl
  | pad _ ih => exact ih
  | cons s _ ih => rw [links_cons, links_cons, ih]

/-- The trimming does not matter for the ids and links of a line. -/
theorem markers_trim (trim trim' : Bool) (line : List Char) :
    ids (segments trim line) = ids (segments trim' line) ∧
      links (segments trim line) = links (segments trim' line) := by
  have hid := ids_of_padded (padded_segments line)
  have hlink := links_of_padded (padded_segments line)
  cases trim <;> cases trim' <;> simp [hid, hlink]

end Marker

namespace Script

/-! ## Stories -/

/-- A line of a message that reads as itself: it holds no newline, there is no blank at either end,
and a scan of it finds no id and no link. -/
structure Legible (line : String) : Prop where
  newline : '\n' ∉ line.toList
  first : ∃ c ∈ line.toList.head?, isBlank c = false
  last : ∃ c ∈ line.toList.getLast?, isBlank c = false
  unmarked : ∃ trim t, ({} : Token).scan trim line.toList = .ok t ∧ t.hasId = false ∧
    t.hasLink = false

/-- What is written of a dialog or a decision: its id, where it leads, and the lines of its
message. -/
structure Entry where
  id : String
  link : Option (LinkKind × String) := none
  message : List String := []
  id_ne_empty : id ≠ ""
  id_bracket : ']' ∉ id.toList
  link_bracket : ∀ l ∈ link, ']' ∉ l.2.toList
  legible : ∀ line ∈ message, Legible line
  continues : ∀ line ∈ message.tail,
    line.toList.head? ≠ some '>' ∧ line.toList.head? ≠ some '#'

/-- A dialog and its decisions. -/
structure Scene where
  entry : Entry
  decisions : Roster Entry Entry.id := ∅

def Scene.id (s : Scene) : String := s.entry.id

/-- Dialogs with different ids, at least one of them. -/
structure Story where
  scenes : Roster Scene Scene.id
  nonempty : scenes.items ≠ []

/-! ## The script -/

/-- The marker of a link. -/
def linkMarker : LinkKind × String → String
  | (.tree, target) => "$T[" ++ target ++ "]"
  | (.dialog, target) => "$D[" ++ target ++ "]"

namespace Entry

/-- The first line of the message, empty if there is none. -/
def firstLine (e : Entry) : String := e.message.headD ""

/-- The first line of an entry: its markers and the first line of its message. -/
def opening (e : Entry) : String :=
  "$[" ++ e.id ++ "]" ++ (e.link.map linkMarker).getD "" ++ e.firstLine

/-- The lines of an entry. -/
def write (mark : String) (e : Entry) : List String := (mark ++ e.opening) :: e.message.tail

end Entry

/-- A dialog is followed by its decisions, each of them behind a `>`. -/
def Scene.write (s : Scene) : List String :=
  s.entry.write "" ++ s.decisions.items.flatMap (Entry.write "> ")

/-- **A story as a script.** -/
def Story.write (s : Story) : List String := s.scenes.items.flatMap Scene.write

/-! ## The tree -/

namespace Entry

/-- The message as one text. -/
def text (e : Entry) : String := "\n".intercalate e.message

/-- The link as a tree holds it. -/
def treeLink (e : Entry) : Link :=
  match e.link with
  | none => {}
  | some (kind, target) => .into kind target

def decision (e : Entry) : Decision := { id := e.id, message := some e.text, link := e.treeLink }

end Entry

def Scene.dialog (console : Console) (s : Scene) : Dialog :=
  { id := s.entry.id, message := some s.entry.text, link := s.entry.treeLink, console := console
    decisions := s.decisions.map Entry.decision fun _ => rfl }

/-- **The tree that a story stands for.** Its root is the first dialog. -/
def Story.tree (options : Options) (s : Story) : Tree :=
  { id := options.treeId, root := (s.scenes.items.head s.nonempty).id, score := options.score
    console := options.console
    dialogs := s.scenes.map (Scene.dialog options.console) fun _ => rfl }

/-! ## Reading entries -/

variable {trim : Bool} {line : String} {e : Entry}

namespace Legible

theorem ids_segments (h : Legible line) (trim : Bool) : ids (segments trim line.toList) = [] := by
  obtain ⟨trim', t, hscan, hid, -⟩ := h.unmarked
  obtain ⟨-, rfl⟩ := Token.scan_eq_ok_iff.1 hscan
  rw [(Marker.markers_trim trim trim' _).1]
  simpa [Token.ofSegments, Token.hasId] using hid

theorem links_segments (h : Legible line) (trim : Bool) :
    links (segments trim line.toList) = [] := by
  obtain ⟨trim', t, hscan, -, hlink⟩ := h.unmarked
  obtain ⟨-, rfl⟩ := Token.scan_eq_ok_iff.1 hscan
  rw [(Marker.markers_trim trim trim' _).2]
  cases hl : links (segments trim' line.toList) with
  | nil => rfl
  | cons l more =>
    obtain ⟨kind, target, rfl⟩ := Marker.exists_into_of_mem_links (l := l) (by rw [hl]; simp)
    simp [Token.ofSegments, Token.hasLink, hl, Link.into] at hlink

theorem plain_segments (h : Legible line) (trim : Bool) :
    plain (segments trim line.toList) = line := by
  rw [Marker.plain_segments_of_unmarked (h.ids_segments trim) (h.links_segments trim),
    String.ofList_toList]

theorem strip_eq (h : Legible line) : strip line.toList = line.toList := by
  apply strip_eq_self
  · intro c hc
    obtain ⟨c', hc', hb⟩ := h.first
    rw [Option.mem_unique hc hc']
    exact hb
  · intro c hc
    obtain ⟨c', hc', hb⟩ := h.last
    rw [Option.mem_unique hc hc']
    exact hb

end Legible

namespace Entry

theorem firstLine_cases (e : Entry) : e.firstLine = "" ∨ Legible e.firstLine := by
  cases h : e.message with
  | nil => exact .inl (by rw [firstLine, h]; rfl)
  | cons line more =>
    right
    rw [firstLine, h]
    exact e.legible line (by simp [h])

theorem firstLine_markers (e : Entry) (trim : Bool) :
    ids (segments trim e.firstLine.toList) = [] ∧ links (segments trim e.firstLine.toList) = [] ∧
      plain (segments trim e.firstLine.toList) = e.firstLine := by
  rcases e.firstLine_cases with h | h
  · rw [h]
    have hnil : segments trim "".toList = [] := by
      rw [String.toList_empty, segments]
    rw [hnil]
    exact ⟨rfl, rfl, rfl⟩
  · exact ⟨h.ids_segments trim, h.links_segments trim, h.plain_segments trim⟩

theorem firstLine_head (e : Entry) : e.firstLine.toList.head? ≠ some ' ' := by
  rcases e.firstLine_cases with h | h
  · simp [h]
  · obtain ⟨c, hc, hb⟩ := h.first
    intro hspace
    rw [Option.mem_unique hc hspace] at hb
    revert hb
    decide

/-- The segments of the first line. -/
def segments (trim : Bool) (e : Entry) : List Segment :=
  .id e.id :: ((e.link.map fun l => .link l.1 l.2).toList ++
    Marker.segments trim e.firstLine.toList)

/-- **The first line of an entry is read as it was written.** -/
theorem segments_opening (trim : Bool) (e : Entry) :
    Marker.segments trim e.opening.toList = e.segments trim := by
  have hhead := e.firstLine_head
  cases hl : e.link with
  | none =>
    have hopening :
        e.opening.toList = '$' :: '[' :: (e.id.toList ++ ']' :: e.firstLine.toList) := by
      simp [opening, hl]
    rw [hopening, Marker.segments_id_marker e.id_bracket hhead, segments, hl, String.ofList_toList]
    rfl
  | some link =>
    obtain ⟨kind, target⟩ := link
    have htarget : ']' ∉ target.toList := e.link_bracket (kind, target) hl
    obtain ⟨k, hk, hmarker⟩ : ∃ k, Announces k kind ∧
        (linkMarker (kind, target)).toList = '$' :: k :: '[' :: (target.toList ++ [']']) := by
      cases kind with
      | tree => exact ⟨'T', .upperTree, by simp [linkMarker]⟩
      | dialog => exact ⟨'D', .upperDialog, by simp [linkMarker]⟩
    have hopening : e.opening.toList = '$' :: '[' :: (e.id.toList ++ ']' ::
        '$' :: k :: '[' :: (target.toList ++ ']' :: e.firstLine.toList)) := by
      simp [opening, hl, hmarker]
    rw [hopening, Marker.segments_id_marker e.id_bracket (by simp),
      Marker.segments_link_marker hk htarget hhead, segments, hl, String.ofList_toList,
      String.ofList_toList]
    rfl

theorem ids_segments (trim : Bool) (e : Entry) : ids (e.segments trim) = [e.id] := by
  rw [segments, Marker.ids_cons]
  cases h : e.link with
  | none => simp [Segment.id?, (e.firstLine_markers trim).1]
  | some l => simp [Segment.id?, Marker.ids_cons, (e.firstLine_markers trim).1]

theorem links_segments (trim : Bool) (e : Entry) :
    links (e.segments trim) = (e.link.map fun l => .into l.1 l.2).toList := by
  rw [segments, Marker.links_cons]
  cases h : e.link with
  | none => simp [Segment.link?, (e.firstLine_markers trim).2.1]
  | some l => simp [Segment.link?, Marker.links_cons, (e.firstLine_markers trim).2.1]

theorem plain_segments (trim : Bool) (e : Entry) : plain (e.segments trim) = e.firstLine := by
  rw [segments, Marker.plain_cons]
  cases h : e.link with
  | none => simp [Segment.plain, (e.firstLine_markers trim).2.2]
  | some l => simp [Segment.plain, Marker.plain_cons, (e.firstLine_markers trim).2.2]

/-- The first line ends with a `]` or with the first line of the message, so stripping leaves it. -/
theorem opening_last (e : Entry) : ∀ c ∈ e.opening.toList.getLast?, isBlank c = false := by
  obtain ⟨front, hfront⟩ : ∃ front, e.opening.toList = front ++ ']' :: e.firstLine.toList := by
    cases hl : e.link with
    | none => exact ⟨'$' :: '[' :: e.id.toList, by simp [opening, hl]⟩
    | some link =>
      obtain ⟨kind, target⟩ := link
      cases kind with
      | tree =>
        exact ⟨'$' :: '[' :: (e.id.toList ++ ']' :: '$' :: 'T' :: '[' :: target.toList),
          by simp [opening, hl, linkMarker]⟩
      | dialog =>
        exact ⟨'$' :: '[' :: (e.id.toList ++ ']' :: '$' :: 'D' :: '[' :: target.toList),
          by simp [opening, hl, linkMarker]⟩
  intro c hc
  rw [hfront] at hc
  rcases e.firstLine_cases with h | h
  · rw [h] at hc
    obtain rfl : ']' = c := by simpa using hc
    decide
  · obtain ⟨c', hc', hb⟩ := h.last
    have hlast : c ∈ e.firstLine.toList.getLast? := by
      have hne : e.firstLine.toList ≠ [] := by
        intro hnil
        rw [hnil] at hc'
        cases hc'
      obtain ⟨a, more, hmore⟩ := List.exists_cons_of_ne_nil hne
      rw [hmore] at hc ⊢
      simpa [List.getLast?_append, List.getLast?_cons_cons] using hc
    rw [Option.mem_unique hlast hc']
    exact hb

end Entry

/-! ## Reading the script -/

/-- The group that an entry is read as. -/
def Entry.group (trim : Bool) (kind : EntityKind) (e : Entry) : Group :=
  ⟨⟨some kind, e.segments trim⟩,
    e.message.tail.map fun line => ⟨none, Marker.segments trim line.toList⟩⟩

/-- The chapters that a story is read as. -/
def Story.chapters (trim : Bool) (s : Story) : List Chapter :=
  s.scenes.items.map fun scene =>
    ⟨scene.entry.group trim .dialog, scene.decisions.items.map (Entry.group trim .decision)⟩

theorem linesOf_append (trim : Bool) (a b : List String) :
    linesOf trim (a ++ b) = linesOf trim a ++ linesOf trim b := by
  simp [linesOf]

theorem linesOf_flatMap {α : Type} (trim : Bool) (l : List α) (f : α → List String) :
    linesOf trim (l.flatMap f) = l.flatMap fun a => linesOf trim (f a) := by
  induction l with
  | nil => rfl
  | cons a l ih => rw [List.flatMap_cons, List.flatMap_cons, linesOf_append, ih]

theorem linesOf_cons {script : List String} (h : counts (strip line.toList) = true) :
    linesOf trim (line :: script) =
      .ofText trim (strip line.toList) :: linesOf trim script := by
  simp [linesOf, h]

/-- The further lines of a message continue it. -/
theorem linesOf_of_legible {lines : List String} (h : ∀ line ∈ lines, Legible line ∧
    line.toList.head? ≠ some '>' ∧ line.toList.head? ≠ some '#') :
    linesOf trim lines = lines.map fun line => ⟨none, segments trim line.toList⟩ := by
  induction lines with
  | nil => rfl
  | cons line lines ih =>
    rw [List.forall_mem_cons] at h
    obtain ⟨⟨hlegible, hdecision, hcomment⟩, hlines⟩ := h
    have hne : line.toList ≠ [] := by
      obtain ⟨c, hc, -⟩ := hlegible.first
      intro hnil
      rw [hnil] at hc
      cases hc
    have hcounts : counts (strip line.toList) = true := by
      rw [hlegible.strip_eq, counts, Bool.and_eq_true]
      exact ⟨decide_eq_true hne, decide_eq_true hcomment⟩
    rw [linesOf_cons hcounts, hlegible.strip_eq, ih hlines, List.map_cons, Line.ofText,
      if_neg hdecision]
    simp [hlegible.ids_segments trim]

namespace Entry

theorem linesOf_tail (trim : Bool) (e : Entry) : linesOf trim e.message.tail =
    e.message.tail.map fun line => ⟨none, Marker.segments trim line.toList⟩ :=
  linesOf_of_legible fun line h => ⟨e.legible line (List.mem_of_mem_tail h), e.continues line h⟩

theorem exists_opening (e : Entry) : ∃ more, e.opening.toList = '$' :: '[' :: more :=
  ⟨e.id.toList ++ ']' :: (((e.link.map linkMarker).getD "").toList ++ e.firstLine.toList),
    by simp [opening]⟩

theorem linesOf_write_dialog (trim : Bool) (e : Entry) :
    linesOf trim (e.write "") = (e.group trim .dialog).lines := by
  obtain ⟨more, hmore⟩ := e.exists_opening
  have hstrip : strip ("" ++ e.opening).toList = e.opening.toList := by
    rw [String.empty_append]
    apply strip_eq_self _ e.opening_last
    intro c hc
    rw [hmore] at hc
    obtain rfl := Option.some.inj hc
    decide
  have hcounts : counts (strip ("" ++ e.opening).toList) = true := by
    rw [hstrip, hmore]
    rfl
  have hline : Line.ofText trim e.opening.toList = ⟨some .dialog, e.segments trim⟩ := by
    rw [Line.ofText, if_neg (by rw [hmore]; simp), e.segments_opening]
    simp [e.ids_segments]
  rw [write, linesOf_cons hcounts, hstrip, hline, e.linesOf_tail]
  rfl

theorem linesOf_write_decision (trim : Bool) (e : Entry) :
    linesOf trim (e.write "> ") = (e.group trim .decision).lines := by
  obtain ⟨more, hmore⟩ := e.exists_opening
  have hwritten : ("> " ++ e.opening).toList = '>' :: ' ' :: e.opening.toList := by simp
  have hstrip : strip ("> " ++ e.opening).toList = '>' :: ' ' :: e.opening.toList := by
    rw [hwritten]
    apply strip_eq_self
    · intro c hc
      obtain rfl := Option.some.inj hc
      decide
    · intro c hc
      apply e.opening_last c
      rw [hmore] at hc ⊢
      simpa [List.getLast?_cons_cons] using hc
  have hcounts : counts (strip ("> " ++ e.opening).toList) = true := by
    rw [hstrip]
    rfl
  have hline : Line.ofText trim ('>' :: ' ' :: e.opening.toList) =
      ⟨some .decision, e.segments trim⟩ := by
    have hdrop : (' ' :: e.opening.toList).dropWhile (· = ' ') = e.opening.toList := by
      rw [hmore]
      rfl
    rw [Line.ofText, if_pos (List.head?_cons ..), List.tail_cons, hdrop, e.segments_opening]
  rw [write, linesOf_cons hcounts, hstrip, hline, e.linesOf_tail]
  rfl

end Entry

/-- **The lines of a written story are those of its groups.** -/
theorem Story.linesOf_write (trim : Bool) (s : Story) : linesOf trim s.write =
    ((s.chapters trim).flatMap fun c => c.head :: c.rest).flatMap Group.lines := by
  have hscene : ∀ scene : Scene, linesOf trim scene.write =
      (scene.entry.group trim .dialog ::
        scene.decisions.items.map (Entry.group trim .decision)).flatMap Group.lines := by
    intro scene
    rw [Scene.write, linesOf_append, linesOf_flatMap, scene.entry.linesOf_write_dialog,
      List.flatMap_cons, List.flatMap_map]
    simp only [Entry.linesOf_write_decision]
  rw [Story.write, linesOf_flatMap, Story.chapters, List.flatMap_map, List.flatMap_assoc]
  simp only [hscene]

end Script

end Plotline
