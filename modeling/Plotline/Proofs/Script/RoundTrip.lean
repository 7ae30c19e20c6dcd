import Plotline.Proofs.Script.Parse
import Plotline.Proofs.Script.Writer

/-!
# Written stories read back

Every story can be written as a script, and parsing the script gives the tree of the story, with the
spaces behind markers trimmed or kept (`Script.parse_write`).

The groups and chapters of the script are those that the story was written by, because cutting a
list in front of its openings undoes putting passages one after the other (`passages_flatMap`). Ids,
links and messages of a group are those of its entry (`Entry.id_group`, `Entry.link_group`,
`Entry.message_group`), so the outline of the script is well formed and describes the tree.
-/

namespace Plotline.Script

open Marker (ids plain segments)
open Text (cutLines cutAt_eq_singleton stripEnd stripEnd_eq_self joinLines)

/-! ## Passages -/

theorem passages_append {α : Type} {opens : α → Bool} {front l : List α}
    (h : ∀ a ∈ front, opens a = false) :
    passages opens (front ++ l) = (front ++ (passages opens l).1, (passages opens l).2) := by
  induction front with
  | nil => rfl
  | cons a front ih =>
    rw [List.forall_mem_cons] at h
    rw [List.cons_append, passages, ih h.2, h.1]
    rfl

/-- **Cutting undoes putting passages one after the other.** -/
theorem passages_flatMap {α : Type} {opens : α → Bool} {ps : List (Passage α)}
    (h : ∀ p ∈ ps, opens p.head = true ∧ ∀ a ∈ p.rest, opens a = false) :
    passages opens (ps.flatMap fun p => p.head :: p.rest) = ([], ps) := by
  induction ps with
  | nil => rfl
  | cons p ps ih =>
    rw [List.forall_mem_cons] at h
    obtain ⟨⟨hhead, hrest⟩, hps⟩ := h
    rw [List.flatMap_cons, List.cons_append, passages, passages_append hrest, ih hps, hhead]
    simp

/-! ## Groups of entries -/

namespace Entry

variable {trim : Bool} {kind : EntityKind}

theorem id_group (e : Entry) : (e.group trim kind).id = e.id := by
  have h : ids (e.group trim kind).head.segments = [e.id] := e.ids_segments trim
  rw [Group.id, h]
  rfl

theorem links_group (e : Entry) :
    (e.group trim kind).links = (e.link.map fun l => .into l.1 l.2).toList := by
  have hrest : (e.group trim kind).rest.flatMap (fun l => Marker.links l.segments) = [] := by
    rw [List.flatMap_eq_nil_iff]
    intro l hl
    obtain ⟨line, hline, rfl⟩ := List.mem_map.1 hl
    exact (e.legible line (List.mem_of_mem_tail hline)).links_segments trim
  rw [Group.links, Group.lines, List.flatMap_cons, hrest, List.append_nil]
  exact e.links_segments trim

theorem link_group (e : Entry) : (e.group trim kind).link = e.treeLink := by
  rw [Group.link, e.links_group, treeLink]
  cases e.link <;> rfl

/-- The lines of the message are the texts of the group. -/
theorem texts_group (e : Entry) :
    (e.group trim kind).lines.flatMap (fun l => cutLines (plain l.segments).toList) =
      cutLines e.firstLine.toList ++ e.message.tail.map String.toList := by
  have hrest : (e.group trim kind).rest.flatMap (fun l => cutLines (plain l.segments).toList) =
      e.message.tail.map String.toList := by
    rw [group, List.flatMap_map, ← List.flatMap_singleton' (e.message.tail.map String.toList),
      List.flatMap_map]
    apply List.flatMap_congr
    intro line hline
    have h := e.legible line (List.mem_of_mem_tail hline)
    show cutLines (plain (Marker.segments trim line.toList)).toList = [line.toList]
    rw [h.plain_segments, cutLines, cutAt_eq_singleton h.newline]
  rw [Group.lines, List.flatMap_cons, hrest]
  show cutLines (plain (e.segments trim)).toList ++ _ = _
  rw [e.plain_segments]

/-- **The message of a group is that of its entry**: no line is cut, shortened or left out. -/
theorem message_group (e : Entry) : (e.group trim kind).message = e.text := by
  have hkept : ∀ line ∈ e.message.map String.toList, stripEnd line = line ∧ line ≠ [] := by
    intro line hline
    obtain ⟨l, hl, rfl⟩ := List.mem_map.1 hline
    obtain ⟨c, hc, hb⟩ := (e.legible l hl).last
    refine ⟨stripEnd_eq_self fun c' hc' => ?_, fun hnil => ?_⟩
    · rw [Option.mem_unique hc' hc]
      exact hb
    · rw [hnil] at hc
      cases hc
  have htidy : ((e.message.map String.toList).map stripEnd).filter (· ≠ []) =
      e.message.map String.toList := by
    rw [List.map_congr_left fun line h => (hkept line h).1, List.map_id',
      List.filter_eq_self.2 fun line h => decide_eq_true (hkept line h).2]
  have htexts : (((e.group trim kind).lines.flatMap fun l =>
      cutLines (plain l.segments).toList).map stripEnd).filter (· ≠ []) =
        e.message.map String.toList := by
    rw [e.texts_group]
    cases h : e.message with
    | nil =>
      rw [firstLine, h]
      rfl
    | cons line more =>
      have hline := e.legible line (by simp [h])
      rw [h] at htidy
      rw [firstLine, h, List.headD_cons, cutLines, cutAt_eq_singleton hline.newline]
      exact htidy
  rw [Group.message, htexts, text, ← String.toList_inj, String.toList_ofList,
    String.toList_intercalate, joinLines]
  rfl

theorem decision_group (e : Entry) : (e.group trim kind).decision = e.decision := by
  rw [Group.decision, e.id_group, e.message_group, e.link_group, decision]

theorem scans_group (e : Entry) : ∀ l ∈ (e.group trim kind).lines, l.Scans := by
  intro l hl
  rcases List.mem_cons.1 hl with rfl | hl
  · show (ids (e.segments trim)).length ≤ 1 ∧ (Marker.links (e.segments trim)).length ≤ 1
    rw [e.ids_segments, e.links_segments]
    cases e.link <;> simp
  · obtain ⟨line, hline, rfl⟩ := List.mem_map.1 hl
    have h := e.legible line (List.mem_of_mem_tail hline)
    show (ids (Marker.segments trim _)).length ≤ 1 ∧
      (Marker.links (Marker.segments trim _)).length ≤ 1
    rw [h.ids_segments, h.links_segments]
    simp

end Entry

/-! ## The outline of a written story -/

namespace Story

variable {trim : Bool}

/-- The groups of a story, one for each entry. -/
def groups (trim : Bool) (s : Story) : List Group :=
  (s.chapters trim).flatMap fun c => c.head :: c.rest

theorem exists_entry_of_mem_groups {s : Story} {g : Group} (h : g ∈ s.groups trim) :
    ∃ e kind, g = Entry.group trim kind e := by
  obtain ⟨c, hc, hg⟩ := List.mem_flatMap.1 h
  obtain ⟨scene, -, rfl⟩ := List.mem_map.1 hc
  rcases List.mem_cons.1 hg with rfl | hg
  · exact ⟨scene.entry, .dialog, rfl⟩
  · obtain ⟨e, -, rfl⟩ := List.mem_map.1 hg
    exact ⟨e, .decision, rfl⟩

theorem outline_groups (s : Story) :
    (Outline.ofScript trim s.write).groups = s.groups trim := by
  rw [Outline.groups, Outline.ofScript, s.linesOf_write, Script.groups]
  show (passages _ ((s.groups trim).flatMap fun g => g.head :: g.rest)).2 = s.groups trim
  rw [passages_flatMap]
  intro g hg
  obtain ⟨e, kind, rfl⟩ := exists_entry_of_mem_groups hg
  refine ⟨rfl, fun l hl => ?_⟩
  obtain ⟨line, -, rfl⟩ := List.mem_map.1 hl
  rfl

theorem outline_chapters (s : Story) :
    (Outline.ofScript trim s.write).chapters = s.chapters trim := by
  rw [Outline.chapters, s.outline_groups, Script.chapters, groups, passages_flatMap]
  intro c hc
  obtain ⟨scene, -, rfl⟩ := List.mem_map.1 hc
  refine ⟨rfl, fun g hg => ?_⟩
  obtain ⟨e, -, rfl⟩ := List.mem_map.1 hg
  rfl

theorem distinct_chapters (s : Story) : Distinct (s.chapters trim) where
  dialogs := by
    have h : (s.chapters trim).map (·.head.id) = s.scenes.keys := by
      rw [chapters, List.map_map]
      exact List.map_congr_left fun scene _ => scene.entry.id_group
    rw [h]
    exact s.scenes.nodup
  decisions c hc := by
    obtain ⟨scene, -, rfl⟩ := List.mem_map.1 hc
    have h : (scene.decisions.items.map (Entry.group trim .decision)).map Group.id =
        scene.decisions.keys := by
      rw [List.map_map]
      exact List.map_congr_left fun e _ => e.id_group
    show ((scene.decisions.items.map (Entry.group trim .decision)).map Group.id).Nodup
    rw [h]
    exact scene.decisions.nodup

/-- **The outline of a written story is well formed.** -/
theorem wellFormed_outline (s : Story) : (Outline.ofScript trim s.write).WellFormed where
  opens := by
    obtain ⟨scene, more, hs⟩ := List.exists_cons_of_ne_nil s.nonempty
    refine ⟨(scene.entry.group trim .dialog).head, ?_, rfl⟩
    rw [Outline.ofScript, s.linesOf_write, chapters, hs]
    rfl
  scans l hl := by
    rw [Outline.ofScript, s.linesOf_write] at hl
    obtain ⟨g, hg, hl⟩ := List.mem_flatMap.1 hl
    obtain ⟨e, kind, rfl⟩ := exists_entry_of_mem_groups hg
    exact e.scans_group l hl
  ids g hg := by
    rw [s.outline_groups] at hg
    obtain ⟨e, kind, rfl⟩ := exists_entry_of_mem_groups hg
    refine ⟨e.id, ?_, e.id_ne_empty⟩
    show e.id ∈ Marker.ids (e.segments trim)
    rw [e.ids_segments]
    exact List.mem_singleton_self _
  links g hg := by
    rw [s.outline_groups] at hg
    obtain ⟨e, kind, rfl⟩ := exists_entry_of_mem_groups hg
    rw [e.links_group]
    cases e.link <;> simp
  distinct := by
    rw [s.outline_chapters]
    exact s.distinct_chapters

/-! ## The tree -/

theorem eq_dialog_of_describes {console : Console} {scene : Scene} {d : Dialog}
    (h : Chapter.Describes console ⟨scene.entry.group trim .dialog,
      scene.decisions.items.map (Entry.group trim .decision)⟩ d) : d = scene.dialog console := by
  have hdecisions : d.decisions = scene.decisions.map Entry.decision fun _ => rfl := by
    apply Roster.ext_items
    rw [h.decisions, List.map_map]
    exact List.map_congr_left fun e _ => e.decision_group
  obtain ⟨id, message, link, console', decisions⟩ := d
  obtain rfl : id = scene.entry.id := h.id.trans scene.entry.id_group
  obtain rfl : message = some scene.entry.text :=
    h.message.trans (congrArg some scene.entry.message_group)
  obtain rfl : link = scene.entry.treeLink := h.link.trans scene.entry.link_group
  obtain rfl : console' = console := h.console
  obtain rfl : decisions = _ := hdecisions
  rfl

theorem eq_tree_of_describes {options : Options} {s : Story} {t : Tree}
    (h : Script.Describes options (s.chapters trim) t) : t = s.tree options := by
  have hitems : s.scenes.items.map (Scene.dialog options.console) = t.dialogs.items.map id := by
    have hdialogs := h.dialogs
    rw [chapters, List.forall₂_map_left_iff] at hdialogs
    exact Roster.map_eq_map_of_forall₂ hdialogs fun scene d hd => (eq_dialog_of_describes hd).symm
  have hdialogs : t.dialogs = s.scenes.map (Scene.dialog options.console) fun _ => rfl := by
    apply Roster.ext_items
    rw [← List.map_id t.dialogs.items, ← hitems]
    rfl
  have hroot : t.root = (s.scenes.items.head s.nonempty).id := by
    have hr := h.root
    obtain ⟨scene, more, hs⟩ := List.exists_cons_of_ne_nil s.nonempty
    simp only [chapters, hs, List.map_cons, List.head?_cons, Option.map_some, Option.some.injEq,
      Entry.id_group] at hr
    simp only [hs, List.head_cons]
    exact hr.symm
  obtain ⟨id, root, score, console, dialogs⟩ := t
  obtain rfl : id = options.treeId := h.id
  obtain rfl : score = options.score := h.score
  obtain rfl : console = options.console := h.console
  obtain rfl : root = _ := hroot
  obtain rfl : dialogs = _ := hdialogs
  rfl

end Story

/-- **Every story can be written and reads back exactly.** Parsing the script of a story gives its
tree, whether the spaces behind markers are trimmed or kept. -/
theorem parse_write (options : Options) (s : Story) :
    ∃ notices, parse options s.write = .ok (s.tree options, notices) := by
  have h := parse_yields options s.write
  cases hp : parse options s.write with
  | error f =>
    rw [hp] at h
    exact absurd s.wellFormed_outline h
  | ok r =>
    obtain ⟨t, notices⟩ := r
    rw [hp] at h
    have ht : Describes options (Outline.ofScript options.trim s.write).chapters t := h.2.1
    rw [s.outline_chapters] at ht
    rw [Story.eq_tree_of_describes ht]
    exact ⟨notices, rfl⟩

/-- Two dialogs with ids, targets and texts that look like parts of a script. -/
def oddStory : Story where
  scenes := ⟨[
    { entry :=
        { id := "#$[>", link := some (.dialog, " "), message := ["Pay $5 or > $T", "$"]
          id_ne_empty := by decide, id_bracket := by decide, link_bracket := by decide
          legible := by
            intro line hline
            rcases List.mem_pair.1 hline with rfl | rfl
            · exact ⟨by decide, ⟨'P', rfl, rfl⟩, ⟨'T', rfl, rfl⟩,
                ⟨true, { text := "Pay $5 or > $T" }, by decide +kernel, rfl, rfl⟩⟩
            · exact ⟨by decide, ⟨'$', rfl, rfl⟩, ⟨'$', rfl, rfl⟩,
                ⟨true, { text := "$" }, by decide +kernel, rfl, rfl⟩⟩
          continues := by decide }
      decisions := ⟨[
        { id := "\n", link := some (.tree, "$D["), message := ["#1"]
          id_ne_empty := by decide, id_bracket := by decide, link_bracket := by decide
          legible := by
            intro line hline
            obtain rfl := List.mem_singleton.1 hline
            exact ⟨by decide, ⟨'#', rfl, rfl⟩, ⟨'1', rfl, rfl⟩,
              ⟨true, { text := "#1" }, by decide +kernel, rfl, rfl⟩⟩
          continues := by decide }], by decide⟩ },
    { entry :=
        { id := " ", id_ne_empty := by decide, id_bracket := by decide, link_bracket := by decide
          legible := by simp, continues := by decide } }], by decide⟩
  nonempty := List.cons_ne_nil _ _

theorem oddStory_reads_back :
    oddStory.write =
        ["$[#$[>]$D[ ]Pay $5 or > $T", "$", "> $[\n]$T[$D[]#1", "$[ ]"] ∧
      ∃ notices, parse { trim := false } oddStory.write =
        .ok (oddStory.tree { trim := false }, notices) :=
  ⟨by decide, parse_write { trim := false } oddStory⟩

end Plotline.Script
