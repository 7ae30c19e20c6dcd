import Plotline.Proofs.Levels.Basic
import Plotline.Proofs.Tree.FromScript
import Plotline.Stage.Basic

/-!
# The notices about a script

Reading lines posts nothing until the tree is finished, so a script that cannot be read leaves no
notice behind. Of a script that is read, the notices follow from its outline: a warning for every
dialog link to an id that no dialog of the tree has, in the order of the script, then the counts. The
level of the console decides which of these are posted, and that is all it decides.

* `Script.told` lists the notices before the level has its say.
* `Builder.notices_of_describes`: a builder makes these. A tree that was read has its root, so the
  warning about a missing root is not among them.
* `Stage.reading_posts`: what the command that reads lines posts.
-/

namespace Plotline

/-- The warning about a dialog link to none of these dialogs. -/
def Owner.warning? (console : Console) (dialogs : List String) (o : Owner) : Option Posting :=
  match o.link with
  | ⟨some target, some .dialog⟩ =>
    if target ∈ dialogs then none
    else some (console.notice .warning ("dangling dialog link: " ++ target)
      ["from: " ++ o.id, "in dialog: " ++ o.dialog])
  | _ => none

namespace Script

/-! ## Owners of links in a script -/

/-- The dialog of a chapter and then its decisions, with their links. -/
def Chapter.owners (c : Chapter) : List Owner :=
  (c.head :: c.rest).map fun g => ⟨c.head.id, g.id, g.link⟩

/-- All dialogs and decisions of a script with their links, in the order of the script. -/
def Outline.owners (o : Outline) : List Owner := o.chapters.flatMap Chapter.owners

theorem Chapter.Describes.owners {console : Console} {c : Chapter} {d : Dialog}
    (h : c.Describes console d) : d.owners = c.owners := by
  rw [Dialog.owners, Chapter.owners, h.id, h.link, h.decisions, List.map_map, List.map_cons]
  rfl

/-- A tree has the dialogs and decisions of its chapters in the same order. -/
theorem Describes.owners {options : Options} {cs : List Chapter} {t : Tree}
    (h : Describes options cs t) : t.owners = cs.flatMap Chapter.owners := by
  rw [Tree.owners, List.flatMap_def, List.flatMap_def,
    Roster.map_eq_map_of_forall₂ h.dialogs fun c d hc => hc.owners.symm]

/-- The counter of decisions and the decisions of the tree agree. -/
theorem Describes.decisionCount {options : Options} {cs : List Chapter} {t : Tree}
    (h : Describes options cs t) : (cs.flatMap (·.rest)).length = t.decisionCount := by
  have hlengths : cs.map (fun c => c.rest.length) =
      t.dialogs.items.map fun d => d.decisions.items.length :=
    Roster.map_eq_map_of_forall₂ h.dialogs fun c d hc => by rw [hc.decisions, List.length_map]
  rw [List.length_flatMap, hlengths, Tree.decisionCount, List.length_flatMap]

/-- The notices about the tree of a script, whether they are let through or not. -/
def told (options : Options) (o : Outline) (t : Tree) : List Posting :=
  o.owners.filterMap (Owner.warning? options.console t.dialogs.keys) ++
    [options.console.notice .info ("parsed tree: " ++ options.treeId)
      ["dialogs: " ++ toString t.dialogs.size, "decisions: " ++ toString t.decisionCount]]

end Script

/-! ## Notices of a builder -/

/-- One owner of a link: it is warned of exactly if its link dangles. -/
theorem Tree.warn_of_owner (t : Tree) (console : Console) {o : Owner} (h : o.link.Paired) :
    (if t.isDangling o.link then
        console.warn ("dangling dialog link: " ++ Link.shown o.link.target)
          ["from: " ++ o.id, "in dialog: " ++ o.dialog]
      else []) =
      (o.warning? console t.dialogs.keys).toList.filter console.admits := by
  obtain ⟨dialog, id, target, kind⟩ := o
  cases target with
  | none =>
    cases kind with
    | none => simp [Tree.isDangling, Owner.warning?]
    | some kind => cases h
  | some target =>
    cases kind with
    | none => cases h
    | some kind =>
      cases kind with
      | tree => simp [Tree.isDangling, Owner.warning?]
      | dialog =>
        by_cases hmem : target ∈ t.dialogs.keys
        · have hfound := Roster.contains_eq_true_iff.2 hmem
          simp [Tree.isDangling, Owner.warning?, hmem, hfound]
        · have hmissing : t.dialogs.contains target = false :=
            Bool.eq_false_iff.2 fun hc => hmem (Roster.contains_eq_true_iff.1 hc)
          simp only [Tree.isDangling, Owner.warning?, hmem, hmissing, Option.any_some, Bool.not_false,
            and_self, decide_true, if_true, if_false, Option.toList_some]
          exact console.post_eq_filter .warning _ _

/-- The warnings about the links of a tree, owner by owner. -/
theorem Tree.warn_of_owners (t : Tree) (console : Console) {os : List Owner}
    (h : ∀ o ∈ os, o.link.Paired) :
    ((os.filter (t.isDangling ·.link)).flatMap fun o =>
        console.warn ("dangling dialog link: " ++ Link.shown o.link.target)
          ["from: " ++ o.id, "in dialog: " ++ o.dialog]) =
      (os.filterMap (Owner.warning? console t.dialogs.keys)).filter console.admits := by
  induction os with
  | nil => rfl
  | cons o os ih =>
    obtain ⟨ho, hos⟩ := List.forall_mem_cons.1 h
    have hfirst := t.warn_of_owner console ho
    rw [List.filterMap_cons, List.filter_cons]
    cases hw : o.warning? console t.dialogs.keys with
    | none =>
      rw [hw] at hfirst
      split at hfirst
      · rw [if_pos ‹_›, List.flatMap_cons, hfirst, ih hos]
        rfl
      · rw [if_neg ‹_›, ih hos]
    | some w =>
      rw [hw] at hfirst
      split at hfirst
      · rw [if_pos ‹_›, List.flatMap_cons, hfirst, ih hos, ← List.filter_append]
        rfl
      · rw [if_neg ‹_›, ih hos, ← List.nil_append (List.filter _ _), hfirst, ← List.filter_append]
        rfl

/-- **A builder makes the notices of its script.** -/
theorem Builder.notices_of_describes {b : Builder} {o : Script.Outline} {t : Tree}
    (h : Script.Describes b.options o.chapters t)
    (hcount : b.decisionCount = (o.chapters.flatMap (·.rest)).length) :
    b.notices t = (Script.told b.options o t).filter b.options.console.admits := by
  have hsound := h.sound
  have howners : t.owners = o.owners := h.owners
  have hwarn := t.warn_of_owners b.options.console hsound.paired
  rw [Builder.notices, if_pos (Roster.contains_eq_true_iff.2 hsound.root), List.nil_append,
    Tree.danglingLinks, hwarn, howners, hcount, h.decisionCount, Script.told, List.filter_append]
  congr 1
  exact b.options.console.post_eq_filter .info _ _

/-- **Of a script that is read, the notices are those of its outline.** -/
theorem Script.notices_of_parse {options : Script.Options} {script : List String} {t : Tree}
    {notices : List Posting} (h : parse options script = .ok (t, notices)) :
    Describes options (Outline.ofScript options.trim script).chapters t ∧
      notices =
        (told options (Outline.ofScript options.trim script) t).filter options.console.admits := by
  have hy := parse_yields options script
  rw [h] at hy
  obtain ⟨-, hdescribes, b, rfl, hcount, rfl⟩ := hy
  exact ⟨hdescribes, Builder.notices_of_describes hdescribes hcount⟩

/-- The warning about a missing root begins unlike all notices about a script. -/
theorem Script.root_warning_notMem (options : Options) (o : Outline) (t : Tree)
    (root id : String) :
    options.console.notice .warning ("root dialog not found: " ++ root) ["in tree: " ++ id] ∉
      told options o t := by
  intro h
  rcases List.mem_append.1 h with h | h
  · obtain ⟨x, -, hx⟩ := List.mem_filterMap.1 h
    unfold Owner.warning? at hx
    split at hx
    · split at hx
      · cases hx
      · have hhead := congrArg (·.record.text.toList.head?) (Option.some.inj hx)
        simp [Console.notice, Console.format, layOut_eq] at hhead
    · cases hx
  · have hseverity := congrArg (·.record.severity) (List.mem_singleton.1 h)
    cases hseverity

/-! ## Reading lines on a stage -/

namespace Stage

open Script (Outline parse told)

/-- Entering no notices leaves the journals as they are. -/
theorem deliver_of_silent (s : Stage) (answer : Except Failure Reply) (output : String) :
    deliver ⟨answer, s, [], output⟩ = ⟨answer, s, [], output⟩ := by
  have hkept : s.journals.mapIdx (fun channel j => j.receive channel []) = s.journals := by
    apply List.ext_getElem <;> simp [Journal.receive]
  rw [deliver, hkept]

/-- **What reading lines posts.** If the lines cannot be read, nothing is posted and nothing changes.
If they give a tree, this is posted, as far as the level of the console lets it through: a warning
for every dialog or decision with a dialog link to an id that no dialog of the tree has, in the order
of the script with a dialog before its decisions, and then the id of the tree and the numbers of its
dialogs and decisions. No missing root is ever warned of. -/
theorem reading_posts (s : Stage) (disk : Disk) (tree : String) (lines : List String) (trim : Bool)
    (treeId : String) (score : Int) (name : Option String) :
    let console := s.consoleOrFresh name
    let options : Script.Options :=
      { trim := trim, treeId := treeId, score := score, console := console }
    let p := s.perform disk (.parse tree lines trim treeId score name)
    match parse options lines with
    | .error f => p.answer = .error f ∧ p.postings = [] ∧ p.stage = s
    | .ok (t, _) =>
      p.answer = .ok (.entity (.tree t)) ∧
        t.owners = (Outline.ofScript trim lines).owners ∧
        p.postings = (told options (Outline.ofScript trim lines) t).filter console.admits ∧
        p.stage.journals = s.journals.mapIdx (fun channel j => j.receive channel p.postings) ∧
        ∀ root id, console.notice .warning ("root dialog not found: " ++ root) ["in tree: " ++ id] ∉
          p.postings := by
  intro console options p
  have hp : p = deliver (s.placeRead tree (parse options lines)) := rfl
  cases hparse : parse options lines with
  | error f =>
    have hsilent : p = ⟨.error f, s, [], ""⟩ := by
      rw [hp, hparse]
      exact s.deliver_of_silent _ _
    rw [hsilent]
    exact ⟨rfl, rfl, rfl⟩
  | ok r =>
    obtain ⟨t, notices⟩ := r
    obtain ⟨hdescribes, hnotices⟩ := Script.notices_of_parse hparse
    rw [hparse] at hp
    have hpostings : p.postings =
        (told options (Outline.ofScript trim lines) t).filter console.admits := by
      rw [hp]
      exact hnotices
    refine ⟨by rw [hp]; rfl, hdescribes.owners, hpostings, by rw [hp]; rfl, fun root id h => ?_⟩
    rw [hpostings] at h
    exact Script.root_warning_notMem options _ t root id (List.mem_of_mem_filter h)

/-- The link to a dialog further down is none to warn of; the one to the missing attic is, before the
one of the decision. -/
example :
    let s : Stage := { consoles := [("c", { channel := 1, level := 3 })] }
    let p := s.perform (fun _ => .error .notFound)
      (.parse "t" ["$[hall] Dark. $D[attic]", "> $[down] Down. $D[cellar]", "> $[up] Up. $D[attic]",
        "$[cellar] Damp."] true "house" 0 (some "c"))
    p.postings.map (·.record.text) =
      ["dangling dialog link: attic\n  from: hall\n  in dialog: hall",
        "dangling dialog link: attic\n  from: up\n  in dialog: hall",
        "parsed tree: house\n  dialogs: 2\n  decisions: 2"] := by
  decide +kernel

end Stage

end Plotline
