import Plotline.Proofs.Roster
import Plotline.Tree.Display
import Plotline.Tree.Links

/-!
# Levels of consoles

A level decides which notices a console lets through. To say that it decides nothing else, the
consoles of whatever there is are set to other levels (`tuned`), and everything that is done with it
comes out the same, but for the levels.

* `Levels` has a level for each channel, and `Levels.heard` keeps the postings that it admits.
* `Console.post_tuned`: a notice is made in any case, and heard if the level admits it.
* Here are consoles, dialogs and trees. Each operation on them is followed by its `_tuned` lemma.
-/

namespace Plotline

/-- A level for each channel. The consoles without a name let errors through only. -/
structure Levels where
  of : Nat → Fin 4
  unnamed : of 0 = Console.errorsOnly

/-- What comes at the various levels is one thing, which `tune` sets to them. -/
def Uniform {α : Type} (tune : Levels → α → α) (result : Levels → α) : Prop :=
  ∃ a, ∀ f, result f = tune f a

variable (f : Levels)

/-- The postings that the levels let through. -/
def Levels.heard (ps : List Posting) : List Posting :=
  ps.filter fun p => p.record.severity.rank ≤ (f.of p.channel).val

namespace Levels

@[simp] theorem heard_append (ps qs : List Posting) :
    f.heard (ps ++ qs) = f.heard ps ++ f.heard qs := List.filter_append ps qs

theorem heard_flatMap {α : Type} (l : List α) (ps : α → List Posting) :
    f.heard (l.flatMap ps) = l.flatMap fun a => f.heard (ps a) := List.filter_flatMap

end Levels

/-! ## Consoles -/

namespace Console

/-- The console at another level. -/
def tuned (c : Console) (f : Levels) : Console := { c with level := f.of c.channel }

/-- A notice before it is decided whether it is let through. -/
def notice (c : Console) (s : Severity) (first : String) (details : List String) : Posting :=
  ⟨c.channel, ⟨s, c.format first details⟩⟩

variable (c : Console)

/-- The levels that are set last count. -/
@[simp] theorem tuned_tuned (g : Levels) : (c.tuned f).tuned g = c.tuned g := rfl

@[simp] theorem fail_tuned : (c.tuned f).fail = c.fail := rfl

/-- The level lets a notice through. -/
def admits (p : Posting) : Bool := p.record.severity.rank ≤ c.level.val

/-- A notice is made in any case, and posted if the level lets it through. -/
theorem post_eq_filter (s : Severity) (first : String) (details : List String) :
    c.post s first details = [c.notice s first details].filter c.admits := by
  rw [post, log_rank, notice]
  by_cases h : s.rank ≤ c.level.val <;> simp [h, admits]

/-- **The level only decides whether a notice is heard.** -/
theorem post_tuned (s : Severity) (first : String) (details : List String) :
    (c.tuned f).post s first details = f.heard [c.notice s first details] :=
  (c.tuned f).post_eq_filter s first details

theorem warn_tuned (first : String) (details : List String) :
    (c.tuned f).warn first details = f.heard [c.notice .warning first details] :=
  c.post_tuned f .warning first details

theorem info_tuned (first : String) (details : List String) :
    (c.tuned f).info first details = f.heard [c.notice .info first details] :=
  c.post_tuned f .info first details

/-- A fresh console is at its level already. -/
@[simp] theorem fresh_tuned : ({} : Console).tuned f = {} := by
  rw [tuned, f.unnamed]

end Console

/-! ## Rosters -/

namespace Roster

variable {α β : Type} {key : α → String} {key' : β → String} {g : α → β}
  {hg : ∀ a, key' (g a) = key a} (r : Roster α key)

@[simp] theorem items_map : (r.map g hg).items = r.items.map g := rfl

@[simp] theorem keys_map : (r.map g hg).keys = r.keys := by
  rw [keys, items_map, List.map_map, keys]
  exact List.map_congr_left fun a _ => hg a

@[simp] theorem size_map : (r.map g hg).size = r.size := List.length_map g

@[simp] theorem get?_map (k : String) : (r.map g hg).get? k = (r.get? k).map g := by
  simp only [get?, items_map, List.find?_map, Function.comp_def, hg]

@[simp] theorem contains_map (k : String) : (r.map g hg).contains k = r.contains k := by
  rw [contains, get?_map, Option.isSome_map, contains]

@[simp] theorem insert?_map (a : α) :
    (r.map g hg).insert? (g a) = (r.insert? a).map (·.map g hg) := by
  by_cases hk : key a ∈ r.keys
  · have hk' : key' (g a) ∈ (r.map g hg).keys := by rwa [keys_map, hg]
    rw [insert?_eq_none_iff.2 hk, insert?_eq_none_iff.2 hk', Option.map_none]
  · obtain ⟨s, hs⟩ := exists_insert? hk
    have hitems := (insert?_eq_some_iff.1 hs).2
    rw [hs, Option.map_some, insert?_eq_some_iff, keys_map, hg, items_map, items_map, hitems,
      List.map_append]
    exact ⟨hk, rfl⟩

theorem modify_map {k : String} {h : α → α} {h' : β → β} {hh : ∀ a, key (h a) = key a}
    {hh' : ∀ b, key' (h' b) = key' b} (hcomm : ∀ a, h' (g a) = g (h a)) :
    (r.map g hg).modify k h' hh' = (r.modify k h hh).map g hg := by
  apply ext_items
  simp only [items_modify, items_map, List.map_map]
  refine List.map_congr_left fun a _ => ?_
  simp only [Function.comp_apply, hg]
  split
  · exact hcomm a
  · rfl

end Roster

/-! ## Dialogs -/

namespace Dialog

/-- The dialog with its console at another level. -/
def tuned (d : Dialog) (f : Levels) : Dialog := { d with console := d.console.tuned f }

variable (d : Dialog)

@[simp] theorem tuned_tuned (g : Levels) : (d.tuned f).tuned g = d.tuned g := rfl

@[simp] theorem id_tuned : (d.tuned f).id = d.id := rfl

@[simp] theorem owners_tuned : (d.tuned f).owners = d.owners := rfl

@[simp] theorem insert_tuned (x : Decision) :
    (d.tuned f).insert x = (d.insert x).map (·.tuned f) := by
  have hdecisions : (d.tuned f).decisions = d.decisions := rfl
  rw [insert, insert, hdecisions]
  cases d.decisions.insert? x <;> rfl

@[simp] theorem get_tuned (id : String) : (d.tuned f).get id = d.get id := rfl

@[simp] theorem describe_tuned : (d.tuned f).describe = d.describe := rfl

end Dialog

/-! ## Trees -/

namespace Tree

/-- The tree with all its consoles at other levels. -/
def tuned (t : Tree) (f : Levels) : Tree :=
  { t with console := t.console.tuned f, dialogs := t.dialogs.map (·.tuned f) (Dialog.id_tuned f) }

end Tree

/-- The entity with all its consoles at other levels. -/
def Entity.tuned (e : Entity) (f : Levels) : Entity :=
  match e with
  | .tree t => .tree (t.tuned f)
  | .dialog d => .dialog (d.tuned f)
  | .decision x => .decision x

namespace Tree

variable (t : Tree)

@[simp] theorem tuned_tuned (g : Levels) : (t.tuned f).tuned g = t.tuned g := by
  have hitems : (t.dialogs.items.map (·.tuned f)).map (·.tuned g) =
      t.dialogs.items.map (·.tuned g) := by simp
  simp only [tuned, Roster.map, hitems, Console.tuned_tuned]

@[simp] theorem id_tuned : (t.tuned f).id = t.id := rfl

@[simp] theorem root_tuned : (t.tuned f).root = t.root := rfl

@[simp] theorem score_tuned : (t.tuned f).score = t.score := rfl

@[simp] theorem console_tuned : (t.tuned f).console = t.console.tuned f := rfl

@[simp] theorem dialogs_tuned :
    (t.tuned f).dialogs = t.dialogs.map (·.tuned f) (Dialog.id_tuned f) := rfl

@[simp] theorem blank_tuned : blank.tuned f = blank := by
  rw [tuned, blank, Console.fresh_tuned]
  rfl

@[simp] theorem addScore_tuned (n : Int) : (t.tuned f).addScore n = (t.addScore n).tuned f := rfl

@[simp] theorem insert_tuned (d : Dialog) :
    (t.tuned f).insert (d.tuned f) = (t.insert d).map (·.tuned f) := by
  rw [insert, insert, dialogs_tuned, Roster.insert?_map]
  cases t.dialogs.insert? d <;> rfl

@[simp] theorem get_tuned (id : String) : (t.tuned f).get id = (t.get id).map (·.tuned f) := by
  rw [get, get, dialogs_tuned, Roster.get?_map]
  cases t.dialogs.get? id <;> rfl

@[simp] theorem rootDialog_tuned : (t.tuned f).rootDialog = t.rootDialog.map (·.tuned f) :=
  t.get_tuned f t.root

/-- A change of one dialog that does not look at its console. -/
theorem modify_tuned {id : String} {h h' : Dialog → Dialog} {hh : ∀ d, (h d).id = d.id}
    {hh' : ∀ d, (h' d).id = d.id} (hcomm : ∀ d : Dialog, h' (d.tuned f) = (h d).tuned f) :
    { t.tuned f with dialogs := (t.tuned f).dialogs.modify id h' hh' } =
      ({ t with dialogs := t.dialogs.modify id h hh } : Tree).tuned f := by
  have hdialogs : (t.tuned f).dialogs.modify id h' hh' =
      (t.dialogs.modify id h hh).map (·.tuned f) (Dialog.id_tuned f) :=
    Roster.modify_map t.dialogs hcomm
  rw [hdialogs]
  rfl

@[simp] theorem insertDecision_tuned (dialog : String) (x : Decision) :
    (t.tuned f).insertDecision dialog x = (t.insertDecision dialog x).map (·.tuned f) := by
  rw [insertDecision, insertDecision, get_tuned]
  cases t.get dialog with
  | error e => rfl
  | ok d =>
    simp only [Except.map, Dialog.insert_tuned]
    cases d.insert x with
    | error e => rfl
    | ok d' => exact congrArg Except.ok (t.modify_tuned f fun _ => rfl)

@[simp] theorem at_tuned (place : Place) : (t.tuned f).at place = (t.at place).map (·.tuned f) := by
  cases place with
  | tree => rfl
  | dialog id =>
    rw [Tree.at, Tree.at, get_tuned]
    cases t.get id <;> rfl
  | decision dialog id =>
    rw [Tree.at, Tree.at, get_tuned]
    cases t.get dialog with
    | error e => rfl
    | ok d =>
      simp only [Except.map, Dialog.get_tuned]
      cases d.get id <;> rfl

@[simp] theorem edit_tuned (place : Place) (e : Edit) :
    (t.tuned f).edit place e = (t.edit place e).tuned f := by
  cases place with
  | tree => cases e <;> rfl
  | dialog id => exact t.modify_tuned f fun d => by cases e <;> rfl
  | decision dialog id => exact t.modify_tuned f fun d => rfl

@[simp] theorem snapshot_tuned (dialog : Option String) :
    (t.tuned f).snapshot dialog = t.snapshot dialog := by
  cases dialog with
  | none => simp [snapshot]
  | some id =>
    rw [snapshot, snapshot, get_tuned]
    cases t.get id <;> rfl

@[simp] theorem resolveLink_tuned (link : Link) :
    (t.tuned f).resolveLink link = (t.resolveLink link).map (Option.map (·.tuned f)) := by
  obtain ⟨_ | target, _ | _ | _⟩ := link <;> try rfl
  simp only [resolveLink, get_tuned]
  cases t.get target <;> rfl

@[simp] theorem owners_tuned : (t.tuned f).owners = t.owners := by
  simp [owners, List.flatMap_map]

@[simp] theorem danglingLinks_tuned : (t.tuned f).danglingLinks = t.danglingLinks := by
  have hdangling : (t.tuned f).isDangling = t.isDangling := by
    funext link
    have hcontains : (t.tuned f).dialogs.contains = t.dialogs.contains := by
      funext id
      simp
    rw [isDangling, hcontains, isDangling]
  rw [danglingLinks, owners_tuned, hdangling, danglingLinks]

end Tree

@[simp] theorem Snapshot.messages_tuned (s : Snapshot) (t : Tree) :
    s.messages (t.tuned f) = s.messages t := by
  have hget : ∀ k, (t.tuned f).dialogs.get? k = (t.dialogs.get? k).map (·.tuned f) := fun k => by
    rw [Tree.dialogs_tuned, Roster.get?_map]
  obtain ⟨_ | id, keys⟩ := s
  · simp only [Snapshot.messages, hget, Option.bind_map]
    rfl
  · simp only [Snapshot.messages, hget, Option.bind_map]
    rfl

@[simp] theorem Entity.tuned_tuned (g : Levels) (e : Entity) :
    (e.tuned f).tuned g = e.tuned g := by
  cases e <;> simp [Entity.tuned]

@[simp] theorem Entity.link_tuned (e : Entity) : (e.tuned f).link = e.link := by
  cases e <;> rfl

@[simp] theorem Entity.describe_tuned (e : Entity) : (e.tuned f).describe = e.describe := by
  cases e <;> simp [Entity.describe, Entity.tuned, Tree.describe]

end Plotline
