import Plotline.Proofs.Story.Choice
import Plotline.Proofs.Tree.FromScript

/-!
# Checked stories never break

There are two checks of links: `Tree.danglingLinks` looks at the dialog links of one tree, and
`Library.danglingLinks` at the tree links of all registered trees. If the trees come from scripts
and neither check finds anything, every link leads to a dialog of a registered tree
(`Library.Checked.exists_leads`).

* `Session.Safe` is kept by every step of a session and by every edit that sets no part of a link.
* `Session.Reaches` is what such steps reach, in any order.
* `checked_story_never_breaks`: in all of these states advancing succeeds, and a choice fails only
  if it is barred or the score it comes to is too long to be told, which can happen
  (`overlong_score_breaks_loop`).
-/

namespace Plotline

namespace Library

variable {l l' : Library} {r : TreeRef}

/-- A library of sound trees in which no link is found to lead nowhere. -/
structure Checked (l : Library) : Prop where
  sound : ∀ r ∈ l.trees, (l.tree r).Sound
  dialogLinks : ∀ r ∈ l.trees, (l.tree r).danglingLinks = []
  treeLinks : l.danglingLinks = []

/-- The place of a dialog in a registered tree. -/
structure Inside (l : Library) (place : TreeRef × String) : Prop where
  tree : place.1 ∈ l.trees
  dialog : place.2 ∈ (l.tree place.1).dialogs.keys

/-! ## What the checks find -/

theorem mem_keys_of_danglingLinks_eq_nil {t : Tree} {o : Owner} {target : String}
    (h : t.danglingLinks = []) (ho : o ∈ t.owners) (hl : o.link = .into .dialog target) :
    target ∈ t.dialogs.keys := by
  have hn := List.filter_eq_nil_iff.1 h o ho
  rw [hl] at hn
  rw [← Roster.contains_eq_true_iff]
  simpa [Tree.isDangling, Link.into] using hn

theorem has_of_danglingLinks_eq_nil {o : Owner} {target : String} (h : l.danglingLinks = [])
    (hr : r ∈ l.trees) (ho : o ∈ (l.tree r).owners) (hl : o.link = .into .tree target) :
    l.has target = true := by
  have hm := List.map_eq_nil_iff.1 (List.flatMap_eq_nil_iff.1 h r hr)
  have hn := List.filter_eq_nil_iff.1 hm o ho
  rw [hl] at hn
  simpa [isDangling, Link.into] using hn

/-- **In a checked library every link leads to a dialog of a registered tree, or there is no
target.** -/
theorem Checked.exists_leads {o : Owner} (h : l.Checked) (hr : r ∈ l.trees)
    (ho : o ∈ (l.tree r).owners) :
    ∃ place, l.Leads r o.link place ∧ ∀ p ∈ place, l.Inside p := by
  have hp := (h.sound r hr).paired o ho
  obtain ⟨dialog, id, target, kind⟩ := o
  match target, kind with
  | none, kind => exact ⟨none, .nowhere kind, fun p hp => by cases hp⟩
  | some target, none => cases hp
  | some target, some .dialog =>
    have hk := mem_keys_of_danglingLinks_eq_nil (h.dialogLinks r hr) ho rfl
    obtain ⟨d, hd⟩ := Roster.exists_get?_of_mem_keys hk
    refine ⟨some (r, d.id), .dialog hd, fun p hp => ?_⟩
    obtain rfl := Option.some.inj hp
    exact ⟨hr, List.mem_map_of_mem (Roster.mem_of_get? hd)⟩
  | some target, some .tree =>
    obtain ⟨q, hq⟩ := has_iff_find.1 (has_of_danglingLinks_eq_nil h.treeLinks hr ho rfl)
    have hqt : q ∈ l.trees := find_mem_trees hq
    obtain ⟨d, hd⟩ := Roster.exists_get?_of_mem_keys (h.sound q hqt).root
    refine ⟨some (q, d.id), .tree hq hd, fun p hp => ?_⟩
    obtain rfl := Option.some.inj hp
    exact ⟨hqt, List.mem_map_of_mem (Roster.mem_of_get? hd)⟩

/-! ## Changes that keep links -/

/-- Two libraries that differ in no entry, no id and no link. -/
structure SameLinks (l l' : Library) : Prop where
  register : l'.register = l.register
  tree : ∀ r, (l.tree r).SameLinks (l'.tree r)

theorem sameLinks_modify (l : Library) (r : TreeRef) {f : Tree → Tree}
    (hf : ∀ t : Tree, t.SameLinks (f t)) : l.SameLinks (l.modify r f) where
  register := rfl
  tree q := by
    rw [tree_modify]
    split
    · exact hf _
    · exact Tree.SameLinks.refl _

namespace SameLinks

variable (h : l.SameLinks l')
include h

theorem trees : l'.trees = l.trees := by
  rw [Library.trees, h.register, Library.trees]

theorem has (key : String) : l'.has key = l.has key := by
  have hid : ∀ r, (l'.tree r).id = (l.tree r).id := fun r => (h.tree r).id
  rw [Library.has, Library.has, findById, findById, h.register, h.trees]
  simp only [hid]

theorem danglingLinks : l'.danglingLinks = l.danglingLinks := by
  have hd : ∀ link, l'.isDangling link = l.isDangling link := by
    intro link
    have hhas : l'.has = l.has := funext h.has
    rw [Library.isDangling, hhas, Library.isDangling]
  have hid : ∀ r, (l'.tree r).id = (l.tree r).id := fun r => (h.tree r).id
  have ho : ∀ r, (l'.tree r).owners = (l.tree r).owners := fun r => (h.tree r).owners
  rw [Library.danglingLinks, Library.danglingLinks, h.trees]
  simp only [hd, hid, ho]

theorem checked (hc : l.Checked) : l'.Checked where
  sound r hr := by
    rw [h.trees] at hr
    exact (hc.sound r hr).of_sameLinks (h.tree r)
  dialogLinks r hr := by
    rw [h.trees] at hr
    rw [(h.tree r).danglingLinks]
    exact hc.dialogLinks r hr
  treeLinks := by
    rw [h.danglingLinks]
    exact hc.treeLinks

end SameLinks

end Library

namespace Session

variable {l : Library} {s : Session}

/-- The session is in a registered tree, and at one of its dialogs unless the story has ended. -/
structure Within (s : Session) (l : Library) : Prop where
  tree : s.tree ∈ l.trees
  dialog : ∀ id ∈ s.dialog, id ∈ (l.tree s.tree).dialogs.keys

/-- **What keeps a session from breaking.** -/
structure Safe (s : Session) (l : Library) : Prop where
  checked : l.Checked
  within : s.Within l

/-! ## Steps of a safe session -/

theorem Within.exists_current (h : s.Within l) (he : s.ended = false) :
    ∃ d, s.current l = some d := by
  cases hs : s.dialog with
  | none => simp [ended, hs] at he
  | some id =>
    obtain ⟨d, hd⟩ := Roster.exists_get?_of_mem_keys (h.dialog id hs)
    exact ⟨d, by rw [current, hs, Option.bind_some, hd]⟩

theorem Within.of_sameLinks {l' : Library} (h : s.Within l) (hl : l.SameLinks l') :
    s.Within l' where
  tree := by
    rw [hl.trees]
    exact h.tree
  dialog id hid := by
    rw [(hl.tree s.tree).keys]
    exact h.dialog id hid

theorem Within.arrived {place : Option (TreeRef × String)} (h : s.Within l)
    (hp : ∀ p ∈ place, l.Inside p) : (s.arrived l place).Within l := by
  cases place with
  | none => exact ⟨h.tree, fun id hid => by cases hid⟩
  | some p =>
    have hi := hp p rfl
    refine ⟨hi.tree, fun id hid => ?_⟩
    obtain rfl := Option.some.inj hid
    exact hi.dialog

theorem Safe.of_sameLinks {l' : Library} (h : s.Safe l) (hl : l.SameLinks l') : s.Safe l' :=
  ⟨hl.checked h.checked, h.within.of_sameLinks hl⟩

theorem owners_subset_of_current {d : Dialog} (h : s.current l = some d) :
    d.owners ⊆ (l.tree s.tree).owners := by
  obtain ⟨id, -, hd⟩ := Option.bind_eq_some_iff.1 h
  exact fun o ho => List.mem_flatMap.2 ⟨d, Roster.mem_of_get? hd, ho⟩

/-- The link that a choice follows belongs to the dialog or to the decision. -/
theorem Offers.exists_owner {id : String} {d : Dialog} {x : Decision} (h : Offers l s id d x) :
    ∃ o ∈ d.owners, o.link = linkOf d x := by
  cases ht : x.link.target with
  | none => exact ⟨_, List.mem_cons_self, (linkOf_of_eq_none ht).symm⟩
  | some target =>
    have hx : x ∈ d.decisions.items := Roster.mem_of_get? h.decision
    have ho : (⟨d.id, x.id, x.link⟩ : Owner) ∈ d.owners :=
      List.mem_cons_of_mem _ (List.mem_map_of_mem hx)
    exact ⟨_, ho, (linkOf_of_isSome (by rw [ht]; rfl)).symm⟩

theorem Safe.advance_cases (h : s.Safe l) :
    s.advance l = ⟨.ok none, s, l, []⟩ ∨
      ∃ place, (∀ p ∈ place, l.Inside p) ∧
        s.advance l = ⟨.ok (place.map (·.2)), s.arrived l place, l, []⟩ := by
  cases hd : s.current l with
  | none =>
    left
    simp only [advance, hd]
  | some d =>
    right
    have ho : (⟨d.id, d.id, d.link⟩ : Owner) ∈ (l.tree s.tree).owners :=
      owners_subset_of_current hd List.mem_cons_self
    obtain ⟨place, hl, hp⟩ := h.checked.exists_leads h.within.tree ho
    exact ⟨place, hp, advance_of_leads hd hl⟩

theorem Safe.choose_cases (h : s.Safe l) (id : String) :
    (∃ f, Barred l s id f.fault ∧ s.choose l id = ⟨.error f, s, l, []⟩) ∨
      (∃ d x, Overlong l s id d x) ∨
      ∃ n place, (∀ p ∈ place, l.Inside p) ∧
        (s.choose l id).answer = .ok (place.map (·.2)) ∧
        (s.choose l id).session = s.arrived l place ∧
        (s.choose l id).library = l.modify s.tree (·.addScore n) := by
  rcases choose_barred_or_offers l s id with hb | ⟨d, x, hx⟩
  · exact .inl hb
  · right
    obtain ⟨o, ho, hlink⟩ := hx.exists_owner
    have ho' := owners_subset_of_current hx.current ho
    obtain ⟨place, hl, hp⟩ := h.checked.exists_leads h.within.tree ho'
    rw [hlink] at hl
    cases hw : s.tells l x with
    | false => exact .inl ⟨d, x, hx, fun _ => hl.not_breaks, hw⟩
    | true => exact .inr ⟨x.score, place, hp, choose_of_leads hx hl hw⟩

theorem Safe.advance (h : s.Safe l) : (s.advance l).session.Safe (s.advance l).library := by
  rcases h.advance_cases with ha | ⟨place, hp, ha⟩
  · rw [ha]
    exact h
  · rw [ha]
    exact ⟨h.checked, h.within.arrived hp⟩

theorem Safe.addScore (h : s.Safe l) (r : TreeRef) (n : Int) :
    s.Safe (l.modify r (·.addScore n)) :=
  h.of_sameLinks (l.sameLinks_modify r fun t => t.sameLinks_addScore n)

theorem Safe.choose (h : s.Safe l) (id : String) :
    (s.choose l id).session.Safe (s.choose l id).library := by
  rcases h.choose_cases id with ⟨f, -, hc⟩ | ⟨d, x, ho⟩ | ⟨n, place, hp, -, hs, hm⟩
  · rw [hc]
    exact h
  · rw [choose_of_overlong ho]
    exact h.addScore s.tree x.score
  · rw [hs, hm]
    have harrived : (s.arrived l place).Safe l := ⟨h.checked, h.within.arrived hp⟩
    exact harrived.addScore s.tree n

theorem Safe.edit (h : s.Safe l) (r : TreeRef) (place : Place) {e : Edit} (he : e.KeepsLinks) :
    s.Safe (l.modify r (·.edit place e)) :=
  h.of_sameLinks (l.sameLinks_modify r fun t => t.sameLinks_edit place he)

/-! ## Runs -/

/-- What a session and its library can become by choosing, advancing and edits that set no part of a
link, in any order. -/
inductive Reaches (s : Session) (l : Library) : Session → Library → Prop
  | refl : Reaches s l s l
  | choose {s' : Session} {l' : Library} (h : Reaches s l s' l') (id : String) :
    Reaches s l (s'.choose l' id).session (s'.choose l' id).library
  | advance {s' : Session} {l' : Library} (h : Reaches s l s' l') :
    Reaches s l (s'.advance l').session (s'.advance l').library
  | edit {s' : Session} {l' : Library} (h : Reaches s l s' l') (r : TreeRef) (place : Place)
      {e : Edit} (he : e.KeepsLinks) : Reaches s l s' (l'.modify r (·.edit place e))

theorem Safe.of_reaches {s' : Session} {l' : Library} (h : s.Safe l) (hr : Reaches s l s' l') :
    s'.Safe l' := by
  induction hr with
  | refl => exact h
  | choose _ id ih => exact ih.choose id
  | advance _ ih => exact ih.advance
  | edit _ r place he ih => exact ih.edit r place he

theorem exists_start {key : String} (console : Console) (h : l.Checked) (hk : l.has key = true) :
    ∃ s, start l console key = .ok s ∧ s.Safe l := by
  obtain ⟨r, hr⟩ := Library.has_iff_find.1 hk
  have hrt : r ∈ l.trees := Library.find_mem_trees hr
  obtain ⟨d, hd⟩ := Roster.exists_get?_of_mem_keys (h.sound r hrt).root
  refine ⟨⟨console, r, some d.id, [((l.tree r).id, d.id)]⟩, ?_, h, hrt, fun id hid => ?_⟩
  · simp only [start, Library.get, hr, Tree.rootDialog, Tree.get, hd]
  · obtain rfl := Option.some.inj hid
    exact List.mem_map_of_mem (Roster.mem_of_get? hd)

/-- Why a choice can fail in a checked story: it is barred, or the score that it comes to is too
long to be told. -/
def Hindered (l : Library) (s : Session) (id : String) (f : Fault) : Prop :=
  Barred l s id f ∨ f = .numeral .unwritable ∧ ∃ d x, Overlong l s id d x

/-- **Checked stories never break.** A session can start at every key of a library whose trees come
from scripts and whose link checks find nothing. Wherever it gets, it is at a dialog unless the
story has ended, advancing succeeds, and a choice fails only because it is barred or the score that
it comes to is too long to be told. -/
theorem checked_story_never_breaks (l : Library) (console : Console) (key : String)
    (hs : ∀ r ∈ l.trees, (l.tree r).FromScript)
    (hd : ∀ r ∈ l.trees, (l.tree r).danglingLinks = []) (ht : l.danglingLinks = [])
    (hk : l.has key = true) :
    ∃ s, start l console key = .ok s ∧ ∀ s' l', Reaches s l s' l' →
      (s'.ended = false → ∃ d, s'.current l' = some d) ∧
      (∃ dialog, (s'.advance l').answer = .ok dialog) ∧
      ∀ id f, (s'.choose l' id).answer = .error f → Hindered l' s' id f.fault := by
  have hc : l.Checked := ⟨fun r hr => (hs r hr).sound, hd, ht⟩
  obtain ⟨s, hstart, hsafe⟩ := exists_start console hc hk
  refine ⟨s, hstart, fun s' l' hr => ?_⟩
  have h := hsafe.of_reaches hr
  refine ⟨h.within.exists_current, ?_, fun id f hf => ?_⟩
  · rcases h.advance_cases with ha | ⟨place, -, ha⟩ <;> rw [ha] <;> exact ⟨_, rfl⟩
  · rcases h.choose_cases id with ⟨f', hb, hc⟩ | ⟨d, x, ho⟩ | ⟨n, place, -, ha, -⟩
    · rw [hc] at hf
      obtain rfl := Except.error.inj hf
      exact .inl hb
    · rw [choose_of_overlong ho] at hf
      obtain rfl := Except.error.inj hf
      exact .inr ⟨rfl, d, x, ho⟩
    · rw [ha] at hf
      cases hf

/-- A story in which one can stay or begin anew. -/
def loopScript : List String :=
  ["$[gate] Well?", "> $[stay] Stay. $D[gate]", "> $[anew] Again. $T[loop]"]

/-- The tree of the story. -/
def loopTree : Tree :=
  { id := "loop", root := "gate"
    dialogs := ⟨[{
      id := "gate", message := some "Well?"
      decisions := ⟨[
        { id := "stay", message := some "Stay.", link := .into .dialog "gate" },
        { id := "anew", message := some "Again.", link := .into .tree "loop" }], by decide⟩ }],
      by decide⟩ }

/-- A library with this story only. -/
def loopLibrary : Library :=
  { shelf := [loopTree], register := { entries := ⟨[⟨"loop.txt", 0⟩], by decide⟩ } }

theorem parse_loopScript : Script.parse { treeId := "loop" } loopScript = .ok (loopTree, []) := by
  decide +kernel

theorem fromScript_loopLibrary : ∀ r ∈ loopLibrary.trees, (loopLibrary.tree r).FromScript := by
  intro r hr
  obtain rfl := List.mem_singleton.1 hr
  exact .parse parse_loopScript

theorem loop_never_breaks :
    ∃ s, start loopLibrary {} "loop.txt" = .ok s ∧ ∀ s' l', Reaches s loopLibrary s' l' →
      (s'.ended = false → ∃ d, s'.current l' = some d) ∧
      (∃ dialog, (s'.advance l').answer = .ok dialog) ∧
      ∀ id f, (s'.choose l' id).answer = .error f → Hindered l' s' id f.fault :=
  checked_story_never_breaks loopLibrary {} "loop.txt" fromScript_loopLibrary (by decide)
    (by decide) (by decide)

/-- The loop with the highest score that can be told, and one more for staying. -/
def brimLoop : Library :=
  (loopLibrary.modify 0 (·.edit .tree (.score (Nat.pow 10 Number.digitLimit - 1 : Nat)))).modify 0
    (·.edit (.decision "gate" "stay") (.score 1))

theorem reaches_brimLoop (s : Session) : Reaches s loopLibrary s brimLoop :=
  (Reaches.refl.edit 0 .tree (e := .score _) trivial).edit 0 (.decision "gate" "stay")
    (e := .score _) trivial

/-- Setting scores is enough to make a choice fail that nothing bars. -/
theorem overlong_score_breaks_loop :
    ¬∀ (l : Library) (console : Console) (key : String),
      (∀ r ∈ l.trees, (l.tree r).FromScript) → (∀ r ∈ l.trees, (l.tree r).danglingLinks = []) →
      l.danglingLinks = [] → l.has key = true →
      ∃ s, start l console key = .ok s ∧ ∀ s' l', Reaches s l s' l' →
        ∀ id f, (s'.choose l' id).answer = .error f → Barred l' s' id f.fault := by
  intro h
  obtain ⟨s, hs, hb⟩ := h loopLibrary {} "loop.txt" fromScript_loopLibrary (by decide) (by decide)
    (by decide)
  have hstart : start loopLibrary {} "loop.txt" = .ok ⟨{}, 0, some "gate", [("loop", "gate")]⟩ := by
    decide +kernel
  obtain rfl := Except.ok.inj (hs.symm.trans hstart)
  have hc : (choose ⟨{}, 0, some "gate", [("loop", "gate")]⟩ brimLoop "stay").answer =
      .error ⟨.numeral .unwritable, "  "⟩ := by
    decide +kernel
  cases hb _ brimLoop (reaches_brimLoop _) "stay" _ hc

end Session

end Plotline
