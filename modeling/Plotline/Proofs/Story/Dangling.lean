import Mathlib.Data.List.Nodup
import Plotline.Proofs.Story.Lookup

/-!
# What the link checks find

A link check follows no link: it looks at the kind of a link and asks whether the target is there.
Here its findings are compared with what following the links comes to, place by place.

* `Tree.seats` lists the dialogs and the decisions of a tree, each dialog before its decisions, and
  `Library.seats` those of all registered trees.
* `Reports` says that findings and the bad ones among some places match one by one, in order.
* A check stumbles over a link that cannot be followed (`FailsAt`), and also over a stale one, whose
  target was taken away and whose kind was left (`StaleAt`); `Tree.isDangling_iff` and
  `Library.isDangling_iff` say so for one link.
* `Library.link_checks_find_broken_and_stale` is about all places, and
  `Tree.cleared_link_is_found` shows the difference that a stale link makes.
-/

namespace Plotline

/-! ## Reports -/

/-- There is one finding for each of the items in `all` that are `bad`, in their order, and no
finding more; what a finding tells about its item is `Tells`. -/
structure Reports {α β : Type} (all : List α) (bad : α → Prop) (Tells : α → β → Prop)
    (found : List β) : Prop where
  distinct : all.Nodup
  exists_picked : ∃ picked, picked.Sublist all ∧ (∀ a, a ∈ picked ↔ a ∈ all ∧ bad a) ∧
    List.Forall₂ Tells picked found

/-- A check that finds the bad ones reports them. -/
theorem Reports.of_filter {α β : Type} {all : List α} {bad : α → Prop} {Tells : α → β → Prop}
    {told : List β} {check : β → Bool} (hall : all.Nodup) (htold : List.Forall₂ Tells all told)
    (hcheck : ∀ a b, Tells a b → (check b = true ↔ bad a)) :
    Reports all bad Tells (told.filter check) := by
  refine ⟨hall, ?_⟩
  clear hall
  induction htold with
  | nil => exact ⟨[], .slnil, by simp, .nil⟩
  | @cons a b all told hab _ ih =>
    obtain ⟨picked, hsub, hmem, hpicked⟩ := ih
    by_cases hb : check b = true
    · have ha : bad a := (hcheck a b hab).1 hb
      refine ⟨a :: picked, hsub.cons_cons a, fun x => ?_, ?_⟩
      · rw [List.mem_cons, List.mem_cons, hmem]
        constructor
        · rintro (rfl | ⟨hx, hbad⟩)
          · exact ⟨.inl rfl, ha⟩
          · exact ⟨.inr hx, hbad⟩
        · rintro ⟨rfl | hx, hbad⟩
          · exact .inl rfl
          · exact .inr ⟨hx, hbad⟩
      · rw [List.filter_cons_of_pos hb]
        exact .cons hab hpicked
    · have ha : ¬bad a := fun h => hb ((hcheck a b hab).2 h)
      refine ⟨picked, hsub.cons a, fun x => ?_, ?_⟩
      · rw [List.mem_cons, hmem]
        constructor
        · rintro ⟨hx, hbad⟩
          exact ⟨.inr hx, hbad⟩
        · rintro ⟨rfl | hx, hbad⟩
          · exact absurd hbad ha
          · exact ⟨hx, hbad⟩
      · rw [List.filter_cons_of_neg hb]
        exact hpicked

/-! ## Dialogs and decisions by their places -/

/-- The place of a dialog and then those of its decisions. -/
def Dialog.seats (d : Dialog) : List Place :=
  .dialog d.id :: d.decisions.items.map fun x => .decision d.id x.id

namespace Tree

variable {t : Tree} {p : Place} {e : Entity} {id dialog : String}

/-- The places of all that can have a link, dialog by dialog. -/
def seats (t : Tree) : List Place := t.dialogs.items.flatMap Dialog.seats

/-- What a check says about a place: the dialog, the id and the link of what is there. -/
inductive Tells (t : Tree) : Place → Owner → Prop
  | dialog {id : String} {d : Dialog} (h : t.at (.dialog id) = .ok (.dialog d)) :
    Tells t (.dialog id) ⟨id, id, d.link⟩
  | decision {dialog id : String} {x : Decision}
    (h : t.at (.decision dialog id) = .ok (.decision x)) :
    Tells t (.decision dialog id) ⟨dialog, id, x.link⟩

theorem at_dialog_eq_ok_iff :
    t.at (.dialog id) = .ok e ↔ ∃ d, t.dialogs.get? id = some d ∧ e = .dialog d := by
  simp only [Tree.at, Tree.get]
  cases t.dialogs.get? id <;> simp [Except.map, eq_comm]

theorem at_decision_eq_ok_iff :
    t.at (.decision dialog id) = .ok e ↔
      ∃ d, t.dialogs.get? dialog = some d ∧ ∃ x, d.decisions.get? id = some x ∧
        e = .decision x := by
  simp only [Tree.at, Tree.get]
  cases t.dialogs.get? dialog with
  | none => simp
  | some d =>
    simp only [Dialog.get]
    cases hx : d.decisions.get? id <;> simp [Except.map, hx, eq_comm]

/-- **The seats are the places of all dialogs and decisions.** -/
theorem mem_seats_iff : p ∈ t.seats ↔ p ≠ .tree ∧ ∃ e, t.at p = .ok e := by
  cases p with
  | tree => simp [seats, Dialog.seats]
  | dialog id =>
    simp only [at_dialog_eq_ok_iff, Roster.get?_eq_some_iff]
    simp [seats, Dialog.seats, eq_comm]
  | decision dialog id =>
    simp only [at_decision_eq_ok_iff, Roster.get?_eq_some_iff]
    simp only [seats, Dialog.seats, List.mem_flatMap, List.mem_cons, List.mem_map, reduceCtorEq,
      false_or, Place.decision.injEq, ne_eq, not_false_eq_true, true_and]
    constructor
    · rintro ⟨d, hd, x, hx, rfl, rfl⟩
      exact ⟨.decision x, d, ⟨hd, rfl⟩, x, ⟨hx, rfl⟩, rfl⟩
    · rintro ⟨_, d, ⟨hd, rfl⟩, x, ⟨hx, rfl⟩, rfl⟩
      exact ⟨d, hd, x, hx, rfl, rfl⟩

theorem nodup_seats (t : Tree) : t.seats.Nodup := by
  refine List.nodup_flatMap.2 ⟨fun d _ => ?_, ?_⟩
  · refine List.nodup_cons.2 ⟨by simp, ?_⟩
    have hd : (d.decisions.keys.map (Place.decision d.id)).Nodup :=
      d.decisions.nodup.map fun _ _ h => (Place.decision.inj h).2
    rwa [Roster.keys, List.map_map] at hd
  · refine (List.pairwise_map.1 t.dialogs.nodup).imp fun {d d'} hne => ?_
    intro p hp hp'
    -- every seat of a dialog names the dialog
    simp only [Dialog.seats, List.mem_cons, List.mem_map] at hp hp'
    rcases hp with rfl | ⟨x, -, rfl⟩
    · rcases hp' with h | ⟨x, -, h⟩
      · exact hne (Place.dialog.inj h)
      · cases h
    · rcases hp' with h | ⟨x', -, h⟩
      · cases h
      · exact hne (Place.decision.inj h).1.symm

/-- The owners of links are told seat by seat. -/
theorem forall₂_tells (t : Tree) : List.Forall₂ t.Tells t.seats t.owners := by
  have hd : ∀ d ∈ t.dialogs.items, List.Forall₂ t.Tells d.seats d.owners := by
    intro d hd
    have hget : t.dialogs.get? d.id = some d := Roster.get?_eq_some_iff.2 ⟨hd, rfl⟩
    refine .cons (.dialog (at_dialog_eq_ok_iff.2 ⟨d, hget, rfl⟩)) ?_
    rw [List.forall₂_map_left_iff, List.forall₂_map_right_iff, List.forall₂_same]
    intro x hx
    have hgetx : d.decisions.get? x.id = some x := Roster.get?_eq_some_iff.2 ⟨hx, rfl⟩
    exact .decision (at_decision_eq_ok_iff.2 ⟨d, hget, x, hgetx, rfl⟩)
  rw [seats, owners]
  generalize t.dialogs.items = ds at hd
  induction ds with
  | nil => exact .nil
  | cons d ds ih =>
    rw [List.forall_mem_cons] at hd
    exact List.rel_append hd.1 (ih hd.2)

theorem Tells.exists_entity {o : Owner} (h : t.Tells p o) :
    ∃ e, t.at p = .ok e ∧ e.link = o.link := by
  cases h with
  | dialog h => exact ⟨_, h, rfl⟩
  | decision h => exact ⟨_, h, rfl⟩

/-! ## What the check of a tree finds -/

/-- Following the link of what is here inside the tree fails, because the dialog is not there. -/
def FailsAt (t : Tree) (p : Place) : Prop :=
  ∃ e f, t.at p = .ok e ∧ t.resolveLink e.link = .error f ∧ f.fault.family = .unknown

/-- What is here has a link without a target whose kind was left. -/
def StaleAt (t : Tree) (kind : LinkKind) (p : Place) : Prop :=
  ∃ e, t.at p = .ok e ∧ e.link = ⟨none, some kind⟩

theorem isDangling_iff (t : Tree) (link : Link) :
    t.isDangling link = true ↔
      (∃ f, t.resolveLink link = .error f ∧ f.fault.family = .unknown) ∨
        link = ⟨none, some .dialog⟩ := by
  match link with
  | ⟨none, none⟩ | ⟨none, some .tree⟩ | ⟨some _, none⟩ | ⟨some _, some .tree⟩ =>
    simp [isDangling, resolveLink]
  | ⟨none, some .dialog⟩ => simp [isDangling]
  | ⟨some target, some .dialog⟩ =>
    simp only [isDangling, Option.any_some, resolveLink, Tree.get, Roster.contains]
    cases t.dialogs.get? target with
    | none => simp [Except.map, Console.fail, Fault.family]
    | some d => simp [Except.map]

/-- **The check of a tree reports the dialog links that break, and the stale ones.** -/
theorem reports_danglingLinks (t : Tree) :
    Reports t.seats (fun p => t.FailsAt p ∨ t.StaleAt .dialog p) t.Tells t.danglingLinks := by
  refine .of_filter t.nodup_seats t.forall₂_tells fun p o h => ?_
  obtain ⟨e, he, hlink⟩ := h.exists_entity
  simp only [isDangling_iff, ← hlink, FailsAt, StaleAt, he, Except.ok.injEq, exists_and_left,
    exists_eq_left']

/-- A stale link leads nowhere, and following it does not fail. -/
theorem resolveLink_of_stale {kind : LinkKind} (h : t.StaleAt kind p) :
    ∃ e, t.at p = .ok e ∧ t.resolveLink e.link = .ok none := by
  obtain ⟨e, he, hlink⟩ := h
  exact ⟨e, he, by rw [hlink]; rfl⟩

end Tree

/-! ## What the check of a library finds -/

namespace Library

variable {l : Library}

/-- The places of all that can have a link, in the order in which the trees were registered. A tree
that is registered under two keys comes twice. -/
def seats (l : Library) : List (Entry × Place) :=
  l.register.entries.items.flatMap fun e => (l.tree e.tree).seats.map (e, ·)

/-- What the check says about a place: the id of the tree and what is said inside the tree. -/
def Tells (l : Library) (seat : Entry × Place) (told : String × Owner) : Prop :=
  told.1 = (l.tree seat.1.tree).id ∧ (l.tree seat.1.tree).Tells seat.2 told.2

/-- Following the link of what is here fails, because no registered tree has the target as its key
or as its id. -/
def FailsAt (l : Library) (seat : Entry × Place) : Prop :=
  ∃ e f target, (l.tree seat.1.tree).at seat.2 = .ok e ∧
    l.resolve seat.1.tree e.link = .error f ∧ f.fault = .treeNotFound target ∧ l.Unknown target

/-- What is here has a tree link without a target. -/
def StaleAt (l : Library) (seat : Entry × Place) : Prop :=
  (l.tree seat.1.tree).StaleAt .tree seat.2

/-- Following a link fails on an unknown tree exactly if it is a tree link to one. -/
theorem exists_treeNotFound_iff (l : Library) (r : TreeRef) (link : Link) :
    (∃ f target, l.resolve r link = .error f ∧ f.fault = .treeNotFound target ∧
        l.Unknown target) ↔
      ∃ target, link = .into .tree target ∧ l.Unknown target := by
  constructor
  · rintro ⟨f, target, hf, hfault, hunknown⟩
    rcases l.resolve_cases r link with ⟨place, -, hr⟩ | ⟨g, hbreaks, hr⟩ | ⟨-, -, hr⟩
    · rw [hr] at hf
      cases hf
    · rw [hr] at hf
      obtain rfl := Except.error.inj hf
      rw [hfault] at hbreaks
      cases hbreaks
      exact ⟨target, rfl, hunknown⟩
    · rw [hr] at hf
      cases hf
  · rintro ⟨target, rfl, hunknown⟩
    have hfind := find_eq_none_iff.2 hunknown
    refine ⟨l.register.console.fail (.treeNotFound target), target, ?_, rfl, hunknown⟩
    simp [resolve, Link.into, get, hfind]

theorem isDangling_iff (l : Library) (r : TreeRef) (link : Link) :
    l.isDangling link = true ↔
      (∃ f target, l.resolve r link = .error f ∧ f.fault = .treeNotFound target ∧
        l.Unknown target) ∨ link = ⟨none, some .tree⟩ := by
  rw [exists_treeNotFound_iff]
  match link with
  | ⟨none, none⟩ | ⟨none, some .dialog⟩ | ⟨some _, none⟩ | ⟨some _, some .dialog⟩ =>
    simp [isDangling, Link.into]
  | ⟨none, some .tree⟩ => simp [isDangling]
  | ⟨some target, some .tree⟩ =>
    have hhas : l.has target = false ↔ l.Unknown target := by
      rw [← Bool.not_eq_true, has_iff_find, ← find_eq_none_iff, ← Option.ne_none_iff_exists',
        not_not]
    simp [isDangling, Link.into, hhas]

theorem nodup_seats (l : Library) : l.seats.Nodup := by
  refine List.nodup_flatMap.2 ⟨fun e _ => ?_, ?_⟩
  · exact (l.tree e.tree).nodup_seats.map fun _ _ h => (Prod.mk.inj h).2
  · refine (List.pairwise_map.1 l.register.entries.nodup).imp fun {e e'} hne => ?_
    intro seat h h'
    obtain ⟨_, _, rfl⟩ := List.mem_map.1 h
    obtain ⟨_, _, heq⟩ := List.mem_map.1 h'
    exact hne (by rw [(Prod.mk.inj heq).1])

/-- What the check of a library looks at. -/
def owners (l : Library) : List (String × Owner) :=
  l.trees.flatMap fun r => (l.tree r).owners.map ((l.tree r).id, ·)

theorem danglingLinks_eq_filter (l : Library) :
    l.danglingLinks = l.owners.filter fun told => l.isDangling told.2.link := by
  rw [owners, List.filter_flatMap]
  simp only [List.filter_map]
  rfl

theorem forall₂_tells (l : Library) : List.Forall₂ l.Tells l.seats l.owners := by
  rw [seats, owners, trees, List.flatMap_map]
  induction l.register.entries.items with
  | nil => exact .nil
  | cons e es ih =>
    refine List.rel_append ?_ ih
    rw [List.forall₂_map_left_iff, List.forall₂_map_right_iff]
    exact (l.tree e.tree).forall₂_tells.imp fun _ _ h => ⟨rfl, h⟩

/-- **The check of a library reports the tree links to no registered tree, and the stale ones.** -/
theorem reports_danglingLinks (l : Library) :
    Reports l.seats (fun seat => l.FailsAt seat ∨ l.StaleAt seat) l.Tells l.danglingLinks := by
  rw [danglingLinks_eq_filter]
  refine .of_filter l.nodup_seats l.forall₂_tells fun seat told h => ?_
  obtain ⟨e, he, hlink⟩ := h.2.exists_entity
  simp only [l.isDangling_iff seat.1.tree, ← hlink, FailsAt, StaleAt, Tree.StaleAt, he,
    Except.ok.injEq, exists_and_left, exists_eq_left']

/-- **The link checks find what cannot be followed, and the stale links.** The check of a tree
reports, in the order of the dialogs and each dialog before its decisions, the dialogs and decisions
whose link fails inside the tree because the dialog is not there; the check of a library reports, in
the order of the entries, those whose link fails because no registered tree has the target as its
key or id. Besides they report the links without a target whose kind was left, though following
these fails nowhere. -/
theorem link_checks_find_broken_and_stale (l : Library) :
    (∀ t : Tree,
        (∀ p, p ∈ t.seats ↔ p ≠ .tree ∧ ∃ e, t.at p = .ok e) ∧
        Reports t.seats (fun p => t.FailsAt p ∨ t.StaleAt .dialog p) t.Tells t.danglingLinks ∧
        ∀ kind p, t.StaleAt kind p → ∃ e, t.at p = .ok e ∧ t.resolveLink e.link = .ok none) ∧
      Reports l.seats (fun seat => l.FailsAt seat ∨ l.StaleAt seat) l.Tells l.danglingLinks ∧
      ∀ seat, l.StaleAt seat →
        ∃ e, (l.tree seat.1.tree).at seat.2 = .ok e ∧
          l.resolve seat.1.tree e.link = .ok none := by
  refine ⟨fun t => ?_, l.reports_danglingLinks, ?_⟩
  · exact ⟨fun _ => Tree.mem_seats_iff, t.reports_danglingLinks,
      fun _ _ h => Tree.resolveLink_of_stale h⟩
  · rintro seat ⟨e, he, hlink⟩
    exact ⟨e, he, by rw [hlink]; rfl⟩

end Library

/-- A link whose target was taken away is found although following it leads nowhere. -/
theorem Tree.cleared_link_is_found :
    ¬∀ (script : List String) (t : Tree) (notices : List Posting) (place : Place) (e : Edit),
      Script.parse {} script = .ok (t, notices) →
        Reports (t.edit place e).seats (t.edit place e).FailsAt (t.edit place e).Tells
          (t.edit place e).danglingLinks := by
  intro h
  let t : Tree :=
    { root := "gate"
      dialogs := ⟨[{ id := "gate", message := some "Well?", link := .into .dialog "yard" }],
        by decide⟩ }
  have hparse : Script.parse {} ["$[gate] Well? $D[yard]"] = .ok (t, []) := by decide +kernel
  have hr := h _ t [] (.dialog "gate") (.target none) hparse
  obtain ⟨picked, -, hmem, htells⟩ := hr.exists_picked
  have hfound : (t.edit (.dialog "gate") (.target none)).danglingLinks =
      [⟨"gate", "gate", ⟨none, some .dialog⟩⟩] := by decide +kernel
  rw [hfound] at htells
  obtain ⟨p, rest, hp, -, rfl⟩ := List.forall₂_cons_right_iff.1 htells
  obtain ⟨-, e, f, he, hf, -⟩ := (hmem p).1 List.mem_cons_self
  obtain ⟨e', he', hlink⟩ := hp.exists_entity
  obtain rfl := Except.ok.inj (he'.symm.trans he)
  rw [hlink] at hf
  cases hf

end Plotline
