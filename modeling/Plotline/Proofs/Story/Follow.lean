import Plotline.Proofs.Roster
import Plotline.Story.Library

/-!
# Following links

Where a link leads, said without following it.

* `Library.Leads` gives the tree and the dialog that a link leads to, and `Library.Breaks` why a
  link cannot be followed.
* `Library.resolve_cases`: following a link leads there, or breaks, or the link has a target and no
  kind. There is no fourth case.
* A key that a library has names a registered tree (`find_mem_trees`, `has_iff_find`).
* `tree_modify`: a change at one place of the shelf leaves the other places alone.
-/

namespace Plotline.Library

variable {l : Library} {source r q : TreeRef} {key : String} {link : Link}

/-! ## The register -/

theorem findById_mem_trees (h : l.findById key = some r) : r ∈ l.trees :=
  List.mem_of_find?_eq_some h

theorem find_mem_trees (h : l.find key = some r) : r ∈ l.trees := by
  rw [find] at h
  cases he : l.register.entries.get? key with
  | none =>
    rw [he] at h
    exact findById_mem_trees h
  | some e =>
    rw [he] at h
    obtain rfl := Option.some.inj h
    exact List.mem_map_of_mem (Roster.mem_of_get? he)

theorem has_iff_find : l.has key = true ↔ ∃ r, l.find key = some r := by
  rw [has, find, Roster.contains, ← Option.isSome_iff_exists]
  cases l.register.entries.get? key <;> simp

/-! ## Links -/

/-- Where a link in a tree leads: nowhere without a target, else to a dialog of the same tree, or to
the root of the tree that a key or id names. -/
inductive Leads (l : Library) (source : TreeRef) : Link → Option (TreeRef × String) → Prop
  | nowhere (kind : Option LinkKind) : Leads l source ⟨none, kind⟩ none
  | dialog {target : String} {d : Dialog} (hd : (l.tree source).dialogs.get? target = some d) :
    Leads l source (.into .dialog target) (some (source, d.id))
  | tree {target : String} {r : TreeRef} {d : Dialog} (hr : l.find target = some r)
      (hd : (l.tree r).dialogs.get? (l.tree r).root = some d) :
    Leads l source (.into .tree target) (some (r, d.id))

/-- Why a link in a tree cannot be followed. -/
inductive Breaks (l : Library) (source : TreeRef) : Link → Fault → Prop
  | dialog {target : String} (h : (l.tree source).dialogs.get? target = none) :
    Breaks l source (.into .dialog target) (.dialogNotFound target (l.tree source).id)
  | tree {target : String} (h : l.find target = none) :
    Breaks l source (.into .tree target) (.treeNotFound target)
  | root {target : String} {r : TreeRef} (hr : l.find target = some r)
      (hd : (l.tree r).dialogs.get? (l.tree r).root = none) :
    Breaks l source (.into .tree target) (.dialogNotFound (l.tree r).root (l.tree r).id)

/-- The destination of a link that leads somewhere. -/
def Destination.at (place : TreeRef × String) : Destination := ⟨place.1, some place.2⟩

theorem Breaks.family {f : Fault} (h : l.Breaks source link f) : f.family = .unknown := by
  cases h <;> rfl

theorem Breaks.kind_ne_none {f : Fault} (h : l.Breaks source link f) : link.kind ≠ none := by
  cases h <;> exact Option.some_ne_none _

/-- A link that leads somewhere does not break. -/
theorem Leads.not_breaks {place : Option (TreeRef × String)} {f : Fault}
    (h : l.Leads source link place) : ¬l.Breaks source link f := by
  intro hf
  cases h with
  | nowhere => cases hf
  | dialog hd =>
    cases hf with
    | dialog hn => exact Option.some_ne_none _ (hd.symm.trans hn)
  | tree hr hd =>
    cases hf with
    | tree hn => exact Option.some_ne_none _ (hr.symm.trans hn)
    | root hr' hn =>
      obtain rfl := Option.some.inj (hr.symm.trans hr')
      exact Option.some_ne_none _ (hd.symm.trans hn)

theorem resolve_of_leads {place : Option (TreeRef × String)} (h : l.Leads source link place) :
    l.resolve source link = .ok (place.map .at) := by
  cases h with
  | nowhere => rfl
  | dialog hd =>
    simp [resolve, Link.into, Tree.resolveLink, Tree.get, hd, Except.map, Destination.at]
  | tree hr hd =>
    simp [resolve, Link.into, get, hr, Tree.rootDialog, Tree.get, hd, Except.map, Destination.at]

theorem resolve_of_kindless (ht : link.target.isSome) (hk : link.kind = none) :
    l.resolve source link = .ok (some ⟨source, none⟩) := by
  obtain ⟨target, kind⟩ := link
  obtain ⟨target, rfl⟩ := Option.isSome_iff_exists.1 ht
  obtain rfl : kind = none := hk
  rfl

/-- **What following a link comes to.** -/
theorem resolve_cases (l : Library) (source : TreeRef) (link : Link) :
    (∃ place, l.Leads source link place ∧ l.resolve source link = .ok (place.map .at)) ∨
      (∃ f, l.Breaks source link f.fault ∧ l.resolve source link = .error f) ∨
      link.target.isSome ∧ link.kind = none ∧
        l.resolve source link = .ok (some ⟨source, none⟩) := by
  obtain ⟨_ | target, kind⟩ := link
  · exact .inl ⟨none, .nowhere kind, rfl⟩
  match kind with
  | none => exact .inr (.inr ⟨rfl, rfl, rfl⟩)
  | some .dialog =>
    cases h : (l.tree source).dialogs.get? target with
    | none =>
      refine .inr (.inl ⟨(l.tree source).console.fail _, .dialog h, ?_⟩)
      simp [resolve, Tree.resolveLink, Tree.get, h, Except.map]
    | some d => exact .inl ⟨_, .dialog h, resolve_of_leads (.dialog h)⟩
  | some .tree =>
    cases hr : l.find target with
    | none =>
      refine .inr (.inl ⟨l.register.console.fail _, .tree hr, ?_⟩)
      simp [resolve, get, hr]
    | some r =>
      cases hd : (l.tree r).dialogs.get? (l.tree r).root with
      | none =>
        refine .inr (.inl ⟨(l.tree r).console.fail _, .root hr hd, ?_⟩)
        simp [resolve, get, hr, Tree.rootDialog, Tree.get, hd, Except.map]
      | some d => exact .inl ⟨_, .tree hr hd, resolve_of_leads (.tree hr hd)⟩

/-! ## The shelf -/

theorem tree_modify (f : Tree → Tree) :
    (l.modify r f).tree q = if r = q ∧ q < l.shelf.length then f (l.tree q) else l.tree q := by
  simp only [modify, tree, List.getD_eq_getElem?_getD, List.getElem?_modify]
  by_cases hq : q < l.shelf.length
  · by_cases h : r = q <;> simp [hq, h]
  · simp [hq]

/-- Beyond the shelf, trees are blank. -/
theorem lt_length_of_get? {id : String} {d : Dialog} (h : (l.tree r).dialogs.get? id = some d) :
    r < l.shelf.length := by
  by_contra hr
  have hb : l.tree r = Tree.blank := by
    rw [tree, List.getD_eq_getElem?_getD, List.getElem?_eq_none (Nat.le_of_not_lt hr)]
    rfl
  rw [hb] at h
  cases Roster.mem_of_get? h

end Plotline.Library
