import Plotline.Proofs.Marker.Spaces
import Plotline.Proofs.Tree.Links

/-!
# Trees with more spaces

Two trees that are equal but for more spaces in the messages of the second (`Tree.Spaced`). Nothing
that is done while a tree is built looks at a message: insertions agree (`agree_insert`,
`agree_insertDecision`), and the same links are found to lead nowhere.
-/

namespace Plotline

/-- Decisions that differ in the spaces of their messages only. -/
structure Decision.Spaced (x y : Decision) : Prop where
  id : x.id = y.id
  message : Option.Rel Text.Spaced x.message y.message
  link : x.link = y.link
  enabled : x.enabled = y.enabled
  score : x.score = y.score

/-- Dialogs with the same decisions in the same order that differ in the spaces of messages only. -/
structure Dialog.Spaced (d e : Dialog) : Prop where
  id : d.id = e.id
  message : Option.Rel Text.Spaced d.message e.message
  link : d.link = e.link
  console : d.console = e.console
  decisions : d.decisions.Each Decision.Spaced e.decisions

/-- Trees with the same dialogs in the same order that differ in the spaces of messages only. -/
structure Tree.Spaced (t u : Tree) : Prop where
  id : t.id = u.id
  root : t.root = u.root
  score : t.score = u.score
  console : t.console = u.console
  dialogs : t.dialogs.Each Dialog.Spaced u.dialogs

/-! ## Insertions -/

namespace Dialog

variable {d e : Dialog} {x y : Decision}

theorem agree_insert (h : d.Spaced e) (hx : x.Spaced y) :
    Agree Failure.Spaced Dialog.Spaced (d.insert x) (e.insert y) := by
  have hi := h.decisions.insert? (fun _ _ hab => hab.id) hx
  rw [insert, insert]
  generalize d.decisions.insert? x = r, e.decisions.insert? y = r' at hi
  cases hi with
  | none =>
    rw [h.console, h.id, hx.id]
    exact .error (.refl _)
  | some hi => exact .ok ⟨h.id, h.message, h.link, h.console, hi⟩

theorem Spaced.owners (h : d.Spaced e) : d.owners = e.owners := by
  rw [Dialog.owners, Dialog.owners, h.id, h.link]
  congr 1
  exact Roster.map_eq_map_of_forall₂ h.decisions fun x y hx => by rw [hx.id, hx.link]

end Dialog

namespace Tree

variable {t u : Tree} {d e : Dialog} {x y : Decision}

theorem agree_get (h : t.Spaced u) (id : String) :
    Agree Failure.Spaced Dialog.Spaced (t.get id) (u.get id) := by
  have hg := h.dialogs.get? (fun _ _ hab => hab.id) id
  rw [get, get]
  generalize t.dialogs.get? id = r, u.dialogs.get? id = r' at hg
  cases hg with
  | none =>
    rw [h.console, h.id]
    exact .error (.refl _)
  | some hd => exact .ok hd

theorem agree_insert (h : t.Spaced u) (hd : d.Spaced e) :
    Agree Failure.Spaced Tree.Spaced (t.insert d) (u.insert e) := by
  have hi := h.dialogs.insert? (fun _ _ hab => hab.id) hd
  rw [insert, insert]
  generalize t.dialogs.insert? d = r, u.dialogs.insert? e = r' at hi
  cases hi with
  | none =>
    rw [h.console, h.id, hd.id]
    exact .error (.refl _)
  | some hi => exact .ok ⟨h.id, h.root, h.score, h.console, hi⟩

theorem agree_insertDecision (h : t.Spaced u) (dialog : String) (hx : x.Spaced y) :
    Agree Failure.Spaced Tree.Spaced (t.insertDecision dialog x) (u.insertDecision dialog y) := by
  have hg := agree_get h dialog
  rw [insertDecision, insertDecision]
  generalize t.get dialog = r, u.get dialog = r' at hg
  cases hg with
  | error hf => exact .error hf
  | @ok d e hd =>
    have hi := Dialog.agree_insert hd hx
    dsimp only
    generalize d.insert x = r, e.insert y = r' at hi
    cases hi with
    | error hf => exact .error hf
    | ok hd' =>
      refine .ok ⟨h.id, h.root, h.score, h.console, ?_⟩
      refine Roster.Each.modify (fun _ _ hab => hab.id) ?_ ?_ h.dialogs fun a b hab => ?_
      · exact fun _ => rfl
      · exact fun _ => rfl
      · exact ⟨hab.id, hab.message, hab.link, hab.console, hd'.decisions⟩

/-! ## Links -/

theorem Spaced.sameLinks (h : t.Spaced u) : t.SameLinks u where
  id := h.id.symm
  root := h.root.symm
  keys := (h.dialogs.keys fun _ _ hab => hab.id).symm
  owners := by
    rw [owners, owners, List.flatMap_def, List.flatMap_def]
    exact (congrArg _ (Roster.map_eq_map_of_forall₂ h.dialogs fun _ _ hd => hd.owners)).symm

end Tree

end Plotline
