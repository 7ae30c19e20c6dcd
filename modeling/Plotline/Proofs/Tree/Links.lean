import Plotline.Proofs.Roster
import Plotline.Tree.Links

/-!
# Trees with the same links

Only ids and links decide where a story can go. Trees that agree in these (`Tree.SameLinks`) have
the same dangling links, and every edit that sets no part of a link gives such a tree
(`sameLinks_edit`).
-/

namespace Plotline

/-- An edit that sets no part of a link. -/
def Edit.KeepsLinks : Edit → Prop
  | .message _ | .enabled _ | .score _ => True
  | .target _ | .kind _ => False

namespace Tree

/-- Two trees that differ in no id and in no link. -/
structure SameLinks (t t' : Tree) : Prop where
  id : t'.id = t.id
  root : t'.root = t.root
  keys : t'.dialogs.keys = t.dialogs.keys
  owners : t'.owners = t.owners

theorem SameLinks.refl (t : Tree) : t.SameLinks t := ⟨rfl, rfl, rfl, rfl⟩

theorem SameLinks.contains {t t' : Tree} (h : t.SameLinks t') (id : String) :
    t'.dialogs.contains id = t.dialogs.contains id := by
  rw [Bool.eq_iff_iff, Roster.contains_eq_true_iff, Roster.contains_eq_true_iff, h.keys]

/-- The check of dialog links sees ids and links only. -/
theorem SameLinks.danglingLinks {t t' : Tree} (h : t.SameLinks t') :
    t'.danglingLinks = t.danglingLinks := by
  have hd : ∀ link, t'.isDangling link = t.isDangling link := by
    intro link
    have hcontains : t'.dialogs.contains = t.dialogs.contains := funext h.contains
    rw [isDangling, hcontains, isDangling]
  rw [Tree.danglingLinks, Tree.danglingLinks, h.owners]
  simp only [hd]

theorem sameLinks_addScore (t : Tree) (n : Int) : t.SameLinks (t.addScore n) := ⟨rfl, rfl, rfl, rfl⟩

/-- A change of one dialog that keeps its owners. -/
theorem sameLinks_modify (t : Tree) (id : String) {f : Dialog → Dialog} {hf : ∀ d, (f d).id = d.id}
    (h : ∀ d, (f d).owners = d.owners) :
    t.SameLinks { t with dialogs := t.dialogs.modify id f hf } where
  id := rfl
  root := rfl
  keys := Roster.keys_modify hf
  owners := by
    rw [owners, owners, List.flatMap_def, List.flatMap_def, Roster.map_items_modify hf h]

theorem sameLinks_edit (t : Tree) (place : Place) {e : Edit} (he : e.KeepsLinks) :
    t.SameLinks (t.edit place e) := by
  cases place with
  | tree => cases e <;> exact ⟨rfl, rfl, rfl, rfl⟩
  | dialog id =>
    refine sameLinks_modify t id fun d => ?_
    cases e with
    | target | kind => exact he.elim
    | message | enabled | score => rfl
  | decision dialog id =>
    refine sameLinks_modify t dialog fun d => ?_
    rw [Dialog.owners, Dialog.owners, List.cons.injEq]
    refine ⟨rfl, Roster.map_items_modify (fun x => x.edit_id e) fun x => ?_⟩
    cases e with
    | target | kind => exact he.elim
    | message | enabled | score => rfl

end Tree

end Plotline
