import Plotline.Proofs.Roster.Firsts
import Plotline.Tree.Deeds

/-!
# What deeds are to the collections

To the decisions of a dialog, a deed on the dialog is an offer or a change, and so is a deed on a
tree to the dialogs of the tree. A deed on a tree that is one on a dialog does to that dialog what
it does to the dialog alone, and fails as it does there.

* `Dialog.decisions_performAll` and `Tree.dialogs_performAll` turn deeds into those of rosters.
* `Deed.Within` are the deeds on a tree that are deeds on one of its dialogs. `perform_of_absent`
  and `perform_of_found` say what they do.
* `Dialog.since_onDecisions` and `Tree.since_dialogDeeds` say what becomes of one entity: for a
  decision some edits are made, for a dialog some deeds are done.
-/

namespace Plotline

namespace Roster

variable {α : Type} {key : α → String} {r : Roster α key} {a : α} {f g : α → α} {k : String}
  {hf : ∀ a, key (f a) = key a} {hg : ∀ a, key (g a) = key a}

theorem get?_of_mem (h : a ∈ r.items) : r.get? (key a) = some a := get?_eq_some_iff.2 ⟨h, rfl⟩

theorem ne_of_get?_eq_none (h : r.get? k = none) (ha : a ∈ r.items) : key a ≠ k := fun he =>
  get?_eq_none_iff.1 h (he ▸ List.mem_map_of_mem ha)

theorem map_eq_self (h : ∀ a ∈ r.items, g a = a) : r.map g hg = r :=
  ext_items ((List.map_congr_left h).trans (List.map_id' r.items))

theorem map_eq_modify (h : ∀ a ∈ r.items, g a = if key a = k then f a else a) :
    r.map g hg = r.modify k f hf :=
  ext_items (List.map_congr_left h)

end Roster

/-! ## Dialogs -/

namespace Dialog

variable {d : Dialog}

theorem get_eq_ok_iff {id : String} {x : Decision} :
    d.get id = .ok x ↔ d.decisions.get? id = some x := by
  rw [get]
  split <;> simp_all

theorem get_of_get?_eq_none {id : String} (h : d.decisions.get? id = none) :
    d.get id = .error (d.console.fail (.decisionNotFound id d.id)) := by
  rw [get, h]

/-- What a deed on a dialog is to its decisions. -/
def Deed.onDecisions : Deed → Roster.Deed Decision Decision.id
  | .insert x => .offer x
  | .editDecision id e =>
    .change (fun x => if x.id = id then x.edit e else x) fun x => by split <;> simp
  | .edit _ | .setConsole _ => .change (fun x => x) fun _ => rfl

@[simp] theorem id_perform (d : Dialog) (deed : Deed) : (d.perform deed).2.id = d.id := by
  cases deed with
  | insert x =>
    rw [perform, insert]
    cases d.decisions.insert? x <;> rfl
  | edit e => exact d.edit_id e
  | editDecision id e =>
    rw [perform]
    cases d.get id <;> rfl
  | setConsole c => rfl

/-- **To the decisions, a deed is an offer or a change.** -/
theorem decisions_perform (d : Dialog) (deed : Deed) :
    (d.perform deed).2.decisions = d.decisions.after deed.onDecisions := by
  cases deed with
  | insert x =>
    rw [perform, insert, Deed.onDecisions, Roster.after]
    cases d.decisions.insert? x <;> rfl
  | edit e =>
    rw [Deed.onDecisions, Roster.after, Roster.map_eq_self fun _ _ => rfl]
    cases e <;> rfl
  | editDecision id e =>
    rw [perform, Deed.onDecisions, Roster.after]
    cases hx : d.decisions.get? id with
    | none =>
      rw [get_of_get?_eq_none hx,
        Roster.map_eq_self fun x hmem => if_neg (Roster.ne_of_get?_eq_none hx hmem)]
      rfl
    | some x =>
      rw [get_eq_ok_iff.2 hx]
      rfl
  | setConsole c => rw [Deed.onDecisions, Roster.after, Roster.map_eq_self fun _ _ => rfl]; rfl

theorem decisions_performAll (d : Dialog) (deeds : List Deed) :
    (d.performAll deeds).decisions = d.decisions.run (deeds.map (·.onDecisions)) := by
  induction deeds generalizing d with
  | nil => rfl
  | cons deed deeds ih =>
    rw [performAll, List.foldl_cons, ← performAll, ih, decisions_perform]
    rfl

/-- The edit that a deed makes of the decision with an id. -/
def Deed.edit? (id : String) : Deed → Option Edit
  | .editDecision x e => if x = id then some e else none
  | _ => none

end Dialog

/-- Makes one edit after the other. -/
def Decision.editAll (x : Decision) (edits : List Edit) : Decision := edits.foldl Decision.edit x

/-- **A decision becomes what the edits of it make of it.** -/
theorem Dialog.since_onDecisions (deeds : List Dialog.Deed) (x : Decision) :
    Roster.since (deeds.map (·.onDecisions)) x = x.editAll (deeds.filterMap (·.edit? x.id)) := by
  induction deeds generalizing x with
  | nil => rfl
  | cons deed deeds ih =>
    rw [List.map_cons, Roster.since, List.foldl_cons, ← Roster.since, ih, deed.onDecisions.key_on]
    cases deed with
    | editDecision id e =>
      by_cases h : x.id = id
      · simp [Deed.onDecisions, Roster.Deed.on, Deed.edit?, Decision.editAll, h]
      · simp [Deed.onDecisions, Roster.Deed.on, Deed.edit?, Decision.editAll, h, Ne.symm h]
    | insert | edit | setConsole => rfl

/-! ## Trees -/

namespace Tree

variable {t : Tree}

theorem get_eq_ok_iff {id : String} {d : Dialog} :
    t.get id = .ok d ↔ t.dialogs.get? id = some d := by
  rw [get]
  split <;> simp_all

theorem get_of_get?_eq_none {id : String} (h : t.dialogs.get? id = none) :
    t.get id = .error (t.console.fail (.dialogNotFound id t.id)) := by
  rw [get, h]

/-- The dialog after a deed on its tree. -/
def Deed.onDialog (deed : Deed) (d : Dialog) : Dialog :=
  match deed.within? d.id with
  | none => d
  | some deed => (d.perform deed).2

@[simp] theorem Deed.id_onDialog (deed : Deed) (d : Dialog) : (deed.onDialog d).id = d.id := by
  rw [onDialog]
  split
  · rfl
  · exact d.id_perform _

/-- The dialog that a deed offers to a tree. -/
def Deed.offer? (t : Tree) : Deed → Option Dialog
  | .insert d => some d
  | .addDialog id message link =>
    some { id := id, message := message, link := link, console := t.console }
  | _ => none

/-- What a deed on a tree is to its dialogs. -/
def Deed.onDialogs (t : Tree) (deed : Deed) : Roster.Deed Dialog Dialog.id :=
  match deed.offer? t with
  | some d => .offer d
  | none => .change deed.onDialog deed.id_onDialog

/-- What deeds on a tree are to its dialogs, each at its time. -/
def dialogDeeds (t : Tree) : List Deed → List (Roster.Deed Dialog Dialog.id)
  | [] => []
  | deed :: deeds => deed.onDialogs t :: (t.perform deed).2.dialogDeeds deeds

/-- An offer is an insertion. -/
theorem perform_of_offer? {deed : Deed} {d : Dialog} (h : deed.offer? t = some d) :
    t.perform deed = settle t (t.insert d) := by
  cases deed with
  | insert | addDialog => cases h; rfl
  | _ => cases h

/-! ### Deeds on one of the dialogs -/

/-- A deed on a tree that is a deed on the dialog with an id. -/
inductive Deed.Within : Deed → String → Dialog.Deed → Prop
  | insertDecision (dialog : String) (x : Decision) :
    Within (.insertDecision dialog x) dialog (.insert x)
  | edit (dialog : String) (e : Edit) : Within (.edit (.dialog dialog) e) dialog (.edit e)
  | editDecision (dialog id : String) (e : Edit) :
    Within (.edit (.decision dialog id) e) dialog (.editDecision id e)
  | setConsole (dialog : String) (c : Console) :
    Within (.setConsole (some dialog) c) dialog (.setConsole c)

section Within

variable {deed : Deed} {dialog : String} {inner : Dialog.Deed} {d : Dialog}

theorem Deed.Within.onDialog_eq (h : deed.Within dialog inner) (d : Dialog) :
    deed.onDialog d = if d.id = dialog then (d.perform inner).2 else d := by
  have hwithin : deed.within? d.id = if dialog = d.id then some inner else none := by
    cases h with
    | setConsole dialog c => simp [Deed.within?]
    | _ => rfl
  rw [Deed.onDialog, hwithin]
  by_cases hid : d.id = dialog
  · rw [if_pos hid, if_pos hid.symm]
  · rw [if_neg hid, if_neg (Ne.symm hid)]

theorem map_onDialog_of_absent (h : deed.Within dialog inner)
    (hd : t.dialogs.get? dialog = none) :
    t.dialogs.map deed.onDialog deed.id_onDialog = t.dialogs := by
  refine Roster.map_eq_self fun d hmem => ?_
  rw [h.onDialog_eq, if_neg (Roster.ne_of_get?_eq_none hd hmem)]

theorem map_onDialog_of_found (h : deed.Within dialog inner)
    (hd : t.dialogs.get? dialog = some d) (f : Dialog → Dialog) (hf : ∀ d, (f d).id = d.id)
    (hfd : f d = (d.perform inner).2) :
    t.dialogs.map deed.onDialog deed.id_onDialog = t.dialogs.modify dialog f hf := by
  refine Roster.map_eq_modify fun d' hmem => ?_
  rw [h.onDialog_eq]
  by_cases hid : d'.id = dialog
  · obtain rfl : d = d' :=
      Option.some.inj (hd.symm.trans (Roster.get?_eq_some_iff.2 ⟨hmem, hid⟩))
    rw [if_pos hid, if_pos hid, hfd]
  · rw [if_neg hid, if_neg hid]

theorem map_onDialog_of_unchanged (h : deed.Within dialog inner)
    (hd : t.dialogs.get? dialog = some d) (hinner : (d.perform inner).2 = d) :
    t.dialogs.map deed.onDialog deed.id_onDialog = t.dialogs := by
  rw [map_onDialog_of_found h hd (fun d => d) (fun _ => rfl) hinner.symm]
  exact Roster.ext_items (by simp [Roster.items_modify])

/-- A deed on a dialog that is not there fails. -/
theorem perform_of_absent (h : deed.Within dialog inner) (hd : t.dialogs.get? dialog = none) :
    t.perform deed = (some (t.console.fail (.dialogNotFound dialog t.id)), t) := by
  have hget := get_of_get?_eq_none hd
  cases h with
  | insertDecision => rw [perform, insertDecision, hget]; rfl
  | edit => rw [perform, Tree.at, hget]; rfl
  | editDecision => rw [perform, Tree.at, hget]; rfl
  | setConsole => rw [perform, setConsole, hget]; rfl

/-- **A deed on a dialog that is there** does to it what it does to the dialog alone, and fails as
it does there. -/
theorem perform_of_found (h : deed.Within dialog inner) (hd : t.dialogs.get? dialog = some d) :
    t.perform deed =
      ((d.perform inner).1,
        { t with dialogs := t.dialogs.map deed.onDialog deed.id_onDialog }) := by
  have hget := get_eq_ok_iff.2 hd
  cases h with
  | insertDecision dialog x =>
    rw [perform, insertDecision, hget]
    dsimp only
    cases hx : d.decisions.insert? x with
    | none =>
      have hinsert : d.insert x = .error (d.console.fail (.decisionIdTaken x.id d.id)) := by
        rw [Dialog.insert, hx]
      have hinner : (d.perform (.insert x)).2 = d := by rw [Dialog.perform, hinsert]; rfl
      rw [map_onDialog_of_unchanged (.insertDecision dialog x) hd hinner, Dialog.perform, hinsert]
      rfl
    | some decisions =>
      have hinsert : d.insert x = .ok { d with decisions := decisions } := by
        rw [Dialog.insert, hx]
      have hinner : { d with decisions := decisions } = (d.perform (.insert x)).2 := by
        rw [Dialog.perform, hinsert]; rfl
      rw [map_onDialog_of_found (.insertDecision dialog x) hd
        (fun d => { d with decisions := decisions }) (fun _ => rfl) hinner, Dialog.perform, hinsert]
      rfl
  | edit dialog e =>
    rw [perform, Tree.at, hget, map_onDialog_of_found (.edit dialog e) hd (·.edit e) (by simp) rfl]
    rfl
  | editDecision dialog id e =>
    rw [perform, Tree.at, hget]
    dsimp only
    cases hx : d.get id with
    | error f =>
      have hinner : (d.perform (.editDecision id e)).2 = d := by rw [Dialog.perform, hx]; rfl
      rw [map_onDialog_of_unchanged (.editDecision dialog id e) hd hinner, Dialog.perform, hx]
      rfl
    | ok x =>
      have hinner : d.editDecision id e = (d.perform (.editDecision id e)).2 := by
        rw [Dialog.perform, hx]; rfl
      rw [map_onDialog_of_found (.editDecision dialog id e) hd (·.editDecision id e)
        (fun _ => rfl) hinner, Dialog.perform, hx]
      rfl
  | setConsole dialog c =>
    rw [perform, setConsole, hget, map_onDialog_of_found (.setConsole dialog c) hd
      (fun d => { d with console := c }) (fun _ => rfl) rfl]
    rfl

theorem dialogs_perform_of_within (h : deed.Within dialog inner) :
    (t.perform deed).2.dialogs = t.dialogs.map deed.onDialog deed.id_onDialog := by
  cases hd : t.dialogs.get? dialog with
  | none => rw [perform_of_absent h hd, map_onDialog_of_absent h hd]
  | some d => rw [perform_of_found h hd]

end Within

/-- A deed that offers no dialog changes the dialogs one by one. -/
theorem dialogs_perform_of_offer?_eq_none {deed : Deed} (h : deed.offer? t = none) :
    (t.perform deed).2.dialogs = t.dialogs.map deed.onDialog deed.id_onDialog := by
  cases deed with
  | insert | addDialog => cases h
  | insertDecision dialog x => exact dialogs_perform_of_within (.insertDecision dialog x)
  | edit place e =>
    cases place with
    | tree =>
      have hscore : (t.edit .tree e).dialogs = t.dialogs := by cases e <;> rfl
      exact hscore.trans (Roster.map_eq_self fun _ _ => rfl).symm
    | dialog dialog => exact dialogs_perform_of_within (.edit dialog e)
    | decision dialog id => exact dialogs_perform_of_within (.editDecision dialog id e)
  | setConsole dialog c =>
    cases dialog with
    | none =>
      exact (Roster.map_eq_self fun _ _ => rfl).symm
    | some dialog => exact dialogs_perform_of_within (.setConsole dialog c)

/-- **To the dialogs, a deed is an offer or a change.** -/
theorem dialogs_perform (t : Tree) (deed : Deed) :
    (t.perform deed).2.dialogs = t.dialogs.after (deed.onDialogs t) := by
  rw [Deed.onDialogs]
  cases h : deed.offer? t with
  | some d =>
    rw [perform_of_offer? h, insert, Roster.after]
    cases t.dialogs.insert? d <;> rfl
  | none => exact dialogs_perform_of_offer?_eq_none h

theorem dialogs_performAll (t : Tree) (deeds : List Deed) :
    (t.performAll deeds).dialogs = t.dialogs.run (t.dialogDeeds deeds) := by
  induction deeds generalizing t with
  | nil => rfl
  | cons deed deeds ih =>
    rw [performAll, List.foldl_cons, ← performAll, ih, dialogs_perform]
    rfl

/-- A deed leaves a dialog as it is, unless it is one on that dialog. -/
theorem on_onDialogs (t : Tree) (deed : Deed) (d : Dialog) :
    (deed.onDialogs t).on d = deed.onDialog d := by
  cases deed <;> rfl

/-- **A dialog becomes what the deeds on it make of it.** -/
theorem since_dialogDeeds (t : Tree) (deeds : List Deed) (d : Dialog) :
    Roster.since (t.dialogDeeds deeds) d = d.performAll (deeds.filterMap (·.within? d.id)) := by
  induction deeds generalizing t d with
  | nil => rfl
  | cons deed deeds ih =>
    rw [dialogDeeds, Roster.since, List.foldl_cons, ← Roster.since, ih, on_onDialogs,
      deed.id_onDialog, Deed.onDialog]
    cases h : deed.within? d.id with
    | none => rw [List.filterMap_cons_none h]
    | some inner => rw [List.filterMap_cons_some h]; rfl

end Tree

end Plotline
