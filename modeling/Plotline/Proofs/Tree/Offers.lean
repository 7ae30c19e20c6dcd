import Plotline.Proofs.Tree.Deeds

/-!
# Trees and dialogs keep what was offered first

Whatever is done with a tree and its dialogs, the collections stay maps from ids to the first
entities that were offered with them.

* `Dialog.history` and `Tree.history` list all that a collection had at first or was offered since,
  refused or not: each entity as it was offered, with what was done with it since.
* `FirstWins` says of a dialog or a tree that it is the map of the first entities with each id: what
  is found in it, what it takes in and what it refuses.
* `Snapshot.entries` shows a snapshot with the entities as they are.
* `Tree.first_offer_wins` is the law of any deeds on any tree.
-/

namespace Plotline

/-! ## Collections of firsts -/

namespace Roster

variable {α : Type} {key : α → String} {r : Roster α key} {a : α} {ever : List α}
  {get : String → Except Failure α} {missing : String → Failure}

/-- The items are the first ones with each key of all that there ever were, and `get` finds them. -/
structure FirstsOf (r : Roster α key) (ever : List α) (get : String → Except Failure α)
    (missing : String → Failure) : Prop where
  items : r.items = firsts key ever
  order : r.items.Sublist ever
  size : r.size = (firsts key ever).length
  contains : ∀ k, r.contains k = true ↔ k ∈ ever.map key
  found : ∀ k a, get k = .ok a ↔
    ∃ before later, ever = before ++ a :: later ∧ key a = k ∧ k ∉ before.map key
  absent : ∀ k, k ∉ ever.map key → get k = .error (missing k)

section

variable (h : r.items = firsts key ever)

include h

theorem mem_keys_of_firsts {k : String} : k ∈ r.keys ↔ k ∈ ever.map key := by
  rw [keys, h, mem_keys_firsts]

theorem firstsOf (hget : ∀ k, get k = (r.get? k).elim (.error (missing k)) .ok) :
    r.FirstsOf ever get missing where
  items := h
  order := h ▸ firsts_sublist
  size := congrArg List.length h
  contains _ := contains_eq_true_iff.trans (mem_keys_of_firsts h)
  found k a := by
    have hok : get k = .ok a ↔ r.get? k = some a := by
      rw [hget]
      cases r.get? k <;> simp
    rw [hok, get?_eq_some_iff, h, mem_firsts]
    constructor
    · rintro ⟨⟨before, later, hever, hbefore⟩, rfl⟩
      exact ⟨before, later, hever, rfl, hbefore⟩
    · rintro ⟨before, later, hever, rfl, hbefore⟩
      exact ⟨⟨before, later, hever, hbefore⟩, rfl⟩
  absent k hk := by
    rw [hget, get?_eq_none_iff.2 (mt (mem_keys_of_firsts h).1 hk)]
    rfl

theorem insert?_of_taken (hk : key a ∈ ever.map key) : r.insert? a = none :=
  insert?_eq_none_iff.2 ((mem_keys_of_firsts h).2 hk)

theorem insert?_of_new (hk : key a ∉ ever.map key) :
    ∃ s : Roster α key, r.insert? a = some s ∧ s.items = r.items ++ [a] := by
  obtain ⟨s, hs⟩ := exists_insert? (mt (mem_keys_of_firsts h).1 hk)
  exact ⟨s, hs, (insert?_eq_some_iff.1 hs).2⟩

end

end Roster

/-! ## Dialogs -/

namespace Dialog

/-- The dialog is the map of the first decisions with each id that were ever offered to it. -/
structure FirstWins (ever : List Decision) (d : Dialog) : Prop where
  collection : d.decisions.FirstsOf ever d.get fun id =>
    d.console.fail (.decisionNotFound id d.id)
  taken : ∀ x : Decision, x.id ∈ ever.map (·.id) →
    d.perform (.insert x) = (some (d.console.fail (.decisionIdTaken x.id d.id)), d)
  accepted : ∀ x : Decision, x.id ∉ ever.map (·.id) → ∃ decisions : Roster Decision Decision.id,
    decisions.items = d.decisions.items ++ [x] ∧
      d.perform (.insert x) = (none, { d with decisions := decisions })

/-- The decisions that deeds on a dialog offer, each with the edits of it that follow. -/
def offers : List Deed → List (Decision × List Edit)
  | [] => []
  | .insert x :: deeds => (x, deeds.filterMap (·.edit? x.id)) :: offers deeds
  | _ :: deeds => offers deeds

/-- All decisions that a dialog had or was offered, each with the edits of it that followed. -/
def history (d : Dialog) (deeds : List Deed) : List (Decision × List Edit) :=
  d.decisions.items.map (fun x => (x, deeds.filterMap (·.edit? x.id))) ++ offers deeds

/-- All decisions that a dialog had or was offered, as they are after the deeds. -/
def ever (d : Dialog) (deeds : List Deed) : List Decision :=
  (d.history deeds).map fun o => o.1.editAll o.2

variable {d : Dialog}

theorem firstWins {ever : List Decision} (h : d.decisions.items = firsts Decision.id ever) :
    d.FirstWins ever where
  collection := Roster.firstsOf h fun id => by rw [get]; cases d.decisions.get? id <;> rfl
  taken x hx := by rw [perform, insert, Roster.insert?_of_taken h hx]; rfl
  accepted x hx := by
    obtain ⟨s, hs, hitems⟩ := Roster.insert?_of_new h hx
    exact ⟨s, hitems, by rw [perform, insert, hs]; rfl⟩

theorem offered_onDecisions (deeds : List Deed) :
    Roster.offered (deeds.map (·.onDecisions)) =
      (offers deeds).map fun o => o.1.editAll o.2 := by
  induction deeds with
  | nil => rfl
  | cons deed deeds ih =>
    cases deed with
    | insert x =>
      rw [offers, List.map_cons, List.map_cons, ← ih, ← since_onDecisions]
      rfl
    | edit | editDecision | setConsole => exact ih

/-- **A dialog keeps the decisions that were offered first**, whatever is done with it. -/
theorem firstWins_performAll (d : Dialog) (deeds : List Deed) :
    (d.performAll deeds).FirstWins (d.ever deeds) := by
  refine firstWins ?_
  rw [decisions_performAll, Roster.items_run, offered_onDecisions, ever, history, List.map_append,
    List.map_map]
  congr 2
  exact List.map_congr_left fun x _ => since_onDecisions deeds x

end Dialog

/-! ## Trees -/

namespace Tree

/-- The tree is the map of the first dialogs with each id that were ever offered to it. -/
structure FirstWins (ever : List Dialog) (t : Tree) : Prop where
  collection : t.dialogs.FirstsOf ever t.get fun id => t.console.fail (.dialogNotFound id t.id)
  taken : ∀ deed d, Deed.offer? t deed = some d → d.id ∈ ever.map (·.id) →
    t.perform deed = (some (t.console.fail (.dialogIdTaken d.id t.id)), t)
  accepted : ∀ deed d, Deed.offer? t deed = some d → d.id ∉ ever.map (·.id) →
    ∃ dialogs : Roster Dialog Dialog.id, dialogs.items = t.dialogs.items ++ [d] ∧
      t.perform deed = (none, { t with dialogs := dialogs })

/-- The dialogs that deeds offer to a tree, each with the deeds on it that follow. -/
def offers (t : Tree) : List Deed → List (Dialog × List Dialog.Deed)
  | [] => []
  | deed :: deeds =>
    let later := (t.perform deed).2.offers deeds
    match deed.offer? t with
    | some d => (d, deeds.filterMap (·.within? d.id)) :: later
    | none => later

/-- All dialogs that a tree had or was offered, each with the deeds on it that followed. -/
def history (t : Tree) (deeds : List Deed) : List (Dialog × List Dialog.Deed) :=
  t.dialogs.items.map (fun d => (d, deeds.filterMap (·.within? d.id))) ++ t.offers deeds

/-- All dialogs that a tree had or was offered, as they are after the deeds. -/
def ever (t : Tree) (deeds : List Deed) : List Dialog :=
  (t.history deeds).map fun o => o.1.performAll o.2

variable {t : Tree}

theorem firstWins {ever : List Dialog} (h : t.dialogs.items = firsts Dialog.id ever) :
    t.FirstWins ever where
  collection := Roster.firstsOf h fun id => by rw [get]; cases t.dialogs.get? id <;> rfl
  taken deed d hdeed hd := by
    rw [perform_of_offer? hdeed, insert, Roster.insert?_of_taken h hd]
    rfl
  accepted deed d hdeed hd := by
    obtain ⟨s, hs, hitems⟩ := Roster.insert?_of_new h hd
    exact ⟨s, hitems, by rw [perform_of_offer? hdeed, insert, hs]; rfl⟩

theorem offered_dialogDeeds (t : Tree) (deeds : List Deed) :
    Roster.offered (t.dialogDeeds deeds) = (t.offers deeds).map fun o => o.1.performAll o.2 := by
  induction deeds generalizing t with
  | nil => rfl
  | cons deed deeds ih =>
    rw [dialogDeeds, offers, Deed.onDialogs]
    cases deed.offer? t with
    | some d => rw [Roster.offered, List.map_cons, ih, since_dialogDeeds]
    | none => exact ih _

/-- **A tree keeps the dialogs that were offered first**, whatever is done with it. -/
theorem firstWins_performAll (t : Tree) (deeds : List Deed) :
    (t.performAll deeds).FirstWins (t.ever deeds) := by
  refine firstWins ?_
  rw [dialogs_performAll, Roster.items_run, offered_dialogDeeds, ever, history, List.map_append,
    List.map_map]
  congr 2
  exact List.map_congr_left fun d _ => since_dialogDeeds t deeds d

/-- A deed that fails changes nothing. -/
theorem perform_of_failed {deed : Deed} {f : Failure} (h : (t.perform deed).1 = some f) :
    (t.perform deed).2 = t := by
  have hsettle : ∀ attempt : Except Failure Tree,
      (settle t attempt).1 = some f → (settle t attempt).2 = t := by
    rintro (_ | _) h
    · rfl
    · cases h
  cases deed <;> exact hsettle _ h

/-- A decision whose id is taken in its dialog is refused. -/
theorem perform_insertDecision_of_taken {d : Dialog} {x : Decision} (hd : d ∈ t.dialogs.items)
    (hx : x.id ∈ d.decisions.keys) :
    t.perform (.insertDecision d.id x) =
      (some (d.console.fail (.decisionIdTaken x.id d.id)), t) := by
  have hinner : d.perform (.insert x) =
      (some (d.console.fail (.decisionIdTaken x.id d.id)), d) := by
    rw [Dialog.perform, Dialog.insert, Roster.insert?_eq_none_iff.2 hx]
    rfl
  have hfails : (t.perform (.insertDecision d.id x)).1 =
      some (d.console.fail (.decisionIdTaken x.id d.id)) := by
    rw [perform_of_found (.insertDecision d.id x) (Roster.get?_of_mem hd), hinner]
  exact Prod.ext hfails (perform_of_failed hfails)

end Tree

/-! ## Snapshots -/

/-- The place of the entity with a key of a snapshot. -/
def Snapshot.place (s : Snapshot) (k : String) : Place :=
  match s.dialog with
  | none => .dialog k
  | some dialog => .decision dialog k

/-- The keys of a snapshot with their entities as they are now. -/
def Snapshot.entries (s : Snapshot) (t : Tree) : List (String × Option Entity) :=
  s.keys.map fun k => (k, (t.at (s.place k)).toOption)

/-- The message of an entity; a tree has none. -/
def Entity.message : Entity → Option String
  | .tree _ => none
  | .dialog d => d.message
  | .decision x => x.message

namespace Tree

variable {t : Tree}

theorem at_dialog (id : String) :
    (t.at (.dialog id)).toOption = (t.dialogs.get? id).map .dialog := by
  rw [Tree.at, get]
  cases t.dialogs.get? id <;> rfl

theorem at_decision (dialog id : String) :
    (t.at (.decision dialog id)).toOption =
      (t.dialogs.get? dialog).bind fun d => (d.decisions.get? id).map .decision := by
  rw [Tree.at, get]
  cases t.dialogs.get? dialog with
  | none => rfl
  | some d =>
    rw [Option.bind_some]
    dsimp only
    rw [Dialog.get]
    cases d.decisions.get? id <;> rfl

/-- The messages of a snapshot are those of its entities. -/
theorem messages_snapshot (s : Snapshot) :
    s.messages t = (s.entries t).map fun o => (o.1, o.2.bind (·.message)) := by
  obtain ⟨_ | dialog, keys⟩ := s
  · rw [Snapshot.messages, Snapshot.entries, List.map_map]
    refine List.map_congr_left fun k _ => ?_
    simp only [Function.comp_apply, Snapshot.place, at_dialog]
    cases t.dialogs.get? k <;> rfl
  · rw [Snapshot.messages, Snapshot.entries, List.map_map]
    refine List.map_congr_left fun k _ => ?_
    simp only [Function.comp_apply, Snapshot.place, at_decision]
    cases t.dialogs.get? dialog with
    | none => rfl
    | some d =>
      rw [Option.bind_some, Option.bind_some]
      cases d.decisions.get? k <;> rfl

theorem get?_performAll {d : Dialog} (hd : d ∈ t.dialogs.items) (more : List Deed) :
    (t.performAll more).dialogs.get? d.id =
      some (d.performAll (more.filterMap (·.within? d.id))) := by
  rw [dialogs_performAll, Roster.get?_run hd, since_dialogDeeds]

/-- **A snapshot of the dialogs** has their keys for good, and shows what became of them. -/
theorem entries_dialogs (t : Tree) (more : List Deed) :
    (⟨none, t.dialogs.keys⟩ : Snapshot).entries (t.performAll more) =
      t.dialogs.items.map fun d =>
        (d.id, some (.dialog (d.performAll (more.filterMap (·.within? d.id))))) := by
  rw [Snapshot.entries, Roster.keys, List.map_map]
  refine List.map_congr_left fun d hd => ?_
  rw [Function.comp_apply, Snapshot.place, at_dialog, get?_performAll hd]
  rfl

/-- **A snapshot of the decisions of a dialog**, likewise. -/
theorem entries_decisions {d : Dialog} (hd : d ∈ t.dialogs.items) (more : List Deed) :
    (⟨some d.id, d.decisions.keys⟩ : Snapshot).entries (t.performAll more) =
      d.decisions.items.map fun x => (x.id, some (.decision
        (x.editAll ((more.filterMap (·.within? d.id)).filterMap (·.edit? x.id))))) := by
  rw [Snapshot.entries, Roster.keys, List.map_map]
  refine List.map_congr_left fun x hx => ?_
  rw [Function.comp_apply, Snapshot.place, at_decision, get?_performAll hd, Option.bind_some,
    Dialog.decisions_performAll, Roster.get?_run hx, Dialog.since_onDecisions]
  rfl

/-! ## The law -/

/-- What holds of a tree after some deeds: it and its dialogs keep what was offered first. -/
structure KeepsFirsts (t : Tree) (deeds : List Deed) (now : Tree) : Prop where
  /-- The tree is the map of the first dialogs that it had or was offered. -/
  dialogs : now.FirstWins (t.ever deeds)
  /-- Each of these dialogs is the map of the first decisions that it had or was offered. -/
  decisions : ∀ o ∈ t.history deeds, (o.1.performAll o.2).FirstWins (o.1.ever o.2)
  /-- What is done with a dialog of the tree fails as it does with the dialog alone. -/
  within : ∀ deed inner, ∀ d ∈ now.dialogs.items, deed.Within d.id inner →
    (now.perform deed).1 = (d.perform inner).1
  /-- A decision that is offered to a dialog of the tree under an id that is taken is refused. -/
  decisionTaken : ∀ d ∈ now.dialogs.items, ∀ x : Decision, x.id ∈ d.decisions.keys →
    now.perform (.insertDecision d.id x) =
      (some (d.console.fail (.decisionIdTaken x.id d.id)), now)
  /-- Nothing that fails changes anything. -/
  failed : ∀ deed f, (now.perform deed).1 = some f → (now.perform deed).2 = now
  /-- What a snapshot shows are the messages of its entities. -/
  messages : ∀ s : Snapshot,
    s.messages now = (s.entries now).map fun o => (o.1, o.2.bind (·.message))
  /-- A snapshot of the dialogs keeps its keys, and shows what becomes of them. -/
  dialogSnapshot : ∃ s, now.snapshot none = .ok s ∧ ∀ more,
    s.entries (now.performAll more) = now.dialogs.items.map fun d =>
      (d.id, some (.dialog (d.performAll (more.filterMap (·.within? d.id)))))
  /-- A snapshot of the decisions of a dialog keeps its keys, and shows what becomes of them. -/
  decisionSnapshot : ∀ d ∈ now.dialogs.items, ∃ s, now.snapshot (some d.id) = .ok s ∧ ∀ more,
    s.entries (now.performAll more) = d.decisions.items.map fun x => (x.id, some (.decision
      (x.editAll ((more.filterMap (·.within? d.id)).filterMap (·.edit? x.id)))))

/-- **Trees and dialogs keep what was offered first**, whatever is done with them. -/
theorem first_offer_wins (t : Tree) (deeds : List Deed) :
    t.KeepsFirsts deeds (t.performAll deeds) where
  dialogs := t.firstWins_performAll deeds
  decisions o _ := o.1.firstWins_performAll o.2
  within _ _ _ hd hwithin := by rw [perform_of_found hwithin (Roster.get?_of_mem hd)]
  decisionTaken _ hd _ hx := perform_insertDecision_of_taken hd hx
  failed _ _ := perform_of_failed
  messages := messages_snapshot
  dialogSnapshot := ⟨_, rfl, entries_dialogs _⟩
  decisionSnapshot d hd := by
    have hget : (t.performAll deeds).get d.id = .ok d := get_eq_ok_iff.2 (Roster.get?_of_mem hd)
    exact ⟨⟨some d.id, d.decisions.keys⟩, by rw [snapshot, hget]; rfl, entries_decisions hd⟩

/-- The dialog that came first stays, and the edit that follows is of that one. -/
example :
    (Tree.blank.performAll [.addDialog "a" (some "one") {}, .addDialog "a" (some "two") {},
      .edit (.dialog "a") (.target (some "b"))]).dialogs.items =
    [{ id := "a", message := some "one", link := { target := some "b" } }] := by decide

end Tree

end Plotline
