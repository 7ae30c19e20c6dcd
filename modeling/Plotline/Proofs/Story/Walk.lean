import Plotline.Proofs.Story.Checked

/-!
# Sessions are walks

Between the calls of a session anything can happen to its library that leaves ids alone: messages,
links, scores and the enabling of decisions are edited, links are even taken apart, and trees are
put on the register. Whatever happens, the history of a session is a walk that was really made.

* A `Journey` is a session with its library, and `Journey.run` is what calls and changes make of it.
* `Library.Extends` is what all of them do to a library (`Journey.extends_after`): registered trees
  stay registered, and no tree on the shelf gets another id or other dialogs.
* `Session.Walking` is the invariant of the state, and `Session.Moves` says what one call does to
  the history (`Session.moves_step`).
* `Journey.session_is_walk` puts these together for all runs.
-/

namespace Plotline

/-! ## Libraries that grow -/

namespace Library

variable {l l' l'' : Library} {r : TreeRef}

/-- The library `l'` has all that is registered and shelved in `l`: trees may have become others in
everything but their ids and the ids of their dialogs. -/
structure Extends (l l' : Library) : Prop where
  trees : l.trees ⊆ l'.trees
  size : l.shelf.length ≤ l'.shelf.length
  id : ∀ r, r < l.shelf.length → (l'.tree r).id = (l.tree r).id
  keys : ∀ r, r < l.shelf.length → (l'.tree r).dialogs.keys = (l.tree r).dialogs.keys

theorem Extends.refl (l : Library) : l.Extends l :=
  ⟨fun _ h => h, Nat.le_refl _, fun _ _ => rfl, fun _ _ => rfl⟩

theorem Extends.trans (h : l.Extends l') (h' : l'.Extends l'') : l.Extends l'' where
  trees _ hr := h'.trees (h.trees hr)
  size := Nat.le_trans h.size h'.size
  id r hr := (h'.id r (Nat.lt_of_lt_of_le hr h.size)).trans (h.id r hr)
  keys r hr := (h'.keys r (Nat.lt_of_lt_of_le hr h.size)).trans (h.keys r hr)

theorem extends_modify (l : Library) (r : TreeRef) {f : Tree → Tree} (hid : ∀ t, (f t).id = t.id)
    (hkeys : ∀ t, (f t).dialogs.keys = t.dialogs.keys) : l.Extends (l.modify r f) where
  trees _ h := h
  size := by simp [modify]
  id q _ := by
    rw [tree_modify]
    split
    · exact hid _
    · rfl
  keys q _ := by
    rw [tree_modify]
    split
    · exact hkeys _
    · rfl

/-- A tree that is put on the shelf takes nobody's place. -/
theorem tree_place_of_lt (l : Library) (t : Tree) (hr : r < l.shelf.length) :
    (l.place t).2.tree r = l.tree r := by
  simp [place, tree, List.getD_eq_getElem?_getD, List.getElem?_append_left hr]

theorem extends_place (l : Library) (t : Tree) : l.Extends (l.place t).2 := by
  refine ⟨fun _ h => h, by simp [place], fun q hq => ?_, fun q hq => ?_⟩ <;>
    rw [l.tree_place_of_lt t hq]

/-- Registering a tree changes the entries only. -/
theorem exists_of_add {key : String} {postings : List Posting}
    (h : l.add key r = .ok (l', postings)) :
    ∃ entries, l.register.entries.insert? ⟨key, r⟩ = some entries ∧
      l' = { l with register := { l.register with entries := entries } } := by
  unfold add at h
  cases hi : l.register.entries.insert? ⟨key, r⟩ with
  | none =>
    rw [hi] at h
    cases h
  | some entries =>
    rw [hi] at h
    simp only [Except.ok.injEq, Prod.mk.injEq] at h
    exact ⟨entries, rfl, h.1.symm⟩

/-- How scripts are read for the register. -/
def options (l : Library) : Script.Options :=
  { trim := l.register.trim, console := l.register.console }

/-- Loading a script reads it, puts its tree on the shelf and registers it. -/
theorem exists_of_load {disk : Disk} {path : Path.Spelling} {loaded : Loaded}
    (h : l.load disk path = .ok loaded) :
    ∃ (key : String) (t : Tree) (parsing adding : List Posting), path = .text key ∧
      Script.load disk l.options key = .ok (t, parsing) ∧
      (l.place t).2.add key (l.place t).1 = .ok (loaded.library, adding) ∧
      loaded.tree = (l.place t).1 ∧ loaded.postings = parsing ++ adding := by
  cases path with
  | broken b => cases h
  | text key =>
    simp only [load] at h
    split at h
    · cases h
    · split at h
      · cases h
      · rename_i t parsing hread
        cases ha : (l.place t).2.add key (l.place t).1 with
        | error f =>
          rw [ha] at h
          cases h
        | ok added =>
          rw [ha] at h
          obtain rfl := Except.ok.inj h
          exact ⟨key, t, parsing, added.2, rfl, hread, ha, rfl, rfl⟩

theorem extends_add {key : String} {postings : List Posting}
    (h : l.add key r = .ok (l', postings)) : l.Extends l' := by
  obtain ⟨entries, hi, rfl⟩ := exists_of_add h
  have hitems := (Roster.insert?_eq_some_iff.1 hi).2
  refine ⟨fun q hq => ?_, Nat.le_refl _, fun _ _ => rfl, fun _ _ => rfl⟩
  rw [trees] at hq
  rw [trees]
  simp only [hitems, List.map_append]
  exact List.mem_append_left _ hq

theorem extends_load {disk : Disk} {path : Path.Spelling} {loaded : Loaded}
    (h : l.load disk path = .ok loaded) : l.Extends loaded.library := by
  obtain ⟨key, t, parsing, adding, -, -, ha, -, -⟩ := exists_of_load h
  exact (l.extends_place t).trans (extends_add ha)

/-- A link leads to a registered tree: to the tree it is in, or to one that a key or id names. -/
theorem Leads.inside {source : TreeRef} {link : Link} {place : Option (TreeRef × String)}
    (h : l.Leads source link place) (hs : source ∈ l.trees) : ∀ p ∈ place, l.Inside p := by
  intro p hp
  cases h with
  | nowhere kind => cases hp
  | dialog hd =>
    obtain rfl := Option.some.inj hp
    exact ⟨hs, List.mem_map_of_mem (Roster.mem_of_get? hd)⟩
  | tree hr hd =>
    obtain rfl := Option.some.inj hp
    exact ⟨find_mem_trees hr, List.mem_map_of_mem (Roster.mem_of_get? hd)⟩

end Library

theorem Tree.keys_edit (t : Tree) (place : Place) (e : Edit) :
    (t.edit place e).dialogs.keys = t.dialogs.keys := by
  cases place with
  | tree => cases e <;> rfl
  | dialog id => exact Roster.keys_modify fun d => d.edit_id e
  | decision dialog id =>
    apply Roster.keys_modify
    intro d
    rfl

theorem Tree.id_edit (t : Tree) (place : Place) (e : Edit) : (t.edit place e).id = t.id := by
  cases place with
  | tree => cases e <;> rfl
  | dialog id => rfl
  | decision dialog id => rfl

/-! ## Calls -/

namespace Session

variable {l l' : Library} {s : Session} {entry : String × String}

/-- A call of a session. -/
inductive Call
  | choose (id : String)
  | advance
  deriving DecidableEq, Repr

/-- What comes of a call. -/
def Call.step (s : Session) (l : Library) : Call → Step
  | .choose id => s.choose l id
  | .advance => s.advance l

/-- The link that a call follows from the dialog `d`: that of the decision chosen, if the decision
has one, else the dialog's own. -/
def Call.Follows (l : Library) (s : Session) (d : Dialog) (link : Link) : Call → Prop
  | .choose id => ∃ x, Offers l s id d x ∧ link = linkOf d x
  | .advance => s.current l = some d ∧ link = d.link

/-- What a call does to a walk. Either it returns a dialog, and goes to the place that the link it
follows leads to at that moment, which becomes the last entry of the history; or it returns none,
and the history stays. -/
inductive Moves (l : Library) (s : Session) (c : Call) (step : Step) : Prop
  | arrives {d : Dialog} {link : Link} {place : TreeRef × String} (hf : c.Follows l s d link)
    (hl : l.Leads s.tree link (some place)) (ha : step.answer = .ok (some place.2))
    (ht : step.session.tree = place.1) (hd : step.session.dialog = some place.2)
    (hh : step.session.history = s.history ++ [((l.tree place.1).id, place.2)])
  | stays (ha : ∀ id, step.answer ≠ .ok (some id)) (ht : step.session.tree = s.tree)
    (hd : step.session = s ∨ step.session.dialog = none)
    (hh : step.session.history = s.history)

/-- The session is in a registered tree and at one of its dialogs unless the story has ended, its
history starts with `entry`, and the last entry of the history is where the session is. -/
structure Walking (entry : String × String) (s : Session) (l : Library) : Prop where
  within : s.Within l
  begins : s.history.head? = some entry
  here : ∀ id ∈ s.dialog, s.history.getLast? = some ((l.tree s.tree).id, id)

/-! ### What a call comes to -/

/-- What a call can come to: the session has not moved and there is no dialog to return, or the link
that was followed leads somewhere, or it has a target and no kind. -/
inductive Result (l : Library) (s : Session) (c : Call) (step : Step) : Prop
  | rests (ha : ∀ id, step.answer ≠ .ok (some id)) (hs : step.session = s)
  | leads {d : Dialog} {link : Link} {place : Option (TreeRef × String)} (hf : c.Follows l s d link)
    (hl : l.Leads s.tree link place) (ha : step.answer = .ok (place.map (·.2)))
    (hs : step.session = s.arrived l place)
  | founders {f : Failure} (ha : step.answer = .error f)
    (hs : step.session = { s with dialog := none })

theorem advance_of_breaks {d : Dialog} {f : Failure} (hc : s.current l = some d)
    (h : l.resolve s.tree d.link = .error f) : s.advance l = ⟨.error f, s, l, []⟩ := by
  simp only [advance, hc, h]

theorem advance_of_kindless {d : Dialog} (hc : s.current l = some d)
    (h : l.resolve s.tree d.link = .ok (some ⟨s.tree, none⟩)) :
    s.advance l = ⟨.error (s.console.fail .kindlessLink), { s with dialog := none }, l, []⟩ := by
  simp only [advance, hc, h, move]

theorem library_advance (s : Session) (l : Library) : (s.advance l).library = l := by
  cases hd : s.current l with
  | none => simp only [advance, hd]
  | some d => cases hr : l.resolve s.tree d.link <;> simp only [advance, hd, hr]

theorem result_advance (s : Session) (l : Library) :
    l.Extends (s.advance l).library ∧ Result l s .advance (s.advance l) := by
  cases hd : s.current l with
  | none =>
    have ha : s.advance l = ⟨.ok none, s, l, []⟩ := by simp only [advance, hd]
    rw [ha]
    exact ⟨.refl l, .rests (by simp) rfl⟩
  | some d =>
    rcases l.resolve_cases s.tree d.link with ⟨place, hl, -⟩ | ⟨f, -, hr⟩ | ⟨-, -, hr⟩
    · rw [advance_of_leads hd hl]
      exact ⟨.refl l, .leads ⟨hd, rfl⟩ hl rfl rfl⟩
    · rw [advance_of_breaks hd hr]
      exact ⟨.refl l, .rests (by simp) rfl⟩
    · rw [advance_of_kindless hd hr]
      exact ⟨.refl l, .founders rfl rfl⟩

theorem result_choose (s : Session) (l : Library) (id : String) :
    l.Extends (s.choose l id).library ∧ Result l s (.choose id) (s.choose l id) := by
  have hscore : ∀ n, l.Extends (l.modify s.tree (·.addScore n)) := fun n =>
    l.extends_modify s.tree (fun _ => rfl) fun _ => rfl
  rcases choose_barred_or_offers l s id with ⟨f, -, hc⟩ | ⟨d, x, hx⟩
  · rw [hc]
    exact ⟨.refl l, .rests (by simp) rfl⟩
  · rcases hx.cases with ⟨f, -, hc⟩ | ho | ⟨hw, ⟨place, hl⟩ | hk⟩
    · rw [hc]
      exact ⟨.refl l, .rests (by simp) rfl⟩
    · rw [choose_of_overlong ho]
      exact ⟨hscore x.score, .rests (by simp) rfl⟩
    · obtain ⟨ha, hs, hm⟩ := choose_of_leads hx hl hw
      exact ⟨hm ▸ hscore x.score, .leads ⟨x, hx, rfl⟩ hl ha hs⟩
    · obtain ⟨ha, hs, hm⟩ := choose_of_kindless hk hw
      exact ⟨hm ▸ hscore x.score, .founders ha hs⟩

/-- **What a call comes to**, and that it takes nothing away from the library. -/
theorem result_step (s : Session) (l : Library) (c : Call) :
    l.Extends (c.step s l).library ∧ Result l s c (c.step s l) := by
  cases c with
  | choose id => exact result_choose s l id
  | advance => exact result_advance s l

/-- **A call returns a dialog exactly if it lengthens the history**, by the place that it goes
to. -/
theorem moves_step (s : Session) (l : Library) (c : Call) : Moves l s c (c.step s l) := by
  obtain ⟨-, hr⟩ := result_step s l c
  cases hr with
  | rests ha hs => exact .stays ha (by rw [hs]) (.inl hs) (by rw [hs])
  | @leads d link place hf hl ha hs =>
    cases place with
    | none =>
      exact .stays (by simp [ha]) (by rw [hs]; rfl) (.inr (by rw [hs]; rfl)) (by rw [hs]; rfl)
    | some p => exact .arrives hf hl ha (by rw [hs]; rfl) (by rw [hs]; rfl) (by rw [hs]; rfl)
  | founders ha hs => exact .stays (by simp [ha]) (by rw [hs]) (.inr (by rw [hs])) (by rw [hs])

/-! ### The invariant -/

theorem Within.lt_length (h : s.Within l) {id : String} (hid : id ∈ s.dialog) :
    s.tree < l.shelf.length := by
  obtain ⟨d, hd⟩ := Roster.exists_get?_of_mem_keys (h.dialog id hid)
  exact Library.lt_length_of_get? hd

theorem Within.of_extends (h : s.Within l) (hl : l.Extends l') : s.Within l' := by
  refine ⟨hl.trees h.tree, fun id hid => ?_⟩
  rw [hl.keys s.tree (h.lt_length hid)]
  exact h.dialog id hid

/-- A call leaves the session at a dialog of a registered tree, or at its end. -/
theorem Within.step (h : s.Within l) (c : Call) :
    (c.step s l).session.Within (c.step s l).library := by
  obtain ⟨hl, hr⟩ := result_step s l c
  have hsession : (c.step s l).session.Within l := by
    cases hr with
    | rests ha hs =>
      rw [hs]
      exact h
    | leads hf hlink ha hs =>
      rw [hs]
      exact h.arrived (hlink.inside h.tree)
    | founders ha hs =>
      rw [hs]
      exact ⟨h.tree, fun id hid => by cases hid⟩
  exact hsession.of_extends hl

theorem Walking.of_extends (h : Walking entry s l) (hl : l.Extends l') : Walking entry s l' := by
  refine ⟨h.within.of_extends hl, h.begins, fun id hid => ?_⟩
  rw [hl.id s.tree (h.within.lt_length hid)]
  exact h.here id hid

theorem Walking.arrived {place : Option (TreeRef × String)} (h : Walking entry s l)
    (hp : ∀ p ∈ place, l.Inside p) : Walking entry (s.arrived l place) l := by
  have hwithin := h.within.arrived hp
  cases place with
  | none => exact ⟨hwithin, h.begins, fun id hid => by cases hid⟩
  | some p =>
    refine ⟨hwithin, ?_, fun id hid => ?_⟩
    · have hb := h.begins
      rw [List.head?_eq_some_iff] at hb
      obtain ⟨more, hmore⟩ := hb
      simp [Session.arrived, hmore]
    · obtain rfl := Option.some.inj hid
      simp [Session.arrived]

/-- **A call keeps a walk.** -/
theorem Walking.step (h : Walking entry s l) (c : Call) :
    Walking entry (c.step s l).session (c.step s l).library := by
  obtain ⟨hl, hr⟩ := result_step s l c
  have hsession : Walking entry (c.step s l).session l := by
    cases hr with
    | rests ha hs =>
      rw [hs]
      exact h
    | leads hf hl ha hs =>
      rw [hs]
      exact h.arrived (hl.inside h.within.tree)
    | founders ha hs =>
      rw [hs]
      exact ⟨⟨h.within.tree, fun id hid => by cases hid⟩, h.begins, fun id hid => by cases hid⟩
  exact hsession.of_extends hl

/-- A session starts as a walk that has got no further than the root of its tree. -/
theorem walking_start {console : Console} {key : String} (h : start l console key = .ok s) :
    ∃ r, l.find key = some r ∧ Walking ((l.tree r).id, (l.tree r).root) s l := by
  unfold start Library.get at h
  cases hr : l.find key with
  | none =>
    rw [hr] at h
    cases h
  | some r =>
    simp only [hr, Tree.rootDialog, Tree.get] at h
    cases hd : (l.tree r).dialogs.get? (l.tree r).root with
    | none =>
      rw [hd] at h
      cases h
    | some d =>
      rw [hd] at h
      obtain rfl := Except.ok.inj h
      have hid : d.id = (l.tree r).root := Roster.key_of_get? hd
      refine ⟨r, rfl, ⟨Library.find_mem_trees hr, fun id hid => ?_⟩, by rw [hid]; rfl,
        fun id hid => ?_⟩
      · obtain rfl := Option.some.inj hid
        exact List.mem_map_of_mem (Roster.mem_of_get? hd)
      · obtain rfl := Option.some.inj hid
        rfl

/-! ### After the end -/

/-- The answer to a call when the story has ended. -/
def Call.IsVain (answer : Except Failure (Option String)) : Call → Prop
  | .choose id => ∃ f, answer = .error f ∧ f.fault = .storyEnded id ∧ f.fault.family = .choice
  | .advance => answer = .ok none

theorem current_of_ended (h : s.ended = true) : s.current l = none := by
  rw [current, Option.isNone_iff_eq_none.1 h, Option.bind_none]

/-- **A call after the end changes nothing.** -/
theorem step_of_ended (h : s.ended = true) (c : Call) :
    c.IsVain (c.step s l).answer ∧ (c.step s l).session = s ∧ (c.step s l).library = l := by
  have hcur := current_of_ended (l := l) h
  cases c with
  | choose id =>
    have hs : s.choose l id = ⟨.error (s.console.fail (.storyEnded id)), s, l, []⟩ := by
      simp only [choose, hcur]
    show Call.IsVain (s.choose l id).answer _ ∧ (s.choose l id).session = s ∧
      (s.choose l id).library = l
    rw [hs]
    exact ⟨⟨_, rfl, rfl, rfl⟩, rfl, rfl⟩
  | advance =>
    have hs : s.advance l = ⟨.ok none, s, l, []⟩ := by simp only [advance, hcur]
    show Call.IsVain (s.advance l).answer _ ∧ (s.advance l).session = s ∧
      (s.advance l).library = l
    rw [hs]
    exact ⟨rfl, rfl, rfl⟩

end Session

/-! ## Journeys -/

/-- What can happen to a library between the calls of a session: a field of an entity is set, a
tree is made, or one is put on the register, from the shelf or from a script. -/
inductive Library.Change
  | edit (r : TreeRef) (place : Place) (e : Edit)
  | shelve (t : Tree)
  | register (key : String) (r : TreeRef)
  | load (disk : Disk) (path : Path.Spelling)

/-- The library after a change. What is refused changes nothing. -/
def Library.change (l : Library) : Library.Change → Library
  | .edit r place e => l.modify r (·.edit place e)
  | .shelve t => (l.place t).2
  | .register key r =>
    match l.add key r with
    | .ok (l, _) => l
    | .error _ => l
  | .load disk path =>
    match l.load disk path with
    | .ok loaded => loaded.library
    | .error _ => l

theorem Library.extends_change (l : Library) (c : Library.Change) : l.Extends (l.change c) := by
  cases c with
  | edit r place e =>
    exact l.extends_modify r (fun t => t.id_edit place e) fun t => t.keys_edit place e
  | shelve t => exact l.extends_place t
  | register key r =>
    cases h : l.add key r with
    | ok added =>
      simp only [change, h]
      exact extends_add h
    | error f =>
      simp only [change, h]
      exact .refl l
  | load disk path =>
    cases h : l.load disk path with
    | ok loaded =>
      simp only [change, h]
      exact extends_load h
    | error f =>
      simp only [change, h]
      exact .refl l

/-- A session and the library that it walks through. -/
structure Journey where
  session : Session
  library : Library

namespace Journey

open Session (Call Walking Moves)

/-- A call of the session, or a change of its library. -/
inductive Event
  | call (c : Call)
  | change (c : Library.Change)

/-- The journey after an event. A call that fails is an event like any other. -/
def after (j : Journey) : Event → Journey
  | .call c => ⟨(c.step j.session j.library).session, (c.step j.session j.library).library⟩
  | .change c => ⟨j.session, j.library.change c⟩

/-- The journey after some events. -/
def run (j : Journey) (events : List Event) : Journey := events.foldl after j

variable {entry : String × String} {j : Journey}

theorem run_cons (j : Journey) (e : Event) (events : List Event) :
    j.run (e :: events) = (j.after e).run events := rfl

theorem walking_run (h : Walking entry j.session j.library) (events : List Event) :
    Walking entry (j.run events).session (j.run events).library := by
  induction events generalizing j with
  | nil => exact h
  | cons e events ih =>
    rw [run_cons]
    apply ih
    cases e with
    | call c => exact h.step c
    | change c => exact h.of_extends (j.library.extends_change c)

theorem history_prefix_after (j : Journey) (e : Event) :
    j.session.history <+: (j.after e).session.history := by
  cases e with
  | change c => exact List.prefix_refl _
  | call c =>
    show j.session.history <+: (c.step j.session j.library).session.history
    cases Session.moves_step j.session j.library c with
    | arrives hf hl ha ht hd hh => exact ⟨_, hh.symm⟩
    | stays ha ht hd hh => exact ⟨[], by rw [hh, List.append_nil]⟩

/-- **The history grows at its end only.** -/
theorem history_prefix_run (j : Journey) (events : List Event) :
    j.session.history <+: (j.run events).session.history := by
  induction events generalizing j with
  | nil => exact List.prefix_refl _
  | cons e events ih =>
    rw [run_cons]
    exact (history_prefix_after j e).trans (ih (j.after e))

/-- **A session that has ended stays as it is.** -/
theorem session_run_of_ended (h : j.session.ended = true) (events : List Event) :
    (j.run events).session = j.session := by
  induction events generalizing j with
  | nil => rfl
  | cons e events ih =>
    have hsame : (j.after e).session = j.session := by
      cases e with
      | change c => rfl
      | call c => exact (Session.step_of_ended h c).2.1
    rw [run_cons, ih (by rw [hsame]; exact h), hsame]

/-- What holds at every point of a journey that began at `entry`. -/
structure IsWalk (entry : String × String) (j : Journey) : Prop where
  walking : Walking entry j.session j.library
  /-- What the next call does to the history. -/
  moves : ∀ c : Call, Moves j.library j.session c (c.step j.session j.library)
  /-- The history is the beginning of every later one. -/
  grows : ∀ events, j.session.history <+: (j.run events).session.history
  /-- Once it has ended, the session stays as it is, and so does the library whatever is called. -/
  ends : j.session.ended = true → ∀ events, (j.run events).session = j.session ∧
    ∀ c : Call, c.IsVain (c.step (j.run events).session (j.run events).library).answer ∧
      (c.step (j.run events).session (j.run events).library).library = (j.run events).library

/-- **A session is always a real walk.** It begins at the root of the tree that the key names, and
whatever is called, fails or is changed in between, it is in a registered tree and at one of its
dialogs until the story ends; its history grows by the places that calls lead to and by nothing
else; and an ended session stays ended. -/
theorem session_is_walk {l : Library} {console : Console} {key : String} {s : Session}
    (h : Session.start l console key = .ok s) :
    ∃ r, l.find key = some r ∧
      ∀ events, IsWalk ((l.tree r).id, (l.tree r).root) (run ⟨s, l⟩ events) := by
  obtain ⟨r, hr, hw⟩ := Session.walking_start h
  refine ⟨r, hr, fun events => ?_⟩
  have hwalking : Walking ((l.tree r).id, (l.tree r).root) (run ⟨s, l⟩ events).session
      (run ⟨s, l⟩ events).library := walking_run (j := ⟨s, l⟩) hw events
  refine ⟨hwalking, fun c => Session.moves_step _ _ c, fun more => history_prefix_run _ more,
    fun he more => ?_⟩
  have hsame := session_run_of_ended he more
  refine ⟨hsame, fun c => ?_⟩
  have hstep := Session.step_of_ended (l := ((run ⟨s, l⟩ events).run more).library)
    (s := ((run ⟨s, l⟩ events).run more).session) (by rw [hsame]; exact he) c
  exact ⟨hstep.1, hstep.2.2⟩

theorem loop_is_walk :
    Session.start Session.loopLibrary {} "loop.txt" =
        .ok ⟨{}, 0, some "gate", [("loop", "gate")]⟩ ∧
      ∃ r, Session.loopLibrary.find "loop.txt" = some r ∧
        ∀ events, IsWalk ((Session.loopLibrary.tree r).id, (Session.loopLibrary.tree r).root)
          (run ⟨⟨{}, 0, some "gate", [("loop", "gate")]⟩, Session.loopLibrary⟩ events) := by
  have h : Session.start Session.loopLibrary {} "loop.txt" =
      .ok ⟨{}, 0, some "gate", [("loop", "gate")]⟩ := by decide +kernel
  exact ⟨h, session_is_walk h⟩

/-- A link that loses its kind ends the story, and the history tells what was seen until then. -/
example :
    (run ⟨⟨{}, 0, some "gate", [("loop", "gate")]⟩, Session.loopLibrary⟩
      [.call (.choose "anew"), .change (.edit 0 (.decision "gate" "stay") (.kind none)),
        .call (.choose "stay"), .call .advance]).session =
      ⟨{}, 0, none, [("loop", "gate"), ("loop", "gate")]⟩ := by
  decide +kernel

end Journey

end Plotline
