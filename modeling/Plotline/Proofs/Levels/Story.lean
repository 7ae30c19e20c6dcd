import Plotline.Proofs.Levels.Script
import Plotline.Story.Play

/-!
# Stories at other levels

Libraries, sessions and plays do the same at all levels. What is registered, found, resolved, chosen
and written does not depend on a level, and neither does a failure; of the notices that are made on
the way, each level lets its own through.

* `Library.uniform_add`, `Library.uniform_load` and `Library.uniform_loadAll` fill the register,
  `Library.uniform_checkLinks` checks it.
* `Session.uniform_choose` and `Session.advance_tuned` are the calls of a session.
* `Play.uniform_run` follows a play for any number of turns.
-/

namespace Plotline

variable (f : Levels)

/-! ## Libraries -/

/-- The register with its console at another level. -/
def Register.tuned (r : Register) (f : Levels) : Register :=
  { r with console := r.console.tuned f }

namespace Library

/-- The library with all its consoles at other levels. -/
def tuned (l : Library) (f : Levels) : Library :=
  { shelf := l.shelf.map (·.tuned f), register := l.register.tuned f }

variable (l : Library) (r : TreeRef)

@[simp] theorem tuned_tuned (g : Levels) : (l.tuned f).tuned g = l.tuned g := by
  have hshelf : (l.shelf.map (·.tuned f)).map (·.tuned g) = l.shelf.map (·.tuned g) := by simp
  simp only [tuned, hshelf]
  rfl

@[simp] theorem tree_tuned : (l.tuned f).tree r = (l.tree r).tuned f := by
  have hshelf : (l.tuned f).shelf = l.shelf.map (·.tuned f) := rfl
  rw [tree, tree, hshelf, List.getD_eq_getElem?_getD, List.getD_eq_getElem?_getD,
    List.getElem?_map]
  cases l.shelf[r]? with
  | none => exact (Tree.blank_tuned f).symm
  | some t => rfl

@[simp] theorem entries_tuned : (l.tuned f).register.entries = l.register.entries := rfl

@[simp] theorem console_tuned :
    (l.tuned f).register.console = l.register.console.tuned f := rfl

@[simp] theorem trees_tuned : (l.tuned f).trees = l.trees := rfl

@[simp] theorem length_tuned : (l.tuned f).shelf.length = l.shelf.length := List.length_map _

@[simp] theorem place_tuned (t : Tree) :
    (l.tuned f).place (t.tuned f) = ((l.place t).1, (l.place t).2.tuned f) := by
  simp [place, tuned]

theorem modify_tuned {h h' : Tree → Tree} (hcomm : ∀ t : Tree, h' (t.tuned f) = (h t).tuned f) :
    (l.tuned f).modify r h' = (l.modify r h).tuned f := by
  have hshelf : (l.shelf.map (·.tuned f)).modify r h' = (l.shelf.modify r h).map (·.tuned f) := by
    apply List.ext_getElem?
    intro q
    simp only [List.getElem?_modify, List.getElem?_map]
    cases l.shelf[q]? with
    | none => rfl
    | some t => split <;> simp [hcomm]
  rw [modify, tuned, hshelf]
  rfl

@[simp] theorem findById_tuned (id : String) : (l.tuned f).findById id = l.findById id := by
  simp [findById]

@[simp] theorem find_tuned (key : String) : (l.tuned f).find key = l.find key := by
  rw [find, find, findById_tuned]
  rfl

@[simp] theorem has_tuned (key : String) : (l.tuned f).has key = l.has key := by
  rw [has, has, findById_tuned]
  rfl

@[simp] theorem get_tuned (key : String) : (l.tuned f).get key = l.get key := by
  rw [get, get, find_tuned]
  rfl

@[simp] theorem resolve_tuned (link : Link) :
    (l.tuned f).resolve r link = l.resolve r link := by
  simp only [resolve, get_tuned, tree_tuned, Tree.rootDialog_tuned, Tree.resolveLink_tuned]
  cases link.target with
  | none => rfl
  | some target =>
    dsimp only
    split
    · cases l.get target with
      | error e => rfl
      | ok q =>
        dsimp only
        cases (l.tree q).rootDialog <;> rfl
    · cases (l.tree r).resolveLink link with
      | error e => rfl
      | ok d => cases d <;> rfl

@[simp] theorem danglingLinks_tuned : (l.tuned f).danglingLinks = l.danglingLinks := by
  have hdangling : (l.tuned f).isDangling = l.isDangling := by
    funext link
    have hhas : (l.tuned f).has = l.has := funext (l.has_tuned f)
    rw [isDangling, hhas, isDangling]
  simp only [danglingLinks, trees_tuned, tree_tuned, Tree.owners_tuned, hdangling, Tree.id_tuned]

/-- The library after a change, at other levels, and the notices that these let through. -/
def addedTuned (f : Levels) :
    Except Failure (Library × List Posting) → Except Failure (Library × List Posting) :=
  Except.map fun (l, ps) => (l.tuned f, f.heard ps)

/-- The library after a script was loaded, at other levels, and the notices that these let
through. -/
def Loaded.tuned (f : Levels) (loaded : Loaded) : Loaded :=
  ⟨loaded.tree, loaded.library.tuned f, f.heard loaded.postings⟩

/-- The library after several scripts, at other levels, and the notices that these let through. -/
def allTuned (f : Levels) (r : Except Failure (List TreeRef) × Library × List Posting) :
    Except Failure (List TreeRef) × Library × List Posting :=
  (r.1, r.2.1.tuned f, f.heard r.2.2)

/-- **A tree is registered at all levels or at none.** -/
theorem uniform_add (key : String) : Uniform addedTuned fun f => (l.tuned f).add key r := by
  simp only [add, entries_tuned, console_tuned, tree_tuned, Tree.id_tuned, findById_tuned,
    Console.warn_tuned]
  cases l.register.entries.insert? ⟨key, r⟩ with
  | none => exact ⟨.error (l.register.console.fail (.keyTaken key)), fun f => rfl⟩
  | some entries =>
    refine ⟨.ok ({ l with register := { l.register with entries := entries } },
      if (l.findById (l.tree r).id).isSome then
        [l.register.console.notice .warning ("tree id used twice: " ++ (l.tree r).id)
          ["source: " ++ key]]
      else []), fun f => ?_⟩
    simp only [addedTuned, Except.map]
    split <;> rfl

/-- **A script is loaded at all levels or at none.** -/
theorem uniform_load (disk : Disk) (path : Path.Spelling) :
    Uniform (fun f => Except.map (Loaded.tuned f)) fun f => (l.tuned f).load disk path := by
  cases path with
  | broken b => exact ⟨.error (l.register.console.fail (.brokenPath b)), fun f => rfl⟩
  | text path =>
    let options : Script.Options := { trim := l.register.trim, console := l.register.console }
    obtain ⟨read, hread⟩ := Script.uniform_load options disk path
    have hoptions : ∀ f, ({ trim := (l.tuned f).register.trim
                            console := (l.tuned f).register.console } : Script.Options) =
        options.tuned f := fun _ => rfl
    simp only [load, entries_tuned, hoptions, hread]
    split
    · exact ⟨.error (l.register.console.fail (.alreadyLoaded path)), fun f => rfl⟩
    · cases read with
      | error e => exact ⟨.error e, fun f => rfl⟩
      | ok r =>
        obtain ⟨t, parsing⟩ := r
        obtain ⟨added, hadded⟩ := (l.place t).2.uniform_add (l.place t).1 path
        simp only [Script.readTuned, Except.map, place_tuned, hadded]
        cases added with
        | error e => exact ⟨.error e, fun f => rfl⟩
        | ok a =>
          obtain ⟨l', adding⟩ := a
          exact ⟨.ok ⟨(l.place t).1, l', parsing ++ adding⟩, fun f => by
            simp [addedTuned, Except.map, Loaded.tuned]⟩

theorem uniform_loadAll (disk : Disk) (paths : List Path.Spelling) :
    Uniform allTuned fun f => (l.tuned f).loadAll disk paths := by
  induction paths generalizing l with
  | nil => exact ⟨(.ok [], l, []), fun f => rfl⟩
  | cons path paths ih =>
    obtain ⟨loaded, hloaded⟩ := l.uniform_load disk path
    simp only [loadAll, hloaded]
    cases loaded with
    | error e => exact ⟨(.error e, l, []), fun f => rfl⟩
    | ok loaded =>
      obtain ⟨⟨refs, l', ps⟩, hrest⟩ := ih loaded.library
      refine ⟨(refs.map (loaded.tree :: ·), l', loaded.postings ++ ps), fun f => ?_⟩
      simp only [Except.map, Loaded.tuned, hrest, allTuned, Levels.heard_append]

theorem uniform_checkLinks : Uniform Levels.heard fun f => (l.tuned f).checkLinks := by
  refine ⟨l.danglingLinks.map fun found =>
    l.register.console.notice .warning ("dangling tree link: " ++ Link.shown found.2.link.target)
      ["from: " ++ found.2.id, "in tree: " ++ found.1], fun f => ?_⟩
  rw [List.map_eq_flatMap, Levels.heard_flatMap]
  simp only [checkLinks, danglingLinks_tuned, console_tuned, Console.warn_tuned]

end Library

/-! ## Sessions -/

namespace Session

/-- The session with its console at another level. -/
def tuned (s : Session) (f : Levels) : Session := { s with console := s.console.tuned f }

/-- What a step leaves behind, at other levels, and the notices that these let through. -/
def Step.tuned (f : Levels) (step : Step) : Step :=
  ⟨step.answer, step.session.tuned f, step.library.tuned f, f.heard step.postings⟩

variable (l : Library) (s : Session)

@[simp] theorem tree_tuned : (s.tuned f).tree = s.tree := rfl

@[simp] theorem dialog_tuned : (s.tuned f).dialog = s.dialog := rfl

@[simp] theorem console_tuned : (s.tuned f).console = s.console.tuned f := rfl

theorem start_tuned (c : Console) (key : String) :
    start (l.tuned f) (c.tuned f) key = (start l c key).map (·.tuned f) := by
  simp only [start, Library.get_tuned]
  cases l.get key with
  | error e => rfl
  | ok r =>
    simp only [Library.tree_tuned, Tree.rootDialog_tuned]
    cases (l.tree r).rootDialog <;> rfl

@[simp] theorem current_tuned :
    (s.tuned f).current (l.tuned f) = (s.current l).map (·.tuned f) := by
  rw [current, current, dialog_tuned, tree_tuned]
  cases s.dialog with
  | none => rfl
  | some id => simp

@[simp] theorem move_tuned (d : Option Library.Destination) :
    (s.tuned f).move (l.tuned f) d = ((s.move l d).1, (s.move l d).2.tuned f) := by
  match d with
  | none => rfl
  | some ⟨r, none⟩ => rfl
  | some ⟨r, some dialog⟩ =>
    simp only [move, Library.tree_tuned]
    rfl

/-- **Advancing is the same at all levels.** -/
theorem advance_tuned : (s.tuned f).advance (l.tuned f) = Step.tuned f (s.advance l) := by
  rw [advance, advance, current_tuned, tree_tuned]
  cases s.current l with
  | none => rfl
  | some d =>
    have hlink : (d.tuned f).link = d.link := rfl
    simp only [Option.map_some, hlink, Library.resolve_tuned, move_tuned]
    cases l.resolve s.tree d.link <;> rfl

/-- **A choice is the same at all levels**, and so is the score that it leads to. -/
theorem uniform_choose (id : String) :
    Uniform Step.tuned fun f => (s.tuned f).choose (l.tuned f) id := by
  simp only [choose, current_tuned, tree_tuned, console_tuned]
  cases s.current l with
  | none => exact ⟨⟨.error (s.console.fail (.storyEnded id)), s, l, []⟩, fun f => rfl⟩
  | some d =>
    simp only [Option.map_some, Dialog.get_tuned]
    cases d.get id with
    | error e => exact ⟨⟨.error e, s, l, []⟩, fun f => rfl⟩
    | ok x =>
      dsimp only
      split
      · exact ⟨⟨.error (s.console.fail (.decisionDisabled id d.id)), s, l, []⟩, fun f => rfl⟩
      · have hlink : ∀ f, linkOf (d.tuned f) x = linkOf d x := fun _ => rfl
        simp only [hlink, Library.resolve_tuned]
        cases l.resolve s.tree (linkOf d x) with
        | error e => exact ⟨⟨.error e, s, l, []⟩, fun f => rfl⟩
        | ok place =>
          have hscore : ∀ f, (l.tuned f).modify s.tree (·.addScore x.score) =
              (l.modify s.tree (·.addScore x.score)).tuned f := fun f =>
            l.modify_tuned f s.tree fun t => t.addScore_tuned f x.score
          set l' := l.modify s.tree (·.addScore x.score) with hl'
          simp only [hscore, Library.tree_tuned, Tree.score_tuned]
          cases Number.written (l'.tree s.tree).score with
          | error e => exact ⟨⟨.error (s.console.fail (.numeral e)), s, l', []⟩, fun f => rfl⟩
          | ok score =>
            refine ⟨⟨(s.move l' place).1, (s.move l' place).2, l',
              [s.console.notice .info ("chose: " ++ id)
                ["score of " ++ (l'.tree s.tree).id ++ ": " ++ score]]⟩, fun f => ?_⟩
            simp only [Tree.id_tuned, Console.info_tuned, move_tuned]
            rfl

end Session

/-! ## Plays -/

/-- The presenter with its console at another level. -/
def Presenter.tuned (p : Presenter) (f : Levels) : Presenter :=
  { p with console := p.console.tuned f }

namespace Presenter

variable (p : Presenter) (d : Dialog)

@[simp] theorem page_tuned : (p.tuned f).page (d.tuned f) = p.page d := rfl

@[simp] theorem pick_tuned (number : Int) :
    (p.tuned f).pick (d.tuned f) number = p.pick d number := rfl

end Presenter

namespace Play

/-- The play at other levels, with the notices that these let through. -/
def tuned (p : Play) (f : Levels) : Play :=
  { p with
    library := p.library.tuned f, session := p.session.tuned f, postings := f.heard p.postings }

/-- The play after some turns at other levels, and its end. -/
def turnTuned (f : Levels) (r : Play × Option End) : Play × Option End := (r.1.tuned f, r.2)

variable (p : Play) (presenter : Presenter)

theorem follow_tuned (step : Session.Step) :
    (p.tuned f).follow (step.tuned f) = turnTuned f (p.follow step) := by
  have hanswer : (step.tuned f).answer = step.answer := rfl
  simp only [follow, hanswer, turnTuned, tuned]
  cases step.answer <;> simp [Session.Step.tuned]

/-- The player's line is answered in the same way at all levels. -/
theorem uniform_answer (d : Dialog) (line : String) :
    Uniform turnTuned fun f => answer (presenter.tuned f) (p.tuned f) (d.tuned f) line := by
  simp only [answer, Presenter.pick_tuned]
  cases request line with
  | leave => exact ⟨(p, some .left), fun f => rfl⟩
  | badNumber e => exact ⟨(p, some (.failed (presenter.console.fail (.numeral e)))), fun f => rfl⟩
  | other => exact ⟨(p.refuse presenter, none), fun f => rfl⟩
  | number n =>
    dsimp only
    cases presenter.pick d n with
    | none => exact ⟨(p.refuse presenter, none), fun f => rfl⟩
    | some x =>
      obtain ⟨step, hstep⟩ := p.session.uniform_choose p.library x.id
      exact ⟨(p.write (presenter.echo x)).follow step, fun f => by
        rw [← follow_tuned, ← hstep]
        rfl⟩

theorem uniform_turn : Uniform turnTuned fun f => (p.tuned f).turn (presenter.tuned f) := by
  have hcurrent : ∀ f, (p.tuned f).session.current (p.tuned f).library =
      (p.session.current p.library).map (·.tuned f) := fun f =>
    p.session.current_tuned f p.library
  simp only [turn, hcurrent]
  cases p.session.current p.library with
  | none =>
    have hscore : ∀ f, ((p.tuned f).library.tree (p.tuned f).session.tree).score =
        (p.library.tree p.session.tree).score := fun f => by
      show ((p.library.tuned f).tree p.session.tree).score = _
      rw [Library.tree_tuned, Tree.score_tuned]
    simp only [Option.map_none, hscore]
    cases Number.written (p.library.tree p.session.tree).score with
    | error e => exact ⟨(p, some (.failed (presenter.console.fail (.numeral e)))), fun f => rfl⟩
    | ok score =>
      exact ⟨(p.write (presenter.console.out ("The end. Score: " ++ score) []), some .finished),
        fun f => rfl⟩
  | some d =>
    simp only [Option.map_some, Presenter.page_tuned]
    cases hempty : (presenter.visible d).isEmpty with
    | true =>
      have hempty : ∀ f, ((presenter.tuned f).visible (d.tuned f)).isEmpty = true :=
        fun _ => hempty
      simp only [hempty, if_true]
      refine ⟨(p.write (presenter.page d)).follow (p.session.advance p.library), fun f => ?_⟩
      rw [← follow_tuned, ← Session.advance_tuned]
      rfl
    | false =>
      have hempty : ∀ f, ((presenter.tuned f).visible (d.tuned f)).isEmpty = false :=
        fun _ => hempty
      have hinput : ∀ f, (((p.tuned f).write (presenter.page d)).write prompt).input = p.input :=
        fun _ => rfl
      simp only [hempty, Bool.false_eq_true, if_false, hinput]
      cases p.input with
      | nil => exact ⟨((p.write (presenter.page d)).write prompt, some .left), fun f => rfl⟩
      | cons line rest =>
        exact uniform_answer { (p.write (presenter.page d)).write prompt with input := rest }
          presenter d line

/-- **A play takes the same turns at all levels.** -/
theorem uniform_run (n : ℕ) :
    Uniform turnTuned fun f => (p.tuned f).run (presenter.tuned f) n := by
  induction n generalizing p with
  | zero => exact ⟨(p, none), fun f => rfl⟩
  | succ n ih =>
    obtain ⟨⟨p', e⟩, hturn⟩ := p.uniform_turn presenter
    simp only [run, hturn, turnTuned]
    cases e with
    | some e => exact ⟨(p', some e), fun f => rfl⟩
    | none => exact ih p'

@[simp] theorem turnLimit_tuned : (p.tuned f).turnLimit = p.turnLimit := by
  have hcount : dialogCount (p.library.tuned f) = dialogCount p.library := by
    simp [dialogCount, Library.tuned, List.flatMap_map]
  show (p.input.length + 1) * (dialogCount (p.library.tuned f) + 1) + 1 = p.turnLimit
  rw [hcount, turnLimit]

theorem uniform_runAll : Uniform turnTuned fun f => (p.tuned f).runAll (presenter.tuned f) := by
  simp only [runAll, turnLimit_tuned]
  exact p.uniform_run presenter p.turnLimit

end Play

end Plotline
