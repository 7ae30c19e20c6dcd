import Plotline.Proofs.Levels.Story
import Plotline.Stage.Basic

/-!
# The stage at other levels

Whatever an author asks for, the levels of the consoles have no say in it. Two runs of the same
commands, on stages that differ in levels only, give the same answers, leave the same behind and
write the same text, and what one run keeps to itself is what its levels do not let through.

* `Stage.carryOut_tuned`: a command without notices.
* `Stage.alike_carryOut`: any command but the two that deal with consoles and records themselves.
* `Stage.exists_performAll_tuned`: a run, of which those at the various levels are settings.
* `Stage.level_never_changes_behaviour` compares two of them.

The journals take part only in what they keep: they receive what is heard, and no other command
looks at them. So a stage is set to other levels together with whatever journals it has then.
-/

namespace Plotline

variable (f : Levels)

/-- The reply with all consoles in it at other levels. -/
def Reply.tuned (f : Levels) : Reply → Reply
  | .entity e => .entity (e.tuned f)
  | .summary t => .summary (t.tuned f)
  | r => r

@[simp] theorem Reply.tuned_tuned (g : Levels) (r : Reply) :
    Reply.tuned g (Reply.tuned f r) = Reply.tuned g r := by
  cases r <;> simp [Reply.tuned]

/-- The stage with all its consoles at other levels, and with other journals. -/
def Stage.tuned (s : Stage) (f : Levels) (journals : List Journal) : Stage :=
  { s with
    consoles := s.consoles.map fun (name, c) => (name, c.tuned f)
    journals := journals
    library := s.library.tuned f
    session := s.session.map (·.tuned f)
    formerRegister := s.formerRegister.map (·.tuned f)
    presenter := s.presenter.tuned f }

/-- What a command leaves behind, at other levels, and the notices that these let through. -/
def Performed.tuned (p : Performed) (f : Levels) (journals : List Journal) : Performed :=
  ⟨p.answer.map (Reply.tuned f), p.stage.tuned f journals, f.heard p.postings, p.output⟩

/-- A command that makes no console and does not look at the records that are kept. -/
def Command.IsOperation : Command → Prop
  | .openConsole .. | .records .. => False
  | _ => True

/-- Such a command that makes no notice and passes none on. -/
def Command.IsSilent : Command → Prop
  | .parse .. | .read .. | .register .. | .load .. | .loadAll .. | .checkLinks | .choose _
  | .advance | .play _ => False
  | c => c.IsOperation

namespace Stage

variable (s : Stage) (js : List Journal)

theorem tuned_tuned (g : Levels) (js' : List Journal) :
    (s.tuned f js).tuned g js' = s.tuned g js' := by
  simp [tuned, Function.comp_def, Session.tuned, Register.tuned, Presenter.tuned]

@[simp] theorem library_tuned : (s.tuned f js).library = s.library.tuned f := rfl

@[simp] theorem session_tuned : (s.tuned f js).session = s.session.map (·.tuned f) := rfl

/-! ## Names -/

theorem lookup_tuned (l : List (String × Console)) (name : String) :
    (l.map fun (n, c) => (n, c.tuned f)).lookup name = (l.lookup name).map (·.tuned f) := by
  induction l with
  | nil => rfl
  | cons entry l ih =>
    obtain ⟨n, c⟩ := entry
    rw [List.map_cons, List.lookup_cons, List.lookup_cons]
    cases name == n with
    | true => rfl
    | false => exact ih

@[simp] theorem console?_tuned (name : Option String) :
    (s.tuned f js).console? name = (s.console? name).map (·.tuned f) := by
  cases name with
  | none => rfl
  | some name => exact lookup_tuned f s.consoles name

@[simp] theorem consoleOrFresh_tuned (name : Option String) :
    (s.tuned f js).consoleOrFresh name = (s.consoleOrFresh name).tuned f := by
  rw [consoleOrFresh, consoleOrFresh, console?_tuned]
  cases s.console? name with
  | none => exact (Console.fresh_tuned f).symm
  | some c => rfl

@[simp] theorem ref_tuned (tree : String) : (s.tuned f js).ref tree = s.ref tree := by
  rw [ref, ref, library_tuned, Library.length_tuned]
  rfl

@[simp] theorem tree_tuned (name : String) :
    (s.tuned f js).tree name = (s.tree name).tuned f := by
  rw [tree, ref_tuned, library_tuned, Library.tree_tuned, tree]

theorem placeTree_tuned (name : String) (t : Tree) :
    (s.tuned f js).placeTree name (t.tuned f) = (s.placeTree name t).tuned f js := by
  simp only [placeTree, library_tuned, Library.place_tuned]
  rfl

theorem setTree_tuned (name : String) (t : Tree) :
    (s.tuned f js).setTree name (t.tuned f) = (s.setTree name t).tuned f js := by
  have hmodify : (s.library.tuned f).modify (s.ref name) (fun _ => t.tuned f) =
      (s.library.modify (s.ref name) fun _ => t).tuned f :=
    s.library.modify_tuned f (s.ref name) fun _ => rfl
  rw [setTree, ref_tuned, library_tuned, hmodify]
  rfl

/-! ## Results -/

theorem sessionLibrary_tuned :
    (s.tuned f js).sessionLibrary = s.sessionLibrary.tuned f := by
  have hformer : (s.tuned f js).formerRegister = s.formerRegister.map (·.tuned f) := rfl
  rw [sessionLibrary, sessionLibrary, hformer]
  cases s.formerRegister <;> rfl

theorem followStep_tuned (step : Session.Step) :
    (s.tuned f js).followStep (step.tuned f) = (s.followStep step).tuned f js := by
  obtain ⟨answer, session, l, ps⟩ := step
  cases answer <;> rfl

/-! ## Commands without notices -/

theorem addDialog_tuned (tree id : String) (message : Option String) (link : Link) (voice : Voice) :
    (s.tuned f js).addDialog tree id message link voice =
      (s.addDialog tree id message link voice).tuned f js := by
  have hinsert : ∀ console : Console, ((s.tree tree).tuned f).insert
        { id := id, message := message, link := link, console := console.tuned f } =
      ((s.tree tree).insert
        { id := id, message := message, link := link, console := console }).map (·.tuned f) :=
    fun console => (s.tree tree).insert_tuned f
      { id := id, message := message, link := link, console := console }
  cases voice <;>
    simp only [addDialog, tree_tuned, Tree.console_tuned, consoleOrFresh_tuned, hinsert] <;>
    rcases (s.tree tree).insert _ with e | t <;>
    simp only [Except.map, setTree_tuned] <;>
    rfl

theorem carryOut_tuned (disk : Disk) (c : Command) (hc : c.IsSilent) :
    (s.tuned f js).carryOut disk c = (s.carryOut disk c).tuned f js := by
  cases c with
  | openConsole | records | parse | read | register | load | loadAll | checkLinks | choose
  | advance | play => exact hc.elim
  | construct tree root score treeId console =>
    have ht : ({ id := treeId, root := root, score := score
                 console := (s.consoleOrFresh console).tuned f } : Tree) =
        ({ id := treeId, root := root, score := score
           console := s.consoleOrFresh console } : Tree).tuned f := rfl
    simp only [carryOut, consoleOrFresh_tuned, ht, placeTree_tuned]
    rfl
  | addDialog tree id message link voice => exact s.addDialog_tuned f js tree id message link voice
  | addDecision tree dialog x =>
    simp only [carryOut, tree_tuned, Tree.insertDecision_tuned]
    cases (s.tree tree).insertDecision dialog x with
    | error e => rfl
    | ok t =>
      simp only [Except.map, setTree_tuned]
      rfl
  | edit tree place e =>
    simp only [carryOut, tree_tuned, Tree.at_tuned, Tree.edit_tuned, setTree_tuned]
    cases (s.tree tree).at place with
    | error e => rfl
    | ok x =>
      simp only [Except.map]
      cases ((s.setTree tree ((s.tree tree).edit place e)).tree tree).at place <;> rfl
  | addScore tree n =>
    simp only [carryOut, tree_tuned, Tree.addScore_tuned, setTree_tuned]
    rfl
  | get tree place =>
    simp only [carryOut, tree_tuned, Tree.at_tuned]
    cases (s.tree tree).at place <;> rfl
  | contains tree dialog id =>
    cases dialog with
    | none =>
      simp only [carryOut, tree_tuned, Tree.dialogs_tuned, Roster.contains_map]
      rfl
    | some dialog =>
      simp only [carryOut, tree_tuned, Tree.get_tuned]
      cases (s.tree tree).get dialog <;> rfl
  | size tree dialog =>
    cases dialog with
    | none =>
      simp only [carryOut, tree_tuned, Tree.dialogs_tuned, Roster.size_map]
      rfl
    | some dialog =>
      simp only [carryOut, tree_tuned, Tree.get_tuned]
      cases (s.tree tree).get dialog <;> rfl
  | takeSnapshot tree dialog name =>
    simp only [carryOut, tree_tuned, Tree.snapshot_tuned, ref_tuned]
    cases (s.tree tree).snapshot dialog <;> rfl
  | showSnapshot name =>
    have hsnapshots : (s.tuned f js).snapshots = s.snapshots := rfl
    simp only [carryOut, hsnapshots, library_tuned, Library.tree_tuned, Snapshot.messages_tuned]
    cases s.snapshots.lookup name <;> rfl
  | rootDialog tree =>
    simp only [carryOut, tree_tuned, Tree.rootDialog_tuned]
    cases (s.tree tree).rootDialog <;> rfl
  | resolveLink tree place =>
    simp only [carryOut, tree_tuned, Tree.at_tuned, Tree.resolveLink_tuned]
    cases (s.tree tree).at place with
    | error e => rfl
    | ok x =>
      simp only [Except.map, Entity.link_tuned]
      cases (s.tree tree).resolveLink x.link with
      | error e => rfl
      | ok d => cases d <;> rfl
  | describe tree place =>
    simp only [carryOut, tree_tuned, Tree.at_tuned]
    cases (s.tree tree).at place with
    | error e => rfl
    | ok x =>
      have hmain : (s.tuned f js).mainConsole = s.mainConsole.tuned f :=
        s.consoleOrFresh_tuned f js (some "main")
      simp only [Except.map, Entity.describe_tuned, hmain]
      cases x.describe <;> rfl
  | dangling tree =>
    simp only [carryOut, tree_tuned, Tree.danglingLinks_tuned]
    rfl
  | newRegister trim console =>
    have hformer : (s.tuned f js).formerRegister = s.formerRegister.map (·.tuned f) := rfl
    simp only [carryOut, consoleOrFresh_tuned, session_tuned, hformer]
    cases s.session <;> cases s.formerRegister <;> rfl
  | find key tree =>
    simp only [carryOut, library_tuned, Library.get_tuned, Library.tree_tuned]
    cases s.library.get key <;> rfl
  | has key =>
    simp only [carryOut, library_tuned, Library.has_tuned]
    rfl
  | listRegister =>
    simp only [carryOut, library_tuned, Library.tree_tuned, Tree.id_tuned]
    rfl
  | resolve tree place =>
    have hids : idsOf (s.library.tuned f) = idsOf s.library := by
      funext d
      rw [idsOf, idsOf, Library.tree_tuned, Tree.id_tuned]
    simp only [carryOut, tree_tuned, Tree.at_tuned, ref_tuned, library_tuned,
      Library.resolve_tuned, hids]
    cases (s.tree tree).at place with
    | error e => rfl
    | ok x =>
      simp only [Except.map, Entity.link_tuned]
      cases s.library.resolve (s.ref tree) x.link <;> rfl
  | danglingTreeLinks =>
    simp only [carryOut, library_tuned, Library.danglingLinks_tuned]
    rfl
  | startSession key console =>
    have hconsole : ((s.tuned f js).console? console).getD (s.library.tuned f).register.console =
        ((s.console? console).getD s.library.register.console).tuned f := by
      rw [console?_tuned]
      cases s.console? console <;> rfl
    simp only [carryOut, library_tuned, hconsole, Session.start_tuned]
    cases Session.start s.library _ key <;> rfl
  | history =>
    simp only [carryOut, session_tuned]
    cases s.session <;> rfl
  | presenter showDisabled speaker disabledMark console =>
    have hmain : (s.tuned f js).mainConsole = s.mainConsole.tuned f :=
      s.consoleOrFresh_tuned f js (some "main")
    simp only [carryOut, console?_tuned, hmain]
    cases s.console? console <;> rfl
  | visible tree dialog =>
    simp only [carryOut, tree_tuned, Tree.get_tuned]
    cases (s.tree tree).get dialog <;> rfl
  | lines tree dialog =>
    simp only [carryOut, tree_tuned, Tree.get_tuned]
    cases (s.tree tree).get dialog <;> rfl
  | page tree dialog =>
    simp only [carryOut, tree_tuned, Tree.get_tuned]
    cases (s.tree tree).get dialog <;> rfl
  | pick tree dialog number =>
    simp only [carryOut, tree_tuned, Tree.get_tuned]
    cases (s.tree tree).get dialog <;> rfl
  | echo tree dialog decision =>
    simp only [carryOut, tree_tuned, Tree.at_tuned]
    cases (s.tree tree).at (.decision dialog decision) with
    | error e => rfl
    | ok x => cases x <;> rfl

/-! ## Commands with notices -/

/-- What comes at the various levels, and with whatever journals, is one thing. -/
def PerformsAlike (result : Levels → List Journal → Performed) : Prop :=
  ∃ p : Performed, ∀ f js, result f js = p.tuned f js

theorem alike_placeRead {read : Levels → Except Failure (Tree × List Posting)}
    (h : Uniform Script.readTuned read) (tree : String) :
    PerformsAlike fun f js => (s.tuned f js).placeRead tree (read f) := by
  obtain ⟨r, hr⟩ := h
  refine ⟨s.placeRead tree r, fun f js => ?_⟩
  show (s.tuned f js).placeRead tree (read f) = _
  rw [hr f]
  cases r with
  | error e => rfl
  | ok r =>
    obtain ⟨t, ps⟩ := r
    simp only [Script.readTuned, Except.map, placeRead, placeTree_tuned]
    rfl

theorem alike_register (key tree : String) (disk : Disk) :
    PerformsAlike fun f js => (s.tuned f js).carryOut disk (.register key tree) := by
  obtain ⟨added, hadded⟩ := s.library.uniform_add (s.ref tree) key
  simp only [carryOut, library_tuned, ref_tuned, tree_tuned, Tree.id_tuned, hadded]
  cases added with
  | error e => exact ⟨s.refuse e, fun f js => rfl⟩
  | ok added =>
    exact ⟨⟨.ok (.text (s.tree tree).id), { s with library := added.1 }, added.2, ""⟩,
      fun f js => rfl⟩

theorem alike_load (path : Path.Spelling) (tree : String) (disk : Disk) :
    PerformsAlike fun f js => (s.tuned f js).load disk path tree := by
  obtain ⟨loaded, hloaded⟩ := s.library.uniform_load disk path
  simp only [load, library_tuned, hloaded]
  cases loaded with
  | error e => exact ⟨s.refuse e, fun f js => rfl⟩
  | ok loaded =>
    refine ⟨⟨.ok (.entity (.tree (loaded.library.tree loaded.tree))),
      { s with library := loaded.library }.nameTree tree loaded.tree, loaded.postings, ""⟩,
      fun f js => ?_⟩
    simp only [Except.map, Library.Loaded.tuned, Library.tree_tuned]
    rfl

theorem alike_loadAll (paths : List Path.Spelling) (disk : Disk) :
    PerformsAlike fun f js => (s.tuned f js).carryOut disk (.loadAll paths) := by
  obtain ⟨⟨refs, l, ps⟩, hall⟩ := s.library.uniform_loadAll disk paths
  refine ⟨⟨refs.map fun refs => .texts (refs.map fun r => (l.tree r).id),
    { s with library := l }, ps, ""⟩, fun f js => ?_⟩
  simp only [carryOut, library_tuned, hall, Library.allTuned, Library.tree_tuned, Tree.id_tuned]
  cases refs <;> rfl

theorem alike_choose (decision : String) (disk : Disk) :
    PerformsAlike fun f js => (s.tuned f js).carryOut disk (.choose decision) := by
  simp only [carryOut, session_tuned, sessionLibrary_tuned]
  cases s.session with
  | none => exact ⟨s.say .nothing, fun f js => rfl⟩
  | some session =>
    obtain ⟨step, hstep⟩ := session.uniform_choose s.sessionLibrary decision
    exact ⟨s.followStep step, fun f js => by
      simp only [Option.map_some, hstep, followStep_tuned]⟩

theorem alike_advance (disk : Disk) :
    PerformsAlike fun f js => (s.tuned f js).carryOut disk .advance := by
  simp only [carryOut, session_tuned, sessionLibrary_tuned]
  cases s.session with
  | none => exact ⟨s.say .nothing, fun f js => rfl⟩
  | some session =>
    exact ⟨s.followStep (session.advance s.sessionLibrary), fun f js => by
      simp only [Option.map_some, Session.advance_tuned, followStep_tuned]⟩

theorem alike_play (input : List String) (disk : Disk) :
    PerformsAlike fun f js => (s.tuned f js).carryOut disk (.play input) := by
  simp only [carryOut, session_tuned]
  cases s.session with
  | none => exact ⟨s.say .nothing, fun f js => rfl⟩
  | some session =>
    let p : Play := { library := s.sessionLibrary, session := session, input := input }
    have hp : ∀ f js, ({ library := (s.tuned f js).sessionLibrary, session := session.tuned f
                         input := input } : Play) = p.tuned f := fun f js => by
      rw [sessionLibrary_tuned]
      rfl
    have hpresenter : ∀ f js, (s.tuned f js).presenter = s.presenter.tuned f := fun _ _ => rfl
    obtain ⟨⟨p', e⟩, hplay⟩ := p.uniform_runAll s.presenter
    have played : ∀ answer : Except Failure Reply, (∀ f, answer.map (Reply.tuned f) = answer) →
        PerformsAlike fun f js => ⟨answer, (s.tuned f js).withSession (p'.session.tuned f)
          (p'.library.tuned f), f.heard p'.postings, p'.output⟩ := fun answer hanswer =>
      ⟨⟨answer, s.withSession p'.session p'.library, p'.postings, p'.output⟩, fun f js => by
        rw [Performed.tuned, hanswer]
        rfl⟩
    simp only [Option.map_some, playSession, hp, hpresenter, hplay]
    match e with
    | none | some .finished | some .left => exact played (.ok .nothing) fun f => rfl
    | some (.failed failure) => exact played (.error failure) fun f => rfl

/-- **A command leaves the same behind at all levels.** -/
theorem alike_carryOut (disk : Disk) {c : Command} (hc : c.IsOperation) :
    PerformsAlike fun f js => (s.tuned f js).carryOut disk c := by
  cases c with
  | parse tree lines trim treeId score console =>
    let options : Script.Options :=
      { trim := trim, treeId := treeId, score := score, console := s.consoleOrFresh console }
    have h := s.alike_placeRead (Script.uniform_parse options lines) tree
    simp only [carryOut, consoleOrFresh_tuned]
    exact h
  | read tree path trim score console =>
    let options : Script.Options :=
      { trim := trim, score := score, console := s.consoleOrFresh console }
    have h := s.alike_placeRead (Script.uniform_load options disk path) tree
    simp only [carryOut, consoleOrFresh_tuned]
    exact h
  | register key tree => exact s.alike_register key tree disk
  | load path tree => exact s.alike_load path tree disk
  | loadAll paths => exact s.alike_loadAll paths disk
  | checkLinks =>
    obtain ⟨ps, hps⟩ := s.library.uniform_checkLinks
    refine ⟨⟨.ok .nothing, s, ps, ""⟩, fun f js => ?_⟩
    simp only [carryOut, library_tuned, hps]
    rfl
  | choose decision => exact s.alike_choose decision disk
  | advance => exact s.alike_advance disk
  | play input => exact s.alike_play input disk
  | _ => exact ⟨_, fun f js => s.carryOut_tuned f js disk _ hc⟩

/-! ## Runs -/

/-- What a run leaves behind at all levels: it is the same outcomes, command by command. -/
theorem exists_performAll_tuned (disk : Disk) {cs : List Command}
    (hcs : ∀ c ∈ cs, c.IsOperation) :
    ∃ outcomes : List Performed, ∀ f js,
      List.Forall₂ (fun p outcome => ∃ js, p = outcome.tuned f js)
        ((s.tuned f js).performAll disk cs) outcomes := by
  induction cs generalizing s with
  | nil => exact ⟨[], fun f js => .nil⟩
  | cons c cs ih =>
    obtain ⟨hc, hcs⟩ := List.forall_mem_cons.1 hcs
    obtain ⟨p, hp⟩ := s.alike_carryOut disk hc
    obtain ⟨outcomes, hrest⟩ := ih p.stage hcs
    refine ⟨p :: outcomes, fun f js => ?_⟩
    have hp : (s.tuned f js).carryOut disk c = p.tuned f js := hp f js
    rw [performAll, perform, hp]
    exact .cons ⟨_, rfl⟩ (hrest f _)

/-- The run of the commands with all consoles at these levels. -/
def runAt (s : Stage) (disk : Disk) (cs : List Command) (f : Levels) : List Performed :=
  (s.tuned f s.journals).performAll disk cs

/-- The records that are emitted on a channel, one command after the other. -/
def emitted (channel : Nat) (run : List Performed) : List Record :=
  ((run.flatMap (·.postings)).filter (·.channel = channel)).map (·.record)

theorem emitted_cons (channel : Nat) (p : Performed) (run : List Performed) :
    emitted channel (p :: run) = emitted channel [p] ++ emitted channel run := by
  simp [emitted]

/-- On a channel, the records are heard that its level admits. -/
theorem emitted_tuned (channel : Nat) {run outcomes : List Performed}
    (h : List.Forall₂ (fun p outcome => ∃ js, p = outcome.tuned f js) run outcomes) :
    emitted channel run =
      (emitted channel outcomes).filter fun r => r.severity.rank ≤ (f.of channel).val := by
  have hone : ∀ (o : Performed) js, emitted channel [o.tuned f js] =
      (emitted channel [o]).filter fun r => r.severity.rank ≤ (f.of channel).val := by
    intro o js
    simp only [emitted, List.flatMap_singleton, Performed.tuned, Levels.heard, List.filter_map,
      List.filter_filter]
    congr 1
    refine List.filter_congr fun p _ => ?_
    by_cases hc : p.channel = channel <;> simp [hc]
  induction h with
  | nil => rfl
  | @cons p o run outcomes hp _ ih =>
    obtain ⟨js, rfl⟩ := hp
    rw [emitted_cons, emitted_cons channel o, List.filter_append, hone, ih]

/-- Two outcomes of a command that differ in the levels of consoles only, besides the notices that
were heard and kept: the same value or the same failure, the same text written, and the same
stage. -/
structure SameButLevels (g : Levels) (p q : Performed) : Prop where
  answer : q.answer = p.answer.map (Reply.tuned g)
  output : q.output = p.output
  stage : q.stage = p.stage.tuned g q.stage.journals

theorem sameButLevels_tuned (g : Levels) (o : Performed) (js js' : List Journal) :
    SameButLevels g (o.tuned f js) (o.tuned g js') where
  answer := by
    simp only [Performed.tuned]
    cases o.answer <;> simp [Except.map]
  output := rfl
  stage := (o.stage.tuned_tuned f js g js').symm

/-- Two settings of the same outcomes. -/
theorem forall₂_sameButLevels (g : Levels) {run run' outcomes : List Performed}
    (h : List.Forall₂ (fun p outcome => ∃ js, p = outcome.tuned f js) run outcomes)
    (h' : List.Forall₂ (fun p outcome => ∃ js, p = outcome.tuned g js) run' outcomes) :
    List.Forall₂ (SameButLevels g) run run' := by
  induction h generalizing run' with
  | nil =>
    cases h'
    exact .nil
  | @cons p o _ _ hp _ ih =>
    obtain ⟨js, rfl⟩ := hp
    cases h' with
    | cons hp' h' =>
      obtain ⟨js', rfl⟩ := hp'
      exact .cons (sameButLevels_tuned f g o js js') (ih h')

/-- **The level never changes behaviour.** Commands are run twice, on stages that differ in the
levels of their consoles only. What the one run gives, leaves behind and writes, or why it fails, is
the same in the other, command by command. A channel that lets everything through in the other run
emits, in the one, those of the same records that the level admits. -/
theorem level_never_changes_behaviour (s : Stage) (disk : Disk) {cs : List Command}
    (hcs : ∀ c ∈ cs, c.IsOperation) (f g : Levels) :
    List.Forall₂ (SameButLevels g) (s.runAt disk cs f) (s.runAt disk cs g) ∧
      ∀ channel, g.of channel = 3 → emitted channel (s.runAt disk cs f) =
        (emitted channel (s.runAt disk cs g)).filter
          fun r => r.severity.rank ≤ (f.of channel).val := by
  obtain ⟨outcomes, h⟩ := s.exists_performAll_tuned disk hcs
  have hf := h f s.journals
  have hg := h g s.journals
  refine ⟨?_, fun channel hloud => ?_⟩
  · exact forall₂_sameButLevels f g hf hg
  · have hall : ∀ r : Record, r.severity.rank ≤ (g.of channel).val := by
      rw [hloud]
      rintro ⟨_ | _, text⟩
      · exact Nat.le_succ 2
      · exact Nat.le_refl 3
    rw [runAt, runAt, emitted_tuned f channel hf, emitted_tuned g channel hg]
    simp [hall]

/-- A story whose way in leads nowhere, read through the main console, entered twice, and played. -/
def gateCommands : List Command :=
  [.newRegister true (some "main"),
    .parse "t" ["$[gate] Well?", "> $[stay] Stay. $D[gate]", "> $[in] In. $D[hall]"] true "gate" 0
      (some "main"),
    .register "gate.txt" "t", .register "again.txt" "t", .load "hall.txt" "h", .checkLinks,
    .startSession "gate.txt" none, .choose "stay", .choose "in", .play ["1", "q"], .advance]

/-- Every named console lets warnings through. -/
def warningsOnly : Levels := ⟨fun channel => Console.clampLevel (if channel = 0 then 1 else 2), rfl⟩

/-- Every named console lets everything through. -/
def everything : Levels := ⟨fun channel => Console.clampLevel (if channel = 0 then 1 else 3), rfl⟩

theorem gate_is_same_at_all_levels :
    (∀ c ∈ gateCommands, c.IsOperation) ∧
      List.Forall₂ (SameButLevels everything)
        (runAt {} (fun _ => .error .notFound) gateCommands warningsOnly)
        (runAt {} (fun _ => .error .notFound) gateCommands everything) ∧
      ∀ channel, everything.of channel = 3 →
        emitted channel (runAt {} (fun _ => .error .notFound) gateCommands warningsOnly) =
          (emitted channel (runAt {} (fun _ => .error .notFound) gateCommands everything)).filter
            fun r => r.severity.rank ≤ (warningsOnly.of channel).val := by
  have h : ∀ c ∈ gateCommands, c.IsOperation := by simp [gateCommands, Command.IsOperation]
  exact ⟨h, level_never_changes_behaviour {} _ h warningsOnly everything⟩

/-- Two warnings are heard in any case; the script that was read and the choices that were made are
mentioned to those who want everything. -/
example :
    (emitted 1 (runAt {} (fun _ => .error .notFound) gateCommands warningsOnly)).map (·.text) =
        ["dangling dialog link: hall\n  from: in\n  in dialog: gate",
          "tree id used twice: gate\n  source: again.txt"] ∧
      (emitted 1 (runAt {} (fun _ => .error .notFound) gateCommands everything)).map
        (·.severity.rank) = [2, 3, 2, 3, 3] := by
  decide +kernel

end Stage

end Plotline
