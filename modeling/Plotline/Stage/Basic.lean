import Plotline.Stage.Command
import Plotline.Tree.Display

/-!
# The stage

Everything that an author works with at once: named consoles with their journals, named trees, one
register, one session and one presenter.

* `Stage.perform` carries out one command. The answer says what it gave or why it failed, and the
  stage is what it left behind in either case.
* `Stage.performAll` carries out commands one after the other, whatever their answers.
-/

namespace Plotline

/-- The state of the stage. -/
structure Stage where
  /-- The consoles that have names. -/
  consoles : List (String × Console) := [("main", { channel := 1 })]
  /-- The journals by channel: the one shared by consoles without a name, then the named ones. -/
  journals : List Journal := [{}, {}]
  library : Library := {}
  /-- The trees that have names. -/
  trees : List (String × TreeRef) := []
  /-- The snapshots by name, with the trees that they were taken of. -/
  snapshots : List (String × TreeRef × Snapshot) := []
  session : Option Session := none
  /-- The register that the session walks by, once it is no longer the present one. -/
  formerRegister : Option Register := none
  presenter : Presenter := { console := { channel := 1 } }

/-- What a command leaves behind: its answer, the stage, the notices and the text written. -/
structure Performed where
  answer : Except Failure Reply
  stage : Stage
  postings : List Posting := []
  output : String := ""

namespace Stage

/-! ## Names -/

/-- The console with this name. -/
def console? (s : Stage) (name : Option String) : Option Console :=
  name.bind fun n => s.consoles.lookup n

/-- The console with this name, or a fresh one. -/
def consoleOrFresh (s : Stage) (name : Option String) : Console := (s.console? name).getD {}

/-- The main console. -/
def mainConsole (s : Stage) : Console := s.consoleOrFresh (some "main")

/-- The place of the tree with this name. -/
def ref (s : Stage) (tree : String) : TreeRef := (s.trees.lookup tree).getD s.library.shelf.length

/-- The tree with this name. -/
def tree (s : Stage) (name : String) : Tree := s.library.tree (s.ref name)

/-- Gives a name to a place; the latest counts. -/
def nameTree (s : Stage) (name : String) (r : TreeRef) : Stage :=
  { s with trees := (name, r) :: s.trees }

/-- Puts a tree on the shelf under a name. -/
def placeTree (s : Stage) (name : String) (t : Tree) : Stage :=
  let (r, l) := s.library.place t
  { s with library := l }.nameTree name r

/-- Replaces a tree. -/
def setTree (s : Stage) (name : String) (t : Tree) : Stage :=
  { s with library := s.library.modify (s.ref name) fun _ => t }

/-! ## Results -/

/-- Nothing changes. -/
def say (s : Stage) (r : Reply) : Performed := ⟨.ok r, s, [], ""⟩

/-- Nothing changes; there is a failure or a reply. -/
def sayOr (s : Stage) (r : Except Failure Reply) : Performed := ⟨r, s, [], ""⟩

/-- A failure that changes nothing. -/
def refuse (s : Stage) (f : Failure) : Performed := ⟨.error f, s, [], ""⟩

/-- Enters the notices of a command into the journals. -/
def deliver (p : Performed) : Performed :=
  { p with
    stage := { p.stage with
      journals := p.stage.journals.mapIdx fun channel j => j.receive channel p.postings } }

/-! ## The session -/

/-- The library as the session sees it. -/
def sessionLibrary (s : Stage) : Library :=
  match s.formerRegister with
  | none => s.library
  | some r => { s.library with register := r }

/-- Takes over what a session left behind; only the shelf of the library can have changed. -/
def withSession (s : Stage) (session : Session) (l : Library) : Stage :=
  { s with session := some session, library := { s.library with shelf := l.shelf } }

/-- Takes over a step of the session. -/
def followStep (s : Stage) (step : Session.Step) : Performed :=
  ⟨step.answer.map .optionalText, s.withSession step.session step.library, step.postings, ""⟩

/-- Plays the session with the presenter. A play without an end leaves no answer to give. -/
def playSession (s : Stage) (session : Session) (input : List String) : Performed :=
  let (p, ending) :=
    Play.runAll s.presenter { library := s.sessionLibrary, session := session, input := input }
  let answer : Except Failure Reply :=
    match ending with
    | some (.failed f) => .error f
    | _ => .ok .nothing
  ⟨answer, s.withSession p.session p.library, p.postings, p.output⟩

/-! ## Carrying out commands -/

/-- Puts the tree of a script on the shelf, if it could be read. -/
def placeRead (s : Stage) (tree : String) : Except Failure (Tree × List Posting) → Performed
  | .error f => s.refuse f
  | .ok (t, postings) => ⟨.ok (.entity (.tree t)), s.placeTree tree t, postings, ""⟩

/-- Adds a dialog to a tree. -/
def addDialog (s : Stage) (tree id : String) (message : Option String) (link : Link)
    (voice : Voice) : Performed :=
  let t := s.tree tree
  let console :=
    match voice with
    | .ofTree => t.console
    | .named name => s.consoleOrFresh name
  let d : Dialog := { id := id, message := message, link := link, console := console }
  match t.insert d with
  | .error f => s.refuse f
  | .ok t => (s.setTree tree t).say (.entity (.dialog d))

/-- Loads a script and names its tree. -/
def load (s : Stage) (disk : Disk) (path : Path.Spelling) (tree : String) : Performed :=
  match s.library.load disk path with
  | .error f => s.refuse f
  | .ok loaded =>
    ⟨.ok (.entity (.tree (loaded.library.tree loaded.tree))),
      { s with library := loaded.library }.nameTree tree loaded.tree, loaded.postings, ""⟩

/-- The ids of where a link leads. -/
def idsOf (l : Library) (d : Library.Destination) : String × Option String :=
  ((l.tree d.tree).id, d.dialog)

/-- Carries out a command, without entering its notices. -/
def carryOut (s : Stage) (disk : Disk) : Command → Performed
  | .openConsole name level indent =>
    let console : Console := { channel := s.journals.length, level := level, indent := indent }
    let fresh : Journal := {}
    { s with consoles := (name, console) :: s.consoles, journals := s.journals ++ [fresh] }.say
      .nothing
  | .records name =>
    let channel := (s.consoleOrFresh (some name)).channel
    s.say (.records ((s.journals[channel]?.map (·.records)).getD []))
  | .construct tree root score treeId console =>
    let t : Tree :=
      { id := treeId, root := root, score := score, console := s.consoleOrFresh console }
    (s.placeTree tree t).say (.entity (.tree t))
  | .parse tree lines trim treeId score console =>
    let options : Script.Options :=
      { trim := trim, treeId := treeId, score := score, console := s.consoleOrFresh console }
    s.placeRead tree (Script.parse options lines)
  | .read tree path trim score console =>
    let options : Script.Options :=
      { trim := trim, score := score, console := s.consoleOrFresh console }
    s.placeRead tree (Script.load disk options path)
  | .addDialog tree id message link voice => s.addDialog tree id message link voice
  | .addDecision tree dialog x =>
    match (s.tree tree).insertDecision dialog x with
    | .error f => s.refuse f
    | .ok t => (s.setTree tree t).say (.entity (.decision x))
  | .edit tree place e =>
    match (s.tree tree).at place with
    | .error f => s.refuse f
    | .ok _ =>
      let s := s.setTree tree ((s.tree tree).edit place e)
      s.sayOr (((s.tree tree).at place).map .entity)
  | .addScore tree n =>
    let t := (s.tree tree).addScore n
    (s.setTree tree t).say (.score t.score)
  | .get tree place => s.sayOr (((s.tree tree).at place).map .entity)
  | .contains tree none id => s.say (.flag ((s.tree tree).dialogs.contains id))
  | .contains tree (some dialog) id =>
    s.sayOr (((s.tree tree).get dialog).map fun d => .flag (d.decisions.contains id))
  | .size tree none => s.say (.count (s.tree tree).dialogs.size)
  | .size tree (some dialog) =>
    s.sayOr (((s.tree tree).get dialog).map fun d => .count d.decisions.size)
  | .takeSnapshot tree dialog name =>
    match (s.tree tree).snapshot dialog with
    | .error f => s.refuse f
    | .ok snapshot =>
      { s with snapshots := (name, s.ref tree, snapshot) :: s.snapshots }.say .nothing
  | .showSnapshot name =>
    match s.snapshots.lookup name with
    | none => s.say (.messages [])
    | some (r, snapshot) => s.say (.messages (snapshot.messages (s.library.tree r)))
  | .rootDialog tree => s.sayOr ((s.tree tree).rootDialog.map fun d => .entity (.dialog d))
  | .resolveLink tree place =>
    let t := s.tree tree
    match t.at place with
    | .error f => s.refuse f
    | .ok e => s.sayOr ((t.resolveLink e.link).map fun d => .optionalText (d.map (·.id)))
  | .describe tree place =>
    match (s.tree tree).at place with
    | .error f => s.refuse f
    | .ok e =>
      match e.describe with
      | .error f => s.refuse (s.mainConsole.fail (.numeral f))
      | .ok text => s.say (.text text)
  | .dangling tree => s.say (.owners (s.tree tree).danglingLinks)
  | .newRegister trim console =>
    { s with
      formerRegister := s.session.map fun _ => s.formerRegister.getD s.library.register
      library := { s.library with
        register := { trim := trim, console := s.consoleOrFresh console } } }.say .nothing
  | .register key tree =>
    match s.library.add key (s.ref tree) with
    | .error f => s.refuse f
    | .ok (l, postings) => ⟨.ok (.text (s.tree tree).id), { s with library := l }, postings, ""⟩
  | .load path tree => s.load disk path tree
  | .loadAll paths =>
    let (refs, l, postings) := s.library.loadAll disk paths
    ⟨refs.map fun refs => .texts (refs.map fun r => (l.tree r).id), { s with library := l },
      postings, ""⟩
  | .find key tree =>
    match s.library.get key with
    | .error f => s.refuse f
    | .ok r => (s.nameTree tree r).say (.summary (s.library.tree r))
  | .has key => s.say (.flag (s.library.has key))
  | .listRegister =>
    s.say (.entries (s.library.register.entries.items.map fun e =>
      (e.key, (s.library.tree e.tree).id)))
  | .resolve tree place =>
    match (s.tree tree).at place with
    | .error f => s.refuse f
    | .ok e =>
      s.sayOr ((s.library.resolve (s.ref tree) e.link).map fun d =>
        .destination (d.map (idsOf s.library)))
  | .danglingTreeLinks => s.say (.treeOwners s.library.danglingLinks)
  | .checkLinks => ⟨.ok .nothing, s, s.library.checkLinks, ""⟩
  | .startSession key console =>
    match Session.start s.library ((s.console? console).getD s.library.register.console) key with
    | .error f => s.refuse f
    | .ok session => { s with session := some session, formerRegister := none }.say .nothing
  | .choose decision =>
    match s.session with
    | none => s.say .nothing
    | some session => s.followStep (session.choose s.sessionLibrary decision)
  | .advance =>
    match s.session with
    | none => s.say .nothing
    | some session => s.followStep (session.advance s.sessionLibrary)
  | .history => s.say (.steps ((s.session.map (·.history)).getD []))
  | .presenter showDisabled speaker disabledMark console =>
    let fresh : Presenter := {}
    { s with
      presenter :=
        { console := (s.console? console).getD s.mainConsole
          showDisabled := showDisabled
          speaker := speaker.getD fresh.speaker
          disabledMark := disabledMark.getD fresh.disabledMark } }.say .nothing
  | .visible tree dialog =>
    s.sayOr (((s.tree tree).get dialog).map fun d =>
      .texts ((s.presenter.visible d).map (·.id)))
  | .lines tree dialog =>
    s.sayOr (((s.tree tree).get dialog).map fun d => .texts (s.presenter.lines d))
  | .page tree dialog =>
    match (s.tree tree).get dialog with
    | .error f => s.refuse f
    | .ok d => ⟨.ok .nothing, s, [], s.presenter.page d⟩
  | .pick tree dialog number =>
    s.sayOr (((s.tree tree).get dialog).map fun d =>
      .optionalText ((s.presenter.pick d number).map (·.id)))
  | .echo tree dialog decision =>
    match (s.tree tree).at (.decision dialog decision) with
    | .ok (.decision x) => ⟨.ok .nothing, s, [], s.presenter.echo x⟩
    | .ok _ => s.say .nothing
    | .error f => s.refuse f
  | .play input =>
    match s.session with
    | none => s.say .nothing
    | some session => s.playSession session input

/-- Carries out a command and enters its notices. -/
def perform (s : Stage) (disk : Disk) (c : Command) : Performed := deliver (s.carryOut disk c)

/-- Carries out commands one after the other. -/
def performAll (s : Stage) (disk : Disk) : List Command → List Performed
  | [] => []
  | c :: rest =>
    let p := s.perform disk c
    p :: performAll p.stage disk rest

end Stage

end Plotline
