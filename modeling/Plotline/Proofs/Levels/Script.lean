import Plotline.Proofs.Levels.Basic
import Plotline.Proofs.Script.Feed
import Plotline.Script.File

/-!
# Reading scripts at other levels

A builder at other levels takes the same lines, fails with the same failures, and holds the same
tree. The notices about the finished tree are the same ones as well, and the level decides which of
them are heard.

* `Builder.feed_tuned` follows one line, `Builder.feedAll_tuned` any number of them.
* `Script.uniform_parse`, `Script.uniform_load`: one result for all levels.
-/

namespace Plotline

open Marker (Token)

variable (f : Levels)

/-- The options with their console at another level. -/
def Script.Options.tuned (o : Script.Options) (f : Levels) : Script.Options :=
  { o with console := o.console.tuned f }

/-- The tree that was read, with its consoles at other levels, and the notices that these let
through. -/
def Script.readTuned (f : Levels) :
    Except Failure (Tree × List Posting) → Except Failure (Tree × List Posting) :=
  Except.map fun (t, ps) => (t.tuned f, f.heard ps)

theorem Script.uniform_error (e : Failure) : Uniform readTuned fun _ => .error e :=
  ⟨.error e, fun _ => rfl⟩

namespace Builder

/-- The builder with all its consoles at other levels. -/
def tuned (b : Builder) (f : Levels) : Builder :=
  { b with options := b.options.tuned f, tree := b.tree.map (·.tuned f) }

variable (b : Builder)

@[simp] theorem tree_tuned : (b.tuned f).tree = b.tree.map (·.tuned f) := rfl

@[simp] theorem current_tuned : (b.tuned f).current = b.current := rfl

@[simp] theorem pending_tuned : (b.tuned f).pending = b.pending := rfl

@[simp] theorem kind_tuned : (b.tuned f).kind = b.kind := rfl

@[simp] theorem fail_tuned : (b.tuned f).fail = b.fail := rfl

@[simp] theorem scan_tuned (line : List Char) : (b.tuned f).scan line = b.scan line := rfl

@[simp] theorem start_tuned (kind : EntityKind) (t : Token) :
    (b.tuned f).start kind t = (b.start kind t).tuned f := rfl

/-- The answer of a step, and the builder after it at other levels. -/
def stepTuned (f : Levels) (r : Option Failure × Builder) : Option Failure × Builder :=
  (r.1, r.2.tuned f)

@[simp] theorem treeFor_tuned (root : String) :
    (b.tuned f).treeFor root = (b.treeFor root).tuned f := by
  rw [treeFor, treeFor, tree_tuned]
  cases b.tree <;> rfl

@[simp] theorem addDialog_tuned (id : String) (t : Token) :
    (b.tuned f).addDialog id t = stepTuned f (b.addDialog id t) := by
  have hinsert : ((b.treeFor id).tuned f).insert
        { id := id, message := some (Script.message t.text)
          link := .make t.link.target t.link.kind, console := (b.tuned f).options.console } =
      ((b.treeFor id).insert
        { id := id, message := some (Script.message t.text)
          link := .make t.link.target t.link.kind, console := b.options.console }).map (·.tuned f) :=
    (b.treeFor id).insert_tuned f
      { id := id, message := some (Script.message t.text)
        link := .make t.link.target t.link.kind, console := b.options.console }
  simp only [addDialog, treeFor_tuned, hinsert]
  cases (b.treeFor id).insert _ <;> rfl

@[simp] theorem addDecision_tuned (id : String) (t : Token) :
    (b.tuned f).addDecision id t = stepTuned f (b.addDecision id t) := by
  simp only [addDecision, tree_tuned, current_tuned]
  cases b.tree with
  | none => rfl
  | some tree =>
    cases b.current with
    | none => rfl
    | some dialog =>
      simp only [Option.map_some, Tree.insertDecision_tuned]
      cases tree.insertDecision dialog _ <;> rfl

@[simp] theorem flush_tuned : (b.tuned f).flush = stepTuned f b.flush := by
  have hrest : { b.tuned f with pending := none } = { b with pending := none }.tuned f := rfl
  simp only [flush, pending_tuned, hrest]
  cases b.pending with
  | none => rfl
  | some t =>
    dsimp only
    split
    · rfl
    · rw [kind_tuned]
      cases b.kind with
      | dialog => exact addDialog_tuned f _ _ t
      | decision => exact addDecision_tuned f _ _ t

@[simp] theorem continueWith_tuned (pending t : Token) :
    (b.tuned f).continueWith pending t = stepTuned f (b.continueWith pending t) := by
  simp only [continueWith]
  cases t.link.target with
  | none => rfl
  | some target =>
    dsimp only
    split <;> rfl

theorem feedDecision_tuned (line : List Char) :
    (b.tuned f).feedDecision line = stepTuned f (b.feedDecision line) := by
  rw [feedDecision, feedDecision, flush_tuned]
  rcases b.flush with ⟨_ | e, b'⟩
  · simp only [stepTuned]
    rw [current_tuned, scan_tuned]
    split
    · rfl
    · cases b'.scan (line.dropWhile (· = ' ')) <;> rfl
  · rfl

theorem feedText_tuned (line : List Char) :
    (b.tuned f).feedText line = stepTuned f (b.feedText line) := by
  rw [feedText, feedText, scan_tuned]
  cases b.scan line with
  | error e => rfl
  | ok t =>
    dsimp only
    split
    · rw [flush_tuned]
      rcases b.flush with ⟨_ | e, b'⟩ <;> rfl
    · rw [pending_tuned]
      cases b.pending with
      | none => rfl
      | some pending => exact b.continueWith_tuned f pending t

/-- **A line does the same at all levels.** -/
theorem feed_tuned (line : String) : (b.tuned f).feed line = stepTuned f (b.feed line) := by
  have hnext : (b.tuned f).nextLine = b.nextLine.tuned f := rfl
  rw [feed_eq, feed_eq, hnext]
  split
  · rfl
  · split
    · rfl
    · split
      · exact b.nextLine.feedDecision_tuned f _
      · exact b.nextLine.feedText_tuned f _

theorem feedAll_tuned (lines : List String) :
    (b.tuned f).feedAll lines = stepTuned f (b.feedAll lines) := by
  induction lines generalizing b with
  | nil => rfl
  | cons line lines ih =>
    rw [feedAll, feedAll, feed_tuned]
    rcases b.feed line with ⟨_ | e, b'⟩
    · exact ih b'
    · rfl

/-- The notices about a tree are the same at all levels, but not all of them are heard. -/
theorem uniform_notices (t : Tree) :
    Uniform Levels.heard fun f => (b.tuned f).notices (t.tuned f) := by
  refine ⟨(if t.dialogs.contains t.root then []
      else [b.options.console.notice .warning ("root dialog not found: " ++ t.root)
        ["in tree: " ++ t.id]]) ++
    (t.danglingLinks.map fun o => b.options.console.notice .warning
      ("dangling dialog link: " ++ Link.shown o.link.target)
      ["from: " ++ o.id, "in dialog: " ++ o.dialog]) ++
    [b.options.console.notice .info ("parsed tree: " ++ b.options.treeId)
      ["dialogs: " ++ toString t.dialogs.size, "decisions: " ++ toString b.decisionCount]],
    fun f => ?_⟩
  have hconsole : (b.tuned f).options.console = b.options.console.tuned f := rfl
  rw [List.map_eq_flatMap, Levels.heard_append, Levels.heard_append, Levels.heard_flatMap]
  simp only [notices, hconsole, Console.warn_tuned, Console.info_tuned, Tree.danglingLinks_tuned,
    Tree.dialogs_tuned, Tree.root_tuned, Tree.id_tuned, Roster.size_map, Roster.contains_map]
  split <;> rfl

theorem uniform_finish : Uniform Script.readTuned fun f => (b.tuned f).finish.1 := by
  simp only [finish, flush_tuned]
  rcases b.flush with ⟨_ | e, b'⟩
  · simp only [stepTuned, tree_tuned]
    cases b'.tree with
    | none => exact Script.uniform_error (b'.fail (.noDialog b'.options.treeId))
    | some t =>
      obtain ⟨ps, hps⟩ := b'.uniform_notices t
      exact ⟨.ok (t, ps), fun f => by simp only [Option.map_some, hps]; rfl⟩
  · exact Script.uniform_error e

end Builder

namespace Script

variable (options : Options)

/-- **Parsing gives one result for all levels.** -/
theorem uniform_parse (lines : List String) :
    Uniform readTuned fun f => parse (options.tuned f) lines := by
  have hnew : ∀ f, Builder.new (options.tuned f) = (Builder.new options).tuned f := fun _ => rfl
  simp only [parse, hnew, Builder.feedAll_tuned]
  rcases (Builder.new options).feedAll lines with ⟨_ | e, b⟩
  · exact b.uniform_finish
  · exact uniform_error e

theorem uniform_parseOctets (path : String) (octets : List UInt8) :
    Uniform readTuned fun f => parseOctets (options.tuned f) path octets := by
  have hnew : ∀ f, Builder.new (options.tuned f) = (Builder.new options).tuned f := fun _ => rfl
  simp only [parseOctets]
  split
  · exact uniform_parse options _
  · simp only [hnew, Builder.feedAll_tuned]
    rcases (Builder.new options).feedAll _ with ⟨_ | e, b⟩
    · exact uniform_error (unreadable options path _)
    · exact uniform_error e

/-- **Reading a file gives one result for all levels.** -/
theorem uniform_load (disk : Disk) (path : Path.Spelling) :
    Uniform readTuned fun f => load disk (options.tuned f) path := by
  cases path with
  | broken b => exact uniform_error (options.console.fail (.brokenPath b))
  | text path =>
    simp only [load]
    generalize Path.ofString path = p
    have hoptions : ∀ f, { options.tuned f with treeId := p.stem } =
        { options with treeId := p.stem }.tuned f := fun _ => rfl
    simp only [hoptions]
    split
    · exact uniform_error (options.console.fail .nulInPath)
    · split
      · exact uniform_error (unreadable options path _)
      · exact uniform_parseOctets _ path _

end Script

end Plotline
