import Plotline.Proofs.Marker.Grammar
import Plotline.Proofs.Script.Coherence
import Plotline.Script.File

/-!
# What a script can fail on

Reading a script fails on its wording or on an id that is taken, and on nothing else
(`Fault.InScript`). In particular a decision never misses the dialog that is to take it: this is
where it matters that a builder is coherent.

* `Builder.inScript_flush` and `Builder.inScript_feed` say so for what a builder does.
* `Builder.coherent_run`: what holds after any calls of a builder, and of the call after them.
* `Script.inScript_parse` says so for scripts, and `Script.family_of_load` adds what can be wrong
  with the file.
-/

namespace Plotline

open Marker (Token)

/-- The fault is in the wording of a script or in its ids. -/
def Fault.InScript (f : Fault) : Prop := f.family = .script ∨ f.family = .taken

namespace Builder

variable {b : Builder} {f : Failure}

/-! ## What is complete -/

theorem inScript_addDialog (b : Builder) (id : String) (t : Token) :
    ∀ f ∈ (b.addDialog id t).1, f.fault.InScript := by
  intro f hf
  simp only [addDialog, Tree.insert] at hf
  cases hi : (b.treeFor id).dialogs.insert? _ with
  | none =>
    rw [hi] at hf
    obtain rfl := Option.some.inj hf
    exact .inr rfl
  | some dialogs =>
    rw [hi] at hf
    cases hf

/-- The current dialog is in the tree, so a decision can only fail on its own id. -/
theorem inScript_addDecision (hb : b.Standing) {tree : Tree} (ht : b.tree = some tree) (id : String)
    (t : Token) : ∀ f ∈ (b.addDecision id t).1, f.fault.InScript := by
  intro f hf
  obtain ⟨d, hlast, hcurrent⟩ := hb.last tree ht
  have hget := Tree.get_of_mem (List.mem_of_mem_getLast? hlast)
  simp only [addDecision, ht, hcurrent, Tree.insertDecision, hget, Dialog.insert] at hf
  cases hi : d.decisions.insert? _ with
  | none =>
    rw [hi] at hf
    obtain rfl := Option.some.inj hf
    exact .inr rfl
  | some decisions =>
    rw [hi] at hf
    cases hf

theorem inScript_flush (hb : b.Coherent) : ∀ f ∈ b.flush.1, f.fault.InScript := by
  intro f hf
  have hstanding : { b with pending := none }.Standing := hb.toStanding.keeps ⟨rfl, rfl, rfl⟩
  unfold flush at hf
  split at hf
  · cases hf
  · rename_i hpending
    dsimp only at hf
    split at hf
    · obtain rfl := Option.some.inj hf
      exact .inl rfl
    · split at hf
      · exact inScript_addDialog _ _ _ f hf
      · rename_i hkind
        obtain ⟨tree, -, ht, -⟩ := hb.taker (by rw [hpending]; rfl) hkind
        exact inScript_addDecision hstanding ht _ _ f hf

/-! ## One line -/

theorem inScript_andThen {r : Option Failure × Builder} {k : Builder → Option Failure × Builder}
    (hr : ∀ f ∈ r.1, f.fault.InScript) (hk : ∀ f ∈ (k r.2).1, f.fault.InScript) :
    ∀ f ∈ (andThen r k).1, f.fault.InScript := by
  obtain ⟨_ | f, b⟩ := r
  · exact hk
  · exact hr

theorem inScript_scan {line : List Char} (h : b.scan line = .error f) : f.fault.InScript := by
  simp only [scan] at h
  split at h
  · rename_i g hs
    obtain rfl := Except.error.inj h
    exact .inl (Token.stops_of_absorbAll hs).family
  · cases h

theorem inScript_feedDecision (hb : b.Coherent) (text : List Char) :
    ∀ f ∈ (b.feedDecision text).1, f.fault.InScript := by
  rw [feedDecision_eq]
  refine inScript_andThen (inScript_flush hb) fun f hf => ?_
  split at hf
  · obtain rfl := Option.some.inj hf
    exact .inl rfl
  · split at hf
    · rename_i hs
      obtain rfl := Option.some.inj hf
      exact inScript_scan hs
    · cases hf

theorem inScript_continueWith (b : Builder) (p t : Token) :
    ∀ f ∈ (b.continueWith p t).1, f.fault.InScript := by
  intro f hf
  unfold continueWith at hf
  split at hf
  · cases hf
  · dsimp only at hf
    split at hf
    · obtain rfl := Option.some.inj hf
      exact .inl rfl
    · cases hf

theorem inScript_feedText (hb : b.Coherent) (text : List Char) :
    ∀ f ∈ (b.feedText text).1, f.fault.InScript := by
  unfold feedText
  split
  · rename_i hs
    rintro f hf
    obtain rfl := Option.some.inj hf
    exact inScript_scan hs
  · rename_i t hs
    split
    · exact inScript_andThen (k := fun b => (none, b.start .dialog t)) (inScript_flush hb)
        fun f hf => by cases hf
    · split
      · rintro f hf
        obtain rfl := Option.some.inj hf
        exact .inl rfl
      · exact inScript_continueWith b _ t

/-- **A line fails on the script**, on its wording or its ids. -/
theorem inScript_feed (hb : b.Coherent) (line : String) :
    ∀ f ∈ (b.feed line).1, f.fault.InScript := by
  rw [feed_eq]
  split
  · exact fun f hf => by cases hf
  · split
    · exact fun f hf => by cases hf
    · split
      · exact inScript_feedDecision hb.nextLine _
      · exact inScript_feedText hb.nextLine _

/-! ## All lines -/

theorem inScript_feedAll (hb : b.Coherent) (lines : List String) :
    (b.feedAll lines).2.Coherent ∧ ∀ f ∈ (b.feedAll lines).1, f.fault.InScript := by
  induction lines generalizing b with
  | nil => exact ⟨hb, fun f hf => by cases hf⟩
  | cons line lines ih =>
    have hfirst := inScript_feed hb line
    have hcoherent := (step_feed hb line).coherent
    rw [feedAll]
    revert hfirst hcoherent
    rcases b.feed line with ⟨_ | f, b'⟩
    · exact fun _ hb' => ih hb'
    · exact fun hf hb' => ⟨hb', hf⟩

theorem inScript_of_feedAll {lines : List String} {b' : Builder} (hb : b.Coherent)
    (h : b.feedAll lines = (some f, b')) : f.fault.InScript :=
  (inScript_feedAll hb lines).2 f (by rw [h]; rfl)

theorem inScript_finish (hb : b.Coherent) (h : b.finish.1 = .error f) : f.fault.InScript := by
  have hflush := inScript_flush hb
  unfold finish at h
  revert h hflush
  rcases b.flush with ⟨_ | g, b'⟩
  · intro h hflush
    dsimp only at h
    split at h
    · obtain rfl := Except.error.inj h
      exact .inl rfl
    · cases h
  · intro h hflush
    obtain rfl := Except.error.inj h
    exact hflush _ rfl

/-! ## Any calls -/

/-- What a call fails on, if it does. -/
def Call.failure? (b : Builder) : Call → Option Failure
  | .feed line => (b.feed line).1
  | .finish =>
    match b.finish.1 with
    | .error f => some f
    | .ok _ => none

theorem inScript_failure? (hb : b.Coherent) (call : Call) :
    ∀ f ∈ call.failure? b, f.fault.InScript := by
  cases call with
  | feed line => exact inScript_feed hb line
  | finish =>
    intro f hf
    simp only [Call.failure?] at hf
    split at hf
    · rename_i hfinish
      obtain rfl := Option.some.inj hf
      exact inScript_finish hb hfinish
    · cases hf

/-- **A builder stays coherent through any calls, whether they fail or not.** The next call inserts
at most what was gathered before it and changes nothing else that is complete, and it fails on the
script if at all: never for want of a dialog to hold a decision. -/
theorem coherent_run (options : Script.Options) (calls : List Call) :
    ((new options).run calls).Coherent ∧
      ∀ call, Grows ((new options).run calls) (((new options).run calls).after call) ∧
        ∀ f ∈ call.failure? ((new options).run calls),
          f.fault.InScript ∧ f.fault ≠ .decisionWithoutDialog := by
  have hb := (coherent_new options).run calls
  refine ⟨hb, fun call => ⟨(step_after hb call).grows, fun f hf => ?_⟩⟩
  have hscript := inScript_failure? hb call f hf
  refine ⟨hscript, fun hlacks => ?_⟩
  rw [hlacks] at hscript
  rcases hscript with h | h <;> cases h

/-- The third line has two ids and is refused, and its decision is lost. The one before it was
complete by then, and takes its id from the last line. -/
example :
    let b := (new {}).run
      [.feed "$[a]", .feed "> $[b]", .feed "> $[c] $[d]", .feed "> $[b]", .finish]
    b.tree.map (·.dialogs.items.map fun d => (d.id, d.decisions.keys)) = some [("a", ["b"])] ∧
      b.decisionCount = 1 := by
  decide +kernel

end Builder

namespace Script

variable {options : Options} {f : Failure}

/-- **A script fails on its wording or on an id that is taken.** -/
theorem inScript_parse {script : List String} (h : parse options script = .error f) :
    f.fault.InScript := by
  have hb := Builder.coherent_new options
  unfold parse at h
  split at h
  · rename_i hfeed
    obtain rfl := Except.error.inj h
    exact Builder.inScript_of_feedAll hb hfeed
  · rename_i b hfeed
    have hcoherent := (Builder.inScript_feedAll hb script).1
    rw [hfeed] at hcoherent
    exact Builder.inScript_finish hcoherent h

/-! ## Files -/

theorem family_of_parseOctets {path : String} {octets : List UInt8}
    (h : parseOctets options path octets = .error f) :
    f.fault.InScript ∨ f.fault.family = .file := by
  simp only [parseOctets] at h
  split at h
  · exact .inl (inScript_parse h)
  · split at h
    · rename_i hfeed
      obtain rfl := Except.error.inj h
      exact .inl (Builder.inScript_of_feedAll (Builder.coherent_new options) hfeed)
    · obtain rfl := Except.error.inj h
      exact .inr rfl

/-- **A script file fails on the script or on the file**, unless its path can be none. -/
theorem family_of_load {disk : Disk} {path : Path.Spelling}
    (h : load disk options path = .error f) :
    f.fault.InScript ∨ f.fault.family = .file ∨ path.isPath = false := by
  cases path with
  | broken b => exact .inr (.inr rfl)
  | text path =>
    simp only [load] at h
    split at h
    · rename_i hnul
      exact .inr (.inr (by rw [Path.Spelling.isPath, hnul]; rfl))
    · split at h
      · obtain rfl := Except.error.inj h
        exact .inr (.inl rfl)
      · exact (family_of_parseOctets h).imp_right .inl

end Script

end Plotline
