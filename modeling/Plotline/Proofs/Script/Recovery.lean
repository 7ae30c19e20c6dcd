import Mathlib.Algebra.Order.BigOperators.Group.List
import Mathlib.Algebra.Order.Group.Nat
import Plotline.Proofs.Marker.Grammar
import Plotline.Proofs.Script.Coherence
import Plotline.Proofs.Script.Parse

/-!
# Builders after a failure

A builder does not remember that a call failed. What it is asked for later depends on what is
complete and what is being gathered, and no builder is ever beyond recovery: with two more lines it
hands out a tree, and everything that was complete is in it. Only the parsing of a whole script
looks at every answer and gives up at the first failure.

* `Builder.Completable`: what a builder needs to hand out a tree (`finish_iff_completable`).
* `Builder.exists_recovery`: two lines are enough.
* `Builder.complete_eq_ok_iff`: a script yields a tree if no line fails and finishing does not.
* `Builder.failures_are_not_remembered`: all of this after any calls.
-/

namespace Plotline.Builder

open Marker (Token)
open Text (strip isBlank)

variable {b : Builder} {id : String}

/-! ## When a tree is handed out -/

/-- The ids of the dialogs that are complete. -/
def dialogIds (b : Builder) : List String := (b.tree.map (·.dialogs.keys)).getD []

/-- The ids of the decisions that are complete in the last dialog. -/
def decisionIds (b : Builder) : List String :=
  ((b.tree.bind (·.dialogs.items.getLast?)).map (·.decisions.keys)).getD []

/-- The ids that what is being gathered must not have. -/
def takenIds (b : Builder) : List String :=
  match b.kind with
  | .dialog => b.dialogIds
  | .decision => b.decisionIds

/-- What is being gathered has an id of its own. -/
def Fresh (b : Builder) : Prop :=
  ∀ p, b.pending = some p → p.id.getD "" ≠ "" ∧ p.id.getD "" ∉ b.takenIds

/-- There is a dialog, complete or gathered, and what is being gathered has an id of its own. -/
structure Completable (b : Builder) : Prop where
  fresh : b.Fresh
  dialog : b.tree.isSome ∨ b.pending.isSome

theorem dialogIds_of_some {t : Tree} (h : b.tree = some t) : b.dialogIds = t.dialogs.keys := by
  rw [dialogIds, h]
  rfl

theorem keys_treeFor (b : Builder) (id : String) : (b.treeFor id).dialogs.keys = b.dialogIds := by
  cases ht : b.tree with
  | none =>
    rw [treeFor_of_none ht, dialogIds, ht]
    rfl
  | some t => rw [treeFor_of_some ht, dialogIds_of_some ht]

theorem addDialog_fst_eq_none_iff {p : Token} :
    (b.addDialog id p).1 = none ↔ id ∉ b.dialogIds := by
  rw [← keys_treeFor b id]
  simp only [addDialog, Tree.insert]
  cases hi : (b.treeFor id).dialogs.insert? _ with
  | none => exact iff_of_false (by simp) fun h => h (Roster.insert?_eq_none_iff.1 hi)
  | some dialogs => exact iff_of_true rfl (Roster.insert?_eq_some_iff.1 hi).1

theorem addDecision_fst_eq_none_iff (hb : b.Standing) (hc : b.current.isSome) {p : Token} :
    (b.addDecision id p).1 = none ↔ id ∉ b.decisionIds := by
  obtain ⟨t, ht⟩ := Option.isSome_iff_exists.1 (hb.tree_iff.2 hc)
  obtain ⟨d, hlast, hcurrent⟩ := hb.last t ht
  have hids : b.decisionIds = d.decisions.keys := by
    rw [decisionIds, ht, Option.bind_some, hlast]
    rfl
  have hget := Tree.get_of_mem (List.mem_of_mem_getLast? hlast)
  rw [hids]
  simp only [addDecision, ht, hcurrent, Tree.insertDecision, hget, Dialog.insert]
  cases hi : d.decisions.insert? _ with
  | none => exact iff_of_false (by simp) fun h => h (Roster.insert?_eq_none_iff.1 hi)
  | some decisions => exact iff_of_true rfl (Roster.insert?_eq_some_iff.1 hi).1

/-- **What is gathered is completed exactly if it has an id of its own.** -/
theorem flush_fst_eq_none_iff (hb : b.Coherent) : b.flush.1 = none ↔ b.Fresh := by
  cases hp : b.pending with
  | none =>
    refine iff_of_true (by simp only [flush, hp]) fun p h => ?_
    rw [hp] at h
    cases h
  | some p =>
    have hfresh : b.Fresh ↔ p.id.getD "" ≠ "" ∧ p.id.getD "" ∉ b.takenIds := by
      simp [Fresh, hp]
    rw [hfresh]
    simp only [flush, hp]
    by_cases hid : p.id.getD "" = ""
    · simp [hid]
    · rw [if_neg hid, and_iff_right hid]
      cases hkind : b.kind with
      | dialog =>
        simp only [takenIds, hkind]
        exact addDialog_fst_eq_none_iff
      | decision =>
        obtain ⟨t, d, -, hcurrent, -⟩ := hb.taker (by rw [hp]; rfl) hkind
        have hstanding : { b with pending := none }.Standing := hb.toStanding.keeps ⟨rfl, rfl, rfl⟩
        simp only [takenIds, hkind]
        rw [← hkind]
        exact addDecision_fst_eq_none_iff hstanding (by rw [hcurrent]; rfl)

/-- Finishing hands out the tree that is there after what was gathered is completed. -/
theorem finish_fst_eq_ok_iff {t : Tree} :
    (∃ notices, b.finish.1 = .ok (t, notices)) ↔ b.flush.1 = none ∧ b.flush.2.tree = some t := by
  unfold finish
  rcases b.flush with ⟨_ | f, b'⟩
  · cases ht : b'.tree <;> simp [ht]
  · simp

theorem Gains.isSome_tree {b' : Builder} {p : Token} (h : Gains b id p b') : b'.tree.isSome := by
  cases h with
  | dialog _ tree => rw [tree]; rfl
  | decision _ _ tree' => rw [tree']; rfl

theorem isSome_tree_flush (hb : b.Coherent) (h : b.flush.1 = none) :
    b.flush.2.tree.isSome ↔ b.tree.isSome ∨ b.pending.isSome := by
  have hc := completes_flush hb
  generalize b.flush = r at h hc
  cases hc with
  | idle hp => simp [hp]
  | refused _ => cases h
  | inserted hp _ _ hg =>
    exact iff_of_true hg.isSome_tree (.inr (by rw [hp]; rfl))

/-- **A builder hands out a tree exactly if it is completable**, whatever failed before. -/
theorem finish_iff_completable (hb : b.Coherent) :
    (∃ t notices, b.finish.1 = .ok (t, notices)) ↔ b.Completable := by
  simp only [finish_fst_eq_ok_iff, exists_and_left, ← Option.isSome_iff_exists]
  constructor
  · rintro ⟨hf, ht⟩
    exact ⟨(flush_fst_eq_none_iff hb).1 hf, (isSome_tree_flush hb hf).1 ht⟩
  · rintro ⟨hf, ht⟩
    have hf := (flush_fst_eq_none_iff hb).2 hf
    exact ⟨hf, (isSome_tree_flush hb hf).2 ht⟩

/-! ## What is complete stays -/

/-- An insertion adds at most one dialog, behind the others. -/
theorem Grows.dialogIds {b' : Builder} (h : Grows b b') : b.dialogIds <+: b'.dialogIds := by
  cases h with
  | keeps h =>
    have hids : b'.dialogIds = b.dialogIds := by simp only [Builder.dialogIds, h.tree]
    exact hids ▸ List.prefix_refl _
  | @gains id _ _ _ _ h =>
    cases h with
    | dialog _ tree _ dialogs =>
      rw [← keys_treeFor b id, dialogIds_of_some tree, Roster.keys, Roster.keys, dialogs,
        List.map_append]
      exact List.prefix_append _ _
    | decision _ tree tree' _ dialogs dialogs' dialogFrame =>
      rw [dialogIds_of_some tree, dialogIds_of_some tree', Roster.keys, Roster.keys, dialogs,
        dialogs', dialogFrame]
      simp

theorem dialogIds_run (hb : b.Coherent) (calls : List Call) :
    b.dialogIds <+: (b.run calls).dialogIds := by
  induction calls generalizing b with
  | nil => exact List.prefix_refl _
  | cons call calls ih =>
    have h := step_after hb call
    exact h.grows.dialogIds.trans (ih h.coherent)

/-- A tree that is handed out has the dialogs that were complete before. -/
theorem dialogIds_prefix_finish (hb : b.Coherent) {t : Tree} {notices : List Posting}
    (h : b.finish.1 = .ok (t, notices)) : b.dialogIds <+: t.dialogs.keys := by
  have ht := (finish_fst_eq_ok_iff.1 ⟨notices, h⟩).2
  have hgrows := (step_flush hb).grows.dialogIds
  rwa [dialogIds_of_some ht] at hgrows

/-! ## Going on after a failure -/

/-- A line that starts a dialog without text. -/
def heading (id : String) : String := "$[" ++ id ++ "]"

theorem feed_heading (b : Builder) (hid : ']' ∉ id.toList) :
    b.feed (heading id) =
      andThen b.nextLine.flush fun b => (none, b.start .dialog { id := some id }) := by
  have hline : (heading id).toList = '$' :: '[' :: (id.toList ++ [']']) := by simp [heading]
  have hstrip : strip (heading id).toList = '$' :: '[' :: (id.toList ++ [']']) := by
    rw [hline]
    apply Text.strip_eq_self
    · simp [isBlank]
    · rw [← List.cons_append, ← List.cons_append, List.getLast?_concat]
      simp [isBlank]
  have hsegs : Marker.segments b.options.trim ('$' :: '[' :: (id.toList ++ [']'])) = [.id id] := by
    rw [Marker.segments_id_marker hid (by simp), String.ofList_toList, Marker.segments]
  have hscan : b.nextLine.scan ('$' :: '[' :: (id.toList ++ [']'])) =
      .ok { id := some id } := by
    have hs : Marker.segments b.nextLine.options.trim _ = _ := hsegs
    rw [scan, Token.scan, hs]
    rfl
  rw [feed_eq, hstrip]
  simp only [Char.reduceEq, if_false, feedText, hscan]
  rfl

/-- There are more ids than a builder can have. -/
theorem exists_unused (ids : List String) : ∃ id, id ≠ "" ∧ ']' ∉ id.toList ∧ id ∉ ids := by
  -- longer than all of them together
  let id := String.ofList (List.replicate ((ids.map String.length).sum + 1) 'x')
  have hlength : id.length = (ids.map String.length).sum + 1 := by simp [id]
  refine ⟨id, ?_, by simp [id], fun h => ?_⟩
  · intro h
    rw [h] at hlength
    simp at hlength
  · have := List.single_le_sum (by simp) id.length (List.mem_map_of_mem h)
    omega

/-- What a heading starts can be completed, if its id is free. -/
theorem completable_start {t : Token} (ht : t.id = some id) (hne : id ≠ "")
    (hid : id ∉ b.dialogIds) : (b.start .dialog t).Completable := by
  refine ⟨fun p hp => ?_, .inr rfl⟩
  obtain rfl := Option.some.inj hp
  rw [ht]
  exact ⟨hne, hid⟩

/-- **Two lines are enough.** The first one can still fail, on account of what was being gathered,
and the second one finds that given up. -/
theorem exists_recovery (b : Builder) :
    ∃ lines : List String, lines.length ≤ 2 ∧ (b.run (lines.map .feed)).Completable := by
  obtain ⟨id, hne, hbracket, hid⟩ := exists_unused b.nextLine.flush.2.dialogIds
  have hpending := pending_flush b.nextLine
  have hfirst := b.feed_heading hbracket
  rcases hf : b.nextLine.flush with ⟨_ | f, b'⟩ <;> rw [hf] at hid hpending hfirst
  · refine ⟨[heading id], by simp, ?_⟩
    have hrun : b.run [.feed (heading id)] = b'.start .dialog { id := some id } :=
      congrArg Prod.snd hfirst
    rw [List.map_singleton, hrun]
    exact completable_start rfl hne hid
  · refine ⟨[heading id, heading id], by simp, ?_⟩
    have hflush : b'.nextLine.flush = (none, b'.nextLine) := by
      have hp : b'.nextLine.pending = none := hpending
      simp only [flush, hp]
    have hsecond := b'.feed_heading hbracket
    rw [hflush] at hsecond
    have hrun : b.run [.feed (heading id), .feed (heading id)] =
        b'.nextLine.start .dialog { id := some id } := by
      have hb' : b.after (.feed (heading id)) = b' := congrArg Prod.snd hfirst
      rw [run, List.foldl_cons, hb']
      exact congrArg Prod.snd hsecond
    rw [List.map_cons, List.map_singleton, hrun]
    exact completable_start rfl hne hid

/-! ## Whole scripts -/

/-- A script yields what finishing hands out, if no line fails. -/
theorem complete_eq_ok_iff {script : List String} {r : Tree × List Posting} :
    b.complete script = .ok r ↔
      (∀ before line after, script = before ++ line :: after →
        ((b.run (before.map .feed)).feed line).1 = none) ∧
      (b.run (script.map .feed)).finish.1 = .ok r := by
  induction script generalizing b with
  | nil => simp [complete, feedAll, run]
  | cons line script ih =>
    rw [complete_cons]
    rcases hf : b.feed line with ⟨_ | f, b'⟩
    · have hrun : ∀ calls, b.run (.feed line :: calls) = b'.run calls := fun calls => by
        rw [run, List.foldl_cons, after, hf]
        rfl
      rw [ih, List.map_cons, hrun]
      refine and_congr_left fun _ => ⟨fun h before line' after hs => ?_,
        fun h before line' after hs => ?_⟩
      · cases before with
        | nil =>
          obtain ⟨rfl, -⟩ := List.cons.inj hs
          rw [List.map_nil, run, List.foldl_nil, hf]
        | cons first before =>
          obtain ⟨rfl, hs'⟩ := List.cons.inj hs
          rw [List.map_cons, hrun]
          exact h before line' after hs'
      · have := h (line :: before) line' after (by rw [hs]; rfl)
        rwa [List.map_cons, hrun] at this
    · refine iff_of_false (by simp) fun h => ?_
      have hnone : (b.feed line).1 = none := h.1 [] line script rfl
      rw [hf] at hnone
      cases hnone

/-- **Failures are not remembered.** Whatever was called on a builder, and whether it failed or not,
finishing hands out a tree exactly if the builder is completable at that moment, and two more lines
make it completable; the tree then has all dialogs that were complete. A whole script, in contrast,
is only read if none of its lines fails. -/
theorem failures_are_not_remembered (options : Script.Options) (calls : List Call) :
    ((∃ t notices, ((new options).run calls).finish.1 = .ok (t, notices)) ↔
        ((new options).run calls).Completable) ∧
      (∃ lines : List String, lines.length ≤ 2 ∧ ∃ t notices,
        (((new options).run calls).run (lines.map .feed)).finish.1 = .ok (t, notices) ∧
          ((new options).run calls).dialogIds <+: t.dialogs.keys) ∧
      ∀ script r, Script.parse options script = .ok r ↔
        (∀ before line after, script = before ++ line :: after →
          (((new options).run (before.map .feed)).feed line).1 = none) ∧
        ((new options).run (script.map .feed)).finish.1 = .ok r := by
  have hb := (coherent_new options).run calls
  refine ⟨finish_iff_completable hb, ?_, fun script r => complete_eq_ok_iff⟩
  obtain ⟨lines, hlines, hcompletable⟩ := exists_recovery ((new options).run calls)
  have hb' := hb.run (lines.map .feed)
  obtain ⟨t, notices, ht⟩ := (finish_iff_completable hb').2 hcompletable
  exact ⟨lines, hlines, t, notices, ht,
    (dialogIds_run hb _).trans (dialogIds_prefix_finish hb' ht)⟩

/-- A builder can hand out a tree although a line failed. -/
theorem failed_builder_hands_out_tree :
    ¬∀ (options : Script.Options) (script : List String),
      (∃ before line after, script = before ++ line :: after ∧
        (((new options).run (before.map .feed)).feed line).1 ≠ none) →
      ∀ t notices, ((new options).run (script.map .feed)).finish.1 ≠ .ok (t, notices) := by
  intro h
  have hnone := h {} ["$[a] One.", "$[b] $[c]"]
    ⟨["$[a] One."], "$[b] $[c]", [], rfl, by decide +kernel⟩
  have hok : (((new {}).run [.feed "$[a] One.", .feed "$[b] $[c]"]).finish.1).isOk := by
    decide +kernel
  cases hr : ((new {}).run [.feed "$[a] One.", .feed "$[b] $[c]"]).finish.1 with
  | error f =>
    rw [hr] at hok
    cases hok
  | ok r => exact hnone r.1 r.2 hr

end Plotline.Builder
