import Plotline.Proofs.Script.Positions
import Plotline.Proofs.Script.Recovery

/-!
# Finishing in between

A builder that has handed out a tree can be fed on. If the next line that counts starts something,
it would have completed what was gathered anyway, so it makes no difference that the tree was handed
out before: the rest of the script fails on the same line in the same way, or gives the same tree
with the same notices. The later tree has everything that the earlier one had (`Tree.Extends`).

* `Builder.feed_of_completed`: a line that starts something treats a builder and the completed one
  alike.
* `Builder.meets_feedAll`: so do the lines of a script, up to the first failure.
* `Builder.finishing_is_transparent` is about whole scripts.
-/

namespace Plotline

open Marker (ids)
open Script (Line linesOf counts)
open Text (strip)

/-! ## Trees that grow -/

/-- The dialog `d'` is `d` with more decisions, if any, behind those that it had. -/
structure Dialog.Extends (d d' : Dialog) : Prop where
  frame : d' = { d with decisions := d'.decisions }
  decisions : d.decisions.items <+: d'.decisions.items

/-- The tree `t'` is `t` with more decisions, if any, in its last dialog and more dialogs, if any,
behind that one. -/
structure Tree.Extends (t t' : Tree) : Prop where
  frame : t' = { t with dialogs := t'.dialogs }
  dialogs : ∃ ds d d' more, t.dialogs.items = ds ++ [d] ∧ t'.dialogs.items = ds ++ d' :: more ∧
    d.Extends d'

theorem Dialog.Extends.refl (d : Dialog) : d.Extends d := ⟨rfl, List.prefix_refl _⟩

theorem Dialog.Extends.trans {d d' d'' : Dialog} (h : d.Extends d') (h' : d'.Extends d'') :
    d.Extends d'' :=
  ⟨by rw [h'.frame, h.frame], h.decisions.trans h'.decisions⟩

theorem Tree.Extends.trans {t t' t'' : Tree} (h : t.Extends t') (h' : t'.Extends t'') :
    t.Extends t'' := by
  refine ⟨by rw [h'.frame, h.frame], ?_⟩
  obtain ⟨ds, d, d', more, ht, ht', hd⟩ := h.dialogs
  obtain ⟨es, e, e', more', hte, ht'', he⟩ := h'.dialogs
  rw [ht'] at hte
  obtain rfl | ⟨ms, m, rfl⟩ := List.eq_nil_or_concat more
  · -- the dialog that was the last one still is
    obtain ⟨rfl, hde⟩ := List.append_inj' hte rfl
    obtain rfl := List.singleton_injective hde
    exact ⟨ds, d, e', more', ht, ht'', hd.trans he⟩
  · have hes : es = ds ++ d' :: ms := by
      rw [List.concat_eq_append, ← List.cons_append, ← List.append_assoc] at hte
      exact (List.append_inj_left' hte rfl).symm
    refine ⟨ds, d, d', ms ++ e' :: more', ht, ?_, hd⟩
    rw [ht'', hes, List.append_assoc, List.cons_append]

namespace Builder

variable {b b' : Builder} {t : Tree} {line : String}

/-- **What one call inserts comes behind all that was there.** -/
theorem Standing.exists_extends (hb : b.Standing) (ht : b.tree = some t) (h : Grows b b') :
    ∃ t', b'.tree = some t' ∧ t.Extends t' := by
  obtain ⟨last, hlast, -⟩ := hb.last t ht
  obtain ⟨ds, hds⟩ := List.getLast?_eq_some_iff.1 hlast
  cases h with
  | keeps h => exact ⟨t, h.tree.trans ht, rfl, ds, last, last, [], hds, hds, .refl last⟩
  | @gains id p _ _ _ h =>
    cases h with
    | dialog _ tree frame dialogs =>
      rw [treeFor_of_some ht] at frame dialogs
      refine ⟨_, tree, frame, ds, last, last, [b.dialogOf id p], hds, ?_, .refl last⟩
      rw [dialogs, hds, List.append_assoc, List.singleton_append]
    | decision _ tree tree' frame dialogs dialogs' dialogFrame decisions =>
      obtain rfl := Option.some.inj (ht.symm.trans tree)
      exact ⟨_, tree', frame, _, _, _, [], dialogs, dialogs', dialogFrame,
        decisions ▸ List.prefix_append _ _⟩

theorem Coherent.feedAll (hb : b.Coherent) (script : List String) :
    (b.feedAll script).2.Coherent := by
  induction script generalizing b with
  | nil => exact hb
  | cons line script ih =>
    have hc := (step_feed hb line).coherent
    rw [Builder.feedAll]
    rcases hf : b.feed line with ⟨_ | f, c⟩ <;> rw [hf] at hc
    · exact ih hc
    · exact hc

/-- Lines let the tree grow, also those before a failure. -/
theorem Coherent.exists_extends (hb : b.Coherent) (ht : b.tree = some t) (script : List String) :
    ∃ t', (b.feedAll script).2.tree = some t' ∧ t.Extends t' := by
  induction script generalizing b t with
  | nil => exact hb.toStanding.exists_extends ht (.keeps (.refl b))
  | cons line script ih =>
    have hstep := step_feed hb line
    obtain ⟨u, hu, htu⟩ := hb.toStanding.exists_extends ht hstep.grows
    rw [Builder.feedAll]
    rcases hf : b.feed line with ⟨_ | f, c⟩ <;> rw [hf] at hstep hu
    · obtain ⟨t', ht', hut'⟩ := ih hstep.coherent hu
      exact ⟨t', ht', htu.trans hut'⟩
    · exact ⟨u, hu, htu⟩

/-- A tree that is handed out after more lines has everything that there was before them. -/
theorem Coherent.extends_of_complete (hb : b.Coherent) (ht : b.tree = some t) {script : List String}
    {t' : Tree} {notices : List Posting} (h : b.complete script = .ok (t', notices)) :
    t.Extends t' := by
  have hc := hb.feedAll script
  obtain ⟨u, hu, htu⟩ := hb.exists_extends ht script
  unfold complete at h
  rcases hf : b.feedAll script with ⟨_ | f, c⟩ <;> rw [hf] at h hc hu
  · have ht' := (finish_fst_eq_ok_iff.1 ⟨notices, h⟩).2
    obtain ⟨u', hu', huu'⟩ := hc.toStanding.exists_extends hu (step_flush hc).grows
    obtain rfl := Option.some.inj (ht'.symm.trans hu')
    exact htu.trans huu'
  · cases h

/-! ## Going on after finishing -/

/-- Completing what is gathered does not look at how many lines were fed. -/
theorem flush_nextLine (b : Builder) : b.nextLine.flush = (b.flush.1, b.flush.2.nextLine) := by
  have hpending : b.nextLine.pending = b.pending := rfl
  simp only [flush, hpending]
  cases b.pending with
  | none => rfl
  | some p =>
    dsimp only
    split
    · rfl
    · have hkind : b.nextLine.kind = b.kind := rfl
      rw [hkind]
      cases b.kind with
      | dialog =>
        simp only [addDialog, treeFor, nextLine]
        split <;> rfl
      | decision =>
        simp only [addDecision, nextLine]
        split
        · split <;> rfl
        · rfl

/-- The builder `b'` is `b` with what was gathered completed. -/
def Completed (b b' : Builder) : Prop := b.flush = (none, b')

namespace Completed

variable (h : Completed b b')
include h

theorem frame : b'.options = b.options ∧ b'.lineCount = b.lineCount := by
  have hflush := flushes_flush b
  rw [h] at hflush
  cases hflush with
  | named _ count options => exact ⟨options, count⟩

/-- There is nothing left to complete. -/
theorem flush : b'.flush = (none, b') := by
  have hpending : b'.pending = none := by
    have hflush := pending_flush b
    rwa [h] at hflush
  simp only [Builder.flush, hpending]

theorem nextLine : Completed b.nextLine b'.nextLine := by
  rw [Completed, flush_nextLine, h]

/-- Finishing completes what is gathered, so it makes no difference whether that is done. -/
theorem finish : b'.finish = b.finish := by
  rw [Builder.finish, Builder.finish, h.flush, h]

end Completed

/-- What a first and a second reading have in common: they fail alike on the same line, or finishing
gives the same after them. -/
structure Meets (r r' : Option Failure × Builder) : Prop where
  failure : r'.1 = r.1
  line : r'.2.lineCount = r.2.lineCount
  finish : r.1 = none → r'.2.finish = r.2.finish

theorem Meets.refl (r : Option Failure × Builder) : Meets r r := ⟨rfl, rfl, fun _ => rfl⟩

theorem Meets.complete_eq {c : Builder} {xs ys : List String}
    (h : Meets (b.feedAll xs) (c.feedAll ys)) : c.complete ys = b.complete xs := by
  obtain ⟨hfailure, -, hfinish⟩ := h
  unfold complete
  revert hfailure hfinish
  rcases b.feedAll xs with ⟨f, b'⟩
  rcases c.feedAll ys with ⟨g, c'⟩
  rintro rfl hfinish
  cases g with
  | some f => rfl
  | none => exact congrArg Prod.fst (hfinish rfl)

/-- **A line that starts something treats a builder and the completed one alike**: it completes what
is gathered itself, unless it fails before. -/
theorem feed_of_completed (h : Completed b b') (hc : counts (strip line.toList) = true)
    (hs : (b.lineOf line).starts.isSome) :
    b'.feed line = b.feed line ∨
      ∃ f, b.feed line = (some f, b.nextLine) ∧ b'.feed line = (some f, b'.nextLine) := by
  have hflush : b.nextLine.flush = (none, b'.nextLine) := h.nextLine
  have hflush' : b'.nextLine.flush = (none, b'.nextLine) := h.nextLine.flush
  rw [feed_eq, feed_eq]
  cases htext : strip line.toList with
  | nil => simp [htext, counts] at hc
  | cons c rest =>
    have hcomment : c ≠ '#' := by simpa [htext, counts] using hc
    by_cases hdecision : c = '>'
    · left
      simp only [if_neg hcomment, if_pos hdecision, feedDecision_eq, hflush, hflush']
    · simp only [if_neg hcomment, if_neg hdecision]
      have hoptions : b'.nextLine.options = b.nextLine.options := h.frame.1
      have hscan : b'.nextLine.scan = b.nextLine.scan := by
        funext text
        simp only [scan, fail, hoptions]
      have hids : ids (Marker.segments b.options.trim (c :: rest)) ≠ [] := fun e => by
        simp [lineOf, Line.ofText, htext, hdecision, e] at hs
      rw [feedText, feedText, hscan]
      rcases b.nextLine.scan_line ⟨none, Marker.segments b.options.trim (c :: rest)⟩ rfl with
        ⟨f, hf, -⟩ | ⟨ht, -⟩
      · right
        simp only [hf]
        exact ⟨f, rfl, rfl⟩
      · left
        simp only [ht, hasId_ofSegments.2 hids, if_true, hflush, hflush']

/-- **Completing what is gathered makes no difference to lines of which the first that counts starts
something.** -/
theorem meets_feedAll (h : Completed b b') (script : List String)
    (hs : ∀ l ∈ (linesOf b.options.trim script).head?, l.starts.isSome) :
    Meets (b.feedAll script) (b'.feedAll script) := by
  induction script generalizing b b' with
  | nil => exact ⟨rfl, h.frame.2, fun _ => h.finish⟩
  | cons line script ih =>
    rw [feedAll, feedAll]
    by_cases hc : counts (strip line.toList) = true
    · rw [linesOf_cons_of_counts b script hc] at hs
      rcases feed_of_completed h hc (hs _ rfl) with hfeed | ⟨f, hf, hf'⟩
      · rw [hfeed]
        exact .refl _
      · rw [hf, hf']
        exact ⟨rfl, congrArg (· + 1) h.frame.2, fun e => by cases e⟩
    · have hc : counts (strip line.toList) = false := Bool.eq_false_iff.2 hc
      rw [linesOf_cons_of_not_counts _ script hc] at hs
      rw [b.feed_of_not_counts hc, b'.feed_of_not_counts hc]
      exact ih h.nextLine hs

/-! ## Whole scripts -/

theorem feedAll_append {b c : Builder} {known : List String} (h : b.feedAll known = (none, c))
    (script : List String) : b.feedAll (known ++ script) = c.feedAll script := by
  induction known generalizing b with
  | nil =>
    obtain rfl : b = c := congrArg Prod.snd h
    rfl
  | cons line known ih =>
    rw [feedAll] at h
    rw [List.cons_append, feedAll]
    rcases hf : b.feed line with ⟨_ | f, b'⟩ <;> rw [hf] at h
    · exact ih h
    · cases h

theorem completed_of_finish {r : Tree × List Posting} (h : b.finish = (.ok r, b')) :
    Completed b b' ∧ b'.tree = some r.1 := by
  have hok := finish_fst_eq_ok_iff.1 ⟨r.2, congrArg Prod.fst h⟩
  have hsnd : b.flush.2 = b' := by
    rw [← finish_snd, h]
  exact ⟨Prod.ext hok.1 hsnd, hsnd ▸ hok.2⟩

/-- The lines `ys` are read by the builder `b`, which has handed out the tree `t` behind the lines
`xs`, as they are read right behind these lines. -/
structure Resumes (options : Script.Options) (xs ys : List String) (b : Builder) (t : Tree)
    (notices : List Posting) : Prop where
  /-- The first failure of a line, if there is one, is the same. -/
  failure : (b.feedAll ys).1 = ((new options).feedAll (xs ++ ys)).1
  /-- It comes on the same line. -/
  line : (b.feedAll ys).2.lineCount = ((new options).feedAll (xs ++ ys)).2.lineCount
  /-- What comes of it in the end is the same: the first failure, or the tree and the notices. -/
  outcome : b.complete ys = Script.parse options (xs ++ ys)
  /-- The tree has grown at its end only. -/
  grown : ∀ t' notices', b.complete ys = .ok (t', notices') → t.Extends t'
  /-- Finishing at once hands out the tree again, with the same notices. -/
  again : b.finish = (.ok (t, notices), b)

/-- **Finishing in between is transparent**, if the next line that counts starts something. -/
theorem finishing_is_transparent (options : Script.Options) (xs ys : List String) {b b' : Builder}
    {t : Tree} {notices : List Posting} (hxs : (new options).feedAll xs = (none, b))
    (hfinish : b.finish = (.ok (t, notices), b'))
    (hys : ∀ l ∈ (linesOf options.trim ys).head?, l.starts.isSome) :
    Resumes options xs ys b' t notices := by
  obtain ⟨hcompleted, ht⟩ := completed_of_finish hfinish
  have hb : b.Coherent := by
    have hc := (coherent_new options).feedAll xs
    rwa [hxs] at hc
  have hb' : b'.Coherent := by
    have hc := (step_finish hb).coherent
    rwa [hfinish] at hc
  have hoptions : b.options = options := ((tracks_new options).feedAll hxs).same
  have hmeets : Meets ((new options).feedAll (xs ++ ys)) (b'.feedAll ys) := by
    rw [feedAll_append hxs ys]
    exact meets_feedAll hcompleted ys (by rwa [hoptions])
  exact
    { failure := hmeets.failure
      line := hmeets.line
      outcome := hmeets.complete_eq
      grown := fun t' notices' h => hb'.extends_of_complete ht h
      again := by rw [hcompleted.finish, hfinish] }

/-- A story that is finished and gone on with. Behind a blank line and a comment comes a decision of
the dialog that was complete. -/
theorem gate_resumes :
    let xs := ["$[gate] Well?", "It is late. $D[yard]"]
    let ys := ["", "# The way in", "> $[in] Go in.", "and stay.", "$[yard] Quiet."]
    ∃ b b' t notices, (new {}).feedAll xs = (none, b) ∧ b.finish = (.ok (t, notices), b') ∧
      (∀ l ∈ (linesOf true ys).head?, l.starts.isSome) ∧ Resumes {} xs ys b' t notices := by
  intro xs ys
  have hread : ((new {}).feedAll xs).1 = none := by decide +kernel
  have hok : ((new {}).feedAll xs).2.finish.1.isOk := by decide +kernel
  have hys : ∀ l ∈ (linesOf true ys).head?, l.starts.isSome := by decide +kernel
  rcases hfinish : ((new {}).feedAll xs).2.finish with ⟨_ | ⟨t, notices⟩, b'⟩
  · rw [hfinish] at hok
    cases hok
  · have hxs : (new {}).feedAll xs = (none, ((new {}).feedAll xs).2) := Prod.ext hread rfl
    exact ⟨_, b', t, notices, hxs, hfinish, hys, finishing_is_transparent {} xs ys hxs hfinish hys⟩

/-- A line that continues what was gathered finds nothing to continue after finishing. -/
example :
    let b := (new {}).run [.feed "$[gate] Well?"]
    (b.feed "It is late.").1 = none ∧ ((b.after .finish).feed "It is late.").1 ≠ none := by
  decide +kernel

end Builder

end Plotline
