import Plotline.Proofs.Story.Course

/-!
# Idle lines

A line at a prompt that is neither a word for leaving nor the number of an enabled decision is
refused, and the same dialog is shown again (`turn_of_idle`). So such lines make no difference
wherever they are put in front of a prompt (`Padded`), but for what is written: the play stops as it
would without them (`EndAlike`).

There is one exception. Digits that give no number end the play (`turn_of_stumbles`).

`bad_input_is_harmless` puts these together.
-/

namespace Plotline.Play

variable {presenter : Presenter} {p p' p'' q r : Play} {d : Dialog} {line : String}
  {input said more : List String}

/-- A line that is neither a word for leaving nor the number of an enabled decision that is
listed. -/
structure Bad (presenter : Presenter) (d : Dialog) (line : String) : Prop where
  stays : ¬Leaves line
  picks : ∀ n x, Number.Numeral.Spells (Play.said line) n → presenter.Lists d n x →
    x.enabled = false

theorem Bad.idle (h : Bad presenter d line) (hs : ¬Stumbles line) : Idle presenter d line :=
  ⟨h.stays, hs, fun n x hn => h.picks n x hn.spells⟩

/-! ## One bad line -/

theorem turn_of_idle (hd : p.Prompts presenter d) (hi : p.input = line :: more)
    (hl : Idle presenter d line) :
    p.turn presenter = ({ p with
      input := more, output := p.output ++ (Deed.refuse d).text presenter }, none) := by
  have hf : Deed.Fits presenter p (.refuse d) := .refuse hd (by rw [hi]; rfl) hl
  rw [turn_of_fits hf]
  simp [Deed.outcome, hi]

theorem turn_of_stumbles (hd : p.Prompts presenter d) (hi : p.input = line :: more)
    (hl : Stumbles line) :
    ∃ f, p.turn presenter = ({ p with
      input := more, output := p.output ++ (Deed.stumble d f).text presenter },
        some (.failed (presenter.console.fail (.numeral f)))) := by
  obtain ⟨f, hr⟩ := request_of_stumbles hl
  have hf : Deed.Fits presenter p (.stumble d f) := .stumble hd (by rw [hi]; rfl) hl hr
  refine ⟨f, ?_⟩
  rw [turn_of_fits hf]
  simp [Deed.outcome, hi]

/-! ## Plays that differ in what was written -/

/-- Two plays that differ in nothing but what was written. -/
def Alike (p q : Play) : Prop := ∃ output, q = { p with output := output }

theorem Alike.refl (p : Play) : Alike p p := ⟨p.output, rfl⟩

theorem Alike.symm (h : Alike p q) : Alike q p := by
  obtain ⟨output, rfl⟩ := h
  exact ⟨p.output, rfl⟩

theorem Alike.trans (h : Alike p q) (h' : Alike q r) : Alike p r := by
  obtain ⟨_, rfl⟩ := h
  obtain ⟨output, rfl⟩ := h'
  exact ⟨output, rfl⟩

/-! ## Plays that end alike -/

/-- Two plays that stop in the same way, and in the same state but for what was written, or neither
of which stops. -/
structure EndAlike (presenter : Presenter) (p p' : Play) : Prop where
  forth : ∀ q e, p.Stops presenter q e → ∃ q', p'.Stops presenter q' e ∧ Alike q q'
  back : ∀ q' e, p'.Stops presenter q' e → ∃ q, p.Stops presenter q e ∧ Alike q q'

theorem EndAlike.refl (p : Play) : EndAlike presenter p p where
  forth q _ h := ⟨q, h, .refl q⟩
  back q _ h := ⟨q, h, .refl q⟩

theorem EndAlike.trans (h : EndAlike presenter p p') (h' : EndAlike presenter p' p'') :
    EndAlike presenter p p'' where
  forth q e hq :=
    let ⟨q', hq', ha⟩ := h.forth q e hq
    let ⟨q'', hq'', ha'⟩ := h'.forth q' e hq'
    ⟨q'', hq'', ha.trans ha'⟩
  back q'' e hq'' :=
    let ⟨q', hq', ha'⟩ := h'.back q'' e hq''
    let ⟨q, hq, ha⟩ := h.back q' e hq'
    ⟨q, hq, ha.trans ha'⟩

theorem exists_stops_of_alike {e : End} (hp : p.session.Within p.library) (ha : Alike p p')
    (h : p.Stops presenter q e) : ∃ q', p'.Stops presenter q' e ∧ Alike q q' := by
  obtain ⟨output, rfl⟩ := ha
  obtain ⟨deeds, hc⟩ := course_of_stops hp h
  obtain ⟨output', hc'⟩ := course_with_output hc output
  exact ⟨_, stops_of_course hc', output', rfl⟩

/-- What was written before makes no difference to the end. -/
theorem Alike.endAlike (hp : p.session.Within p.library) (ha : Alike p p') :
    EndAlike presenter p p' where
  forth q e h := exists_stops_of_alike hp ha h
  back q' e h := by
    have hp' : p'.session.Within p'.library := by
      obtain ⟨output, rfl⟩ := ha
      exact hp
    obtain ⟨q, hq, hqa⟩ := exists_stops_of_alike hp' ha.symm h
    exact ⟨q, hq, hqa.symm⟩

/-- Two plays on the way to which nothing was decided end alike if the plays there do. -/
theorem EndAlike.of_run {m m' : Nat} (h : p.run presenter m = (q, none))
    (h' : p'.run presenter m' = (r, none)) (hqr : EndAlike presenter q r) :
    EndAlike presenter p p' where
  forth s e hs :=
    let ⟨s', hs', ha⟩ := hqr.forth s e ((stops_iff_of_run h).1 hs)
    ⟨s', (stops_iff_of_run h').2 hs', ha⟩
  back s' e hs' :=
    let ⟨s, hs, ha⟩ := hqr.back s' e ((stops_iff_of_run h').1 hs')
    ⟨s, (stops_iff_of_run h).2 hs, ha⟩

/-! ## Lines put in front of a prompt -/

/-- The player's lines with harmless bad lines put in, each at a moment when the play asks. -/
inductive Padded (presenter : Presenter) (p : Play) : List String → Prop
  | refl : Padded presenter p p.input
  | line {said more : List String} {line : String} {n : Nat} {q : Play} {d : Dialog}
      (h : Padded presenter p (said ++ more))
      (hq : { p with input := said ++ more }.run presenter n = (q, none)) (hi : q.input = more)
      (hd : q.Prompts presenter d) (hl : Bad presenter d line) (hs : ¬Stumbles line) :
    Padded presenter p (said ++ line :: more)

/-- **One idle line in front of a prompt makes no difference to the end.** -/
theorem endAlike_idle {n : Nat} (hp : p.session.Within p.library) (hpi : p.input = said ++ more)
    (hq : p.run presenter n = (q, none)) (hi : q.input = more) (hd : q.Prompts presenter d)
    (hl : Idle presenter d line) :
    EndAlike presenter p { p with input := said ++ line :: more } := by
  subst hi
  obtain ⟨deeds, -, hc⟩ := exists_course presenter hp n
  rw [hq] at hc
  -- The line is met where the play comes to the prompt, and the next turn is spent on it.
  have hmet := run_of_course (course_with_input hc hpi (line :: q.input))
  have hspent := turn_of_idle (p := { q with input := line :: q.input })
    ⟨hd.current, hd.listed⟩ rfl hl
  have hrun := run_add hmet 1
  rw [run_succ_of_go hspent] at hrun
  have halike : Alike q
      { q with output := q.output ++ (Deed.refuse d).text presenter } := ⟨_, rfl⟩
  exact .of_run hq hrun (halike.endAlike (within_of_course hc hp))

/-- **Harmless bad lines make no difference to the end.** -/
theorem Padded.endAlike (hp : p.session.Within p.library) (h : Padded presenter p input) :
    EndAlike presenter p { p with input := input } := by
  induction h with
  | refl => exact .refl p
  | line _ hq hi hd hl hs ih =>
    exact ih.trans (endAlike_idle hp rfl hq hi hd (hl.idle hs))

/-! ## Bad input -/

/-- **Bad input at the prompt is harmless**, unless it is made of digits that give no number. A bad
line is refused, and the same dialog is shown again; and however many bad lines are put in front of
prompts, the play ends as it would without them. Digits that give no number end the play with a
fault, and change nothing else. -/
theorem bad_input_is_harmless (presenter : Presenter) (p : Play)
    (h : p.session.Within p.library) :
    (∀ d line more, p.Prompts presenter d → p.input = line :: more → Bad presenter d line →
      ¬Stumbles line → ∃ q, p.turn presenter = (q, none) ∧ q.Prompts presenter d ∧
        q = { p with
          input := more
          output := p.output ++ (presenter.page d ++ prompt ++
            presenter.console.out "(no such choice)" []) }) ∧
      (∀ input, Padded presenter p input → EndAlike presenter p { p with input := input }) ∧
      ∀ d line more, p.Prompts presenter d → p.input = line :: more → Stumbles line →
        ∃ q f, p.turn presenter = (q, some (.failed f)) ∧ (∃ nf, f.fault = .numeral nf) ∧
          q.journey = p.journey := by
  refine ⟨fun d line more hd hi hl hs => ?_, fun input hpad => hpad.endAlike h,
    fun d line more hd hi hs => ?_⟩
  · exact ⟨_, turn_of_idle hd hi (hl.idle hs), ⟨hd.current, hd.listed⟩, rfl⟩
  · obtain ⟨f, ht⟩ := turn_of_stumbles hd hi hs
    exact ⟨_, _, ht, ⟨f, rfl⟩, rfl⟩

/-- The dialog at which the example play asks. -/
def gate : Dialog := (Session.loopTree.dialogs.get? "gate").getD { id := "" }

theorem prompts_gate : loopPlay.Prompts {} gate := ⟨by decide +kernel, by decide +kernel⟩

theorem loop_bad_input_is_harmless :
    loopPlay.session.Within loopPlay.library ∧
      (∀ d line more, loopPlay.Prompts {} d → loopPlay.input = line :: more → Bad {} d line →
        ¬Stumbles line → ∃ q, loopPlay.turn {} = (q, none) ∧ q.Prompts {} d ∧
          q = { loopPlay with
            input := more
            output := loopPlay.output ++ (({} : Presenter).page d ++ prompt ++
              ({} : Presenter).console.out "(no such choice)" []) }) ∧
      (∀ input, Padded {} loopPlay input → EndAlike {} loopPlay { loopPlay with input := input }) ∧
      ∀ d line more, loopPlay.Prompts {} d → loopPlay.input = line :: more → Stumbles line →
        ∃ q f, loopPlay.turn {} = (q, some (.failed f)) ∧ (∃ nf, f.fault = .numeral nf) ∧
          q.journey = loopPlay.journey :=
  ⟨loopPlay_within, bad_input_is_harmless {} loopPlay loopPlay_within⟩

/-- A raised digit is no number, but the play takes it for one and breaks off. -/
theorem bad_input_can_end_play :
    ¬∀ (presenter : Presenter) (p : Play) (d : Dialog) (line : String) (more : List String),
      p.session.Within p.library → p.Prompts presenter d → p.input = line :: more →
        Bad presenter d line → (p.turn presenter).2 = none := by
  intro h
  have hsaid : Play.said "²" = ['²'] := by decide +kernel
  have hbad : Bad {} gate "²" := by
    refine ⟨by simp [Leaves, hsaid], fun n x hn => ?_⟩
    rw [hsaid] at hn
    obtain ⟨v, hv⟩ := hn.decimal List.mem_cons_self
    have hnone : Text.decimalValue? '²' = none := by decide
    rw [hnone] at hv
    cases hv
  have hend := h {} { loopPlay with input := ["²"] } gate "²" [] loopPlay_within
    ⟨prompts_gate.current, prompts_gate.listed⟩ rfl hbad
  revert hend
  decide +kernel

end Plotline.Play
