import Plotline.Proofs.Story.Course

/-!
# Playing goes by the screen

Whatever the player says, a play makes no move that was not offered. It follows the link of a dialog
only if nothing is listed there, and it takes a decision only under the number at which it stands on
the screen. So no choice is ever refused (`not_choice_fault`), and the score is told exactly if the
story has ended when the play stops (`close_mem_iff`).

`play_moves_legally` puts these together for all runs.
-/

namespace Plotline.Play

variable {presenter : Presenter} {p q r : Play} {d : Dialog} {deed : Deed} {deeds : List Deed}
  {e : Option End} {f : Failure} {score : Int} {n : Nat}

/-! ## How a play stops -/

/-- **No choice is refused.** -/
theorem not_choice_fault (h : Course presenter p deeds q (some (.failed f))) :
    f.fault.family ≠ .choice ∧ ∀ id dialog, f.fault ≠ .decisionNotFound id dialog := by
  obtain ⟨done, deed, r, -, -, hf, ho⟩ := exists_last h
  rcases stop_cases hf ho with ⟨_, -, he⟩ | ⟨_, -, he⟩ | ⟨f', he, hfault⟩
  · cases he
  · cases he
  · obtain rfl := End.failed.inj he
    rcases hfault with ⟨nf, hn⟩ | hk | ⟨link, hb⟩
    · simp [hn, Fault.family]
    · simp [hk, Fault.family]
    · refine ⟨by simp [hb.family], fun id dialog hn => ?_⟩
      rw [hn] at hb
      cases hb

theorem close_notMem (h : Course presenter p deeds q none) : Deed.close score ∉ deeds := by
  generalize he : (none : Option End) = e at h
  induction h with
  | start p => exact List.not_mem_nil
  | stop hf ho => cases he
  | go hf ho _ ih =>
    rw [List.mem_cons, not_or]
    refine ⟨?_, ih he⟩
    rintro rfl
    cases congrArg Prod.snd ho

/-- A dialog is no end. -/
theorem Prompts.ended_eq_false (h : p.Prompts presenter d) : p.session.ended = false := by
  cases hd : p.session.dialog with
  | none =>
    have hc := h.current
    rw [Session.current, hd] at hc
    cases hc
  | some id => rw [Session.ended, hd]; rfl

/-- **The score is told exactly if the play stops, without a failure, at the end of the story.** -/
theorem close_mem_iff (h : Course presenter p deeds q e) :
    .close score ∈ deeds ↔ (e = some .finished ∨ e = some .left) ∧ q.session.ended = true ∧
      score = (q.library.tree q.session.tree).score := by
  cases e with
  | none => exact iff_of_false (close_notMem h) (by simp)
  | some e =>
    obtain ⟨done, deed, r, rfl, hc, hf, ho⟩ := exists_last h
    have hdone : Deed.close score ∉ done := close_notMem hc
    rw [List.mem_append, List.mem_singleton, or_iff_right hdone]
    rcases stop_cases hf ho with ⟨s, rfl, rfl⟩ | ⟨d, rfl, rfl⟩ | ⟨f, rfl, -⟩
    · cases hf with
      | close hend =>
        obtain rfl : _ = q := congrArg Prod.fst ho
        simp [Deed.outcome, hend]
    · cases hf with
      | leave hd =>
        obtain rfl : _ = q := congrArg Prod.fst ho
        simp [Deed.outcome, hd.ended_eq_false]
    · refine iff_of_false (fun hclose => ?_) (by simp)
      subst hclose
      cases congrArg Prod.snd ho

/-! ## Legal plays -/

/-- A play that went by the screen. -/
structure Legal (presenter : Presenter) (p : Play) (deeds : List Deed) (q : Play)
    (e : Option End) : Prop where
  /-- Every turn did what fitted then. -/
  course : Course presenter p deeds q e
  /-- The session did what the deeds called for, and nothing else. -/
  moves : q.journey = p.journey.run (Deed.calls deeds)
  written : q.output = p.output ++ String.join (deeds.map (Deed.text presenter))
  /-- What was taken had stood on the screen under the number typed, and was enabled. -/
  shown : ∀ d n x, .take d n x ∈ deeds → presenter.item n x ∈ presenter.lines d ∧ x.enabled = true
  faults : ∀ f, e = some (.failed f) →
    f.fault.family ≠ .choice ∧ ∀ id dialog, f.fault ≠ .decisionNotFound id dialog
  /-- The score was told exactly if the play stopped, without a failure, at the story's end. -/
  closes : ∀ score, .close score ∈ deeds ↔ (e = some .finished ∨ e = some .left) ∧
    q.session.ended = true ∧ score = (q.library.tree q.session.tree).score
  /-- A player left with nothing more to say, or with a word for it, and changed nothing by it. -/
  leaves : e = some .left → ∃ done d r, deeds = done ++ [.leave d] ∧
    Course presenter p done r none ∧ (∀ line ∈ r.input.head?, Leaves line) ∧
    q.journey = r.journey

theorem exists_fits_of_mem (h : Course presenter p deeds q e) (hm : deed ∈ deeds) :
    ∃ r, Deed.Fits presenter r deed := by
  induction h with
  | start p => cases hm
  | stop hf ho =>
    obtain rfl := List.mem_singleton.1 hm
    exact ⟨_, hf⟩
  | go hf ho _ ih =>
    rcases List.mem_cons.1 hm with rfl | hm
    · exact ⟨_, hf⟩
    · exact ih hm

theorem exists_leave (h : Course presenter p deeds q (some .left)) :
    ∃ done d r, deeds = done ++ [.leave d] ∧ Course presenter p done r none ∧
      (∀ line ∈ r.input.head?, Leaves line) ∧ q.journey = r.journey := by
  obtain ⟨done, deed, r, rfl, hc, hf, ho⟩ := exists_last h
  rcases stop_cases hf ho with ⟨s, -, he⟩ | ⟨d, rfl, -⟩ | ⟨f, he, -⟩
  · cases he
  · cases hf with
    | leave hd hl =>
      obtain rfl : _ = q := congrArg Prod.fst ho
      exact ⟨done, d, r, rfl, hc, hl, rfl⟩
  · cases he

theorem legal_of_course (h : Course presenter p deeds q e) : Legal presenter p deeds q e where
  course := h
  moves := journey_of_course h
  written := output_of_course h
  shown d n x hm := by
    obtain ⟨r, hf⟩ := exists_fits_of_mem h hm
    cases hf with
    | take hx hn => exact ⟨hn.item_mem_lines, hx.enabled⟩
  faults f he := not_choice_fault (he ▸ h)
  closes score := close_mem_iff h
  leaves he := exists_leave (he ▸ h)

/-- **A play makes legal moves only.** Every run is a sequence of deeds that go by the screen. At a
prompt, a player who has no more to say or says a word for leaving leaves, with everything as it
was. -/
theorem play_moves_legally (presenter : Presenter) (p : Play)
    (h : p.session.Within p.library) (n : Nat) :
    (∃ deeds, Legal presenter p deeds (p.run presenter n).1 (p.run presenter n).2) ∧
      ∀ q d, p.run presenter n = (q, none) → q.Prompts presenter d →
        (∀ line ∈ q.input.head?, Leaves line) →
        ∃ r, p.run presenter (n + 1) = (r, some .left) ∧ r.journey = q.journey := by
  obtain ⟨deeds, -, hc⟩ := exists_course presenter h n
  refine ⟨⟨deeds, legal_of_course hc⟩, fun q d hq hd hl => ?_⟩
  have ht : q.turn presenter = (Deed.leave d).outcome presenter q := turn_of_fits (.leave hd hl)
  rw [run_add hq]
  exact ⟨_, run_succ_of_stop ht 0, rfl⟩

theorem loop_moves_legally :
    loopPlay.session.Within loopPlay.library ∧
      (∃ deeds, Legal {} loopPlay deeds (loopPlay.run {} 3).1 (loopPlay.run {} 3).2) ∧
      ∀ q d, loopPlay.run {} 3 = (q, none) → q.Prompts {} d →
        (∀ line ∈ q.input.head?, Leaves line) →
        ∃ r, loopPlay.run {} (3 + 1) = (r, some .left) ∧ r.journey = q.journey :=
  ⟨loopPlay_within, play_moves_legally {} loopPlay loopPlay_within 3⟩

end Plotline.Play
