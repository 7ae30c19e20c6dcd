import Plotline.Proofs.Story.Turn

/-!
# The course of a play

`Play.Course` is a play from its deeds, one after the other. `exists_course` reads the deeds off a
run, and `run_of_course` goes back. So what every deed does, a whole run does: the calls of the
deeds are all that changes the session and its library (`journey_of_course`), and what was written
before and what is said later makes no difference (`course_with_output`, `course_with_input`).
-/

namespace Plotline.Play

variable {presenter : Presenter} {p q r : Play} {deed : Deed} {deeds : List Deed}
  {e : Option End} {said : List String} {m n : Nat}

/-! ## Courses -/

/-- What happens in the first turns of a play, deed by deed, and what the play comes to. Each deed
fits where it is done. -/
inductive Course (presenter : Presenter) : Play → List Deed → Play → Option End → Prop
  | start (p : Play) : Course presenter p [] p none
  | stop {p q : Play} {deed : Deed} {e : End} (hf : deed.Fits presenter p)
      (ho : deed.outcome presenter p = (q, some e)) : Course presenter p [deed] q (some e)
  | go {p q r : Play} {deed : Deed} {deeds : List Deed} {e : Option End}
      (hf : deed.Fits presenter p) (ho : deed.outcome presenter p = (q, none))
      (h : Course presenter q deeds r e) : Course presenter p (deed :: deeds) r e

theorem run_succ_of_stop {e : End} (h : p.turn presenter = (q, some e)) (n : Nat) :
    p.run presenter (n + 1) = (q, some e) := by
  rw [run, h]

theorem run_succ_of_go (h : p.turn presenter = (q, none)) (n : Nat) :
    p.run presenter (n + 1) = q.run presenter n := by
  rw [run, h]

/-- **Every run has its course.** -/
theorem exists_course (presenter : Presenter) (h : p.session.Within p.library) (n : Nat) :
    ∃ deeds, deeds.length ≤ n ∧
      Course presenter p deeds (p.run presenter n).1 (p.run presenter n).2 := by
  induction n generalizing p with
  | zero => exact ⟨[], Nat.le_refl 0, .start p⟩
  | succ n ih =>
    obtain ⟨deed, hf⟩ := exists_fits presenter h
    have hw := within_outcome presenter h deed
    have ht := turn_of_fits hf
    cases ho : deed.outcome presenter p with
    | mk q e =>
      rw [ho] at hw ht
      cases e with
      | some e =>
        rw [run_succ_of_stop ht]
        exact ⟨[deed], Nat.le_add_left 1 n, .stop hf ho⟩
      | none =>
        obtain ⟨deeds, hlength, hc⟩ := ih hw
        rw [run_succ_of_go ht]
        exact ⟨deed :: deeds, Nat.succ_le_succ hlength, .go hf ho hc⟩

/-- **A course is the run of as many turns.** -/
theorem run_of_course (h : Course presenter p deeds q e) :
    p.run presenter deeds.length = (q, e) := by
  induction h with
  | start p => rfl
  | stop hf ho => exact run_succ_of_stop ((turn_of_fits hf).trans ho) 0
  | go hf ho _ ih => exact (run_succ_of_go ((turn_of_fits hf).trans ho) _).trans ih

/-- A course that has stopped did so with its last deed. -/
theorem exists_last {e : End} (h : Course presenter p deeds q (some e)) :
    ∃ done deed r, deeds = done ++ [deed] ∧ Course presenter p done r none ∧
      Deed.Fits presenter r deed ∧ deed.outcome presenter r = (q, some e) := by
  generalize he : some e = stopped at h
  induction h with
  | start p => cases he
  | @stop p q deed e' hf ho =>
    obtain rfl := Option.some.inj he
    exact ⟨[], deed, p, rfl, .start p, hf, ho⟩
  | @go p q r deed deeds e' hf ho _ ih =>
    obtain ⟨done, last, s, rfl, hc, hlast⟩ := ih he
    exact ⟨deed :: done, last, s, rfl, .go hf ho hc, hlast⟩

/-- A run goes on where a shorter one has come to. -/
theorem run_add (h : p.run presenter m = (q, none)) (n : Nat) :
    p.run presenter (m + n) = q.run presenter n := by
  induction m generalizing p with
  | zero =>
    obtain rfl : p = q := congrArg Prod.fst h
    rw [Nat.zero_add]
  | succ m ih =>
    cases ht : p.turn presenter with
    | mk p' e' =>
      cases e' with
      | some e' =>
        rw [run_succ_of_stop ht] at h
        cases h
      | none =>
        rw [run_succ_of_go ht] at h
        rw [Nat.succ_add, run_succ_of_go ht, ih h]

/-- A run that has stopped stays as it is. -/
theorem run_of_stop {e : End} (h : p.run presenter m = (q, some e)) (hn : m ≤ n) :
    p.run presenter n = (q, some e) := by
  induction m generalizing p n with
  | zero => cases h
  | succ m ih =>
    obtain ⟨n, rfl⟩ := Nat.exists_eq_add_of_le' (Nat.lt_of_lt_of_le (Nat.succ_pos m) hn)
    cases ht : p.turn presenter with
    | mk p' e' =>
      cases e' with
      | some e' =>
        rw [run_succ_of_stop ht] at h ⊢
        exact h
      | none =>
        rw [run_succ_of_go ht] at h ⊢
        exact ih h (Nat.le_of_succ_le_succ hn)

/-- **The calls of a course are all that changes the session and its library.** -/
theorem journey_of_course (h : Course presenter p deeds q e) :
    q.journey = p.journey.run (Deed.calls deeds) := by
  have hdeed : ∀ {p q : Play} {deed : Deed} {e : Option End},
      deed.outcome presenter p = (q, e) → q.journey = p.journey.run (Deed.calls [deed]) := by
    intro p q deed e ho
    rw [← journey_outcome presenter, ho]
  induction h with
  | start p => rfl
  | stop hf ho => exact hdeed ho
  | @go p q r deed deeds e hf ho _ ih =>
    have hcalls : Deed.calls (deed :: deeds) = Deed.calls [deed] ++ Deed.calls deeds := by
      simp [Deed.calls]
    rw [ih, hdeed ho, hcalls, Journey.run, Journey.run, Journey.run, List.foldl_append]

theorem within_of_course (h : Course presenter p deeds q e) (hp : p.session.Within p.library) :
    q.session.Within q.library := by
  induction h with
  | start p => exact hp
  | @stop p q deed e hf ho =>
    have hw := within_outcome presenter hp deed
    rwa [ho] at hw
  | @go p q r deed deeds e hf ho _ ih =>
    have hw := within_outcome presenter hp deed
    rw [ho] at hw
    exact ih hw

theorem output_of_course (h : Course presenter p deeds q e) :
    q.output = p.output ++ String.join (deeds.map (Deed.text presenter)) := by
  have hdeed : ∀ {p q : Play} {deed : Deed} {e : Option End},
      deed.outcome presenter p = (q, e) → q.output = p.output ++ deed.text presenter := by
    intro p q deed e ho
    rw [← output_outcome presenter, ho]
  induction h with
  | start p => simp
  | stop hf ho => rw [hdeed ho]; simp
  | go hf ho _ ih => rw [ih, hdeed ho]; simp [String.append_assoc]

/-! ## What a course depends on -/

/-- What was written before makes no difference to a play. -/
theorem course_with_output (h : Course presenter p deeds q e) (output : String) :
    ∃ output', Course presenter { p with output := output } deeds
      { q with output := output' } e := by
  induction h generalizing output with
  | start p => exact ⟨output, .start _⟩
  | stop hf ho =>
    exact ⟨_, .stop (fits_framed hf _ (fun _ => rfl) output) (outcome_with_output ho output)⟩
  | @go p q r deed deeds e hf ho _ ih =>
    obtain ⟨output', hc⟩ := ih (output ++ deed.text presenter)
    exact ⟨output', .go (fits_framed hf _ (fun _ => rfl) output) (outcome_with_output ho output) hc⟩

/-- A play reads its lines from the front. -/
theorem input_of_course (h : Course presenter p deeds q e) : q.input <:+ p.input := by
  have hstep : ∀ {p q : Play} {deed : Deed} {e : Option End},
      deed.outcome presenter p = (q, e) → q.input <:+ p.input := by
    intro p q deed e ho
    have hq : q.input = p.input.drop deed.reads := by
      rw [← input_outcome presenter, ho]
    rw [hq]
    exact List.drop_suffix _ _
  induction h with
  | start p => exact List.suffix_refl _
  | stop hf ho => exact hstep ho
  | go hf ho _ ih => exact ih.trans (hstep ho)

/-- **What is said later makes no difference to a play as far as it got without.** -/
theorem course_with_input (h : Course presenter p deeds q none) (hi : p.input = said ++ q.input)
    (input : List String) :
    Course presenter { p with input := said ++ input } deeds { q with input := input } none := by
  generalize he : (none : Option End) = e at h
  induction h generalizing said with
  | start p =>
    obtain rfl : said = [] := by simpa using hi
    exact .start _
  | stop hf ho => cases he
  | @go p q r deed deeds e hf ho hc ih =>
    have ho' := outcome_with_input ho (said ++ input)
    rcases reads_of_go hf ho with ⟨hr, hq⟩ | ⟨hr, line, hq⟩
    · rw [hr, List.drop_zero] at ho'
      have hf' := fits_framed hf (said ++ input) (fun h => by omega) p.output
      exact .go hf' ho' (ih (hq.trans hi) he)
    · obtain ⟨said', hs⟩ := input_of_course hc
      obtain rfl : said = line :: said' := by
        rw [hi, ← hs, ← List.cons_append] at hq
        exact List.append_cancel_right hq
      rw [hr] at ho'
      have hf' := fits_framed hf (line :: said' ++ input) (fun _ => by rw [hq]; rfl) p.output
      exact .go hf' ho' (ih hs.symm he)

/-! ## Stopping -/

/-- The play stops, at `q`. -/
def Stops (presenter : Presenter) (p q : Play) (e : End) : Prop :=
  ∃ n, p.run presenter n = (q, some e)

theorem run_of_snd {e : Option End} (h : (p.run presenter n).2 = e) :
    p.run presenter n = ((p.run presenter n).1, e) := Prod.ext rfl h

theorem stops_of_snd {e : End} (h : (p.run presenter n).2 = some e) :
    p.Stops presenter (p.run presenter n).1 e := ⟨n, run_of_snd h⟩

theorem stops_of_course {e : End} (h : Course presenter p deeds q (some e)) :
    p.Stops presenter q e := ⟨deeds.length, run_of_course h⟩

theorem course_of_stops {e : End} (hp : p.session.Within p.library)
    (h : p.Stops presenter q e) : ∃ deeds, Course presenter p deeds q (some e) := by
  obtain ⟨n, hn⟩ := h
  obtain ⟨deeds, -, hc⟩ := exists_course presenter hp n
  rw [hn] at hc
  exact ⟨deeds, hc⟩

/-- **Where a play stops is known from any point on its way.** -/
theorem stops_iff_of_run {e : End} (h : p.run presenter m = (q, none)) :
    p.Stops presenter r e ↔ q.Stops presenter r e := by
  constructor
  · rintro ⟨n, hn⟩
    rcases Nat.le_total n m with hle | hle
    · rw [run_of_stop hn hle] at h
      cases h
    · obtain ⟨k, rfl⟩ := Nat.exists_eq_add_of_le hle
      rw [run_add h] at hn
      exact ⟨k, hn⟩
  · rintro ⟨n, hn⟩
    exact ⟨m + n, by rw [run_add h, hn]⟩

/-- A play stops in one way only. -/
theorem Stops.unique {e e' : End} (h : p.Stops presenter q e) (h' : p.Stops presenter r e') :
    q = r ∧ e = e' := by
  obtain ⟨n, hn⟩ := h
  obtain ⟨m, hm⟩ := h'
  have heq : (q, some e) = (r, some e') := by
    rw [← run_of_stop hn (Nat.le_max_left n m), ← run_of_stop hm (Nat.le_max_right n m)]
  simpa using heq

/-! ## A play -/

/-- A player who begins anew, mistypes, and leaves. -/
def loopPlay : Play :=
  { library := Session.loopLibrary, session := ⟨{}, 0, some "gate", [("loop", "gate")]⟩
    input := ["2", "two", " q "] }

theorem loopPlay_within : loopPlay.session.Within loopPlay.library := by
  refine ⟨by decide, fun id hid => ?_⟩
  obtain rfl := Option.some.inj hid
  decide

end Plotline.Play
