import Mathlib.Data.Finset.Card
import Mathlib.Data.List.Dedup
import Mathlib.Logic.Relation
import Plotline.Proofs.Story.Course

/-!
# When a play stops

A turn reads a line, or it stops, or it passes a dialog that lists nothing. A play reads only so
many lines, so it goes on for ever exactly if it passes dialogs for ever, and since there are only
so many dialogs, this is so exactly if it comes to where the links go round (`Library.Circles`).

* `Library.places` lists the dialogs of the registered trees; no call adds one or takes one away.
* `run_of_circles`: from where the links go round, no run stops.
* `isSome_of_free`: while the links do not go round, each pass leads to a dialog that was not passed
  since the last line was read, which bounds the turns.

`stops_iff_never_rounds` puts these together. So `Play.runAll` plays to the end if there is one
(`runAll_eq_none_iff`).
-/

namespace Plotline

open Relation (ReflTransGen TransGen)

variable {l l' : Library} {a : TreeRef × String} {presenter : Presenter}

/-! ## Places -/

namespace Library

/-- The dialogs of all registered trees. A tree that is registered twice counts once. -/
def places (l : Library) : List (TreeRef × String) :=
  l.trees.dedup.flatMap fun r => (l.tree r).dialogs.keys.map (r, ·)

theorem mem_places_iff : a ∈ l.places ↔ l.Inside a := by
  obtain ⟨r, id⟩ := a
  simp only [places, List.mem_flatMap, List.mem_dedup, List.mem_map, Prod.mk.injEq]
  constructor
  · rintro ⟨r, hr, id, hid, rfl, rfl⟩
    exact ⟨hr, hid⟩
  · rintro ⟨hr, hid⟩
    exact ⟨r, hr, id, hid, rfl, rfl⟩

theorem ScoreAdded.places {r : TreeRef} {n : Int} (h : l.ScoreAdded r n l') :
    l'.places = l.places := by
  have htrees : l'.trees = l.trees := by rw [trees, h.register, trees]
  have hdialogs : ∀ q, (l'.tree q).dialogs = (l.tree q).dialogs := by
    intro q
    by_cases hq : q = r
    · rw [hq, h.here]
    · rw [h.elsewhere q hq]
  simp only [Library.places, htrees, hdialogs]

/-- The dialog at the place `a` lists nothing and is left for the place `b`. -/
def Passes (l : Library) (presenter : Presenter) (a b : TreeRef × String) : Prop :=
  ∃ d, (l.tree a.1).dialogs.get? a.2 = some d ∧ presenter.visible d = [] ∧
    l.Leads a.1 d.link (some b)

/-- From the place `a` dialogs that list nothing are left one after the other, until one of them
comes again. -/
def Circles (l : Library) (presenter : Presenter) (a : TreeRef × String) : Prop :=
  ∃ b, ReflTransGen (l.Passes presenter) a b ∧ TransGen (l.Passes presenter) b b

/-- A place that circles leads to another one. -/
theorem Circles.exists_passes (h : l.Circles presenter a) :
    ∃ b, l.Passes presenter a b ∧ l.Circles presenter b := by
  obtain ⟨c, hac, hcc⟩ := h
  rcases hac.cases_head with rfl | ⟨b, hab, hbc⟩
  · obtain ⟨b, hab, hba⟩ := TransGen.head'_iff.1 hcc
    exact ⟨b, hab, a, hba, hcc⟩
  · exact ⟨b, hab, c, hbc, hcc⟩

theorem circles_of_transGen (h : TransGen (l.Passes presenter) a a) : l.Circles presenter a :=
  ⟨a, .refl, h⟩

end Library

/-! ## Where a session is -/

namespace Session

variable {s : Session} {d : Dialog}

/-- Where the session is, unless the story has ended. -/
def place (s : Session) : Option (TreeRef × String) := s.dialog.map (s.tree, ·)

@[simp] theorem place_arrived (l : Library) (s : Session) (place : Option (TreeRef × String)) :
    (s.arrived l place).place = place := by
  cases place <;> rfl

theorem place_eq_some_iff : s.place = some a ↔ s.tree = a.1 ∧ s.dialog = some a.2 := by
  obtain ⟨r, id⟩ := a
  cases hd : s.dialog <;> simp [place, hd]

theorem current_of_place (h : s.place = some a) :
    s.current l = (l.tree a.1).dialogs.get? a.2 := by
  obtain ⟨ht, hd⟩ := place_eq_some_iff.1 h
  rw [current, hd, ht, Option.bind_some]

theorem exists_place_of_current (h : s.current l = some d) : ∃ a, s.place = some a := by
  cases hd : s.dialog with
  | none =>
    rw [current, hd, Option.bind_none] at h
    cases h
  | some id => exact ⟨(s.tree, id), by rw [place, hd, Option.map_some]⟩

theorem Within.mem_places (h : s.Within l) (ha : s.place = some a) : a ∈ l.places := by
  obtain ⟨ht, hd⟩ := place_eq_some_iff.1 ha
  rw [Library.mem_places_iff]
  exact ⟨ht ▸ h.tree, ht ▸ h.dialog a.2 hd⟩

/-- **No call adds a dialog or takes one away.** -/
theorem places_step (s : Session) (l : Library) (c : Call) :
    (c.step s l).library.places = l.places := by
  cases c with
  | advance => rw [Call.step, library_advance]
  | choose id =>
    obtain ⟨outcome, h⟩ := exists_ends l s id
    cases outcome with
    | taken =>
      obtain ⟨d, x, place, h⟩ := h
      exact h.library.places
    | refused =>
      obtain ⟨f, h⟩ := h
      rw [Call.step, h.library]
    | stalled | foundered =>
      obtain ⟨f, d, x, h⟩ := h
      exact h.library.places

end Session

namespace Play

variable {p q : Play} {d : Dialog} {deed : Deed} {n : Nat}

/-! ## Passing -/

theorem places_outcome (presenter : Presenter) (p : Play) (deed : Deed) :
    (deed.outcome presenter p).1.library.places = p.library.places := by
  cases hc : deed.call with
  | none => simp only [Deed.outcome, hc]
  | some c =>
    simp only [Deed.outcome, hc, follow_fst]
    exact Session.places_step _ _ c

/-- A dialog that lists nothing is left for where its link leads. -/
theorem turn_of_leads {place : Option (TreeRef × String)}
    (hd : p.session.current p.library = some d) (hv : presenter.visible d = [])
    (hl : p.library.Leads p.session.tree d.link place) :
    p.turn presenter = ({ p with
      session := p.session.arrived p.library place
      output := p.output ++ presenter.page d }, none) := by
  rw [turn_of_fits (.pass hd hv)]
  simp [Deed.outcome, Session.Call.step, Session.advance_of_leads hd hl, follow]

/-- A turn after which the play goes on without reading a line leaves a dialog that lists nothing
for where its link leads. -/
theorem exists_leads_of_reads (hf : deed.Fits presenter p)
    (ho : deed.outcome presenter p = (q, none)) (hr : deed.reads = 0) :
    ∃ d, p.session.current p.library = some d ∧ presenter.visible d = [] ∧
      p.library.Leads p.session.tree d.link q.session.place ∧ q.library = p.library := by
  have ht := (turn_of_fits hf).trans ho
  cases hf with
  | close | choke => cases congrArg Prod.snd ho
  | @pass d hd hv =>
    rcases p.library.resolve_cases p.session.tree d.link with
      ⟨place, hl, -⟩ | ⟨f, -, hr⟩ | ⟨-, -, hr⟩
    · rw [turn_of_leads hd hv hl, Prod.mk.injEq] at ht
      obtain ⟨rfl, -⟩ := ht
      exact ⟨d, hd, hv, (Session.place_arrived _ _ _).symm ▸ hl, rfl⟩
    · simp [Deed.outcome, Session.Call.step, Session.advance_of_breaks hd hr, follow] at ho
    · simp [Deed.outcome, Session.Call.step, Session.advance_of_kindless hd hr, follow] at ho
  | leave | stumble | refuse | take => cases hr

/-! ## Going round -/

/-- The play comes to where the links go round. -/
def Rounds (presenter : Presenter) (p : Play) : Prop :=
  ∃ n q a, p.run presenter n = (q, none) ∧ q.session.place = some a ∧
    q.library.Circles presenter a

theorem turn_of_circles (ha : p.session.place = some a) (h : p.library.Circles presenter a) :
    ∃ q b, p.turn presenter = (q, none) ∧ q.session.place = some b ∧
      q.library.Circles presenter b := by
  obtain ⟨b, ⟨d, hd, hv, hl⟩, hb⟩ := h.exists_passes
  rw [← Session.current_of_place ha] at hd
  rw [← (Session.place_eq_some_iff.1 ha).1] at hl
  exact ⟨_, b, turn_of_leads hd hv hl, Session.place_arrived _ _ _, hb⟩

/-- **Where the links go round, no run stops.** -/
theorem run_of_circles (ha : p.session.place = some a) (h : p.library.Circles presenter a)
    (n : Nat) : (p.run presenter n).2 = none := by
  induction n generalizing p a with
  | zero => rfl
  | succ n ih =>
    obtain ⟨q, b, ht, hb, hq⟩ := turn_of_circles ha h
    rw [run_succ_of_go ht]
    exact ih hb hq

theorem Rounds.not_stops {e : End} (h : p.Rounds presenter) : ¬p.Stops presenter q e := by
  obtain ⟨n, r, a, hr, ha, hc⟩ := h
  intro hs
  obtain ⟨m, hm⟩ := (stops_iff_of_run hr).1 hs
  have hnone := run_of_circles ha hc m
  rw [hm] at hnone
  cases hnone

/-! ## Not going round -/

theorem rounds_of_go (ht : p.turn presenter = (q, none)) (h : q.Rounds presenter) :
    p.Rounds presenter := by
  obtain ⟨n, r, a, hr, ha, hc⟩ := h
  exact ⟨n + 1, r, a, by rw [run_succ_of_go ht, hr], ha, hc⟩

/-- Places that the play has passed, each of which has led to where it is now. -/
structure Passed (presenter : Presenter) (p : Play) (passed : Finset (TreeRef × String)) :
    Prop where
  known : ∀ a ∈ passed, a ∈ p.library.places
  leads : ∀ a ∈ passed, ∀ b, p.session.place = some b →
    TransGen (p.library.Passes presenter) a b

variable {passed : Finset (TreeRef × String)}

theorem passed_empty (presenter : Presenter) (p : Play) : Passed presenter p ∅ :=
  ⟨fun _ h => absurd h (Finset.notMem_empty _), fun _ h => absurd h (Finset.notMem_empty _)⟩

theorem Passed.card_le (h : Passed presenter p passed) :
    passed.card ≤ p.library.places.length := by
  have hsub : passed ⊆ p.library.places.toFinset := fun a ha =>
    List.mem_toFinset.2 (h.known a ha)
  exact (Finset.card_le_card hsub).trans (List.toFinset_card_le _)

/-- The next place was not passed before if the links do not go round. -/
theorem Passed.notMem (h : Passed presenter p passed) (hp : ¬p.Rounds presenter)
    (ha : p.session.place = some a) : a ∉ passed := fun hmem =>
  hp ⟨0, p, a, rfl, ha, Library.circles_of_transGen (h.leads a hmem a ha)⟩

theorem Passed.insert (h : Passed presenter p passed) (hw : p.session.Within p.library)
    (ha : p.session.place = some a) (hlibrary : q.library = p.library)
    (hq : ∀ b, q.session.place = some b → p.library.Passes presenter a b) :
    Passed presenter q (insert a passed) where
  known c hc := by
    rw [hlibrary]
    rcases Finset.mem_insert.1 hc with rfl | hc
    · exact hw.mem_places ha
    · exact h.known c hc
  leads c hc b hb := by
    rw [hlibrary]
    rcases Finset.mem_insert.1 hc with rfl | hc
    · exact .single (hq b hb)
    · exact (h.leads c hc a ha).tail (hq b hb)

/-- How many turns are enough after the given number of passes: for every line, each dialog may be
passed and one be stopped at; then the others may be passed, and the story may end. -/
def turnsLeft (p : Play) (passed : Nat) : Nat :=
  p.input.length * (p.library.places.length + 1) + (p.library.places.length - passed) + 2

/-- **Every turn leaves fewer turns** while the links do not go round: a line that is read leaves
fewer lines, and a pass leaves fewer dialogs to be passed. -/
theorem exists_turnsLeft_lt (hw : p.session.Within p.library) (hfree : ¬p.Rounds presenter)
    (h : Passed presenter p passed) (hf : deed.Fits presenter p)
    (ho : deed.outcome presenter p = (q, none)) :
    ∃ passed', Passed presenter q passed' ∧
      q.turnsLeft passed'.card < p.turnsLeft passed.card := by
  have hplaces : q.library.places = p.library.places := by
    rw [← places_outcome presenter p deed, ho]
  rcases reads_of_go hf ho with ⟨hreads, hinput⟩ | ⟨-, line, hinput⟩
  · obtain ⟨d, hd, hv, hl, hlibrary⟩ := exists_leads_of_reads hf ho hreads
    obtain ⟨a, ha⟩ := Session.exists_place_of_current hd
    have hpassed : Passed presenter q (insert a passed) := h.insert hw ha hlibrary
      fun b hb => ⟨d, Session.current_of_place ha ▸ hd, hv,
        (Session.place_eq_some_iff.1 ha).1 ▸ hb ▸ hl⟩
    have hcard := hpassed.card_le
    refine ⟨insert a passed, hpassed, ?_⟩
    rw [Finset.card_insert_of_notMem (h.notMem hfree ha), hplaces] at hcard
    rw [turnsLeft, turnsLeft, Finset.card_insert_of_notMem (h.notMem hfree ha), hinput, hplaces]
    omega
  · -- A line was read, and any dialog may be passed again.
    refine ⟨∅, passed_empty presenter q, ?_⟩
    rw [turnsLeft, turnsLeft, hplaces, hinput, List.length_cons, Nat.succ_mul, Finset.card_empty]
    omega

/-- **Where the links do not go round, the turns are bounded.** -/
theorem isSome_of_free (hw : p.session.Within p.library) (hfree : ¬p.Rounds presenter)
    (h : Passed presenter p passed) (hn : p.turnsLeft passed.card ≤ n) :
    (p.run presenter n).2.isSome = true := by
  induction n generalizing p passed with
  | zero =>
    rw [turnsLeft] at hn
    omega
  | succ n ih =>
    obtain ⟨deed, hf⟩ := exists_fits presenter hw
    have ht := turn_of_fits hf
    have hwq := within_outcome presenter hw deed
    cases ho : deed.outcome presenter p with
    | mk q e =>
      rw [ho] at ht hwq
      cases e with
      | some e =>
        rw [run_succ_of_stop ht]
        rfl
      | none =>
        obtain ⟨passed', hpassed, hlt⟩ := exists_turnsLeft_lt hw hfree h hf ho
        rw [run_succ_of_go ht]
        exact ih hwq (fun hq => hfree (rounds_of_go ht hq)) hpassed (by omega)

/-! ## Stopping -/

/-- How many turns are enough: once for every line and once more, each registered dialog may be
passed and one be stopped at, and the story may end. -/
def turnBound (p : Play) : Nat := (p.input.length + 1) * (p.library.places.length + 1) + 1

theorem isSome_of_turnBound_le (hw : p.session.Within p.library) (hfree : ¬p.Rounds presenter)
    (hn : p.turnBound ≤ n) : (p.run presenter n).2.isSome = true := by
  refine isSome_of_free hw hfree (passed_empty presenter p) ?_
  rw [turnBound, Nat.succ_mul] at hn
  rw [turnsLeft, Finset.card_empty]
  omega

/-- **A play stops exactly if it never comes to where the links go round** through dialogs that list
nothing, and then the number of turns is bounded by the lines and the dialogs. -/
theorem stops_iff_never_rounds (presenter : Presenter) (p : Play)
    (h : p.session.Within p.library) :
    ((∃ q e, p.Stops presenter q e) ↔ ¬p.Rounds presenter) ∧
      (¬p.Rounds presenter → ∃ q e, p.run presenter p.turnBound = (q, some e)) := by
  have hbound : ¬p.Rounds presenter → ∃ q e, p.run presenter p.turnBound = (q, some e) := by
    intro hfree
    obtain ⟨e, he⟩ := Option.isSome_iff_exists.1 (isSome_of_turnBound_le h hfree (Nat.le_refl _))
    exact ⟨_, e, run_of_snd he⟩
  refine ⟨⟨fun ⟨q, e, hs⟩ hrounds => hrounds.not_stops hs, fun hfree => ?_⟩, hbound⟩
  obtain ⟨q, e, hq⟩ := hbound hfree
  exact ⟨q, e, _, hq⟩

theorem loop_stops_iff_never_rounds :
    loopPlay.session.Within loopPlay.library ∧
      ((∃ q e, loopPlay.Stops {} q e) ↔ ¬loopPlay.Rounds {}) ∧
      (¬loopPlay.Rounds {} → ∃ q e, loopPlay.run {} loopPlay.turnBound = (q, some e)) :=
  ⟨loopPlay_within, stops_iff_never_rounds {} loopPlay loopPlay_within⟩

end Play

end Plotline
