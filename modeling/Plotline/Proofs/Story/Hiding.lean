import Plotline.Proofs.Story.Course

/-!
# Hiding disabled decisions

Whether disabled decisions are listed changes the numbers on the screen, and nothing else where at
least one of the decisions is enabled. So for the player's lines under one presenter there are other
lines that come to the same under another presenter (`exists_echo`): the numbers are those under
which the decisions are listed there, and what was refused is not said.

This is not so at a dialog where all decisions are disabled. If they are listed, the player is asked
in vain and can only leave; if they are hidden, the dialog is left by its link.

`hiding_changes_numbers_only` puts these together.
-/

namespace Plotline

/-- A dialog that can be answered whatever is listed: if there are decisions, one of them is
enabled, and there are not so many that a number would be too long to be read. -/
structure Dialog.Answerable (d : Dialog) : Prop where
  enabled : d.decisions.items ≠ [] → ∃ x ∈ d.decisions.items, x.enabled = true
  short : d.decisions.size < 10 ^ Number.digitLimit

theorem Dialog.Answerable.visible_eq_nil_iff {d : Dialog} (h : d.Answerable)
    (presenter : Presenter) : presenter.visible d = [] ↔ d.decisions.items = [] := by
  constructor
  · intro hv
    by_contra hne
    obtain ⟨x, hx, he⟩ := h.enabled hne
    have hmem : x ∈ presenter.visible d := Presenter.mem_visible_iff.2 ⟨hx, .inl he⟩
    rw [hv] at hmem
    cases hmem
  · intro hnil
    rw [Presenter.visible, hnil, List.filter_nil]

namespace Play

variable {presenter presenter' : Presenter} {p p' q : Play} {d : Dialog} {deed : Deed}
  {deeds : List Deed} {n : Nat} {x : Decision}

/-! ## Dialogs on the way -/

/-- The play comes to the dialog. -/
def Meets (presenter : Presenter) (p : Play) (d : Dialog) : Prop :=
  ∃ n q, p.run presenter n = (q, none) ∧ q.session.current q.library = some d

theorem meets_of_current (h : p.session.current p.library = some d) : p.Meets presenter d :=
  ⟨0, p, rfl, h⟩

theorem meets_of_go (hf : deed.Fits presenter p) (ho : deed.outcome presenter p = (q, none))
    (h : q.Meets presenter d) : p.Meets presenter d := by
  obtain ⟨n, r, hr, hd⟩ := h
  exact ⟨n + 1, r, by rw [run_succ_of_go ((turn_of_fits hf).trans ho), hr], hd⟩

/-! ## The same deed under another presenter -/

theorem journey_eq_iff :
    p'.journey = p.journey ↔ p'.session = p.session ∧ p'.library = p.library := by
  rw [journey, journey, Journey.mk.injEq]

/-- What comes of a call depends on the session and its library alone. -/
theorem exists_outcome_of_call (presenter' : Presenter) (deed' : Deed)
    (hj : p'.journey = p.journey) (hcall : deed'.call = deed.call) (hsome : deed.call.isSome)
    (ho : deed.outcome presenter p = (q, none)) :
    ∃ q', deed'.outcome presenter' p' = (q', none) ∧ q'.journey = q.journey := by
  obtain ⟨c, hc⟩ := Option.isSome_iff_exists.1 hsome
  obtain ⟨hs, hl⟩ := journey_eq_iff.1 hj
  have hq : q.journey = p.journey.run (Deed.calls [deed]) := by
    rw [← journey_outcome presenter, ho]
  have hcalls : Deed.calls [deed'] = Deed.calls [deed] := by
    simp only [Deed.calls, List.flatMap_singleton, hcall]
  refine ⟨(deed'.outcome presenter' p').1, Prod.ext rfl ?_, ?_⟩
  · show (deed'.outcome presenter' p').2 = none
    have hnone : (deed.outcome presenter p).2 = none := by rw [ho]
    simp only [Deed.outcome, hc] at hnone
    simp only [Deed.outcome, hcall, hc, hs, hl]
    rw [Option.eq_none_iff_forall_ne_some] at hnone ⊢
    intro e he
    exact hnone e (follow_snd_eq_some_iff.2 (follow_snd_eq_some_iff.1 he))
  · rw [journey_outcome, hcalls, hj, hq]

theorem prompts_congr (presenter' : Presenter) (hd : p.Prompts presenter d) (ha : d.Answerable)
    (hj : p'.journey = p.journey) : p'.Prompts presenter' d where
  current := by
    obtain ⟨hs, hl⟩ := journey_eq_iff.1 hj
    rw [hs, hl]
    exact hd.current
  listed hv := hd.listed ((ha.visible_eq_nil_iff presenter).2 ((ha.visible_eq_nil_iff _).1 hv))

/-- A decision that was taken can be taken by the number that it has on another screen. -/
theorem exists_fits_take (presenter' : Presenter) (hx : Session.Offers p.library p.session x.id d x)
    (hn : presenter.Lists d n x) (ha : d.Answerable) (hj : p'.journey = p.journey) :
    ∃ m, ∀ input, Deed.Fits presenter' { p' with input := typed m :: input } (.take d m x) := by
  obtain ⟨hs, hl⟩ := journey_eq_iff.1 hj
  obtain ⟨m, hm⟩ := Presenter.exists_lists_of_enabled presenter' hn.mem_items hx.enabled
  have hasks : Asks (typed m) m := asks_typed hm.pos (Nat.lt_of_le_of_lt hm.le_size ha.short)
  refine ⟨m, fun input => .take ?_ hm rfl hasks⟩
  show Session.Offers p'.library p'.session x.id d x
  rw [hs, hl]
  exact hx

/-! ## The same play under another presenter -/

/-- **A play that stops without a failure can be played under another presenter.** -/
theorem exists_echo {e : End} (presenter' : Presenter) (p' : Play)
    (h : Course presenter p deeds q (some e)) (he : ∀ f, e ≠ .failed f)
    (hm : ∀ d, p.Meets presenter d → d.Answerable) (hj : p'.journey = p.journey) :
    ∃ input deeds' q', Course presenter' { p' with input := input } deeds' q' (some e) ∧
      q'.journey = q.journey := by
  generalize hsome : some e = stopped at h
  induction h generalizing p' with
  | start p => cases hsome
  | @stop p q deed e' hf ho =>
    obtain rfl := Option.some.inj hsome
    rcases stop_cases hf ho with ⟨score, rfl, rfl⟩ | ⟨d, rfl, rfl⟩ | ⟨f, rfl, -⟩
    · cases hf with
      | close hend hw =>
        obtain rfl : _ = q := congrArg Prod.fst ho
        obtain ⟨hs, hl⟩ := journey_eq_iff.1 hj
        rw [← hs] at hend
        rw [← hs, ← hl] at hw
        exact ⟨[], _, _, .stop (.close hend hw) rfl, hj⟩
    · cases hf with
      | leave hd =>
        obtain rfl : _ = q := congrArg Prod.fst ho
        have hd' := prompts_congr presenter' hd (hm d (meets_of_current hd.current)) hj
        exact ⟨[], _, _, .stop (.leave ⟨hd'.current, hd'.listed⟩ (by simp)) rfl, hj⟩
    · exact absurd rfl (he f)
  | @go p q r deed deeds e' hf ho _ ih =>
    have hm' : ∀ d, q.Meets presenter d → d.Answerable := fun d hd => hm d (meets_of_go hf ho hd)
    cases hf with
    | close | choke | leave | stumble => cases congrArg Prod.snd ho
    | refuse =>
      -- A line that is refused is not said again.
      obtain rfl : _ = q := congrArg Prod.fst ho
      exact ih p' hm' hj hsome
    | @pass d hd hv =>
      obtain ⟨hs, hl⟩ := journey_eq_iff.1 hj
      have ha := hm d (meets_of_current hd)
      have hv' : presenter'.visible d = [] :=
        (ha.visible_eq_nil_iff _).2 ((ha.visible_eq_nil_iff presenter).1 hv)
      obtain ⟨q', ho', hq'⟩ :=
        exists_outcome_of_call presenter' (.pass d) hj rfl rfl ho
      obtain ⟨input, deeds', r', hc, hr⟩ := ih q' hm' hq' hsome
      refine ⟨input, _, r', .go (.pass ?_ hv') (outcome_with_input ho' input) hc, hr⟩
      show p'.session.current p'.library = some d
      rw [hs, hl, hd]
    | @take d line n x hx hn =>
      have ha := hm d (meets_of_current hx.current)
      obtain ⟨m, hfits⟩ := exists_fits_take presenter' hx hn ha hj
      obtain ⟨q', ho', hq'⟩ :=
        exists_outcome_of_call presenter' (.take d m x) hj rfl rfl ho
      obtain ⟨input, deeds', r', hc, hr⟩ := ih q' hm' hq' hsome
      exact ⟨typed m :: input, _, r', .go (hfits input) (outcome_with_input ho' _) hc, hr⟩

/-- **Presenters differ in numbers only**, where every dialog on the way can be answered. If a play
stops without a failure under one presenter, there are lines with which it stops under the other one
in the same way, with the same session and the same library. -/
theorem hiding_changes_numbers_only (presenter presenter' : Presenter) (p : Play)
    (h : p.session.Within p.library) (hm : ∀ d, p.Meets presenter d → d.Answerable) (q : Play)
    (e : End) (hq : p.Stops presenter q e) (he : ∀ f, e ≠ .failed f) :
    ∃ input q', { p with input := input }.Stops presenter' q' e ∧
      q'.session = q.session ∧ q'.library = q.library := by
  obtain ⟨deeds, hc⟩ := course_of_stops h hq
  obtain ⟨input, deeds', q', hc', hj⟩ := exists_echo presenter' p hc he hm rfl
  exact ⟨input, q', stops_of_course hc', journey_eq_iff.1 hj⟩

/-! ## Locked doors -/

/-- Two doors, of which one is locked, and a shed of which the only door is locked. -/
def doorsLibrary : Library where
  shelf := [
    { id := "yard", root := "doors"
      dialogs := ⟨[{ id := "doors", message := some "Two doors."
                     decisions := ⟨[{ id := "left", enabled := false }, { id := "right" }],
                       by decide⟩ }], by decide⟩ },
    { id := "shed", root := "door"
      dialogs := ⟨[{ id := "door", message := some "A door."
                     decisions := ⟨[{ id := "open", enabled := false }], by decide⟩ }],
        by decide⟩ }]
  register := { entries := ⟨[⟨"yard.txt", 0⟩, ⟨"shed.txt", 1⟩], by decide⟩ }

/-- A player who goes through the right door. -/
def doorsPlay : Play :=
  { library := doorsLibrary, session := ⟨{}, 0, some "doors", [("yard", "doors")]⟩, input := ["2"] }

theorem doorsPlay_within : doorsPlay.session.Within doorsPlay.library := by
  refine ⟨by decide, fun id hid => ?_⟩
  obtain rfl := Option.some.inj hid
  decide

theorem answerable_of_doorsPlay (d : Dialog) (h : doorsPlay.Meets {} d) : d.Answerable := by
  obtain ⟨n, q, hq, hd⟩ := h
  have hend : (doorsPlay.run {} 2).2 = some .finished := by decide +kernel
  have hn : n < 2 := by
    by_contra hn
    rw [run_of_stop (run_of_snd hend) (Nat.le_of_not_lt hn)] at hq
    cases congrArg Prod.snd hq
  have hcases : n = 0 ∨ n = 1 := by omega
  rcases hcases with rfl | rfl
  · obtain rfl : doorsPlay = q := congrArg Prod.fst hq
    obtain rfl : (doorsLibrary.tree 0).dialogs.items.head (by decide) = d := Option.some.inj hd
    exact ⟨fun _ => ⟨{ id := "right" }, by decide, rfl⟩, by decide +kernel⟩
  · obtain rfl : (doorsPlay.run {} 1).1 = q := congrArg Prod.fst hq
    have hnone : (doorsPlay.run {} 1).1.session.current (doorsPlay.run {} 1).1.library = none := by
      decide +kernel
    rw [hnone] at hd
    cases hd

theorem doors_change_numbers_only :
    doorsPlay.session.Within doorsPlay.library ∧
      (∀ d, doorsPlay.Meets {} d → d.Answerable) ∧
      doorsPlay.Stops {} (doorsPlay.run {} 2).1 .finished ∧
      (∀ f, End.finished ≠ .failed f) ∧
      ∃ input q', { doorsPlay with input := input }.Stops { showDisabled := false } q' .finished ∧
        q'.session = (doorsPlay.run {} 2).1.session ∧
        q'.library = (doorsPlay.run {} 2).1.library := by
  have hstop : doorsPlay.Stops {} (doorsPlay.run {} 2).1 .finished :=
    stops_of_snd (by decide +kernel)
  have he : ∀ f, End.finished ≠ .failed f := fun f h => by cases h
  exact ⟨doorsPlay_within, answerable_of_doorsPlay, hstop, he,
    hiding_changes_numbers_only {} { showDisabled := false } doorsPlay doorsPlay_within
      answerable_of_doorsPlay _ _ hstop he⟩

/-- A player at the shed. -/
def shedPlay (input : List String) : Play where
  library := doorsLibrary
  session := ⟨{}, 1, some "door", [("shed", "door")]⟩
  input := input

/-- What is left of this play if the door is hidden. -/
def shedOver (input : List String) : Play where
  library := doorsLibrary
  session := ⟨{}, 1, none, [("shed", "door")]⟩
  input := input
  output := "A door.\nThe end. Score: 0\n"

theorem shedPlay_finishes (input : List String) :
    (shedPlay input).Stops { showDisabled := false } (shedOver input) .finished := by
  have hpass : Deed.Fits { showDisabled := false } (shedPlay input)
      (.pass ((doorsLibrary.tree 1).dialogs.items.head (by decide))) := .pass rfl rfl
  have hclose : Deed.Fits { showDisabled := false } { shedOver input with output := "A door.\n" }
      (.close 0) := .close rfl (show Number.isWritable 0 = true by decide +kernel)
  exact stops_of_course (.go hpass rfl (.stop hclose rfl))

/-- At the locked shed a player can leave if the door is listed. If it is hidden, the story ends. -/
theorem hiding_can_end_story :
    ¬∀ (l : Library) (console : Console) (key : String) (s : Session) (presenter : Presenter)
      (input : List String) (q : Play) (e : End),
      Session.start l console key = .ok s →
      ({ library := l, session := s, input := input } : Play).Stops presenter q e →
      (∀ f, e ≠ .failed f) →
      ∃ (input' : List String) (q' : Play) (e' : End),
        ({ library := l, session := s, input := input' } : Play).Stops
          { presenter with showDisabled := !presenter.showDisabled } q' e' ∧
        (∀ f, e' ≠ .failed f) ∧ q'.session.history = q.session.history ∧
        q'.session.ended = q.session.ended ∧
        ∀ r, (q'.library.tree r).score = (q.library.tree r).score := by
  intro h
  have hleft : (shedPlay []).Stops {} ((shedPlay []).run {} 1).1 .left :=
    stops_of_snd (by decide +kernel)
  obtain ⟨input, q', e', hq', -, -, hended, -⟩ :=
    h doorsLibrary {} "shed.txt" (shedPlay []).session {} [] _ _ (by decide +kernel) hleft
      fun f hf => by cases hf
  obtain ⟨rfl, -⟩ := hq'.unique (shedPlay_finishes input)
  have hopen : ((shedPlay []).run {} 1).1.session.ended = false := by decide +kernel
  rw [hopen] at hended
  cases hended

end Play

end Plotline
