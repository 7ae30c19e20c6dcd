import Plotline.Proofs.Story.Prompt
import Plotline.Proofs.Story.Walk

/-!
# A play turn by turn

Seven things can happen in a turn (`Play.Deed`). Which of them it is depends on the current dialog
and the player's line alone, or on the score if the story has ended (`Deed.Fits`), and what comes of
it is said without the rules of a turn (`Deed.outcome`).

* `exists_fits` and `turn_of_fits`: in every turn some deed fits, and the turn is that deed.
* `journey_outcome`: the session and its library change by the deed's call alone.
* `stop_cases`: a deed stops the play at the end of the story, or because the player leaves, or with
  a fault that is about a number or a link (`Session.MoveFault`), but never about a choice.
-/

namespace Plotline.Session

variable {l : Library} {s : Session} {id : String} {d : Dialog} {x : Decision} {f : Failure}

/-- A fault of following a link: it breaks, or it has no kind. -/
def LinkFault (l : Library) (source : TreeRef) (f : Fault) : Prop :=
  f = .kindlessLink ∨ ∃ link, l.Breaks source link f

/-- A fault of making a move: it is about the link to follow, or about a number. -/
def MoveFault (l : Library) (source : TreeRef) (f : Fault) : Prop :=
  (∃ nf, f = .numeral nf) ∨ LinkFault l source f

theorem linkFault_of_advance (h : (s.advance l).answer = .error f) :
    LinkFault l s.tree f.fault := by
  cases hd : s.current l with
  | none =>
    simp only [advance, hd] at h
    cases h
  | some d =>
    rcases l.resolve_cases s.tree d.link with ⟨place, hl, -⟩ | ⟨f', hf, hr⟩ | ⟨-, -, hr⟩
    · rw [advance_of_leads hd hl] at h
      cases h
    · rw [advance_of_breaks hd hr] at h
      obtain rfl := Except.error.inj h
      exact .inr ⟨_, hf⟩
    · rw [advance_of_kindless hd hr] at h
      obtain rfl := Except.error.inj h
      exact .inl rfl

theorem moveFault_of_choose (hx : Offers l s id d x) (h : (s.choose l id).answer = .error f) :
    MoveFault l s.tree f.fault := by
  rcases hx.cases with ⟨f', hf, hc⟩ | ho | ⟨hw, ⟨place, hl⟩ | hk⟩
  · rw [hc] at h
    obtain rfl := Except.error.inj h
    exact .inr (.inr ⟨_, hf⟩)
  · rw [choose_of_overlong ho] at h
    obtain rfl := Except.error.inj h
    exact .inl ⟨_, rfl⟩
  · rw [(choose_of_leads hx hl hw).1] at h
    cases h
  · rw [(choose_of_kindless hk hw).1] at h
    obtain rfl := Except.error.inj h
    exact .inr (.inl rfl)

end Plotline.Session

namespace Plotline.Play

open Session (Call MoveFault Offers)

variable {presenter : Presenter} {p q : Play} {d : Dialog} {deed : Deed} {e : Option End}
  {line : String} {input : List String}

/-! ## Deeds -/

/-- What happens in one turn. -/
inductive Deed
  /-- The story has ended, and its score is told. -/
  | close (score : Int)
  /-- The story has ended, and its score is too long to be told. -/
  | choke
  /-- A dialog that lists no decision is shown and left by its link. -/
  | pass (d : Dialog)
  /-- The player leaves at a dialog, or has no more to say there. -/
  | leave (d : Dialog)
  /-- The player's digits give no number. -/
  | stumble (d : Dialog) (f : Number.Fault)
  /-- The player's line is refused. -/
  | refuse (d : Dialog)
  /-- The player takes the decision `x` by its number. -/
  | take (d : Dialog) (n : Nat) (x : Decision)

namespace Deed

/-- The call that is made of the session. -/
@[simp] def call : Deed → Option Call
  | pass _ => some .advance
  | take _ _ x => some (.choose x.id)
  | close _ | choke | leave _ | stumble _ _ | refuse _ => none

/-- The calls that deeds make, in order. -/
def calls (deeds : List Deed) : List Journey.Event :=
  deeds.flatMap fun deed => deed.call.toList.map .call

/-- What is written. -/
@[simp] def text (presenter : Presenter) : Deed → String
  | close score => presenter.console.out ("The end. Score: " ++ toString score) []
  | choke => ""
  | pass d => presenter.page d
  | leave d | stumble d _ => presenter.page d ++ prompt
  | refuse d => presenter.page d ++ prompt ++ presenter.console.out "(no such choice)" []
  | take d _ x => presenter.page d ++ prompt ++ presenter.echo x

/-- How many of the player's lines are read. -/
@[simp] def reads : Deed → Nat
  | close _ | choke | pass _ => 0
  | leave _ | stumble _ _ | refuse _ | take _ _ _ => 1

/-- How the deed itself ends the play. -/
@[simp] def stop (presenter : Presenter) : Deed → Option End
  | close _ => some .finished
  | choke => some (.failed (presenter.console.fail (.numeral .unwritable)))
  | leave _ => some .left
  | stumble _ f => some (.failed (presenter.console.fail (.numeral f)))
  | pass _ | refuse _ | take _ _ _ => none

/-- What comes of the deed. A call of the session can fail, which ends the play as well. -/
def outcome (presenter : Presenter) (p : Play) (deed : Deed) : Play × Option End :=
  let shown := { p with
    input := p.input.drop deed.reads, output := p.output ++ deed.text presenter }
  match deed.call with
  | none => (shown, deed.stop presenter)
  | some c => shown.follow (c.step p.session p.library)

end Deed

/-! ## Which deed it is -/

/-- The play is at the dialog `d` and asks the player, since there are decisions to choose from. -/
structure Prompts (presenter : Presenter) (p : Play) (d : Dialog) : Prop where
  current : p.session.current p.library = some d
  listed : presenter.visible d ≠ []

/-- A line to be refused: no word for leaving, no digits without a number, and not the number of an
enabled decision that is listed. -/
structure Idle (presenter : Presenter) (d : Dialog) (line : String) : Prop where
  stays : ¬Leaves line
  reads : ¬Stumbles line
  picks : ∀ n x, Asks line n → presenter.Lists d n x → x.enabled = false

/-- The deed is what happens in the next turn of the play. -/
inductive Deed.Fits (presenter : Presenter) (p : Play) : Deed → Prop
  | close (h : p.session.ended = true)
    (hw : Number.isWritable (p.library.tree p.session.tree).score = true) :
    Fits presenter p (.close (p.library.tree p.session.tree).score)
  | choke (h : p.session.ended = true)
    (hw : Number.isWritable (p.library.tree p.session.tree).score = false) :
    Fits presenter p .choke
  | pass {d : Dialog} (hd : p.session.current p.library = some d)
      (hv : presenter.visible d = []) : Fits presenter p (.pass d)
  | leave {d : Dialog} (hd : p.Prompts presenter d) (hl : ∀ line ∈ p.input.head?, Leaves line) :
    Fits presenter p (.leave d)
  | stumble {d : Dialog} {line : String} {f : Number.Fault} (hd : p.Prompts presenter d)
      (hl : p.input.head? = some line) (hs : Stumbles line) (hf : request line = .badNumber f) :
    Fits presenter p (.stumble d f)
  | refuse {d : Dialog} {line : String} (hd : p.Prompts presenter d)
      (hl : p.input.head? = some line) (hi : Idle presenter d line) : Fits presenter p (.refuse d)
  | take {d : Dialog} {line : String} {n : Nat} {x : Decision}
      (hx : Offers p.library p.session x.id d x) (hn : presenter.Lists d n x)
      (hl : p.input.head? = some line) (ha : Asks line n) : Fits presenter p (.take d n x)

theorem prompts_of_lists {x : Decision} (hd : p.session.current p.library = some d)
    (hx : presenter.Lists d n x) : p.Prompts presenter d :=
  ⟨hd, List.ne_nil_of_mem hx.mem_visible⟩

/-- A decision on the screen is the one that the session finds under its id. -/
theorem offers_of_lists {x : Decision} (hd : p.session.current p.library = some d)
    (hx : presenter.Lists d n x) (he : x.enabled = true) :
    Offers p.library p.session x.id d x :=
  ⟨hd, Roster.get?_eq_some_iff.2 ⟨hx.mem_items, rfl⟩, he⟩

theorem request_of_idle (h : Idle presenter d line) :
    request line = .other ∨ ∃ n : Nat, request line = .number n ∧ presenter.pick d n = none := by
  rcases request_cases line with ⟨hl, -⟩ | ⟨n, hn, hr⟩ | ⟨f, hs, -⟩ | ⟨-, -, -, hr⟩
  · exact absurd hl h.stays
  · refine .inr ⟨n, hr, ?_⟩
    rw [Option.eq_none_iff_forall_ne_some]
    intro x hx
    obtain ⟨hlists, he⟩ := Presenter.pick_eq_some_iff.1 hx
    rw [h.picks n x hn hlists] at he
    cases he
  · exact absurd hs h.reads
  · exact .inl hr

theorem exists_fits_of_prompts (hd : p.Prompts presenter d) :
    ∃ deed, Deed.Fits presenter p deed := by
  cases hi : p.input with
  | nil => exact ⟨_, .leave hd (by simp [hi])⟩
  | cons line rest =>
    have hl : p.input.head? = some line := by rw [hi]; rfl
    rcases request_cases line with ⟨hw, -⟩ | ⟨n, hn, hr⟩ | ⟨f, hs, hf⟩ | ⟨hw, hn, hs, -⟩
    · exact ⟨_, .leave hd (by simp [hi, hw])⟩
    · cases hx : presenter.pick d n with
      | some x =>
        obtain ⟨hlists, he⟩ := Presenter.pick_eq_some_iff.1 hx
        exact ⟨_, .take (offers_of_lists hd.current hlists he) hlists hl hn⟩
      | none =>
        refine ⟨_, .refuse hd hl ⟨fun hw => ?_, fun hs => ?_, fun m x hm hlists => ?_⟩⟩
        · rw [request_of_leaves hw] at hr
          cases hr
        · obtain ⟨f, hf⟩ := request_of_stumbles hs
          rw [hf] at hr
          cases hr
        · have hnm : m = n := by
            rw [request_of_asks hm, Request.number.injEq] at hr
            exact Int.ofNat.inj hr
          subst hnm
          by_contra he
          rw [Bool.not_eq_false] at he
          rw [Presenter.pick_eq_some_iff.2 ⟨hlists, he⟩] at hx
          cases hx
    · exact ⟨_, .stumble hd hl hs hf⟩
    · exact ⟨_, .refuse hd hl ⟨hw, hs, fun n x hnx => absurd hnx (hn n)⟩⟩

/-- **In every turn some deed fits.** -/
theorem exists_fits (presenter : Presenter) (h : p.session.Within p.library) :
    ∃ deed, Deed.Fits presenter p deed := by
  cases he : p.session.ended with
  | true =>
    cases hw : Number.isWritable (p.library.tree p.session.tree).score with
    | true => exact ⟨_, .close he hw⟩
    | false => exact ⟨_, .choke he hw⟩
  | false =>
    obtain ⟨d, hd⟩ := h.exists_current he
    by_cases hv : presenter.visible d = []
    · exact ⟨_, .pass hd hv⟩
    · exact exists_fits_of_prompts ⟨hd, hv⟩

/-! ## The turn is the deed -/

theorem turn_of_prompts {rest : List String} (hd : p.Prompts presenter d)
    (hi : p.input = line :: rest) :
    p.turn presenter = answer presenter
      { p with input := rest, output := p.output ++ presenter.page d ++ prompt } d line := by
  simp only [turn, hd.current, List.isEmpty_iff, hd.listed, if_false, write, hi]

/-- **A turn is the deed that fits.** -/
theorem turn_of_fits (h : Deed.Fits presenter p deed) :
    p.turn presenter = deed.outcome presenter p := by
  cases h with
  | close h hw =>
    simp only [turn, Session.current_of_ended h, Number.written_of_isWritable hw]
    rfl
  | choke h hw =>
    simp only [turn, Session.current_of_ended h, Number.written_of_not hw]
    simp [Deed.outcome]
  | pass hd hv =>
    simp only [turn, hd, hv, List.isEmpty_nil, if_true]
    rfl
  | leave hd hl =>
    cases hi : p.input with
    | nil =>
      simp [turn, hd.current, hd.listed, hi, Deed.outcome, write, String.append_assoc]
    | cons line rest =>
      have hr := request_of_leaves (hl line (by rw [hi]; rfl))
      rw [turn_of_prompts hd hi]
      simp [answer, hr, hi, Deed.outcome, String.append_assoc]
  | stumble hd hl hs hf =>
    obtain ⟨rest, hi⟩ := List.head?_eq_some_iff.1 hl
    rw [turn_of_prompts hd hi]
    simp [answer, hf, hi, Deed.outcome, String.append_assoc]
  | refuse hd hl hidle =>
    obtain ⟨rest, hi⟩ := List.head?_eq_some_iff.1 hl
    rw [turn_of_prompts hd hi]
    rcases request_of_idle hidle with hr | ⟨n, hr, hp⟩
    · simp [answer, hr, hi, Deed.outcome, Play.refuse, write, String.append_assoc]
    · simp [answer, hr, hp, hi, Deed.outcome, Play.refuse, write, String.append_assoc]
  | take hx hn hl ha =>
    obtain ⟨rest, hi⟩ := List.head?_eq_some_iff.1 hl
    have hp := Presenter.pick_eq_some_iff.2 ⟨hn, hx.enabled⟩
    rw [turn_of_prompts (prompts_of_lists hx.current hn) hi]
    simp [answer, request_of_asks ha, hp, hi, Deed.outcome, Call.step, write, String.append_assoc]

/-! ## What a deed leaves behind -/

/-- The session of a play and its library. -/
def journey (p : Play) : Journey := ⟨p.session, p.library⟩

theorem follow_fst (p : Play) (step : Session.Step) :
    (p.follow step).1 = { p with
      library := step.library, session := step.session
      postings := p.postings ++ step.postings } := by
  rw [follow]
  cases step.answer <;> rfl

/-- Only a call that fails ends the play. -/
theorem follow_snd_eq_some_iff {step : Session.Step} {e : End} :
    (p.follow step).2 = some e ↔ ∃ f, step.answer = .error f ∧ e = .failed f := by
  rw [follow]
  cases h : step.answer with
  | ok _ => simp
  | error f => simp [eq_comm]

/-- **The session and its library change by the deed's call alone.** -/
theorem journey_outcome (presenter : Presenter) (p : Play) (deed : Deed) :
    (deed.outcome presenter p).1.journey = p.journey.run (Deed.calls [deed]) := by
  cases hc : deed.call with
  | none =>
    simp only [Deed.outcome, Deed.calls, List.flatMap_singleton, hc]
    rfl
  | some c =>
    simp only [Deed.outcome, Deed.calls, List.flatMap_singleton, hc, journey, follow_fst]
    rfl

theorem input_outcome (presenter : Presenter) (p : Play) (deed : Deed) :
    (deed.outcome presenter p).1.input = p.input.drop deed.reads := by
  cases hc : deed.call <;> simp only [Deed.outcome, hc, follow_fst]

theorem output_outcome (presenter : Presenter) (p : Play) (deed : Deed) :
    (deed.outcome presenter p).1.output = p.output ++ deed.text presenter := by
  cases hc : deed.call <;> simp only [Deed.outcome, hc, follow_fst]

theorem within_outcome (presenter : Presenter) (h : p.session.Within p.library) (deed : Deed) :
    (deed.outcome presenter p).1.session.Within (deed.outcome presenter p).1.library := by
  cases hc : deed.call with
  | none =>
    simp only [Deed.outcome, hc]
    exact h
  | some c =>
    simp only [Deed.outcome, hc, follow_fst]
    exact h.step c

/-! ## How a deed stops a play -/

/-- The ways in which a deed can stop a play. -/
theorem stop_cases {e : End} (hf : Deed.Fits presenter p deed)
    (ho : deed.outcome presenter p = (q, some e)) :
    (∃ score, deed = .close score ∧ e = .finished) ∨ (∃ d, deed = .leave d ∧ e = .left) ∨
      ∃ f, e = .failed f ∧ MoveFault p.library p.session.tree f.fault := by
  have hsnd : (deed.outcome presenter p).2 = some e := by rw [ho]
  cases hf with
  | close => exact .inl ⟨_, rfl, (Option.some.inj hsnd).symm⟩
  | leave => exact .inr (.inl ⟨_, rfl, (Option.some.inj hsnd).symm⟩)
  | choke | stumble => exact .inr (.inr ⟨_, (Option.some.inj hsnd).symm, .inl ⟨_, rfl⟩⟩)
  | refuse => cases hsnd
  | pass =>
    obtain ⟨f, ha, rfl⟩ := follow_snd_eq_some_iff.1 hsnd
    exact .inr (.inr ⟨f, rfl, .inr (Session.linkFault_of_advance ha)⟩)
  | take hx =>
    obtain ⟨f, ha, rfl⟩ := follow_snd_eq_some_iff.1 hsnd
    exact .inr (.inr ⟨f, rfl, Session.moveFault_of_choose hx ha⟩)

/-! ## What a deed depends on -/

/-- Which deed it is depends on the next line that is read, and not on what was written. -/
theorem fits_framed (h : Deed.Fits presenter p deed) (input : List String)
    (hi : deed.reads = 1 → input.head? = p.input.head?) (output : String) :
    Deed.Fits presenter { p with input := input, output := output } deed := by
  cases h with
  | close h hw => exact .close h hw
  | choke h hw => exact .choke h hw
  | pass hd hv => exact .pass hd hv
  | leave hd hl => exact .leave ⟨hd.current, hd.listed⟩ (hi rfl ▸ hl)
  | stumble hd hl hs hf => exact .stumble ⟨hd.current, hd.listed⟩ (hi rfl ▸ hl) hs hf
  | refuse hd hl hn => exact .refuse ⟨hd.current, hd.listed⟩ (hi rfl ▸ hl) hn
  | take hx hn hl ha => exact .take hx hn (hi rfl ▸ hl) ha

theorem outcome_framed (h : deed.outcome presenter p = (q, e)) (input : List String)
    (output : String) :
    deed.outcome presenter { p with input := input, output := output } =
      ({ q with input := input.drop deed.reads, output := output ++ deed.text presenter }, e) := by
  rw [← show (deed.outcome presenter p).1 = q by rw [h], ← show (deed.outcome presenter p).2 = e by
    rw [h]]
  cases hc : deed.call with
  | none => simp only [Deed.outcome, hc]
  | some c =>
    simp only [Deed.outcome, hc, follow]
    cases (c.step p.session p.library).answer <;> rfl

theorem outcome_with_output (h : deed.outcome presenter p = (q, e)) (output : String) :
    deed.outcome presenter { p with output := output } =
      ({ q with output := output ++ deed.text presenter }, e) := by
  have hq : q.input = p.input.drop deed.reads := by
    rw [← input_outcome presenter, h]
  rw [outcome_framed h p.input output, ← hq]

theorem outcome_with_input (h : deed.outcome presenter p = (q, e)) (input : List String) :
    deed.outcome presenter { p with input := input } =
      ({ q with input := input.drop deed.reads }, e) := by
  have hq : q.output = p.output ++ deed.text presenter := by
    rw [← output_outcome presenter, h]
  rw [outcome_framed h input p.output, ← hq]

/-- A deed after which the play goes on reads no line, or the one that comes first. -/
theorem reads_of_go (hf : Deed.Fits presenter p deed) (ho : deed.outcome presenter p = (q, none)) :
    deed.reads = 0 ∧ q.input = p.input ∨
      deed.reads = 1 ∧ ∃ line, p.input = line :: q.input := by
  have hq : q.input = p.input.drop deed.reads := by
    rw [← input_outcome presenter, ho]
  have hcons : ∀ line, p.input.head? = some line → deed.reads = 1 → p.input = line :: q.input := by
    intro line hl hr
    obtain ⟨rest, hi⟩ := List.head?_eq_some_iff.1 hl
    rw [hq, hr, hi, List.drop_succ_cons, List.drop_zero]
  cases hf with
  | close | choke | leave | stumble => cases congrArg Prod.snd ho
  | pass => exact .inl ⟨rfl, hq⟩
  | refuse hd hl hn => exact .inr ⟨rfl, _, hcons _ hl rfl⟩
  | take hx hn hl ha => exact .inr ⟨rfl, _, hcons _ hl rfl⟩

end Plotline.Play
