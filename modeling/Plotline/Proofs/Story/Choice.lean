import Plotline.Proofs.Story.Follow
import Plotline.Story.Session

/-!
# Choosing is all or nothing

A choice ends in one of four ways.

* It is taken (`Session.Taken`): the score is added to the tree that the session was in, and the
  session goes where the link leads.
* It is refused (`Session.Refused`): everything is as it was.
* It stalls (`Session.Stalls`), which happens exactly if the score that it comes to is too long to
  be told (`Session.Overlong`): then the score was added, and the session is where it was.
* It founders (`Session.Founders`), which happens exactly if the score can be told and the link to
  follow has a target and no kind: then the score was added, and the story is over on the same tree.

`choose_all_or_nothing` says that each choice ends in exactly one of these ways, and
`overlong_score_stalls` that there are choices that stall.
-/

namespace Plotline

/-- The library `l'` is `l` with a score added to one tree. -/
structure Library.ScoreAdded (l : Library) (r : TreeRef) (n : Int) (l' : Library) : Prop where
  here : l'.tree r = { l.tree r with score := (l.tree r).score + n }
  elsewhere : ∀ q, q ≠ r → l'.tree q = l.tree q
  size : l'.shelf.length = l.shelf.length
  register : l'.register = l.register

theorem Library.scoreAdded_modify {l : Library} {r : TreeRef} (n : Int)
    (h : r < l.shelf.length) : l.ScoreAdded r n (l.modify r (·.addScore n)) where
  here := by rw [tree_modify, if_pos ⟨rfl, h⟩, Tree.addScore]
  elsewhere _ hq := by rw [tree_modify, if_neg fun h => hq h.1.symm]
  size := by simp [modify]
  register := rfl

namespace Session

/-! ## The four ways -/

/-- The decision `x` of the current dialog `d` can be taken. -/
structure Offers (l : Library) (s : Session) (id : String) (d : Dialog) (x : Decision) : Prop where
  current : s.current l = some d
  decision : d.decisions.get? id = some x
  enabled : x.enabled = true

/-- The session at the place where a link led, or at its end. -/
def arrived (l : Library) (s : Session) : Option (TreeRef × String) → Session
  | none => { s with dialog := none }
  | some (r, dialog) =>
    { s with tree := r, dialog := some dialog, history := s.history ++ [((l.tree r).id, dialog)] }

/-- The choice was taken. A decision with a link leads where that link leads, any other one where
advancing leads. -/
structure Taken (l : Library) (s : Session) (id : String) (step : Step) (d : Dialog) (x : Decision)
    (place : Option (TreeRef × String)) : Prop where
  offers : Offers l s id d x
  own : x.link.target.isSome → l.Leads s.tree x.link place
  fallback : x.link.target = none → l.Leads s.tree d.link place ∧
    (s.advance l).answer = step.answer ∧ (s.advance l).session = step.session
  answer : step.answer = .ok (place.map (·.2))
  session : step.session = s.arrived l place
  library : l.ScoreAdded s.tree x.score step.library

/-- Why a choice is barred whatever the links are: the story has ended, so that there is no current
dialog, or the decision is not there or disabled. -/
inductive Barred (l : Library) (s : Session) (id : String) : Fault → Prop
  | ended (h : s.current l = none) : Barred l s id (.storyEnded id)
  | unknown {d : Dialog} (hd : s.current l = some d) (hx : d.decisions.get? id = none) :
    Barred l s id (.decisionNotFound id d.id)
  | disabled {d : Dialog} {x : Decision} (hd : s.current l = some d)
      (hx : d.decisions.get? id = some x) (h : x.enabled = false) :
    Barred l s id (.decisionDisabled id d.id)

/-- Why a choice is refused: it is barred, or the link to follow breaks. -/
inductive Refusal (l : Library) (s : Session) (id : String) : Fault → Prop
  | barred {f : Fault} (h : Barred l s id f) : Refusal l s id f
  | broken {d : Dialog} {x : Decision} {f : Fault} (h : Offers l s id d x)
      (hf : l.Breaks s.tree (linkOf d x) f) : Refusal l s id f

/-- The choice was refused, and nothing has changed. -/
structure Refused (l : Library) (s : Session) (id : String) (step : Step) (f : Failure) : Prop where
  answer : step.answer = .error f
  refusal : Refusal l s id f.fault
  family : f.fault.family = .choice ∨ f.fault.family = .unknown
  session : step.session = s
  library : step.library = l
  postings : step.postings = []

/-- The score that the choice of `x` comes to can be told. -/
def tells (s : Session) (l : Library) (x : Decision) : Bool :=
  Number.isWritable ((l.tree s.tree).score + x.score)

/-- The link to follow does not break, but the score that the choice comes to is too long to be
told. -/
structure Overlong (l : Library) (s : Session) (id : String) (d : Dialog) (x : Decision) :
    Prop where
  offers : Offers l s id d x
  holds : ∀ f, ¬l.Breaks s.tree (linkOf d x) f
  score : s.tells l x = false

/-- The choice stalled on a score that is too long to be told: the score was added, and the session
has not moved. -/
structure Stalls (l : Library) (s : Session) (id : String) (step : Step) (f : Failure) (d : Dialog)
    (x : Decision) : Prop where
  answer : step.answer = .error f
  fault : f.fault = .numeral .unwritable
  overlong : Overlong l s id d x
  session : step.session = s
  library : l.ScoreAdded s.tree x.score step.library
  postings : step.postings = []

/-- The link to follow has a target and no kind. -/
structure Kindless (l : Library) (s : Session) (id : String) (d : Dialog) (x : Decision) :
    Prop where
  offers : Offers l s id d x
  target : (linkOf d x).target.isSome
  kind : (linkOf d x).kind = none

/-- The choice foundered on a link without a kind: the score was added, and the story has ended on
the same tree. -/
structure Founders (l : Library) (s : Session) (id : String) (step : Step) (f : Failure)
    (d : Dialog) (x : Decision) : Prop where
  answer : step.answer = .error f
  fault : f.fault = .kindlessLink
  kindless : Kindless l s id d x
  tells : s.tells l x = true
  session : step.session = { s with dialog := none }
  library : l.ScoreAdded s.tree x.score step.library

/-- How a choice can end. -/
inductive Outcome
  | taken
  | refused
  | stalled
  | foundered
  deriving DecidableEq, Repr

/-- The step of a choice ends in this way. -/
def Ends (l : Library) (s : Session) (id : String) (step : Step) : Outcome → Prop
  | .taken => ∃ d x place, Taken l s id step d x place
  | .refused => ∃ f, Refused l s id step f
  | .stalled => ∃ f d x, Stalls l s id step f d x
  | .foundered => ∃ f d x, Founders l s id step f d x

/-- The way that an answer tells. -/
def Outcome.ofAnswer : Except Failure (Option String) → Outcome
  | .ok _ => .taken
  | .error f =>
    match f.fault.family with
    | .numeral => .stalled
    | .kindless => .foundered
    | _ => .refused

/-! ## A choice step by step -/

variable {l : Library} {s : Session} {id : String} {d : Dialog} {x : Decision}

theorem move_at (l : Library) (s : Session) (place : Option (TreeRef × String)) :
    s.move l (place.map .at) = (.ok (place.map (·.2)), s.arrived l place) := by
  cases place <;> rfl

theorem arrived_addScore (l : Library) (s : Session) (q : TreeRef) (n : Int)
    (place : Option (TreeRef × String)) :
    s.arrived (l.modify q (·.addScore n)) place = s.arrived l place := by
  obtain _ | ⟨r, dialog⟩ := place
  · rfl
  · have hid : ((l.modify q (·.addScore n)).tree r).id = (l.tree r).id := by
      rw [Library.tree_modify]
      split <;> rfl
    simp only [arrived, hid]

theorem Offers.lt_length (h : Offers l s id d x) : s.tree < l.shelf.length := by
  obtain ⟨dialog, -, hd⟩ := Option.bind_eq_some_iff.1 h.current
  exact Library.lt_length_of_get? hd

theorem score_modify (h : Offers l s id d x) :
    ((l.modify s.tree (·.addScore x.score)).tree s.tree).score =
      (l.tree s.tree).score + x.score := by
  rw [(Library.scoreAdded_modify x.score h.lt_length).here]

/-- If the score can be told, a choice goes where the link leads. -/
theorem choose_of_resolve {destination : Option Library.Destination} (h : Offers l s id d x)
    (hr : l.resolve s.tree (linkOf d x) = .ok destination) (hw : s.tells l x = true) :
    ∃ postings, s.choose l id =
      ⟨(s.move (l.modify s.tree (·.addScore x.score)) destination).1,
        (s.move (l.modify s.tree (·.addScore x.score)) destination).2,
        l.modify s.tree (·.addScore x.score), postings⟩ := by
  have ht : ∃ text, Number.written ((l.modify s.tree (·.addScore x.score)).tree s.tree).score =
      .ok text := by
    rw [score_modify h]
    exact ⟨_, Number.written_of_isWritable hw⟩
  obtain ⟨text, ht⟩ := ht
  simp only [choose, h.current, Dialog.get, h.decision, h.enabled, hr, ht]
  exact ⟨_, rfl⟩

theorem choose_of_leads {place : Option (TreeRef × String)} (h : Offers l s id d x)
    (hl : l.Leads s.tree (linkOf d x) place) (hw : s.tells l x = true) :
    (s.choose l id).answer = .ok (place.map (·.2)) ∧
      (s.choose l id).session = s.arrived l place ∧
      (s.choose l id).library = l.modify s.tree (·.addScore x.score) := by
  obtain ⟨postings, hc⟩ := choose_of_resolve h (Library.resolve_of_leads hl) hw
  rw [hc, move_at, arrived_addScore]
  exact ⟨rfl, rfl, rfl⟩

theorem choose_of_breaks {f : Failure} (h : Offers l s id d x)
    (hr : l.resolve s.tree (linkOf d x) = .error f) : s.choose l id = ⟨.error f, s, l, []⟩ := by
  simp only [choose, h.current, Dialog.get, h.decision, h.enabled, hr]
  rfl

theorem choose_of_kindless (h : Kindless l s id d x) (hw : s.tells l x = true) :
    (s.choose l id).answer = .error (s.console.fail .kindlessLink) ∧
      (s.choose l id).session = { s with dialog := none } ∧
      (s.choose l id).library = l.modify s.tree (·.addScore x.score) := by
  obtain ⟨postings, hc⟩ :=
    choose_of_resolve h.offers (Library.resolve_of_kindless h.target h.kind) hw
  rw [hc]
  exact ⟨rfl, rfl, rfl⟩

/-- A score that is too long to be told stops a choice, whatever its link would have come to. -/
theorem choose_of_overlong (h : Overlong l s id d x) :
    s.choose l id = ⟨.error (s.console.fail (.numeral .unwritable)), s,
      l.modify s.tree (·.addScore x.score), []⟩ := by
  have hr : ∃ destination, l.resolve s.tree (linkOf d x) = .ok destination := by
    rcases l.resolve_cases s.tree (linkOf d x) with ⟨place, -, hr⟩ | ⟨f, hf, -⟩ | ⟨-, -, hr⟩
    · exact ⟨_, hr⟩
    · exact absurd hf (h.holds _)
    · exact ⟨_, hr⟩
  obtain ⟨destination, hr⟩ := hr
  have ht : Number.written ((l.modify s.tree (·.addScore x.score)).tree s.tree).score =
      .error .unwritable := by
    rw [score_modify h.offers]
    exact Number.written_of_not h.score
  simp only [choose, h.offers.current, Dialog.get, h.offers.decision, h.offers.enabled, hr, ht]
  rfl

theorem advance_of_leads {place : Option (TreeRef × String)} (hc : s.current l = some d)
    (h : l.Leads s.tree d.link place) :
    s.advance l = ⟨.ok (place.map (·.2)), s.arrived l place, l, []⟩ := by
  have hr : l.resolve s.tree d.link = .ok (place.map .at) := Library.resolve_of_leads h
  simp only [advance, hc, hr, move_at]

theorem linkOf_of_isSome (h : x.link.target.isSome) : linkOf d x = x.link := if_pos h

theorem linkOf_of_eq_none (h : x.link.target = none) : linkOf d x = d.link := by
  rw [linkOf, h]
  rfl

/-! ## The cases -/

/-- A choice is barred, or the decision can be taken. -/
theorem choose_barred_or_offers (l : Library) (s : Session) (id : String) :
    (∃ f, Barred l s id f.fault ∧ s.choose l id = ⟨.error f, s, l, []⟩) ∨
      ∃ d x, Offers l s id d x := by
  cases hd : s.current l with
  | none =>
    refine .inl ⟨s.console.fail _, .ended hd, ?_⟩
    simp only [choose, hd]
  | some d =>
    cases hx : d.decisions.get? id with
    | none =>
      refine .inl ⟨d.console.fail _, .unknown hd hx, ?_⟩
      simp only [choose, hd, Dialog.get, hx]
    | some x =>
      cases he : x.enabled with
      | false =>
        refine .inl ⟨s.console.fail _, .disabled hd hx he, ?_⟩
        simp only [choose, hd, Dialog.get, hx, he, Bool.not_false, if_true]
      | true => exact .inr ⟨d, x, hd, hx, he⟩

theorem Barred.family {f : Fault} (h : Barred l s id f) :
    f.family = .choice ∨ f.family = .unknown := by
  cases h with
  | ended => exact .inl rfl
  | unknown => exact .inr rfl
  | disabled => exact .inl rfl

theorem Refusal.family {f : Fault} (h : Refusal l s id f) :
    f.family = .choice ∨ f.family = .unknown := by
  cases h with
  | barred h => exact h.family
  | broken _ hf => exact .inr hf.family

theorem refused {f : Failure} (h : Refusal l s id f.fault)
    (hc : s.choose l id = ⟨.error f, s, l, []⟩) : Refused l s id (s.choose l id) f := by
  rw [hc]
  exact ⟨rfl, h, h.family, rfl, rfl, rfl⟩

theorem taken_of_leads {place : Option (TreeRef × String)} (h : Offers l s id d x)
    (hl : l.Leads s.tree (linkOf d x) place) (hw : s.tells l x = true) :
    Taken l s id (s.choose l id) d x place where
  offers := h
  own ht := by
    rwa [linkOf_of_isSome ht] at hl
  fallback hn := by
    obtain ⟨ha, hs, -⟩ := choose_of_leads h hl hw
    rw [linkOf_of_eq_none hn] at hl
    rw [advance_of_leads h.current hl, ha, hs]
    exact ⟨hl, rfl, rfl⟩
  answer := (choose_of_leads h hl hw).1
  session := (choose_of_leads h hl hw).2.1
  library := by
    rw [(choose_of_leads h hl hw).2.2]
    exact Library.scoreAdded_modify x.score h.lt_length

theorem stalls_of_overlong (h : Overlong l s id d x) :
    Stalls l s id (s.choose l id) (s.console.fail (.numeral .unwritable)) d x := by
  rw [choose_of_overlong h]
  exact ⟨rfl, rfl, h, rfl, Library.scoreAdded_modify x.score h.offers.lt_length, rfl⟩

theorem founders_of_kindless (h : Kindless l s id d x) (hw : s.tells l x = true) :
    Founders l s id (s.choose l id) (s.console.fail .kindlessLink) d x where
  answer := (choose_of_kindless h hw).1
  fault := rfl
  kindless := h
  tells := hw
  session := (choose_of_kindless h hw).2.1
  library := by
    rw [(choose_of_kindless h hw).2.2]
    exact Library.scoreAdded_modify x.score h.offers.lt_length

/-- **What the choice of an offered decision comes to.** The link to follow breaks, or the score is
too long to be told, or it is told and the link leads somewhere or has no kind. -/
theorem Offers.cases (h : Offers l s id d x) :
    (∃ f, l.Breaks s.tree (linkOf d x) f.fault ∧ s.choose l id = ⟨.error f, s, l, []⟩) ∨
      Overlong l s id d x ∨
      s.tells l x = true ∧
        ((∃ place, l.Leads s.tree (linkOf d x) place) ∨ Kindless l s id d x) := by
  rcases l.resolve_cases s.tree (linkOf d x) with ⟨place, hl, -⟩ | ⟨f, hf, hr⟩ | ⟨ht, hk, -⟩
  · cases hw : s.tells l x with
    | false => exact .inr (.inl ⟨h, fun _ => hl.not_breaks, hw⟩)
    | true => exact .inr (.inr ⟨rfl, .inl ⟨place, hl⟩⟩)
  · exact .inl ⟨f, hf, choose_of_breaks h hr⟩
  · cases hw : s.tells l x with
    | false => exact .inr (.inl ⟨h, fun _ hf => hf.kind_ne_none hk, hw⟩)
    | true => exact .inr (.inr ⟨rfl, .inr ⟨h, ht, hk⟩⟩)

theorem exists_ends (l : Library) (s : Session) (id : String) :
    ∃ outcome, Ends l s id (s.choose l id) outcome := by
  rcases choose_barred_or_offers l s id with ⟨f, hf, hc⟩ | ⟨d, x, h⟩
  · exact ⟨.refused, f, refused (.barred hf) hc⟩
  · rcases h.cases with ⟨f, hf, hc⟩ | ho | ⟨hw, ⟨place, hl⟩ | hk⟩
    · exact ⟨.refused, f, refused (.broken h hf) hc⟩
    · exact ⟨.stalled, _, d, x, stalls_of_overlong ho⟩
    · exact ⟨.taken, d, x, place, taken_of_leads h hl hw⟩
    · exact ⟨.foundered, _, d, x, founders_of_kindless hk hw⟩

/-- The four ways exclude each other, since their answers differ. -/
theorem Ends.outcome_eq {step : Step} {outcome : Outcome} (h : Ends l s id step outcome) :
    outcome = .ofAnswer step.answer := by
  cases outcome with
  | taken =>
    obtain ⟨d, x, place, h⟩ := h
    rw [h.answer, Outcome.ofAnswer]
  | refused =>
    obtain ⟨f, h⟩ := h
    rcases h.family with hf | hf <;> simp only [h.answer, Outcome.ofAnswer, hf]
  | stalled =>
    obtain ⟨f, d, x, h⟩ := h
    simp only [h.answer, Outcome.ofAnswer, h.fault, Fault.family]
  | foundered =>
    obtain ⟨f, d, x, h⟩ := h
    simp only [h.answer, Outcome.ofAnswer, h.fault, Fault.family]

theorem ends_ofAnswer (l : Library) (s : Session) (id : String) :
    Ends l s id (s.choose l id) (.ofAnswer (s.choose l id).answer) := by
  obtain ⟨outcome, h⟩ := exists_ends l s id
  rwa [← h.outcome_eq]

/-- **A choice is all or nothing, but for scores too long to be told and links without a kind.**
Each choice ends in exactly one of the four ways. It founders exactly if the link to follow has a
target and no kind and the score can be told, and it stalls exactly if the link does not break and
the score cannot be told. -/
theorem choose_all_or_nothing (l : Library) (s : Session) (id : String) :
    (∃! outcome, Ends l s id (s.choose l id) outcome) ∧
      ((∃ f, (s.choose l id).answer = .error f ∧ f.fault.family = .kindless) ↔
        ∃ d x, Kindless l s id d x ∧ s.tells l x = true) ∧
      ((∃ f, (s.choose l id).answer = .error f ∧ f.fault.family = .numeral) ↔
        ∃ d x, Overlong l s id d x) := by
  have h := ends_ofAnswer l s id
  refine ⟨⟨_, h, fun other ho => ho.outcome_eq⟩, ⟨?_, ?_⟩, ⟨?_, ?_⟩⟩
  · rintro ⟨f, ha, hf⟩
    simp only [ha, Outcome.ofAnswer, hf] at h
    obtain ⟨_, d, x, h⟩ := h
    exact ⟨d, x, h.kindless, h.tells⟩
  · rintro ⟨d, x, hk, hw⟩
    exact ⟨_, (choose_of_kindless hk hw).1, rfl⟩
  · rintro ⟨f, ha, hf⟩
    simp only [ha, Outcome.ofAnswer, hf] at h
    obtain ⟨_, d, x, h⟩ := h
    exact ⟨d, x, h.overlong⟩
  · rintro ⟨d, x, ho⟩
    rw [choose_of_overlong ho]
    exact ⟨_, rfl, rfl⟩

/-- A tree with the highest score that can be told, in which one stays for one more. -/
def brimLibrary : Library :=
  { shelf := [
      { id := "brim", root := "gate", score := (Nat.pow 10 Number.digitLimit - 1 : Nat)
        dialogs := ⟨[{
          id := "gate", message := some "Well?"
          decisions := ⟨[
            { id := "stay", message := some "Stay.", link := .into .dialog "gate", score := 1 }],
            by decide⟩ }], by decide⟩ }] }

/-- A session at this dialog. -/
def brim : Session := ⟨{}, 0, some "gate", [("brim", "gate")]⟩

/-- One more is too much: the choice is not taken, not refused, and does not founder. -/
theorem overlong_score_stalls :
    ¬((∃ d x place, Taken brimLibrary brim "stay" (brim.choose brimLibrary "stay") d x place) ∨
      (∃ f, Refused brimLibrary brim "stay" (brim.choose brimLibrary "stay") f) ∨
      ∃ f d x, Founders brimLibrary brim "stay" (brim.choose brimLibrary "stay") f d x) := by
  have hstalled {outcome : Outcome}
      (h : Ends brimLibrary brim "stay" (brim.choose brimLibrary "stay") outcome) :
      outcome = .stalled := by
    rw [h.outcome_eq]
    decide +kernel
  rintro (ht | hr | hf)
  · cases hstalled (show Ends _ _ _ _ .taken from ht)
  · cases hstalled (show Ends _ _ _ _ .refused from hr)
  · cases hstalled (show Ends _ _ _ _ .foundered from hf)

end Session

end Plotline
