import Plotline.Proofs.Story.Walk

/-!
# Scores by the ledger

The score of a tree can be read off what was chosen in it. Each decision that is chosen with success
is booked under the tree that is the current one then, with the score that it has then. So is one
that stalls because the score it comes to is too long to be told (`Session.Stalls`), since that
score stays (`Journey.overlong_score_counts`). Nothing else counts: a tree's score is the one it had
at first and the sum of its bookings, wherever the links lead and whatever else happens in between,
as long as nobody sets a score of a tree.

* `Session.Call.bookings` is what one call adds to the ledger, and `Session.books_step` says what it
  does to the library.
* `Journey.Ledger` are the ledgers of a journey, and `Journey.scores_follow_ledger` balances them.

A link that has a target and no kind is left out, because choosing it fails after the score was
added (`Session.Founders`).
-/

namespace Plotline

/-! ## Changes that keep scores -/

namespace Library

variable {l l' l'' : Library} {r : TreeRef}

/-- The library `l'` has all trees of `l` with the scores that they have in `l`. -/
structure KeepsScores (l l' : Library) : Prop where
  size : l.shelf.length ≤ l'.shelf.length
  score : ∀ r, r < l.shelf.length → (l'.tree r).score = (l.tree r).score

theorem keepsScores_of_shelf {more : List Tree} (h : l'.shelf = l.shelf ++ more) :
    l.KeepsScores l' where
  size := by simp [h]
  score r hr := by
    rw [tree, tree, h, List.getD_eq_getElem?_getD, List.getElem?_append_left hr,
      List.getD_eq_getElem?_getD]

theorem keepsScores_modify (l : Library) (r : TreeRef) {f : Tree → Tree}
    (hf : ∀ t, (f t).score = t.score) : l.KeepsScores (l.modify r f) where
  size := by simp [modify]
  score q _ := by
    rw [tree_modify]
    split
    · exact hf _
    · rfl

/-- A change that does not set the score of a tree. -/
def Change.KeepsScores : Change → Prop
  | .edit _ .tree (.score _) => False
  | _ => True

theorem shelf_add {key : String} {postings : List Posting} (h : l.add key r = .ok (l', postings)) :
    l'.shelf = l.shelf := by
  obtain ⟨entries, -, rfl⟩ := exists_of_add h
  rfl

theorem shelf_load {disk : Disk} {path : Path.Spelling} {loaded : Loaded}
    (h : l.load disk path = .ok loaded) : ∃ t, loaded.library.shelf = l.shelf ++ [t] := by
  obtain ⟨key, t, parsing, adding, -, -, ha, -, -⟩ := exists_of_load h
  exact ⟨t, shelf_add ha⟩

theorem score_edit (t : Tree) (place : Place) {e : Edit}
    (h : Change.KeepsScores (.edit r place e)) : (t.edit place e).score = t.score := by
  cases place with
  | tree =>
    cases e with
    | score n => exact h.elim
    | message | target | kind | enabled => rfl
  | dialog | decision => rfl

/-- **Between the calls, only setting a score changes it.** -/
theorem keepsScores_change (l : Library) {c : Change} (h : c.KeepsScores) :
    l.KeepsScores (l.change c) := by
  have hsame : l.KeepsScores l := ⟨Nat.le_refl _, fun _ _ => rfl⟩
  cases c with
  | edit r place e => exact l.keepsScores_modify r fun t => score_edit t place h
  | shelve t =>
    have hshelf : (l.place t).2.shelf = l.shelf ++ [t] := rfl
    exact keepsScores_of_shelf hshelf
  | register key r =>
    cases ha : l.add key r with
    | ok added =>
      simp only [change, ha]
      exact keepsScores_of_shelf (by rw [shelf_add ha, List.append_nil])
    | error f =>
      simp only [change, ha]
      exact hsame
  | load disk path =>
    cases hl : l.load disk path with
    | ok loaded =>
      obtain ⟨t, ht⟩ := shelf_load hl
      simp only [change, hl]
      exact keepsScores_of_shelf ht
    | error f =>
      simp only [change, hl]
      exact hsame

end Library

namespace Session

variable {l : Library} {s : Session} {r : TreeRef}

/-! ## What a call books -/

/-- A decision that was chosen: the tree that was the current one, the id of the decision, and the
score that it had. -/
structure Booking where
  tree : TreeRef
  decision : String
  score : Int
  deriving DecidableEq, Repr

/-- A choice with this answer counts: it succeeded, or it failed because the score was too long to
be told. -/
def counts : Except Failure (Option String) → Bool
  | .ok _ => true
  | .error f => f.fault = .numeral .unwritable

/-- What a call adds to the ledger: the decision that it chooses, if the choice counts. -/
def Call.bookings (s : Session) (l : Library) : Call → List Booking
  | .advance => []
  | .choose id =>
    match (s.current l).bind (·.decisions.get? id) with
    | none => []
    | some x => if counts (s.choose l id).answer then [⟨s.tree, id, x.score⟩] else []

/-- What the bookings of a tree come to. -/
def total : List Booking → TreeRef → Int
  | [], _ => 0
  | b :: bookings, r => (if b.tree = r then b.score else 0) + total bookings r

/-- The links that a call can follow have a target and a kind, or neither. -/
def Call.Paired (s : Session) (l : Library) (c : Call) : Prop :=
  ∀ d link, c.Follows l s d link → link.Paired

theorem paired_call {c : Call} (h : ∀ o ∈ (l.tree s.tree).owners, o.link.Paired) :
    c.Paired s l := by
  intro d link hf
  cases c with
  | choose id =>
    obtain ⟨x, hx, rfl⟩ := hf
    obtain ⟨o, ho, hlink⟩ := hx.exists_owner
    rw [← hlink]
    exact h o (owners_subset_of_current hx.current ho)
  | advance =>
    obtain ⟨hd, rfl⟩ := hf
    exact h _ (owners_subset_of_current hd List.mem_cons_self)

/-- What a call does to scores: it advances or fails, and leaves the library as it is, or it chooses
a decision and adds the score to the current tree. It does so as well if it fails because that score
is too long to be told. -/
inductive Books (l : Library) (s : Session) (c : Call) (step : Step) : Prop
  | nothing (hc : c = .advance ∨ ∃ f, step.answer = .error f ∧ f.fault ≠ .numeral .unwritable)
    (hb : c.bookings s l = []) (hl : step.library = l)
  | decision {id : String} {d : Dialog} {x : Decision} {place : Option (TreeRef × String)}
    (hc : c = .choose id) (ht : Taken l s id step d x place)
    (hb : c.bookings s l = [⟨s.tree, id, x.score⟩])
  | overlong {id : String} {d : Dialog} {x : Decision} {f : Failure} (hc : c = .choose id)
    (hs : Stalls l s id step f d x) (hb : c.bookings s l = [⟨s.tree, id, x.score⟩])

theorem bookings_of_counts {id : String} {d : Dialog} {x : Decision} (hx : Offers l s id d x)
    (h : counts (s.choose l id).answer = true) :
    (Call.choose id).bookings s l = [⟨s.tree, id, x.score⟩] := by
  simp only [Call.bookings, hx.current, Option.bind_some, hx.decision, h, if_true]

theorem bookings_of_not_counts {id : String} (h : counts (s.choose l id).answer = false) :
    (Call.choose id).bookings s l = [] := by
  simp only [Call.bookings, h]
  split <;> rfl

/-- A refusal is about something else than a score. -/
theorem Refused.ne_unwritable {id : String} {step : Step} {f : Failure}
    (h : Refused l s id step f) : f.fault ≠ .numeral .unwritable := by
  intro hf
  rcases h.family with hfamily | hfamily <;> rw [hf] at hfamily <;> cases hfamily

/-- **What a call books.** -/
theorem books_step {c : Call} (hp : c.Paired s l) : Books l s c (c.step s l) := by
  cases c with
  | advance => exact .nothing (.inl rfl) rfl (library_advance s l)
  | choose id =>
    obtain ⟨outcome, h⟩ := exists_ends l s id
    cases outcome with
    | taken =>
      obtain ⟨d, x, place, h⟩ := h
      refine .decision rfl h (bookings_of_counts h.offers ?_)
      rw [h.answer, counts]
    | refused =>
      obtain ⟨f, h⟩ := h
      refine .nothing (.inr ⟨f, h.answer, h.ne_unwritable⟩) (bookings_of_not_counts ?_) h.library
      rw [h.answer]
      exact decide_eq_false h.ne_unwritable
    | stalled =>
      obtain ⟨f, d, x, h⟩ := h
      refine .overlong rfl h (bookings_of_counts h.overlong.offers ?_)
      rw [h.answer]
      exact decide_eq_true h.fault
    | foundered =>
      obtain ⟨f, d, x, h⟩ := h
      -- that would be a link with a target and no kind
      have hpaired := hp d (linkOf d x) ⟨x, h.kindless.offers, rfl⟩
      rw [Link.Paired, h.kindless.target, h.kindless.kind] at hpaired
      cases hpaired

theorem total_append (bs bs' : List Booking) (r : TreeRef) :
    total (bs ++ bs') r = total bs r + total bs' r := by
  induction bs with
  | nil => exact (Int.zero_add _).symm
  | cons b bs ih => rw [List.cons_append, total, ih, total, Int.add_assoc]

theorem score_total {l' : Library} {id : String} {n : Int}
    (h : l.ScoreAdded s.tree n l') (r : TreeRef) :
    (l'.tree r).score = (l.tree r).score + total [⟨s.tree, id, n⟩] r := by
  by_cases hr : r = s.tree
  · subst hr
    rw [h.here]
    simp [total]
  · rw [h.elsewhere r hr]
    simp [total, Ne.symm hr]

/-- A call adds to each score what it books. -/
theorem Books.score {c : Call} {step : Step} (h : Books l s c step) (r : TreeRef) :
    (step.library.tree r).score = (l.tree r).score + total (c.bookings s l) r := by
  cases h with
  | nothing _ hb hl =>
    rw [hb, hl]
    exact (Int.add_zero _).symm
  | decision _ ht hb =>
    rw [hb]
    exact score_total ht.library r
  | overlong _ hs hb =>
    rw [hb]
    exact score_total hs.library r

theorem Books.size {c : Call} {step : Step} (h : Books l s c step) :
    step.library.shelf.length = l.shelf.length := by
  cases h with
  | nothing _ _ hl => rw [hl]
  | decision _ ht _ => exact ht.library.size
  | overlong _ hs _ => exact hs.library.size

end Session

/-! ## The ledger of a journey -/

namespace Journey

open Session (Call Booking Books total Offers Taken)

variable {j k : Journey} {bookings : List Booking}

/-- The ledger of a journey from `j` to `k`: calls on links with a target and a kind or neither,
which may fail, and any changes in between that keep the scores. -/
inductive Ledger (j : Journey) : List Booking → Journey → Prop
  | opened : Ledger j [] j
  | call {k : Journey} {bookings : List Booking} (h : Ledger j bookings k) (c : Call)
    (hc : c.Paired k.session k.library) :
    Ledger j (bookings ++ c.bookings k.session k.library) (k.after (.call c))
  | meanwhile {k : Journey} {bookings : List Booking} (h : Ledger j bookings k) {l : Library}
    (hl : k.library.KeepsScores l) : Ledger j bookings ⟨k.session, l⟩

/-- What holds at every point of a journey whose ledger is kept. -/
structure Balanced (j : Journey) (bookings : List Booking) (k : Journey) : Prop where
  /-- Scores are what they were and what was booked. -/
  scores : ∀ r, r < j.library.shelf.length →
    (k.library.tree r).score = (j.library.tree r).score + total bookings r
  /-- What the next call does to scores. -/
  books : ∀ c : Call, c.Paired k.session k.library →
    Books k.library k.session c (c.step k.session k.library)

theorem Ledger.balance (h : Ledger j bookings k) :
    j.library.shelf.length ≤ k.library.shelf.length ∧ ∀ r, r < j.library.shelf.length →
      (k.library.tree r).score = (j.library.tree r).score + total bookings r := by
  induction h with
  | opened => exact ⟨Nat.le_refl _, fun r _ => (Int.add_zero _).symm⟩
  | @call k bookings _ c hc ih =>
    have hbooks := Session.books_step hc
    refine ⟨?_, fun r hr => ?_⟩
    · show _ ≤ (c.step k.session k.library).library.shelf.length
      rw [hbooks.size]
      exact ih.1
    · show ((c.step k.session k.library).library.tree r).score = _
      rw [hbooks.score, ih.2 r hr, Session.total_append, Int.add_assoc]
  | meanwhile _ hl ih =>
    refine ⟨Nat.le_trans ih.1 hl.size, fun r hr => ?_⟩
    rw [← ih.2 r hr]
    exact hl.score r (Nat.lt_of_lt_of_le hr ih.1)

/-- **Scores follow the ledger.** At every point of a journey, each tree has the score that it had
at first and the scores of what was chosen in it, with success or so that the score became too long
to be told. A call that advances or fails otherwise leaves the library as it is, and a choice that
leads to another tree counts for the tree that it leaves. -/
theorem scores_follow_ledger (h : Ledger j bookings k) : Balanced j bookings k :=
  ⟨h.balance.2, fun _ hc => Session.books_step hc⟩

/-- Two trees that lead to each other. -/
def stairsLibrary : Library :=
  { shelf :=
      [{ id := "stairs", root := "top", score := 5
         dialogs := ⟨[{
           id := "top"
           decisions := ⟨[{ id := "down", link := .into .tree "cellar", score := 3 }],
             by decide⟩ }], by decide⟩ },
       { id := "cellar", root := "floor"
         dialogs := ⟨[{
           id := "floor", link := .into .dialog "nowhere"
           decisions := ⟨[{ id := "up", link := .into .tree "stairs", score := -1 }],
             by decide⟩ }], by decide⟩ }]
    register := { entries := ⟨[⟨"stairs.txt", 0⟩, ⟨"cellar.txt", 1⟩], by decide⟩ } }

/-- At the top of the stairs. -/
def stairs : Journey := ⟨⟨{}, 0, some "top", [("stairs", "top")]⟩, stairsLibrary⟩

/-- Down, two calls that fail, and up again for more than before. -/
def stairsEvents : List Event :=
  [.call (.choose "down"), .call (.choose "out"), .call .advance,
    .change (.edit 1 (.decision "floor" "up") (.score 40)), .call (.choose "up")]

theorem stairs_follow_ledger :
    Ledger stairs [⟨0, "down", 3⟩, ⟨1, "up", 40⟩] (stairs.run stairsEvents) ∧
      Balanced stairs [⟨0, "down", 3⟩, ⟨1, "up", 40⟩] (stairs.run stairsEvents) := by
  have hdown := (Ledger.opened (j := stairs)).call (.choose "down")
    (Session.paired_call (by decide +kernel))
  have hout := hdown.call (.choose "out") (Session.paired_call (by decide +kernel))
  have hadvance := hout.call .advance (Session.paired_call (by decide +kernel))
  have hedit := hadvance.meanwhile
    (Library.keepsScores_change _ (c := .edit 1 (.decision "floor" "up") (.score 40)) trivial)
  have hup := hedit.call (.choose "up") (Session.paired_call (by decide +kernel))
  have h : Ledger stairs [⟨0, "down", 3⟩, ⟨1, "up", 40⟩] (stairs.run stairsEvents) := by
    convert hup using 1
    · decide +kernel
    · rfl
  exact ⟨h, scores_follow_ledger h⟩

/-- The stairs had a score of 5, and the cellar had none. -/
example : ((stairs.run stairsEvents).library.shelf.map (·.score)) = [8, 40] := by decide +kernel

/-- Choosing one more at the highest score that can be told fails, and the score is another one. -/
theorem overlong_score_counts :
    ∃ f, (Session.brim.choose Session.brimLibrary "stay").answer = .error f ∧
      ((Session.brim.choose Session.brimLibrary "stay").library.tree 0).score ≠
        (Session.brimLibrary.tree 0).score :=
  ⟨⟨.numeral .unwritable, "  "⟩, by decide +kernel, by decide +kernel⟩

end Journey

end Plotline
