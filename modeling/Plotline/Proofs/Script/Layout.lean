import Mathlib.Data.List.TakeWhile
import Plotline.Proofs.Marker.Grammar
import Plotline.Proofs.Marker.Spaces
import Plotline.Proofs.Script.Coherence
import Plotline.Proofs.Script.Parse

/-!
# Layout does not matter

A script may be laid out anew: lines that do not count may be put in and taken out, and every other
line may have more or fewer blanks at its ends. What is read stays the same, and so does a failure,
but for the number of the line that its message tells, which is that of the same line in its new
place.

* `Script.Relayout` is such an edit, line by line, and `Script.Relayout.Pairs` says which line went
  where.
* `Failure.Moved` says that a failure is the same at another line.
* `Builder.renumbered` is a builder with other line numbers. It does the same as the first one, step
  by step (`Builder.beside_feed`), so both complete a script alike (`Builder.agree_relayout`).
-/

namespace Plotline

open Marker (Token)
open Text (isBlank strip stripStart stripEnd)

/-! ## Blanks at the ends of a line -/

namespace Text

theorem stripEnd_append_blanks {r : List Char} (hr : ∀ c ∈ r, isBlank c = true) (s : List Char) :
    stripEnd (s ++ r) = stripEnd s := by
  rw [stripEnd, List.reverse_append, List.dropWhile_append_of_pos (by simpa using hr), stripEnd]

/-- Blanks at either end do not matter to a stripped text. -/
theorem strip_append_blanks {l r : List Char} (hl : ∀ c ∈ l, isBlank c = true)
    (hr : ∀ c ∈ r, isBlank c = true) (s : List Char) : strip (l ++ s ++ r) = strip s := by
  rw [strip, stripStart, List.append_assoc, List.dropWhile_append_of_pos hl, List.dropWhile_append]
  split
  · rename_i hs
    have hs : s.dropWhile isBlank = [] := List.isEmpty_iff.1 hs
    have hr' : r.dropWhile isBlank = [] := List.dropWhile_eq_nil_iff.2 hr
    rw [hr', strip, stripStart, hs]
  · rw [stripEnd_append_blanks hr, strip, stripStart]

/-- A stripped text starts with the first character that is no blank. -/
theorem head?_strip (s : List Char) : (strip s).head? = s.find? (!isBlank ·) := by
  rw [List.find?_not_eq_head?_dropWhile, ← stripStart, strip]
  obtain ⟨t, ht⟩ := stripEnd_prefix (stripStart s)
  cases hs : stripStart s with
  | nil => rfl
  | cons c u =>
    have hc : isBlank c = false := isBlank_of_mem_head?_stripStart (s := s) (by rw [hs]; rfl)
    rw [hs] at ht
    cases he : stripEnd (c :: u) with
    | nil =>
      have hblank := stripEnd_eq_nil_iff.1 he c List.mem_cons_self
      rw [hc] at hblank
      cases hblank
    | cons d w =>
      rw [he] at ht
      cases ht
      rfl

end Text

/-! ## Laying out a script anew -/

namespace Script

/-- A blank line or a comment: the first character that is no blank, if there is one, is `#`. -/
def Ignored (line : String) : Prop := ∀ c ∈ line.toList.find? (!isBlank ·), c = '#'

/-- Two lines with the same text between blanks. -/
def SameInside (x y : String) : Prop :=
  ∃ text l r l' r' : List Char, x.toList = l ++ text ++ r ∧ y.toList = l' ++ text ++ r' ∧
    ∀ c ∈ l ++ r ++ l' ++ r', isBlank c = true

theorem ignored_empty : Ignored (String.ofList []) := by
  intro c hc
  simp at hc

theorem SameInside.refl (x : String) : SameInside x x :=
  ⟨x.toList, [], [], [], [], by simp, by simp, fun _ h => absurd h List.not_mem_nil⟩

theorem Ignored.not_counts {line : String} (h : Ignored line) :
    counts (strip line.toList) = false := by
  have hhead := Text.head?_strip line.toList
  cases hs : strip line.toList with
  | nil => rfl
  | cons c rest =>
    rw [hs] at hhead
    obtain rfl := h c hhead.symm
    rfl

theorem SameInside.strip_eq {x y : String} (h : SameInside x y) :
    strip x.toList = strip y.toList := by
  obtain ⟨text, l, r, l', r', hx, hy, hblank⟩ := h
  simp only [List.forall_mem_append] at hblank
  obtain ⟨⟨⟨hl, hr⟩, hl'⟩, hr'⟩ := hblank
  rw [hx, hy, Text.strip_append_blanks hl hr, Text.strip_append_blanks hl' hr']

/-- A line of a script that is laid out anew. -/
inductive Row
  /-- The line stays, perhaps with other blanks at its ends. -/
  | kept (before after : String) (h : SameInside before after)
  | removed (line : String) (h : Ignored line)
  | added (line : String) (h : Ignored line)

namespace Row

/-- The line of the script before. -/
def before? : Row → Option String
  | kept line _ _ | removed line _ => some line
  | added _ _ => none

/-- The line of the script after. -/
def after? : Row → Option String
  | kept _ line _ | added line _ => some line
  | removed _ _ => none

end Row

/-- A script that is laid out anew. -/
abbrev Relayout := List Row

namespace Relayout

/-- The script before. -/
def before (e : Relayout) : List String := e.filterMap Row.before?

/-- The script after. -/
def after (e : Relayout) : List String := e.filterMap Row.after?

/-- A line that stays has the number `n` before and `m` after. -/
def Pairs (e : Relayout) (n m : Nat) : Prop :=
  ∃ (earlier later : Relayout) (x y : String) (h : SameInside x y),
    e = earlier ++ .kept x y h :: later ∧ n = earlier.before.length + 1 ∧
      m = earlier.after.length + 1

variable {e : Relayout} {n m : Nat}

theorem pairs_first (x y : String) (h : SameInside x y) (e : Relayout) :
    Pairs (.kept x y h :: e) 1 1 := ⟨[], e, x, y, h, rfl, rfl, rfl⟩

theorem Pairs.cons (row : Row) (h : e.Pairs n m) :
    Pairs (row :: e) (row.before?.toList.length + n) (row.after?.toList.length + m) := by
  obtain ⟨earlier, later, x, y, hxy, rfl, rfl, rfl⟩ := h
  refine ⟨row :: earlier, later, x, y, hxy, rfl, ?_, ?_⟩
  · cases row <;> simp [before, List.filterMap_cons, Row.before?] <;> omega
  · cases row <;> simp [after, List.filterMap_cons, Row.after?] <;> omega

end Relayout

end Script

/-! ## Failures at other lines -/

namespace Fault

/-- The line number that the message of a fault tells. -/
def line? : Fault → Option Nat
  | secondLinkOnLine _ n _ | decisionBeforeDialog n | textOutsideDialog n _ | missingId _ n _ =>
    some n
  | _ => none

/-- The fault at another line. -/
def atLine (m : Nat) : Fault → Fault
  | secondLinkOnLine value _ t => .secondLinkOnLine value m t
  | decisionBeforeDialog _ => .decisionBeforeDialog m
  | textOutsideDialog _ t => .textOutsideDialog m t
  | missingId kind _ t => .missingId kind m t
  | f => f

end Fault

/-- Two failures of one kind with the same token and the same message, but for the line number, and
the numbers that they tell are paired. -/
structure Failure.Moved (P : Nat → Nat → Prop) (f g : Failure) : Prop where
  family : g.fault.family = f.fault.family
  token : g.fault.token? = f.fault.token?
  message :
    match f.fault.line? with
    | none => g.message = f.message
    | some n => ∃ m start rest, P n m ∧ g.fault.line? = some m ∧
        f.message = start ++ toString n ++ rest ∧ g.message = start ++ toString m ++ rest

theorem Failure.Moved.of_line?_eq_none {P : Nat → Nat → Prop} {f : Failure}
    (h : f.fault.line? = none) : f.Moved P f :=
  ⟨rfl, rfl, by rw [h]⟩

/-- A fault that tells a line number, told with another one. -/
theorem Console.moved_atLine {P : Nat → Nat → Prop} (c : Console) {f : Fault} {n m : Nat}
    (h : f.line? = some n) (hP : P n m) : (c.fail f).Moved P (c.fail (f.atLine m)) := by
  cases f with
  | secondLinkOnLine value k t =>
    obtain rfl := Option.some.inj h
    exact ⟨rfl, rfl, m, "found another link within token: " ++ value ++ " (line ", ")", hP, rfl,
      rfl, rfl⟩
  | decisionBeforeDialog k =>
    obtain rfl := Option.some.inj h
    exact ⟨rfl, rfl, m, "decision before any dialog at line ", "", hP, rfl,
      String.append_empty.symm, String.append_empty.symm⟩
  | textOutsideDialog k t =>
    obtain rfl := Option.some.inj h
    exact ⟨rfl, rfl, m, "text outside of any dialog at line ", "", hP, rfl,
      String.append_empty.symm, String.append_empty.symm⟩
  | missingId kind k t =>
    obtain rfl := Option.some.inj h
    exact ⟨rfl, rfl, m, "missing id for " ++ kind.word ++ " at line ", "", hP, rfl,
      String.append_empty.symm, String.append_empty.symm⟩
  | _ => cases h

theorem Marker.Token.line?_absorb {t : Token} {s : Marker.Segment} {f : Fault}
    (h : t.absorb s = .error f) : f.line? = none := by
  unfold absorb at h
  cases s with
  | literal => cases h
  | id | link =>
    dsimp only at h
    split at h
    · obtain rfl := Except.error.inj h
      rfl
    · cases h

theorem Dialog.line?_insert {d : Dialog} {x : Decision} {f : Failure} (h : d.insert x = .error f) :
    f.fault.line? = none := by
  unfold insert at h
  split at h
  · cases h
  · obtain rfl := Except.error.inj h
    rfl

theorem Tree.line?_insert {t : Tree} {d : Dialog} {f : Failure} (h : t.insert d = .error f) :
    f.fault.line? = none := by
  unfold insert at h
  split at h
  · cases h
  · obtain rfl := Except.error.inj h
    rfl

theorem Tree.line?_insertDecision {t : Tree} {dialog : String} {x : Decision} {f : Failure}
    (h : t.insertDecision dialog x = .error f) : f.fault.line? = none := by
  unfold insertDecision get at h
  split at h
  · rename_i hget
    split at hget
    · cases hget
    · obtain rfl := Except.error.inj hget
      obtain rfl := Except.error.inj h
      rfl
  · split at h
    · rename_i hinsert
      obtain rfl := Except.error.inj h
      exact Dialog.line?_insert hinsert
    · cases h

namespace Builder

variable {P : Nat → Nat → Prop} {b : Builder} {i j k : Nat}

/-! ## Builders with other line numbers -/

/-- The builder with other line numbers: how many lines were fed, and which of them started what is
being gathered. -/
def renumbered (b : Builder) (count start : Nat) : Builder :=
  { b with lineCount := count, startLine := start }

/-- Two steps that do the same, one of them at other line numbers: both go on, with `i` lines fed to
one builder and `j` to the other, or both fail. The lines that started what is gathered are
paired. -/
inductive Beside (P : Nat → Nat → Prop) (i j : Nat) :
    Option Failure × Builder → Option Failure × Builder → Prop
  | go {b : Builder} {k : Nat} (count : b.lineCount = i)
    (start : b.pending.isSome → P b.startLine k) : Beside P i j (none, b) (none, b.renumbered j k)
  | fail {b c : Builder} {f g : Failure} (h : f.Moved P g) : Beside P i j (some f, b) (some g, c)

theorem Beside.andThen {r r' : Option Failure × Builder}
    {step step' : Builder → Option Failure × Builder} (h : Beside P i j r r')
    (hstep : ∀ b k, b.lineCount = i → (b.pending.isSome → P b.startLine k) →
      Beside P i j (step b) (step' (b.renumbered j k))) :
    Beside P i j (Builder.andThen r step) (Builder.andThen r' step') := by
  cases h with
  | go count start => exact hstep _ _ count start
  | fail h => exact .fail h

/-! ## Completing an entity -/

theorem beside_addDialog (id : String) (t : Token) (count : b.lineCount = i)
    (hp : b.pending = none) :
    Beside P i j (b.addDialog id t) ((b.renumbered j k).addDialog id t) := by
  have htree : (b.renumbered j k).treeFor id = b.treeFor id := rfl
  have hoptions : (b.renumbered j k).options = b.options := rfl
  simp only [addDialog, htree, hoptions]
  split
  · rename_i hinsert
    exact .fail (.of_line?_eq_none (Tree.line?_insert hinsert))
  · exact .go count (by simp [hp])

theorem beside_addDecision (id : String) (t : Token) (count : b.lineCount = i)
    (hp : b.pending = none) :
    Beside P i j (b.addDecision id t) ((b.renumbered j k).addDecision id t) := by
  have htree : (b.renumbered j k).tree = b.tree := rfl
  have hcurrent : (b.renumbered j k).current = b.current := rfl
  simp only [addDecision, htree, hcurrent]
  split
  · split
    · rename_i hinsert
      exact .fail (.of_line?_eq_none (Tree.line?_insertDecision hinsert))
    · exact .go count (by simp [hp])
  · exact .fail (.of_line?_eq_none rfl)

theorem beside_add (kind : EntityKind) (id : String) (t : Token) (count : b.lineCount = i)
    (hp : b.pending = none) :
    Beside P i j
      (match kind with
        | .dialog => b.addDialog id t
        | .decision => b.addDecision id t)
      (match kind with
        | .dialog => (b.renumbered j k).addDialog id t
        | .decision => (b.renumbered j k).addDecision id t) := by
  cases kind with
  | dialog => exact beside_addDialog id t count hp
  | decision => exact beside_addDecision id t count hp

/-- Completing an entity without an id fails at the line that started it. -/
theorem beside_flush (count : b.lineCount = i) (start : b.pending.isSome → P b.startLine k) :
    Beside P i j b.flush (b.renumbered j k).flush := by
  have hpending : (b.renumbered j k).pending = b.pending := rfl
  have hkind : (b.renumbered j k).kind = b.kind := rfl
  simp only [flush, hpending, hkind]
  cases hp : b.pending with
  | none => exact .go count start
  | some t =>
    have hstart : P b.startLine k := start (by rw [hp]; rfl)
    dsimp only
    split
    · exact .fail (b.options.console.moved_atLine (f := .missingId b.kind b.startLine t) rfl hstart)
    · exact beside_add (b := { b with pending := none }) (k := k) b.kind _ t count rfl

/-! ## One line -/

theorem line?_scan {line : List Char} {f : Failure} (h : b.scan line = .error f) :
    f.fault.line? = none := by
  unfold scan at h
  split at h
  · rename_i g hs
    obtain rfl := Except.error.inj h
    obtain ⟨_, _, _, _, -, -, habsorb⟩ := Token.exists_of_absorbAll_eq_error hs
    exact Token.line?_absorb habsorb
  · cases h

theorem beside_start (kind : EntityKind) (t : Token) (count : b.lineCount = i) (hP : P i j) :
    Beside P i j (none, b.start kind t) (none, (b.renumbered j k).start kind t) :=
  .go (b := b.start kind t) (k := j) count fun _ => by
    have hline : (b.start kind t).startLine = i := count
    rw [hline]
    exact hP

theorem beside_feedDecision (text : List Char) (count : b.lineCount = i)
    (start : b.pending.isSome → P b.startLine k) (hP : P i j) :
    Beside P i j (b.feedDecision text) ((b.renumbered j k).feedDecision text) := by
  rw [feedDecision_eq, feedDecision_eq]
  refine (beside_flush count start).andThen fun b k count start => ?_
  have hcurrent : (b.renumbered j k).current = b.current := rfl
  have hscan : (b.renumbered j k).scan = b.scan := rfl
  rw [hcurrent, hscan]
  split
  · refine .fail (b.options.console.moved_atLine (f := .decisionBeforeDialog b.lineCount) rfl ?_)
    rw [count]
    exact hP
  · split
    · rename_i hs
      exact .fail (.of_line?_eq_none (line?_scan hs))
    · exact beside_start .decision _ count hP

theorem beside_continueWith (p t : Token) (count : b.lineCount = i)
    (start : P b.startLine k) (hP : P i j) :
    Beside P i j (b.continueWith p t) ((b.renumbered j k).continueWith p t) := by
  unfold continueWith
  cases t.link.target with
  | none => exact .go count fun _ => start
  | some target =>
    dsimp only
    split
    · refine .fail (b.options.console.moved_atLine
        (f := .secondLinkOnLine target b.lineCount { p with text := p.text ++ "\n" ++ t.text }) rfl
        ?_)
      rw [count]
      exact hP
    · exact .go count fun _ => start

theorem beside_feedText (text : List Char) (count : b.lineCount = i)
    (start : b.pending.isSome → P b.startLine k) (hP : P i j) :
    Beside P i j (b.feedText text) ((b.renumbered j k).feedText text) := by
  have hscan : (b.renumbered j k).scan = b.scan := rfl
  have hpending : (b.renumbered j k).pending = b.pending := rfl
  unfold feedText
  rw [hscan, hpending]
  split
  · rename_i hs
    exact .fail (.of_line?_eq_none (line?_scan hs))
  · rename_i t hs
    split
    · exact (beside_flush count start).andThen fun b k count _ => beside_start .dialog t count hP
    · cases hp : b.pending with
      | none =>
        refine .fail (b.options.console.moved_atLine (f := .textOutsideDialog b.lineCount t) rfl ?_)
        rw [count]
        exact hP
      | some p => exact beside_continueWith p t count (start (by rw [hp]; rfl)) hP

/-- **Two lines with the same text do the same** at their places. -/
theorem beside_feed {x y : String} (hxy : strip x.toList = strip y.toList)
    (start : b.pending.isSome → P b.startLine k) (hP : P (b.lineCount + 1) (j + 1)) :
    Beside P (b.lineCount + 1) (j + 1) (b.feed x) ((b.renumbered j k).feed y) := by
  have hnext : (b.renumbered j k).nextLine = b.nextLine.renumbered (j + 1) k := rfl
  have count : b.nextLine.lineCount = b.lineCount + 1 := rfl
  rw [feed_eq, feed_eq, hxy, hnext]
  split
  · exact .go count start
  · split
    · exact .go count start
    · split
      · exact beside_feedDecision _ count start hP
      · exact beside_feedText _ count start hP

/-! ## Whole scripts -/

theorem agree_finish_renumbered (start : b.pending.isSome → P b.startLine k) :
    Agree (Failure.Moved P) (· = ·) b.finish.1 (b.renumbered j k).finish.1 := by
  have hflush : Beside P b.lineCount j b.flush (b.renumbered j k).flush := beside_flush rfl start
  unfold finish
  generalize b.flush = r, (b.renumbered j k).flush = r' at hflush
  cases hflush with
  | fail h => exact .error h
  | @go b k _ _ =>
    have htree : (b.renumbered j k).tree = b.tree := rfl
    dsimp only
    rw [htree]
    cases b.tree with
    | none => exact .error (.of_line?_eq_none rfl)
    | some t => exact .ok rfl

/-- **Builders with other line numbers complete a script alike**, whatever its layout, if the numbers
of the lines that stay are paired. -/
theorem agree_relayout (e : Script.Relayout) (start : b.pending.isSome → P b.startLine k)
    (hP : ∀ n m, e.Pairs n m → P (b.lineCount + n) (j + m)) :
    Agree (Failure.Moved P) (· = ·) (b.complete e.before)
      ((b.renumbered j k).complete e.after) := by
  induction e generalizing b j k with
  | nil => exact agree_finish_renumbered start
  | cons row e ih =>
    cases row with
    | removed line h =>
      have hbefore : Script.Relayout.before (.removed line h :: e) = line :: Script.Relayout.before e := rfl
      have hafter : Script.Relayout.after (.removed line h :: e) = Script.Relayout.after e := rfl
      rw [hbefore, hafter, complete_cons, b.feed_of_not_counts h.not_counts]
      refine ih (b := b.nextLine) start fun n m hpairs => ?_
      simpa [nextLine, Script.Row.before?, Script.Row.after?, Nat.add_assoc] using
        hP _ _ (hpairs.cons (.removed line h))
    | added line h =>
      have hbefore : Script.Relayout.before (.added line h :: e) = Script.Relayout.before e := rfl
      have hafter : Script.Relayout.after (.added line h :: e) = line :: Script.Relayout.after e := rfl
      have hnext : (b.renumbered j k).nextLine = b.renumbered (j + 1) k := rfl
      rw [hbefore, hafter, complete_cons _ line, feed_of_not_counts _ h.not_counts, hnext]
      refine ih start fun n m hpairs => ?_
      simpa [Script.Row.before?, Script.Row.after?, Nat.add_assoc] using
        hP _ _ (hpairs.cons (.added line h))
    | kept x y h =>
      have hbefore : Script.Relayout.before (.kept x y h :: e) = x :: Script.Relayout.before e := rfl
      have hafter : Script.Relayout.after (.kept x y h :: e) = y :: Script.Relayout.after e := rfl
      have hfeed := beside_feed h.strip_eq start (hP 1 1 (Script.Relayout.pairs_first x y h e))
      rw [hbefore, hafter, complete_cons, complete_cons]
      generalize b.feed x = r, (b.renumbered j k).feed y = r' at hfeed
      cases hfeed with
      | fail hmoved => exact .error hmoved
      | go count start =>
        refine ih start fun n m hpairs => ?_
        rw [count]
        simpa [Script.Row.before?, Script.Row.after?, Nat.add_assoc] using
          hP _ _ (hpairs.cons (.kept x y h))

end Builder

/-! ## Reading -/

/-- **Layout does not matter.** Laid out anew, a script is read as the same tree with the same
notices, or it fails in the same way: with the same kind of fault and the same token, and with a
message that tells the new number of the same line. -/
theorem Script.agree_parse_relayout (options : Script.Options) (e : Script.Relayout) :
    Agree (Failure.Moved e.Pairs) (· = ·) (parse options e.before) (parse options e.after) :=
  Builder.agree_relayout (b := .new options) (j := 0) (k := 0) e (fun h => by cases h)
    fun n m h => by simpa [Builder.new] using h

/-- The comment moves the line that is told. -/
example :
    let told : Except Failure (Tree × List Posting) → String
      | .ok _ => ""
      | .error f => f.message
    told (Script.parse {} ["> Go."]) = "decision before any dialog at line 1" ∧
      told (Script.parse {} ["", "  # Not yet.", " > Go. "]) =
        "decision before any dialog at line 3" := by
  decide +kernel

end Plotline
