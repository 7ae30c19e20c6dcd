import Plotline.Proofs.Script.Layout

/-!
# The lines that failures tell

Some failures of a script tell the number of a line. An entity without an id is found only when the
next one starts or the script ends, so its failure tells a line that was read before, and perhaps
long before; the others tell the line that was read last. The numbers count all lines of the script,
blank ones and comments too.

* `Script.StartsAt` says what the line with a number starts. `Builder.Reads` says all that reading
  one line can do, and `Builder.reads_feed` that it does so.
* `Builder.Tracks` is what a builder knows after some lines: how many they are, what it gathers and
  where that started. Every line keeps it (`Builder.Tracks.feed`).
* `Script.told_lines_are_right` puts together what the numbers are.
-/

namespace Plotline

open Marker (Token ids)
open Script (Line Group counts)
open Text (strip)

/-! ## Numbers of lines -/

namespace Script

/-- The line starts an entity of this kind with this id. Without an id marker, the id is empty. -/
structure Starts (trim : Bool) (line : String) (kind : EntityKind) (id : String) : Prop where
  counts : counts (strip line.toList) = true
  kind : (Line.ofText trim (strip line.toList)).starts = some kind
  id : (Group.start (.ofText trim (strip line.toList))).id = id

/-- The line with the number `n`, counted from 1, starts an entity of this kind with this id. -/
def StartsAt (trim : Bool) (script : List String) (n : ℕ) (kind : EntityKind) (id : String) :
    Prop :=
  ∃ i line, n = i + 1 ∧ script[i]? = some line ∧ Starts trim line kind id

/-- The line `n` is the first one that starts an entity without an id, or with an empty one, and
this entity is of the kind. -/
structure FirstNameless (trim : Bool) (script : List String) (n : ℕ) (kind : EntityKind) :
    Prop where
  starts : StartsAt trim script n kind ""
  first : ∀ m < n, ∀ kind', ¬StartsAt trim script m kind' ""

/-- Reading the script fails at the line `n`: it is read, and the lines before it, but nothing
behind it. -/
def FailsAt (options : Options) (script : List String) (n : ℕ) (f : Failure) : Prop :=
  ∃ before line after, script = before ++ line :: after ∧ n = before.length + 1 ∧
    ((Builder.new options).feedAll before).1 = none ∧
      ((Builder.new options).feedAll (before ++ [line])).1 = some f

/-- The failure comes at the first line behind the line `n` that starts an entity, or at the end of
the script if there is none. -/
inductive FailsBehind (options : Options) (script : List String) (n : ℕ) (f : Failure) : Prop
  | next {m : ℕ} {kind : EntityKind} {id : String} (hn : n < m) (fails : FailsAt options script m f)
      (starts : StartsAt options.trim script m kind id)
      (between : ∀ k kind id, n < k → k < m → ¬StartsAt options.trim script k kind id)
  | finish (reads : ((Builder.new options).feedAll script).1 = none)
      (behind : ∀ k kind id, n < k → ¬StartsAt options.trim script k kind id)

variable {trim : Bool} {known script : List String} {line : String} {n m : ℕ}
  {kind kind' : EntityKind} {id id' : String}

theorem Starts.unique (h : Starts trim line kind id) (h' : Starts trim line kind' id') :
    kind = kind' ∧ id = id' :=
  ⟨Option.some.inj (h.kind.symm.trans h'.kind), h.id.symm.trans h'.id⟩

theorem StartsAt.unique (h : StartsAt trim script n kind id)
    (h' : StartsAt trim script n kind' id') : kind = kind' ∧ id = id' := by
  obtain ⟨i, line, hi, hline, hs⟩ := h
  obtain ⟨j, line', hj, hline', hs'⟩ := h'
  obtain rfl : i = j := by omega
  obtain rfl := Option.some.inj (hline.symm.trans hline')
  exact hs.unique hs'

theorem StartsAt.pos (h : StartsAt trim script n kind id) : 0 < n := by
  obtain ⟨i, -, hi, -⟩ := h
  omega

theorem StartsAt.le_length (h : StartsAt trim script n kind id) : n ≤ script.length := by
  obtain ⟨i, line, hi, hline, -⟩ := h
  obtain ⟨hlt, -⟩ := List.getElem?_eq_some_iff.1 hline
  omega

/-- The first lines start the same, whatever comes behind them. -/
theorem startsAt_append_iff (more : List String) (hn : n ≤ known.length) :
    StartsAt trim (known ++ more) n kind id ↔ StartsAt trim known n kind id := by
  constructor
  · intro h
    obtain ⟨i, line, rfl, hline, hs⟩ := h
    rw [List.getElem?_append_left hn] at hline
    exact ⟨i, line, rfl, hline, hs⟩
  · intro h
    obtain ⟨i, line, rfl, hline, hs⟩ := h
    rw [← List.getElem?_append_left hn] at hline
    exact ⟨i, line, rfl, hline, hs⟩

/-- What one more line starts has its number. -/
theorem startsAt_concat_iff :
    StartsAt trim (known ++ [line]) n kind id ↔
      StartsAt trim known n kind id ∨ n = known.length + 1 ∧ Starts trim line kind id := by
  by_cases hn : n ≤ known.length
  · rw [startsAt_append_iff [line] hn, or_iff_left]
    rintro ⟨rfl, -⟩
    omega
  · constructor
    · intro h
      have hle := h.le_length
      rw [List.length_append, List.length_singleton] at hle
      obtain ⟨i, line', hi, hline, hs⟩ := h
      obtain rfl : i = known.length := by omega
      rw [List.getElem?_concat_length] at hline
      obtain rfl := Option.some.inj hline
      exact .inr ⟨hi, hs⟩
    · rintro (h | ⟨rfl, hs⟩)
      · exact absurd h.le_length hn
      · exact ⟨known.length, line, rfl, List.getElem?_concat_length, hs⟩

end Script

/-- The fault tells the number of the line at which it was found. -/
inductive Fault.Here (n : ℕ) : Fault → Prop
  | decision : Here n (.decisionBeforeDialog n)
  | text (t : Token) : Here n (.textOutsideDialog n t)
  | link (value : String) (t : Token) : Here n (.secondLinkOnLine value n t)

namespace Builder

open Script (Starts StartsAt FirstNameless FailsAt FailsBehind)

variable {b b' c : Builder} {options : Script.Options} {p : Token} {known script : List String}
  {line : String} {f : Failure}

/-! ## What reading a line can do -/

/-- What is gathered, if anything, has an id. -/
def Named (b : Builder) : Prop := ∀ p, b.pending = some p → p.id.getD "" ≠ ""

/-- What comes of completing what is gathered: it has an id and no line is forgotten, or it has none
and the failure tells so, or the failure tells no line. -/
inductive Flushes (b : Builder) : Option Failure × Builder → Prop
  | named {b' : Builder} (h : b.Named) (count : b'.lineCount = b.lineCount)
      (options : b'.options = b.options) : Flushes b (none, b')
  | nameless {f : Failure} {b' : Builder} {p : Token} (hp : b.pending = some p)
      (hid : p.id.getD "" = "") (hf : f.fault = .missingId b.kind b.startLine p) :
      Flushes b (some f, b')
  | silent {f : Failure} {b' : Builder} (h : f.fault.line? = none) : Flushes b (some f, b')

/-- What comes of reading a line: it does not count, it starts an entity, behind one that has an id,
or it continues what is gathered. If it fails, the failure tells this line, the line that started
what is gathered and has no id, or no line. -/
inductive Reads (b : Builder) (line : String) : Option Failure × Builder → Prop
  | skips (h : counts (strip line.toList) = false) : Reads b line (none, b.nextLine)
  | starts {b' : Builder} {p : Token} {kind : EntityKind}
      (h : Starts b.options.trim line kind (p.id.getD "")) (named : b.Named)
      (pending : b'.pending = some p) (kind : b'.kind = kind)
      (start : b'.startLine = b.lineCount + 1) (count : b'.lineCount = b.lineCount + 1)
      (options : b'.options = b.options) : Reads b line (none, b')
  | continues {p q : Token} (h : ∀ kind id, ¬Starts b.options.trim line kind id)
      (hp : b.pending = some p) (hq : q.id = p.id) :
      Reads b line (none, { b.nextLine with pending := some q })
  | here {f : Failure} {b' : Builder} (h : f.fault.Here (b.lineCount + 1)) :
      Reads b line (some f, b')
  | nameless {f : Failure} {b' : Builder} {p : Token} {kind : EntityKind} {id : String}
      (h : Starts b.options.trim line kind id) (hp : b.pending = some p)
      (hid : p.id.getD "" = "") (hf : f.fault = .missingId b.kind b.startLine p) :
      Reads b line (some f, b')
  | silent {f : Failure} {b' : Builder} (h : f.fault.line? = none) : Reads b line (some f, b')

theorem flushes_addDialog (id : String) (t : Token) (h : c.Named)
    (count : b.lineCount = c.lineCount) (options : b.options = c.options) :
    Flushes c (b.addDialog id t) := by
  simp only [addDialog]
  split
  · rename_i hinsert
    exact .silent (Tree.line?_insert hinsert)
  · exact .named h count options

theorem flushes_addDecision (id : String) (t : Token) (h : c.Named)
    (count : b.lineCount = c.lineCount) (options : b.options = c.options) :
    Flushes c (b.addDecision id t) := by
  simp only [addDecision]
  split
  · split
    · rename_i hinsert
      exact .silent (Tree.line?_insertDecision hinsert)
    · exact .named h count options
  · exact .silent rfl

theorem flushes_flush (b : Builder) : Flushes b b.flush := by
  unfold flush
  cases hp : b.pending with
  | none => exact .named (fun p h => by simp [hp] at h) rfl rfl
  | some p =>
    dsimp only
    split
    · rename_i hid
      exact .nameless hp hid rfl
    · rename_i hid
      have hnamed : b.Named := by
        intro q hq
        obtain rfl := Option.some.inj (hp.symm.trans hq)
        exact hid
      split
      · exact flushes_addDialog _ _ hnamed rfl rfl
      · exact flushes_addDecision _ _ hnamed rfl rfl

/-- A scan fails without telling a line, or gives the token of the line. -/
theorem line?_or_scan (b : Builder) (text : List Char) :
    (∃ f, b.scan text = .error f ∧ f.fault.line? = none) ∨
      b.scan text = .ok (.ofSegments (Marker.segments b.options.trim text)) := by
  rcases b.scan_line ⟨none, Marker.segments b.options.trim text⟩ rfl with ⟨f, hf, -⟩ | ⟨ht, -⟩
  · exact .inl ⟨f, hf, line?_scan hf⟩
  · exact .inr ht

theorem starts_ofSegments {trim : Bool} {kind : EntityKind} {l : Line}
    (hc : counts (strip line.toList) = true) (hl : Line.ofText trim (strip line.toList) = l)
    (hk : l.starts = some kind) :
    Starts trim line kind ((Token.ofSegments l.segments).id.getD "") := by
  subst hl
  exact ⟨hc, hk, rfl⟩

/-- A line that starts an entity first completes what is gathered. -/
theorem reads_andThen {kind : EntityKind} {id : String} {k : Builder → Option Failure × Builder}
    (h : Starts b.options.trim line kind id)
    (hk : ∀ b' : Builder, b.Named → b'.lineCount = b.lineCount + 1 → b'.options = b.options →
      Reads b line (k b')) : Reads b line (andThen b.nextLine.flush k) := by
  have hflush := flushes_flush b.nextLine
  generalize b.nextLine.flush = r at hflush
  cases hflush with
  | named hnamed count options => exact hk _ hnamed count options
  | nameless hp hid hf => exact .nameless h hp hid hf
  | silent hf => exact .silent hf

theorem reads_feedDecision {text : List Char} (hc : counts (strip line.toList) = true)
    (hl : b.lineOf line =
      ⟨some .decision, Marker.segments b.options.trim (text.dropWhile (· = ' '))⟩) :
    Reads b line (b.nextLine.feedDecision text) := by
  have hstarts := starts_ofSegments hc hl rfl
  rw [feedDecision_eq]
  apply reads_andThen hstarts
  intro b' hnamed count options
  split
  · apply Reads.here
    rw [count]
    exact .decision
  · rcases b'.line?_or_scan (text.dropWhile (· = ' ')) with ⟨f, hs, hf⟩ | hs
    · rw [hs]
      exact .silent hf
    · rw [hs, options]
      exact .starts hstarts hnamed rfl rfl count count options

theorem reads_continueWith {t : Token} (hs : ∀ kind id, ¬Starts b.options.trim line kind id)
    (hp : b.pending = some p) : Reads b line (b.nextLine.continueWith p t) := by
  unfold continueWith
  split
  · exact .continues hs hp rfl
  · dsimp only
    split
    · exact .here (.link _ _)
    · exact .continues hs hp rfl

theorem reads_feedText {text : List Char} (hc : counts (strip line.toList) = true)
    (hl : b.lineOf line =
      ⟨if ids (Marker.segments b.options.trim text) = [] then none else some .dialog,
        Marker.segments b.options.trim text⟩) : Reads b line (b.nextLine.feedText text) := by
  unfold feedText
  rcases b.nextLine.line?_or_scan text with ⟨f, hs, hf⟩ | hs
  · rw [hs]
    exact .silent hf
  have hoptions : b.nextLine.options = b.options := rfl
  rw [hs, hoptions]
  by_cases hids : ids (Marker.segments b.options.trim text) = []
  · have hid := hasId_ofSegments_eq_false hids
    simp only [hid, Bool.false_eq_true, if_false]
    have hcontinues : ∀ kind id, ¬Starts b.options.trim line kind id := by
      intro kind id h
      have hk := h.kind
      rw [lineOf] at hl
      rw [hl, if_pos hids] at hk
      cases hk
    cases hp : b.pending with
    | none =>
      have hp' : b.nextLine.pending = none := hp
      rw [hp']
      exact .here (.text _)
    | some p =>
      have hp' : b.nextLine.pending = some p := hp
      rw [hp']
      exact reads_continueWith hcontinues hp
  · have hid := hasId_ofSegments.2 hids
    simp only [hid, if_true]
    rw [if_neg hids] at hl
    have hstarts := starts_ofSegments hc hl rfl
    exact reads_andThen (k := fun b' => (none, b'.start .dialog _)) hstarts
      fun b' hnamed count options => .starts hstarts hnamed rfl rfl count count options

/-- **All that reading a line can do.** -/
theorem reads_feed (b : Builder) (line : String) : Reads b line (b.feed line) := by
  by_cases hc : counts (strip line.toList) = true
  · rcases b.feed_of_counts hc with ⟨text, hl, hfeed⟩ | ⟨text, hl, hfeed⟩
    · rw [hfeed]
      exact reads_feedDecision hc hl
    · rw [hfeed]
      exact reads_feedText hc hl
  · have hc : counts (strip line.toList) = false := Bool.eq_false_iff.2 hc
    rw [b.feed_of_not_counts hc]
    exact .skips hc

/-! ## What a builder knows -/

/-- The builder has read these lines: it counts them, it knows where what it gathers started, and
that nothing started behind it. All other entities that started have an id. -/
structure Tracks (b : Builder) (options : Script.Options) (known : List String) : Prop where
  same : b.options = options
  count : b.lineCount = known.length
  pending : ∀ p, b.pending = some p →
    StartsAt options.trim known b.startLine b.kind (p.id.getD "")
  last : ∀ n kind id, StartsAt options.trim known n kind id → b.pending.isSome ∧ n ≤ b.startLine
  nameless : ∀ n kind, StartsAt options.trim known n kind "" → n = b.startLine

theorem tracks_new (options : Script.Options) : (new options).Tracks options [] where
  same := rfl
  count := rfl
  pending p h := by cases h
  last n kind id h := absurd h.le_length (Nat.not_le.2 h.pos)
  nameless n kind h := absurd h.le_length (Nat.not_le.2 h.pos)

/-- What starts nothing is one line more. -/
theorem Tracks.concat (h : b.Tracks options known)
    (hline : ∀ kind id, ¬Starts options.trim line kind id) (hoptions : b'.options = b.options)
    (count : b'.lineCount = b.lineCount + 1) (kind : b'.kind = b.kind)
    (start : b'.startLine = b.startLine)
    (pending : Option.map Token.id b'.pending = Option.map Token.id b.pending) :
    b'.Tracks options (known ++ [line]) := by
  have hstarts : ∀ n kind id, StartsAt options.trim (known ++ [line]) n kind id ↔
      StartsAt options.trim known n kind id := by
    intro n kind id
    rw [Script.startsAt_concat_iff, or_iff_left]
    exact fun h => hline kind id h.2
  have hsome : b'.pending.isSome = b.pending.isSome := by
    rw [← Option.isSome_map (f := Token.id), pending, Option.isSome_map]
  refine ⟨hoptions.trans h.same, ?_, ?_, ?_, ?_⟩
  · rw [count, h.count, List.length_append, List.length_singleton]
  · intro q hq
    rw [hq] at pending
    obtain ⟨p, hp, hid⟩ := Option.map_eq_some_iff.1 pending.symm
    rw [hstarts, start, kind, ← hid]
    exact h.pending p hp
  · intro n kind id hn
    rw [hsome, start]
    exact h.last n kind id ((hstarts n kind id).1 hn)
  · intro n kind hn
    rw [start]
    exact h.nameless n kind ((hstarts n kind "").1 hn)

/-- If what is gathered has an id, all entities have one. -/
theorem Tracks.named (h : b.Tracks options known) (hnamed : b.Named) (n : ℕ) (kind : EntityKind) :
    ¬StartsAt options.trim known n kind "" := by
  intro hn
  obtain ⟨p, hp⟩ := Option.isSome_iff_exists.1 (h.last n kind "" hn).1
  obtain rfl := h.nameless n kind hn
  exact hnamed p hp (hn.unique (h.pending p hp)).2.symm

/-- **A line that is read is kept track of.** -/
theorem Tracks.feed (h : b.Tracks options known) (hr : b.feed line = (none, b')) :
    b'.Tracks options (known ++ [line]) := by
  have hreads := b.reads_feed line
  rw [hr] at hreads
  cases hreads with
  | skips hc =>
    have hline : ∀ kind id, ¬Starts options.trim line kind id := by
      intro kind id hs
      rw [hs.counts] at hc
      cases hc
    exact h.concat hline rfl rfl rfl rfl rfl
  | @continues p q hs hp hq =>
    rw [h.same] at hs
    refine h.concat hs rfl rfl rfl rfl ?_
    rw [hp, Option.map_some, Option.map_some, hq]
  | @starts _ p kind hs hnamed pending hkind start count hoptions =>
    have hlength : b'.startLine = known.length + 1 := by rw [start, h.count]
    rw [h.same] at hs
    refine ⟨hoptions.trans h.same, ?_, ?_, ?_, ?_⟩
    · rw [count, h.count, List.length_append, List.length_singleton]
    · intro q hq
      obtain rfl := Option.some.inj (pending.symm.trans hq)
      rw [hkind, Script.startsAt_concat_iff]
      exact .inr ⟨hlength, hs⟩
    · intro n kind id hn
      have hle := hn.le_length
      rw [List.length_append, List.length_singleton] at hle
      rw [pending, hlength]
      exact ⟨rfl, hle⟩
    · intro n kind hn
      rw [Script.startsAt_concat_iff] at hn
      rcases hn with hn | ⟨hn, -⟩
      · exact absurd hn (h.named hnamed n kind)
      · rw [hlength, hn]

/-- **Lines that are read are kept track of.** -/
theorem Tracks.feedAll (h : b.Tracks options known) (hr : b.feedAll script = (none, b')) :
    b'.Tracks options (known ++ script) := by
  induction script generalizing b known with
  | nil =>
    obtain rfl := (Prod.mk.inj hr).2
    rwa [List.append_nil]
  | cons line script ih =>
    rw [Builder.feedAll] at hr
    rcases hf : b.feed line with ⟨_ | f, c⟩
    · rw [hf] at hr
      have := ih (h.feed hf) hr
      rwa [List.append_assoc, List.singleton_append] at this
    · rw [hf] at hr
      cases hr

/-- What is gathered without an id is the first entity without one. -/
theorem Tracks.firstNameless (h : b.Tracks options known) (hp : b.pending = some p)
    (hid : p.id.getD "" = "") (more : List String) :
    FirstNameless options.trim (known ++ more) b.startLine b.kind := by
  have hs := h.pending p hp
  rw [hid] at hs
  refine ⟨(Script.startsAt_append_iff more hs.le_length).2 hs, ?_⟩
  intro m hm kind' hm'
  have hle := Nat.le_trans hm.le hs.le_length
  have := h.nameless m kind' ((Script.startsAt_append_iff more hle).1 hm')
  omega

/-! ## Where the reading stops -/

theorem feedAll_concat (b : Builder) (known : List String) (line : String) :
    b.feedAll (known ++ [line]) = andThen (b.feedAll known) fun c => c.feed line := by
  induction known generalizing b with
  | nil =>
    show b.feedAll [line] = b.feed line
    rw [feedAll]
    rcases b.feed line with ⟨_ | f, c⟩ <;> rfl
  | cons first known ih =>
    rw [List.cons_append, feedAll, feedAll]
    rcases b.feed first with ⟨_ | f, c⟩
    · exact ih c
    · rfl

/-- A failure among some lines comes at one of them, and the lines before it are read. -/
theorem exists_of_feedAll (h : b.feedAll script = (some f, b')) :
    ∃ before line after c, script = before ++ line :: after ∧ b.feedAll before = (none, c) ∧
      c.feed line = (some f, b') := by
  induction script generalizing b with
  | nil => cases h
  | cons line script ih =>
    rw [feedAll] at h
    rcases hf : b.feed line with ⟨_ | g, c⟩
    · rw [hf] at h
      obtain ⟨before, line', after, c', rfl, hbefore, hfeed⟩ := ih h
      refine ⟨line :: before, line', after, c', rfl, ?_, hfeed⟩
      rw [feedAll, hf]
      exact hbefore
    · rw [hf] at h
      obtain ⟨hg, rfl⟩ := Prod.mk.inj h
      obtain rfl := Option.some.inj hg
      exact ⟨[], line, script, b, rfl, rfl, hf⟩

end Builder

namespace Script

variable {options : Options} {script : List String} {f : Failure}

/-- The lines that a failure tells are the ones that it is about. -/
structure Tells (options : Options) (script : List String) (f : Failure) : Prop where
  nameless : ∀ kind n t, f.fault = .missingId kind n t →
    FirstNameless options.trim script n kind ∧ FailsBehind options script n f
  here : ∀ n, f.fault.Here n → FailsAt options script n f

theorem Tells.of_line?_eq_none (h : f.fault.line? = none) : Tells options script f where
  nameless kind n t hf := by
    rw [hf] at h
    cases h
  here n hn := by
    generalize f.fault = fault at h hn
    cases hn <;> cases h

theorem Tells.of_here {n : ℕ} (hf : f.fault.Here n) (h : FailsAt options script n f) :
    Tells options script f where
  nameless kind m t hm := by
    rw [hm] at hf
    cases hf
  here m hm := by
    obtain rfl : n = m := by
      generalize f.fault = fault at hf hm
      cases hf <;> cases hm <;> rfl
    exact h

theorem Tells.of_missingId {kind : EntityKind} {n : ℕ} {t : Token}
    (hf : f.fault = .missingId kind n t) (first : FirstNameless options.trim script n kind)
    (behind : FailsBehind options script n f) : Tells options script f where
  nameless kind' m t' hm := by
    obtain ⟨rfl, rfl, -⟩ := Fault.missingId.inj (hf.symm.trans hm)
    exact ⟨first, behind⟩
  here m hm := by
    rw [hf] at hm
    cases hm

theorem tells_of_feedAll {b : Builder} (h : (Builder.new options).feedAll script = (some f, b)) :
    Tells options script f := by
  obtain ⟨before, line, after, c, rfl, hbefore, hfeed⟩ := Builder.exists_of_feedAll h
  have htracks := (Builder.tracks_new options).feedAll hbefore
  rw [List.nil_append] at htracks
  have hfails : FailsAt options (before ++ line :: after) (before.length + 1) f := by
    refine ⟨before, line, after, rfl, rfl, ?_, ?_⟩
    · rw [hbefore]
    · rw [Builder.feedAll_concat, hbefore]
      show (c.feed line).1 = some f
      rw [hfeed]
  have hreads := c.reads_feed line
  rw [hfeed] at hreads
  cases hreads with
  | silent hf => exact .of_line?_eq_none hf
  | here hf =>
    rw [htracks.count] at hf
    exact .of_here hf hfails
  | @nameless _ _ p kind id hs hp hid hf =>
    rw [htracks.same] at hs
    refine .of_missingId hf (htracks.firstNameless hp hid _) ?_
    have hstart := (htracks.pending p hp).le_length
    refine .next (by omega) hfails ⟨before.length, line, rfl, by simp, hs⟩ ?_
    -- nothing started behind what was gathered when the failing line was read
    intro k kind' id' hk hkm hs'
    have hle : k ≤ before.length := by omega
    have := (htracks.last k kind' id' ((startsAt_append_iff (line :: after) hle).1 hs')).2
    omega

theorem tells_of_finish {b : Builder} (h : (Builder.new options).feedAll script = (none, b))
    (hf : b.finish.1 = .error f) : Tells options script f := by
  have htracks := (Builder.tracks_new options).feedAll h
  rw [List.nil_append] at htracks
  have hflush := Builder.flushes_flush b
  unfold Builder.finish at hf
  generalize b.flush = r at hflush hf
  cases hflush with
  | named =>
    dsimp only at hf
    split at hf
    · obtain rfl := Except.error.inj hf
      exact .of_line?_eq_none rfl
    · cases hf
  | silent hs =>
    obtain rfl := Except.error.inj hf
    exact .of_line?_eq_none hs
  | @nameless g _ p hp hid hg =>
    obtain rfl := Except.error.inj hf
    have hfirst := htracks.firstNameless hp hid []
    rw [List.append_nil] at hfirst
    apply Tells.of_missingId hg hfirst
    refine .finish (by rw [h]) ?_
    intro k kind id hk hs
    have := (htracks.last k kind id hs).2
    omega

/-- **The lines that failures tell are right.** A failure for a missing id tells the first line that
starts an entity without an id, and the kind of this entity; it comes only at the next line that
starts something, or at the end. The failures for decisions before any dialog, for text outside of
any dialog and for a second link in a continuation tell the line that was read last. -/
theorem told_lines_are_right (h : parse options script = .error f) :
    (∀ kind n t, f.fault = .missingId kind n t →
      f.message = "missing id for " ++ kind.word ++ " at line " ++ toString n ∧
        FirstNameless options.trim script n kind ∧ FailsBehind options script n f) ∧
    (∀ n, f.fault = .decisionBeforeDialog n →
      f.message = "decision before any dialog at line " ++ toString n ∧
        FailsAt options script n f) ∧
    (∀ n t, f.fault = .textOutsideDialog n t →
      f.message = "text outside of any dialog at line " ++ toString n ∧
        FailsAt options script n f) ∧
    ∀ value n t, f.fault = .secondLinkOnLine value n t →
      f.message = "found another link within token: " ++ value ++ " (line " ++ toString n ++ ")" ∧
        FailsAt options script n f := by
  have htells : Tells options script f := by
    unfold parse at h
    split at h
    · rename_i hfeed
      obtain rfl := Except.error.inj h
      exact tells_of_feedAll hfeed
    · rename_i b hfeed
      exact tells_of_finish hfeed h
  have hmessage : f.fault.details = [] → f.message = f.fault.headline := by
    intro hdetails
    rw [Failure.message, hdetails, layOut_eq, List.map_nil, String.join_nil, String.append_empty]
  refine ⟨?_, ?_, ?_, ?_⟩
  · intro kind n t hf
    rw [hf] at hmessage
    exact ⟨hmessage rfl, htells.nameless kind n t hf⟩
  · intro n hf
    rw [hf] at hmessage
    exact ⟨hmessage rfl, htells.here n (hf ▸ .decision)⟩
  · intro n t hf
    rw [hf] at hmessage
    exact ⟨hmessage rfl, htells.here n (hf ▸ .text t)⟩
  · intro value n t hf
    rw [hf] at hmessage
    exact ⟨hmessage rfl, htells.here n (hf ▸ .link value t)⟩

theorem second_line_is_told :
    (∃ f, parse {} ["$[a] One.", "> Go.", "", "# note", "on.", "$[b] Two."] = .error f ∧
      f.message = "missing id for decision at line 2" ∧
      FirstNameless true ["$[a] One.", "> Go.", "", "# note", "on.", "$[b] Two."] 2 .decision) ∧
    ∃ f, parse {} ["# note", "> Go.", "$[a] One."] = .error f ∧
      f.message = "decision before any dialog at line 2" ∧
      FailsAt {} ["# note", "> Go.", "$[a] One."] 2 f := by
  have hlate : parse {} ["$[a] One.", "> Go.", "", "# note", "on.", "$[b] Two."] =
      .error (Console.fail {} (.missingId .decision 2 { text := "Go.\non." })) := by
    decide +kernel
  have hearly : parse {} ["# note", "> Go.", "$[a] One."] =
      .error (Console.fail {} (.decisionBeforeDialog 2)) := by
    decide +kernel
  obtain ⟨hmessage, hfirst, -⟩ := (told_lines_are_right hlate).1 .decision 2 _ rfl
  obtain ⟨hmessage', hfails⟩ := (told_lines_are_right hearly).2.1 2 rfl
  exact ⟨⟨_, hlate, hmessage, hfirst⟩, _, hearly, hmessage', hfails⟩

end Script

end Plotline
