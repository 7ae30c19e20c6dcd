import Plotline.Proofs.Script.Draft

/-!
# One line of a script

What a builder does with one line, in terms of the outline. A line that does not count changes
nothing. Between two lines `Builder.Gathers` holds: the complete part stands for some chapters, and
the token is that of the group being gathered. A line that starts something completes that group and
begins the next one (`feed_start`), any other line is added to it (`feed_continue`); the very first
line has to start a dialog (`feed_first`). Each of these says exactly when the line is refused.
-/

namespace Plotline

open Marker (Token ids)
open Script (Line Group Chapter Distinct addGroup counts linesOf groups)
open Text (strip)

namespace Builder

variable {b : Builder} {g : Group} {cs : List Chapter} {line : String}

/-- Some chapters are complete, and a group is being gathered. -/
structure Gathers (b : Builder) (cs : List Chapter) (g : Group) : Prop where
  drafts : b.Drafts cs
  pending : b.pending = some g.token
  kind : g.head.starts = some b.kind
  first : cs = [] → g.isDialog = true
  links : g.links.length ≤ 1

/-- The line as the outline reads it. -/
def lineOf (b : Builder) (line : String) : Line := .ofText b.options.trim (strip line.toList)

/-- The builder at the next line. -/
def nextLine (b : Builder) : Builder := { b with lineCount := b.lineCount + 1 }

theorem Drafts.nextLine (hd : b.Drafts cs) : b.nextLine.Drafts cs :=
  ⟨hd.current, hd.count, hd.tree⟩

theorem Gathers.nextLine (h : b.Gathers cs g) : b.nextLine.Gathers cs g :=
  ⟨h.drafts.nextLine, h.pending, h.kind, h.first, h.links⟩

theorem feed_eq (b : Builder) (line : String) :
    b.feed line =
      match strip line.toList with
      | [] => (none, b.nextLine)
      | c :: rest =>
        if c = '#' then (none, b.nextLine)
        else if c = '>' then b.nextLine.feedDecision rest
        else b.nextLine.feedText (c :: rest) := rfl

theorem feed_of_not_counts (b : Builder) (h : counts (strip line.toList) = false) :
    b.feed line = (none, b.nextLine) := by
  rw [feed_eq]
  cases hs : strip line.toList with
  | nil => rfl
  | cons c rest =>
    rw [hs] at h
    have hc : c = '#' := by simpa [counts] using h
    exact if_pos hc

/-- A line that counts starts a decision, or its ids tell what it starts. -/
theorem feed_of_counts (b : Builder) (h : counts (strip line.toList) = true) :
    (∃ text, b.lineOf line =
          ⟨some .decision, Marker.segments b.options.trim (text.dropWhile (· = ' '))⟩ ∧
        b.feed line = b.nextLine.feedDecision text) ∨
      ∃ text, b.lineOf line =
          ⟨if ids (Marker.segments b.options.trim text) = [] then none else some .dialog,
            Marker.segments b.options.trim text⟩ ∧
        b.feed line = b.nextLine.feedText text := by
  rw [feed_eq, lineOf]
  cases hs : strip line.toList with
  | nil => simp [hs, counts] at h
  | cons c rest =>
    have hc : c ≠ '#' := by simpa [hs, counts] using h
    by_cases hd : c = '>'
    · exact .inl ⟨rest, by simp [Line.ofText, hd], by simp [hd]⟩
    · exact .inr ⟨c :: rest, by simp [Line.ofText, hd], by simp [hc, hd]⟩

/-- A line scans to its token, or does not scan. -/
theorem scan_line (b : Builder) (l : Line) {text : List Char}
    (h : l.segments = Marker.segments b.options.trim text) :
    (∃ f, b.scan text = .error f ∧ ¬l.Scans) ∨
      b.scan text = .ok (.ofSegments l.segments) ∧ l.Scans := by
  unfold scan
  cases hs : ({} : Token).scan b.options.trim text with
  | error f =>
    refine .inl ⟨b.fail f, rfl, fun hl => ?_⟩
    rw [Line.Scans, h] at hl
    have := Token.scan_eq_ok_iff.2 ⟨hl, rfl⟩
    rw [hs] at this
    cases this
  | ok t =>
    obtain ⟨hl, rfl⟩ := Token.scan_eq_ok_iff.1 hs
    rw [h]
    exact .inr ⟨rfl, by rw [Line.Scans, h]; exact hl⟩

theorem hasId_ofSegments {segs : List Marker.Segment} :
    (Token.ofSegments segs).hasId = true ↔ ids segs ≠ [] := by
  simp [Token.ofSegments, Token.hasId]

theorem hasId_ofSegments_eq_false {segs : List Marker.Segment} (h : ids segs = []) :
    (Token.ofSegments segs).hasId = false := by
  rw [Bool.eq_false_iff, ne_eq, hasId_ofSegments, not_not]
  exact h

theorem feedDecision_eq (b : Builder) (text : List Char) :
    b.feedDecision text = andThen b.flush fun b =>
      if b.current.isNone then (some (b.fail (.decisionBeforeDialog b.lineCount)), b)
      else
        match b.scan (text.dropWhile (· = ' ')) with
        | .error f => (some f, b)
        | .ok t => (none, b.start .decision t) := rfl

/-- A started group is gathered. -/
theorem Drafts.gathers_start {kind : EntityKind} {l : Line} (hd : b.Drafts cs) (hl : l.Scans)
    (hk : l.starts = some kind) (hc : cs = [] → kind = .dialog) :
    (b.start kind (.ofSegments l.segments)).Gathers cs (.start l) where
  drafts := ⟨hd.current, hd.count, hd.tree⟩
  pending := by simp [Builder.start, Group.token, Group.start, Token.ofSegments, Group.link,
    Group.links, Group.lines]
  kind := hk
  first e := by simp [Group.isDialog, Group.start, hk, hc e]
  links := by simpa [Group.start, Group.links, Group.lines] using hl.2

/-- A line that starts something completes the group before it. -/
theorem feed_start (h : b.Gathers cs g) (hc : counts (strip line.toList) = true)
    (hs : (b.lineOf line).starts.isSome) :
    GoesThrough (b.feed line)
      ((b.lineOf line).Scans ∧ g.id ≠ "" ∧ Distinct (addGroup cs g)) fun b' =>
        b'.options = b.options ∧ b'.Gathers (addGroup cs g) (.start (b.lineOf line)) := by
  have hflush := flush_group h.nextLine.drafts h.pending h.kind h.first
  have hne : addGroup cs g ≠ [] := Script.addGroup_ne_nil h.first
  rcases b.feed_of_counts hc with ⟨text, hl, hfeed⟩ | ⟨text, hl, hfeed⟩
  · rw [hfeed, feedDecision_eq]
    refine GoesThrough.imp (hflush.andThen fun b' hb' => ?_) and_comm fun _ _ h' => h'
    obtain ⟨hd, hopt, -⟩ := hb'
    have hopt : b'.options = b.options := hopt
    have hcur : b'.current.isNone = false := by
      rw [hd.current]
      simp [hne]
    simp only [hcur, Bool.false_eq_true, if_false]
    rcases b'.scan_line (b.lineOf line) (by rw [hl, hopt]) with ⟨f, hscan, hbad⟩ | ⟨hscan, hgood⟩
    · rw [hscan]
      exact hbad
    · rw [hscan]
      exact ⟨hgood, hopt, hd.gathers_start hgood (by rw [hl]) fun e => absurd e hne⟩
  · have hids : ids (Marker.segments b.options.trim text) ≠ [] := fun e => by simp [hl, e] at hs
    rw [hfeed]
    unfold feedText
    rcases b.nextLine.scan_line (b.lineOf line) (by rw [hl]; rfl) with
      ⟨f, hscan, hbad⟩ | ⟨hscan, hgood⟩
    · rw [hscan]
      exact fun h' => hbad h'.1
    · rw [hscan]
      have hid : (Token.ofSegments (b.lineOf line).segments).hasId = true := by
        rw [hasId_ofSegments, hl]
        exact hids
      simp only [hid, if_true]
      refine GoesThrough.imp (hflush.andThen
        (k := fun b' => (none, b'.start .dialog (.ofSegments (b.lineOf line).segments)))
        fun b' hb' => ?_) and_comm fun _ _ h' => h'
      obtain ⟨hd, hopt, -⟩ := hb'
      exact ⟨hgood, hopt, hd.gathers_start hgood (by rw [hl]; exact if_neg hids) fun e => rfl⟩

/-- Any other line continues the group. -/
theorem feed_continue (h : b.Gathers cs g) (hc : counts (strip line.toList) = true)
    (hs : (b.lineOf line).starts = none) :
    GoesThrough (b.feed line)
      ((b.lineOf line).Scans ∧ (g.concat (b.lineOf line)).links.length ≤ 1) fun b' =>
        b'.options = b.options ∧ b'.Gathers cs (g.concat (b.lineOf line)) := by
  rcases b.feed_of_counts hc with ⟨text, hl, hfeed⟩ | ⟨text, hl, hfeed⟩
  · simp [hl] at hs
  have hids : ids (Marker.segments b.options.trim text) = [] := by simpa [hl] using hs
  rw [hfeed]
  unfold feedText
  rcases b.nextLine.scan_line (b.lineOf line) (by rw [hl]; rfl) with
    ⟨f, hscan, hbad⟩ | ⟨hscan, hgood⟩
  · rw [hscan]
    exact fun h' => hbad h'.1
  · rw [hscan]
    have hid : (Token.ofSegments (b.lineOf line).segments).hasId = false :=
      hasId_ofSegments_eq_false (by rw [hl]; exact hids)
    have hp : b.nextLine.pending = some g.token := h.pending
    simp only [hid, hp, Bool.false_eq_true, if_false]
    refine (b.nextLine.continueWith_group hgood h.links).imp
      ⟨fun h' => ⟨hgood, h'⟩, fun h' => h'.2⟩ fun b' hlinks hb' => ?_
    subst hb'
    have hdrafts := h.nextLine.drafts
    exact ⟨rfl, ⟨hdrafts.current, hdrafts.count, hdrafts.tree⟩, rfl, h.kind, h.first, hlinks⟩

/-- The first line that counts has to start a dialog. -/
theorem feed_first (hd : b.Drafts []) (hp : b.pending = none)
    (hc : counts (strip line.toList) = true) :
    GoesThrough (b.feed line) ((b.lineOf line).Scans ∧ (b.lineOf line).starts = some .dialog)
      fun b' => b'.options = b.options ∧ b'.Gathers [] (.start (b.lineOf line)) := by
  have hp' : b.nextLine.pending = none := hp
  have hflush : b.nextLine.flush = (none, b.nextLine) := by simp [flush, hp']
  have hd' := hd.nextLine
  rcases b.feed_of_counts hc with ⟨text, hl, hfeed⟩ | ⟨text, hl, hfeed⟩
  · have hcur : b.nextLine.current.isNone = true := by
      rw [hd'.current]
      rfl
    rw [hfeed, feedDecision_eq, hflush]
    simp only [andThen, hcur, if_true]
    exact fun h' => by simp [hl] at h'
  rw [hfeed]
  unfold feedText
  rcases b.nextLine.scan_line (b.lineOf line) (by rw [hl]; rfl) with
    ⟨f, hscan, hbad⟩ | ⟨hscan, hgood⟩
  · rw [hscan]
    exact fun h' => hbad h'.1
  rw [hscan]
  by_cases hids : ids (Marker.segments b.options.trim text) = []
  · have hid : (Token.ofSegments (b.lineOf line).segments).hasId = false :=
      hasId_ofSegments_eq_false (by rw [hl]; exact hids)
    simp only [hid, hp', Bool.false_eq_true, if_false]
    exact fun h' => by simp [hl, hids] at h'
  · have hid : (Token.ofSegments (b.lineOf line).segments).hasId = true := by
      rw [hasId_ofSegments, hl]
      exact hids
    have hstarts : (b.lineOf line).starts = some .dialog := by
      rw [hl]
      exact if_neg hids
    simp only [hid, hflush, if_true]
    exact ⟨⟨hgood, hstarts⟩, rfl, hd'.gathers_start hgood hstarts fun _ => rfl⟩

end Builder

end Plotline
