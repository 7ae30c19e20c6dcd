import Plotline.Proofs.Script.Feed

/-!
# Parsing follows the outline

A builder sees a script line by line and completes an entity only when the next one starts or the
script ends. Its answer is nevertheless the one that the outline of the whole script gives: a tree
comes out exactly if the outline is well formed, and it is the tree that the outline describes
(`parse_yields`, `parse_follows_outline`).

Both come from `Builder.complete_gathers`: from any group on, the rest of a script is decided by the
groups that are still to be completed (`Builder.Acceptable`).
-/

namespace Plotline

open Marker (Token ids)
open Script (Line Group Chapter Distinct addGroup counts linesOf groups Outline)
open Text (strip)

/-! ## Groups from a group on -/

namespace Script.Group

/-- The groups of a group that is not complete and the lines behind it. -/
def extend (g : Group) (ls : List Line) : List Group :=
  ⟨g.head, g.rest ++ (passages (·.starts.isSome) ls).1⟩ :: groups ls

theorem extend_nil (g : Group) : g.extend [] = [g] := by
  simp [extend, passages, groups]

theorem extend_of_continues (g : Group) {l : Line} (ls : List Line) (h : l.starts = none) :
    g.extend (l :: ls) = (g.concat l).extend ls := by
  simp [extend, passages, groups, concat, h]

theorem groups_of_starts {l : Line} (ls : List Line) (h : l.starts.isSome) :
    groups (l :: ls) = (start l).extend ls := by
  simp [extend, passages, groups, start, h]

theorem extend_of_starts (g : Group) {l : Line} (ls : List Line) (h : l.starts.isSome) :
    g.extend (l :: ls) = g :: (start l).extend ls := by
  simp [extend, passages, groups, start, h]

end Script.Group

namespace Builder

variable {b : Builder} {g : Group} {cs : List Chapter} {line : String}

/-! ## The rest of a script -/

/-- Reads the rest of a script and finishes. -/
def complete (b : Builder) (script : List String) : Except Failure (Tree × List Posting) :=
  match b.feedAll script with
  | (some f, _) => .error f
  | (none, b) => b.finish.1

/-- A tree comes out exactly if `ok` holds, and then it has `post`, together with the notices. -/
def Yields (r : Except Failure (Tree × List Posting)) (ok : Prop)
    (post : Tree → List Posting → Prop) : Prop :=
  match r with
  | .ok (t, notices) => ok ∧ post t notices
  | .error _ => ¬ok

theorem Yields.imp {r : Except Failure (Tree × List Posting)} {ok ok' : Prop}
    {post post' : Tree → List Posting → Prop} (h : Yields r ok post) (hok : ok ↔ ok')
    (hpost : ∀ t n, ok → post t n → post' t n) : Yields r ok' post' := by
  obtain f | ⟨t, n⟩ := r
  · exact fun h' => h (hok.2 h')
  · exact ⟨hok.1 h.1, hpost t n h.1 h.2⟩

theorem complete_cons (b : Builder) (line : String) (script : List String) :
    b.complete (line :: script) =
      match b.feed line with
      | (some f, _) => .error f
      | (none, b) => b.complete script := by
  unfold complete
  rw [feedAll]
  cases b.feed line with
  | mk f b' => cases f <;> rfl

/-- A failure among the first lines is that of the whole script. -/
theorem complete_of_feedAll {b c : Builder} {f : Failure} {known script : List String}
    (h : b.feedAll known = (some f, c)) (hknown : known <+: script) :
    b.complete script = .error f := by
  obtain ⟨more, rfl⟩ := hknown
  induction known generalizing b with
  | nil => cases h
  | cons line known ih =>
    rw [feedAll] at h
    rw [List.cons_append, complete_cons]
    revert h
    rcases b.feed line with ⟨_ | g, b'⟩
    · exact fun h => ih h
    · rintro h
      cases h
      rfl

/-- A line that goes through and a rest that yields a tree. -/
theorem GoesThrough.complete {script : List String} {ok ok' : Prop} {mid : Builder → Prop}
    {post : Tree → List Posting → Prop} (h : GoesThrough (b.feed line) ok mid)
    (hrest : ∀ b', mid b' → Yields (b'.complete script) ok' post) :
    Yields (b.complete (line :: script)) (ok ∧ ok') post := by
  rw [complete_cons]
  revert h
  cases b.feed line with
  | mk f b' =>
    cases f with
    | some f => exact fun h h' => h h'.1
    | none =>
      intro h
      exact (hrest b' h.2).imp ⟨fun h' => ⟨h.1, h'⟩, fun h' => h'.2⟩ fun _ _ _ h' => h'

/-- The tree and the notices that a builder with these chapters hands out. -/
def Result (options : Script.Options) (cs : List Chapter) (t : Tree) (notices : List Posting) :
    Prop :=
  Script.Describes options cs t ∧
    ∃ b : Builder, b.options = options ∧ b.decisionCount = (cs.flatMap (·.rest)).length ∧
      notices = b.notices t

/-- Finishing completes the last group. -/
theorem finish_gathers (h : b.Gathers cs g) :
    Yields b.finish.1 (g.id ≠ "" ∧ Distinct (addGroup cs g))
      (Result b.options (addGroup cs g)) := by
  have hflush := flush_group h.drafts h.pending h.kind h.first
  unfold finish
  revert hflush
  cases b.flush with
  | mk f b' =>
    cases f with
    | some f => exact fun hf => hf
    | none =>
      rintro ⟨hok, hd, hopt, -⟩
      have htree := hd.tree
      cases ht : b'.tree with
      | none =>
        rw [ht] at htree
        exact absurd htree (Script.addGroup_ne_nil h.first)
      | some t =>
        rw [ht] at htree
        simp only [ht]
        exact ⟨hok, hopt ▸ htree.2, b', hopt, hd.count, rfl⟩

/-- What the groups have to fulfil that are not complete yet. -/
def Acceptable (cs : List Chapter) (ls : List Line) (gs : List Group) : Prop :=
  (∀ l ∈ ls, l.Scans) ∧ (∀ g ∈ gs, g.id ≠ "" ∧ g.links.length ≤ 1) ∧ Distinct (gs.foldl addGroup cs)

theorem linesOf_cons_of_not_counts (trim : Bool) (script : List String)
    (h : counts (strip line.toList) = false) :
    linesOf trim (line :: script) = linesOf trim script := by
  simp [linesOf, h]

theorem linesOf_cons_of_counts (b : Builder) (script : List String)
    (h : counts (strip line.toList) = true) :
    linesOf b.options.trim (line :: script) = b.lineOf line :: linesOf b.options.trim script := by
  simp [linesOf, h, lineOf]

theorem acceptable_continue {l : Line} {ls : List Line} :
    (l.Scans ∧ (g.concat l).links.length ≤ 1) ∧ Acceptable cs ls ((g.concat l).extend ls) ↔
      Acceptable cs (l :: ls) ((g.concat l).extend ls) := by
  constructor
  · rintro ⟨⟨hl, -⟩, hls, hgs, hd⟩
    exact ⟨List.forall_mem_cons.2 ⟨hl, hls⟩, hgs, hd⟩
  · rintro ⟨hls, hgs, hd⟩
    obtain ⟨hl, hls⟩ := List.forall_mem_cons.1 hls
    have hlinks := (hgs _ List.mem_cons_self).2
    have hle := Nat.le_trans ((g.concat l).length_links_le _) hlinks
    exact ⟨⟨hl, hle⟩, hls, hgs, hd⟩

theorem acceptable_start {l : Line} {ls : List Line} (h : b.Gathers cs g) :
    (l.Scans ∧ g.id ≠ "" ∧ Distinct (addGroup cs g)) ∧
        Acceptable (addGroup cs g) ls ((Group.start l).extend ls) ↔
      Acceptable cs (l :: ls) (g :: (Group.start l).extend ls) := by
  constructor
  · rintro ⟨⟨hl, hid, -⟩, hls, hgs, hd⟩
    exact ⟨List.forall_mem_cons.2 ⟨hl, hls⟩, List.forall_mem_cons.2 ⟨⟨hid, h.links⟩, hgs⟩, hd⟩
  · rintro ⟨hls, hgs, hd⟩
    obtain ⟨hl, hls⟩ := List.forall_mem_cons.1 hls
    obtain ⟨hg, hgs⟩ := List.forall_mem_cons.1 hgs
    have hd' : Distinct (addGroup cs g) :=
      Distinct.of_foldl_addGroup hd (Script.addGroup_ne_nil h.first)
    exact ⟨⟨hl, hg.1, hd'⟩, hls, hgs, hd⟩

/-- **From a group on, a builder follows the outline of the rest.** -/
theorem complete_gathers (script : List String) (h : b.Gathers cs g) :
    Yields (b.complete script)
      (Acceptable cs (linesOf b.options.trim script) (g.extend (linesOf b.options.trim script)))
      (Result b.options ((g.extend (linesOf b.options.trim script)).foldl addGroup cs)) := by
  induction script generalizing b cs g with
  | nil =>
    have hls : linesOf b.options.trim [] = [] := rfl
    rw [hls, Group.extend_nil]
    refine (finish_gathers h).imp ?_ fun _ _ _ h' => h'
    simp [Acceptable, h.links]
  | cons line script ih =>
    by_cases hc : counts (strip line.toList) = true
    · rw [linesOf_cons_of_counts b script hc]
      cases hs : (b.lineOf line).starts with
      | none =>
        rw [Group.extend_of_continues _ _ hs]
        refine ((feed_continue h hc hs).complete fun b' hb' => ?_).imp acceptable_continue
          fun _ _ _ h' => h'
        rw [← hb'.1]
        exact ih hb'.2
      | some kind =>
        have hs : (b.lineOf line).starts.isSome := by rw [hs]; rfl
        rw [Group.extend_of_starts _ _ hs]
        refine ((feed_start h hc hs).complete fun b' hb' => ?_).imp (acceptable_start h)
          fun _ _ _ h' => h'
        rw [← hb'.1]
        exact ih hb'.2
    · have hc : counts (strip line.toList) = false := Bool.eq_false_iff.2 hc
      rw [linesOf_cons_of_not_counts _ script hc, complete_cons, b.feed_of_not_counts hc]
      exact ih h.nextLine

theorem chapters_extend {ls : List Line} (hg : g.isDialog = true) :
    Script.chapters (g.extend ls) = (g.extend ls).foldl addGroup [] :=
  Script.chapters_eq_foldl _ hg

/-- Before the first line, a builder follows the outline of the whole script. -/
theorem complete_fresh (script : List String) (hd : b.Drafts []) (hp : b.pending = none) :
    Yields (b.complete script)
      (∃ l rest, linesOf b.options.trim script = l :: rest ∧ (l.Scans ∧ l.starts = some .dialog) ∧
        Acceptable [] rest ((Group.start l).extend rest))
      (Result b.options (Script.chapters (groups (linesOf b.options.trim script)))) := by
  induction script generalizing b with
  | nil =>
    have htree := hd.tree
    cases ht : b.tree with
    | some t =>
      rw [ht] at htree
      exact absurd rfl htree.1
    | none =>
      simp only [complete, feedAll, finish, flush, hp, ht]
      rintro ⟨l, rest, hl, -⟩
      cases hl
  | cons line script ih =>
    by_cases hc : counts (strip line.toList) = true
    · rw [linesOf_cons_of_counts b script hc]
      set ls := linesOf b.options.trim script with hls
      have hrest : ∀ b' : Builder, b'.options = b.options ∧ b'.Gathers [] (.start (b.lineOf line)) →
          Yields (b'.complete script) (Acceptable [] ls ((Group.start (b.lineOf line)).extend ls))
            (Result b.options (((Group.start (b.lineOf line)).extend ls).foldl addGroup [])) := by
        rintro b' ⟨hopt, hg⟩
        rw [hls, ← hopt]
        exact complete_gathers script hg
      refine ((feed_first hd hp hc).complete hrest).imp ?_ ?_
      · constructor
        · exact fun h => ⟨_, _, rfl, h⟩
        · rintro ⟨l, rest, e, h⟩
          obtain ⟨rfl, rfl⟩ := List.cons.inj e
          exact h
      · rintro t notices ⟨⟨-, hs⟩, -⟩ h
        have hg : (Group.start (b.lineOf line)).isDialog = true := by
          simp [Group.isDialog, Group.start, hs]
        rw [Group.groups_of_starts _ (by simp [hs]), chapters_extend hg]
        exact h
    · have hc : counts (strip line.toList) = false := Bool.eq_false_iff.2 hc
      rw [linesOf_cons_of_not_counts _ script hc, complete_cons, b.feed_of_not_counts hc]
      exact ih hd.nextLine hp

end Builder

/-! ## Whole scripts -/

namespace Script

/-- Passages are made of the items of the list, and so is what comes before the first of them. -/
theorem mem_of_mem_passages {α : Type} {opens : α → Bool} {l : List α} :
    (∀ a ∈ (passages opens l).1, a ∈ l) ∧
      ∀ p ∈ (passages opens l).2, ∀ a ∈ p.head :: p.rest, a ∈ l := by
  induction l with
  | nil => exact ⟨fun _ ha => ha, fun _ hp => absurd hp List.not_mem_nil⟩
  | cons a l ih =>
    obtain ⟨hlead, hparts⟩ := ih
    have hlead' : ∀ b ∈ a :: (passages opens l).1, b ∈ a :: l := fun b hb =>
      (List.mem_cons.1 hb).elim (· ▸ List.mem_cons_self) fun hb =>
        List.mem_cons_of_mem _ (hlead b hb)
    have hparts' : ∀ p ∈ (passages opens l).2, ∀ b ∈ p.head :: p.rest, b ∈ a :: l :=
      fun p hp b hb => List.mem_cons_of_mem _ (hparts p hp b hb)
    cases ho : opens a with
    | true =>
      simp only [passages, ho, if_true]
      exact ⟨fun _ hb => absurd hb List.not_mem_nil, List.forall_mem_cons.2 ⟨hlead', hparts'⟩⟩
    | false =>
      simp only [passages, ho, Bool.false_eq_true, if_false]
      exact ⟨hlead', hparts'⟩

theorem head_mem_of_mem_passages {α : Type} {opens : α → Bool} {l : List α} {p : Passage α}
    (h : p ∈ (passages opens l).2) : p.head ∈ l :=
  mem_of_mem_passages.2 p h p.head List.mem_cons_self

theorem Group.id_ne_empty_iff {g : Group} (h : g.head.Scans) :
    g.id ≠ "" ↔ ∃ id ∈ ids g.head.segments, id ≠ "" := by
  have hl := h.1
  rw [Group.id]
  match ids g.head.segments, hl with
  | [], _ => simp
  | [id], _ => simp

theorem Outline.wellFormed_iff {o : Outline} :
    o.WellFormed ↔ ∃ l rest, o.lines = l :: rest ∧ (l.Scans ∧ l.starts = some .dialog) ∧
      Builder.Acceptable [] rest ((Group.start l).extend rest) := by
  have hgroups : ∀ {l rest}, o.lines = l :: rest → l.starts = some .dialog →
      o.groups = (Group.start l).extend rest ∧
        o.chapters = ((Group.start l).extend rest).foldl addGroup [] := by
    intro l rest ho hs
    have hg : (Group.start l).isDialog = true := by simp [Group.isDialog, Group.start, hs]
    have hgr : o.groups = (Group.start l).extend rest := by
      rw [Outline.groups, ho, Group.groups_of_starts _ (by simp [hs])]
    exact ⟨hgr, by rw [Outline.chapters, hgr, Builder.chapters_extend hg]⟩
  have hheads : (∀ l ∈ o.lines, l.Scans) → ∀ g ∈ o.groups, g.head.Scans := fun h g hg =>
    h _ (head_mem_of_mem_passages hg)
  constructor
  · intro h
    obtain ⟨l, hl, hs⟩ := h.opens
    obtain ⟨rest, ho⟩ : ∃ rest, o.lines = l :: rest := List.head?_eq_some_iff.1 hl
    obtain ⟨hgr, hch⟩ := hgroups ho hs
    have hscans := h.scans
    rw [ho] at hscans
    obtain ⟨hl, hrest⟩ := List.forall_mem_cons.1 hscans
    refine ⟨l, rest, ho, ⟨hl, hs⟩, hrest, fun g hg => ?_, hch ▸ h.distinct⟩
    rw [← hgr] at hg
    exact ⟨(Group.id_ne_empty_iff (hheads h.scans g hg)).2 (h.ids g hg), h.links g hg⟩
  · rintro ⟨l, rest, ho, ⟨hl, hs⟩, hrest, hgs, hd⟩
    obtain ⟨hgr, hch⟩ := hgroups ho hs
    have hscans : ∀ l ∈ o.lines, l.Scans := ho ▸ List.forall_mem_cons.2 ⟨hl, hrest⟩
    refine ⟨⟨l, by rw [ho]; rfl, hs⟩, hscans, fun g hg => ?_, fun g hg => ?_, hch ▸ hd⟩
    · exact (Group.id_ne_empty_iff (hheads hscans g hg)).1 (hgs g (hgr ▸ hg)).1
    · exact (hgs g (hgr ▸ hg)).2

/-- A parse yields the tree of the outline, or fails if the outline is not well formed. -/
theorem parse_yields (options : Options) (script : List String) :
    Builder.Yields (parse options script) (Outline.ofScript options.trim script).WellFormed
      (Builder.Result options (Outline.ofScript options.trim script).chapters) := by
  have hd : (Builder.new options).Drafts [] := ⟨rfl, rfl, rfl⟩
  exact (Builder.complete_fresh script hd rfl).imp Outline.wellFormed_iff.symm fun _ _ _ h => h

/-- What is read has a well-formed outline, and stands for its chapters. -/
theorem describes_of_parse {options : Options} {script : List String} {t : Tree}
    {notices : List Posting} (h : parse options script = .ok (t, notices)) :
    (Outline.ofScript options.trim script).WellFormed ∧
      Describes options (Outline.ofScript options.trim script).chapters t := by
  have hy := parse_yields options script
  rw [h] at hy
  exact ⟨hy.1, hy.2.1⟩

theorem exists_parse_of_wellFormed {options : Options} {script : List String}
    (h : (Outline.ofScript options.trim script).WellFormed) :
    ∃ t notices, parse options script = .ok (t, notices) := by
  have hy := parse_yields options script
  cases hp : parse options script with
  | error f =>
    rw [hp] at hy
    exact absurd h hy
  | ok r => exact ⟨r.1, r.2, rfl⟩

/-- **Parsing line by line reads the script as a whole.** A tree comes out exactly if the outline of
the script is well formed, and the outline says which tree. -/
theorem parse_follows_outline (options : Options) (script : List String) :
    ((∃ t notices, parse options script = .ok (t, notices)) ↔
        (Outline.ofScript options.trim script).WellFormed) ∧
      ∀ t notices, parse options script = .ok (t, notices) →
        (Outline.ofScript options.trim script).Describes options t := by
  have h := parse_yields options script
  cases hp : parse options script with
  | error f =>
    rw [hp] at h
    exact ⟨⟨fun ⟨_, _, e⟩ => (by cases e), fun hw => absurd hw h⟩, fun _ _ e => by cases e⟩
  | ok r =>
    obtain ⟨t, notices⟩ := r
    rw [hp] at h
    refine ⟨⟨fun _ => h.1, fun _ => ⟨t, notices, rfl⟩⟩, fun t' notices' e => ?_⟩
    cases e
    exact h.2.1

end Script

end Plotline
