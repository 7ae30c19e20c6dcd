import Plotline.Proofs.Script.RoundTrip

/-!
# Scripts one after the other

Two scripts that can be read can be put one behind the other (`Script.parse_append`). The tree then
has the dialogs of both trees, unless an id occurs in both: the first dialog of the second script
that has such an id ends the reading.

The second script starts with a dialog, so nothing of it goes into what was gathered last, and the
outline of both is one outline and then the other (`Outline.chapters_append`). Apart from the ids
nothing can be wrong with it (`Outline.Spelled.append`), and a builder that meets nothing but a
taken id fails on the first dialog that has one (`Builder.complete_taken`).
-/

namespace Plotline

open Marker (Token ids)
open Script (Line Group Chapter Passage Distinct Outline addGroup chapters counts groups linesOf
  passages)
open Text (strip)

/-! ## Outlines one after the other -/

namespace Script

variable {α : Type} {opens : α → Bool}

theorem passages_cons_of_opens {a : α} (l : List α) (h : opens a = true) :
    (passages opens (a :: l)).1 = [] := by
  simp [passages, h]

/-- A list whose first item opens a passage adds its passages to those before it. -/
theorem passages_append_of_opens {l m : List α} (h : (passages opens m).1 = []) :
    passages opens (l ++ m) =
      ((passages opens l).1, (passages opens l).2 ++ (passages opens m).2) := by
  induction l with
  | nil => exact Prod.ext h rfl
  | cons a l ih =>
    rw [List.cons_append, passages, ih, passages]
    cases opens a <;> rfl

/-- A passage is opened by its first item, and by that only. -/
theorem opens_of_mem_passages (l : List α) :
    (∀ a ∈ (passages opens l).1, opens a = false) ∧
      ∀ p ∈ (passages opens l).2, opens p.head = true ∧ ∀ a ∈ p.rest, opens a = false := by
  induction l with
  | nil => exact ⟨by simp [passages], by simp [passages]⟩
  | cons a l ih =>
    cases ha : opens a with
    | true =>
      simp only [passages, ha, if_true]
      exact ⟨by simp, List.forall_mem_cons.2 ⟨⟨ha, ih.1⟩, ih.2⟩⟩
    | false =>
      simp only [passages, ha, Bool.false_eq_true, if_false]
      exact ⟨List.forall_mem_cons.2 ⟨ha, ih.1⟩, ih.2⟩

/-- **Cutting loses nothing.** -/
theorem append_flatMap_passages (opens : α → Bool) (l : List α) :
    (passages opens l).1 ++ (passages opens l).2.flatMap (fun p => p.head :: p.rest) = l := by
  induction l with
  | nil => rfl
  | cons a l ih =>
    cases ha : opens a with
    | true => simpa [passages, ha] using ih
    | false => simpa [passages, ha] using ih

/-- Chapters that start with their only dialog come back from their groups. -/
theorem foldl_addGroup_flatMap {cs : List Chapter}
    (h : ∀ c ∈ cs, c.head.isDialog = true ∧ ∀ g ∈ c.rest, g.isDialog = false) :
    (cs.flatMap fun c => c.head :: c.rest).foldl addGroup [] = cs := by
  cases cs with
  | nil => rfl
  | cons c cs =>
    have hc := (h c List.mem_cons_self).1
    have hback : chapters ((c :: cs).flatMap fun c => c.head :: c.rest) = c :: cs := by
      rw [chapters, passages_flatMap h]
    rw [List.flatMap_cons, List.cons_append] at hback ⊢
    rw [List.foldl_cons, ← chapters_eq_foldl _ hc, hback]

theorem Distinct.append {cs ds : List Chapter} (hc : Distinct cs) (hd : Distinct ds)
    (h : ∀ d ∈ ds, d.head.id ∉ cs.map (·.head.id)) : Distinct (cs ++ ds) where
  dialogs := by
    rw [List.map_append, List.nodup_append]
    refine ⟨hc.dialogs, hd.dialogs, fun i hi j hj e => ?_⟩
    obtain ⟨d, hd, rfl⟩ := List.mem_map.1 hj
    exact h d hd (e ▸ hi)
  decisions c h' := (List.mem_append.1 h').elim (hc.decisions c) (hd.decisions c)

namespace Outline

variable {o p : Outline}

/-- One outline and then another. -/
def append (o p : Outline) : Outline := ⟨o.lines ++ p.lines⟩

theorem ofScript_append (trim : Bool) (xs ys : List String) :
    ofScript trim (xs ++ ys) = (ofScript trim xs).append (ofScript trim ys) := by
  rw [append, ofScript, linesOf_append]
  rfl

/-- What a script has to fulfil apart from distinct ids. -/
structure Spelled (o : Outline) : Prop where
  opens : ∃ l, o.lines.head? = some l ∧ l.starts = some .dialog
  scans : ∀ l ∈ o.lines, l.Scans
  ids : ∀ g ∈ o.groups, g.id ≠ ""
  links : ∀ g ∈ o.groups, g.links.length ≤ 1

theorem wellFormed_iff_spelled : o.WellFormed ↔ o.Spelled ∧ Distinct o.chapters := by
  have hids : (∀ l ∈ o.lines, l.Scans) → ∀ g ∈ o.groups,
      (g.id ≠ "" ↔ ∃ id ∈ ids g.head.segments, id ≠ "") := fun h g hg =>
    Group.id_ne_empty_iff (h _ (head_mem_of_mem_passages hg))
  constructor
  · exact fun h => ⟨⟨h.opens, h.scans, fun g hg => (hids h.scans g hg).2 (h.ids g hg), h.links⟩,
      h.distinct⟩
  · exact fun h => ⟨h.1.opens, h.1.scans, fun g hg => (hids h.1.scans g hg).1 (h.1.ids g hg),
      h.1.links, h.2⟩

/-- The first line of an outline starts its first group. -/
theorem Spelled.exists_first (h : o.Spelled) :
    ∃ l rest, o.lines = l :: rest ∧ l.starts = some .dialog ∧
      o.groups = (Group.start l).extend rest := by
  obtain ⟨l, hl, hs⟩ := h.opens
  obtain ⟨rest, hlines⟩ := List.head?_eq_some_iff.1 hl
  refine ⟨l, rest, hlines, hs, ?_⟩
  rw [groups, hlines, Group.groups_of_starts rest (by rw [hs]; rfl)]

/-- Nothing comes before the first group, and that group is a dialog. -/
theorem Spelled.leads (h : o.Spelled) :
    (passages (·.starts.isSome) o.lines).1 = [] ∧ (passages Group.isDialog o.groups).1 = [] := by
  obtain ⟨l, rest, hlines, hs, hgroups⟩ := h.exists_first
  have hdialog : (Group.start l).isDialog = true := by simp [Group.isDialog, Group.start, hs]
  rw [hlines, hgroups]
  exact ⟨passages_cons_of_opens rest (by rw [hs]; rfl), passages_cons_of_opens _ hdialog⟩

theorem groups_append (hp : p.Spelled) : (o.append p).groups = o.groups ++ p.groups := by
  rw [groups, Script.groups, append, passages_append_of_opens hp.leads.1]
  rfl

theorem chapters_append (hp : p.Spelled) : (o.append p).chapters = o.chapters ++ p.chapters := by
  rw [chapters, groups_append hp, Script.chapters, passages_append_of_opens hp.leads.2]
  rfl

/-- The groups of an outline are those of its chapters. -/
theorem Spelled.groups_eq_flatMap (h : o.Spelled) :
    o.groups = o.chapters.flatMap fun c => c.head :: c.rest := by
  have hall := append_flatMap_passages Group.isDialog o.groups
  rw [h.leads.2] at hall
  exact hall.symm

theorem opens_chapter {c : Chapter} (hc : c ∈ o.chapters) :
    c.head.isDialog = true ∧ ∀ g ∈ c.rest, g.isDialog = false :=
  (opens_of_mem_passages o.groups).2 c hc

/-- **Two outlines make one**, whatever their ids are. -/
theorem Spelled.append (ho : o.Spelled) (hp : p.Spelled) : (o.append p).Spelled where
  opens := by
    obtain ⟨l, rest, hlines, hs, -⟩ := ho.exists_first
    exact ⟨l, by rw [Outline.append, hlines]; rfl, hs⟩
  scans l hl := (List.mem_append.1 hl).elim (ho.scans l) (hp.scans l)
  ids g hg := by
    rw [groups_append hp] at hg
    exact (List.mem_append.1 hg).elim (ho.ids g) (hp.ids g)
  links g hg := by
    rw [groups_append hp] at hg
    exact (List.mem_append.1 hg).elim (ho.links g) (hp.links g)

end Outline

end Script

/-! ## A dialog with a taken id -/

namespace Builder

variable {b : Builder} {g : Group} {cs : List Chapter} {line : String}

theorem GoesThrough.exists_of_ok {r : Option Failure × Builder} {ok : Prop} {post : Builder → Prop}
    (h : GoesThrough r ok post) (hok : ok) : ∃ b', r = (none, b') ∧ post b' := by
  obtain ⟨_ | f, b'⟩ := r
  · exact ⟨b', rfl, h.2⟩
  · exact absurd hok h

theorem addDialog_taken {id : String} {t : Token} (hd : b.Drafts cs)
    (htaken : id ∈ cs.map (·.head.id)) :
    (b.addDialog id t).1 = some (b.fail (.dialogIdTaken id b.options.treeId)) := by
  obtain ⟨hds, htree, -, hconsole, -⟩ := hd.treeFor id
  rw [← Script.keys_eq_of_forall₂ hds] at htaken
  simp only [addDialog, Tree.insert]
  rw [Roster.insert?_eq_none_iff.2 htaken, htree, hconsole]
  rfl

/-- A dialog whose id is taken cannot be completed. -/
theorem flush_taken (hd : b.Drafts cs) (hp : b.pending = some g.token)
    (hk : g.head.starts = some b.kind) (hg : g.isDialog = true) (hid : g.id ≠ "")
    (htaken : g.id ∈ cs.map (·.head.id)) :
    b.flush.1 = some (b.fail (.dialogIdTaken g.id b.options.treeId)) := by
  have hkind : b.kind = .dialog := by simpa [Group.isDialog, hk] using hg
  have hd' : { b with pending := none }.Drafts cs := ⟨hd.current, hd.count, hd.tree⟩
  have hkey : g.token.id.getD "" = g.id := rfl
  simp only [flush, hp, hkey, if_neg hid, hkind]
  rw [hkind] at hd'
  exact addDialog_taken hd' htaken

/-- A line that starts something fails with what cannot be completed, if it scans. -/
theorem feed_of_flush {f : Failure} (hc : counts (strip line.toList) = true)
    (hs : (b.lineOf line).starts.isSome) (hl : (b.lineOf line).Scans)
    (hf : b.nextLine.flush.1 = some f) : (b.feed line).1 = some f := by
  obtain ⟨b', hflush⟩ : ∃ b', b.nextLine.flush = (some f, b') := ⟨_, Prod.ext hf rfl⟩
  rcases b.feed_of_counts hc with ⟨text, -, hfeed⟩ | ⟨text, hline, hfeed⟩
  · rw [hfeed, feedDecision_eq, hflush]
    rfl
  · have hids : ids (b.lineOf line).segments ≠ [] := fun e => by
      rw [hline] at e
      simp [hline, e] at hs
    rcases b.nextLine.scan_line (b.lineOf line) (by rw [hline]; rfl) with
      ⟨f, -, hbad⟩ | ⟨hscan, -⟩
    · exact absurd hl hbad
    · rw [hfeed, feedText, hscan]
      simp only [hasId_ofSegments.2 hids, if_true, hflush]

/-- **From a group on, the first dialog whose id is taken ends the reading**, if nothing else is
wrong with the rest of the script. -/
theorem complete_taken (script : List String) {before after : List Group} {g' : Group}
    (h : b.Gathers cs g) (hlines : ∀ l ∈ linesOf b.options.trim script, l.Scans)
    (hgroups : ∀ a ∈ g.extend (linesOf b.options.trim script), a.id ≠ "" ∧ a.links.length ≤ 1)
    (hsplit : g.extend (linesOf b.options.trim script) = before ++ g' :: after)
    (hdistinct : Distinct (before.foldl addGroup cs)) (hg' : g'.isDialog = true)
    (htaken : g'.id ∈ (before.foldl addGroup cs).map (·.head.id)) :
    b.complete script = .error (b.fail (.dialogIdTaken g'.id b.options.treeId)) := by
  induction script generalizing b cs g before with
  | nil =>
    rw [show linesOf b.options.trim [] = [] from rfl, Group.extend_nil] at hsplit hgroups
    obtain ⟨rfl, hg⟩ | ⟨_, -, hg⟩ := List.cons_eq_append_iff.1 hsplit
    · obtain ⟨rfl, -⟩ := List.cons.inj hg
      have hid := (hgroups g' List.mem_cons_self).1
      have hflush := flush_taken h.drafts h.pending h.kind hg' hid htaken
      obtain ⟨b', hb'⟩ : ∃ b', b.flush = (some _, b') := ⟨_, Prod.ext hflush rfl⟩
      simp only [complete, feedAll, finish, hb']
    · simp at hg
  | cons line script ih =>
    by_cases hc : counts (strip line.toList) = true
    · rw [linesOf_cons_of_counts b script hc] at hlines hgroups hsplit
      obtain ⟨hl, hlines⟩ := List.forall_mem_cons.1 hlines
      cases hs : (b.lineOf line).starts with
      | none =>
        rw [Group.extend_of_continues _ _ hs] at hgroups hsplit
        have hlinks := Nat.le_trans ((g.concat (b.lineOf line)).length_links_le _)
          (hgroups _ List.mem_cons_self).2
        obtain ⟨b', hfeed, hopt, hb'⟩ := (feed_continue h hc hs).exists_of_ok ⟨hl, hlinks⟩
        rw [complete_cons, hfeed, fail, ← hopt]
        rw [← hopt] at hlines hgroups hsplit
        exact ih hb' hlines hgroups hsplit hdistinct htaken
      | some kind =>
        have hs : (b.lineOf line).starts.isSome := by rw [hs]; rfl
        rw [Group.extend_of_starts _ _ hs] at hgroups hsplit
        obtain ⟨hg, hgroups⟩ := List.forall_mem_cons.1 hgroups
        obtain ⟨rfl, hhead⟩ | ⟨before, rfl, hrest⟩ := List.cons_eq_append_iff.1 hsplit
        · obtain ⟨rfl, -⟩ := List.cons.inj hhead
          have hflush := flush_taken h.nextLine.drafts h.pending h.kind hg' hg.1 htaken
          have hfeed := feed_of_flush hc hs hl hflush
          obtain ⟨b', hb'⟩ : ∃ b', b.feed line = (some _, b') := ⟨_, Prod.ext hfeed rfl⟩
          rw [complete_cons, hb']
          rfl
        · have hd : Distinct (addGroup cs g) :=
            Distinct.of_foldl_addGroup hdistinct (Script.addGroup_ne_nil h.first)
          obtain ⟨b', hfeed, hopt, hb'⟩ := (feed_start h hc hs).exists_of_ok ⟨hl, hg.1, hd⟩
          rw [complete_cons, hfeed, fail, ← hopt]
          rw [← hopt] at hlines hgroups hrest
          exact ih hb' hlines hgroups hrest hdistinct htaken
    · have hc : counts (strip line.toList) = false := Bool.eq_false_iff.2 hc
      rw [linesOf_cons_of_not_counts _ script hc] at hlines hgroups hsplit
      rw [complete_cons, b.feed_of_not_counts hc]
      exact ih h.nextLine hlines hgroups hsplit hdistinct htaken

/-- The first line that counts starts the first group. -/
theorem exists_gathers {l : Line} {rest : List Line} (script : List String) (hd : b.Drafts [])
    (hp : b.pending = none) (hlines : linesOf b.options.trim script = l :: rest) (hl : l.Scans)
    (hs : l.starts = some .dialog) :
    ∃ (b' : Builder) (more : List String), b'.options = b.options ∧ b'.Gathers [] (.start l) ∧
      linesOf b.options.trim more = rest ∧ b.complete script = b'.complete more := by
  induction script generalizing b with
  | nil => cases hlines
  | cons line script ih =>
    by_cases hc : counts (strip line.toList) = true
    · rw [linesOf_cons_of_counts b script hc] at hlines
      obtain ⟨rfl, hrest⟩ := List.cons.inj hlines
      obtain ⟨b', hfeed, hopt, hb'⟩ := (feed_first hd hp hc).exists_of_ok ⟨hl, hs⟩
      exact ⟨b', script, hopt, hb', hrest, by rw [complete_cons, hfeed]⟩
    · have hc : counts (strip line.toList) = false := Bool.eq_false_iff.2 hc
      rw [linesOf_cons_of_not_counts _ script hc] at hlines
      obtain ⟨b', more, hopt, hb', hmore, heq⟩ := ih hd.nextLine hp hlines
      exact ⟨b', more, hopt, hb', hmore, by rw [complete_cons, b.feed_of_not_counts hc]; exact heq⟩

end Builder

/-! ## Scripts one after the other -/

namespace Script

/-- The tree that is read from one script behind another: it has the root of the first tree and the
dialogs of both, which speak through its own console. -/
structure Joins (options : Options) (t u v : Tree) : Prop where
  id : v.id = options.treeId
  score : v.score = options.score
  console : v.console = options.console
  root : v.root = t.root
  dialogs : v.dialogs.items =
    (t.dialogs.items ++ u.dialogs.items).map ({ · with console := options.console })

/-- A chapter stands for one dialog only. -/
theorem rightUnique_describes (console : Console) :
    Relator.RightUnique (Chapter.Describes console) := by
  intro c d d' hd hd'
  have hdecisions : d.decisions = d'.decisions :=
    Roster.ext_items (hd.decisions.trans hd'.decisions.symm)
  obtain ⟨id, message, link, console, decisions⟩ := d
  obtain rfl : id = d'.id := hd.id.trans hd'.id.symm
  obtain rfl : message = d'.message := hd.message.trans hd'.message.symm
  obtain rfl : link = d'.link := hd.link.trans hd'.link.symm
  obtain rfl : console = d'.console := hd.console.trans hd'.console.symm
  obtain rfl : decisions = d'.decisions := hdecisions
  rfl

/-- Under another console, chapters stand for the same dialogs that speak through that one. -/
theorem forall₂_describes_map {console : Console} (console' : Console) {cs : List Chapter}
    {ds : List Dialog} (h : List.Forall₂ (Chapter.Describes console) cs ds) :
    List.Forall₂ (Chapter.Describes console') cs (ds.map ({ · with console := console' })) := by
  rw [List.forall₂_map_right_iff]
  exact h.imp fun c d hd => ⟨hd.id, hd.message, hd.link, rfl, hd.decisions⟩

/-- The tree of chapters and further ones. -/
theorem Describes.joins {options₁ options₂ options : Options} {cs ds : List Chapter} {t u v : Tree}
    (ht : Describes options₁ cs t) (hu : Describes options₂ ds u)
    (hv : Describes options (cs ++ ds) v) : Joins options t u v where
  id := hv.id
  score := hv.score
  console := hv.console
  root := by
    obtain ⟨c, hc, hroot⟩ := Option.map_eq_some_iff.1 ht.root
    have hv := hv.root
    rw [List.head?_append, hc, Option.some_or, Option.map_some, hroot] at hv
    exact (Option.some.inj hv).symm
  dialogs := by
    rw [List.map_append]
    exact List.right_unique_forall₂' (rightUnique_describes _) hv.dialogs
      (List.rel_append (forall₂_describes_map _ ht.dialogs) (forall₂_describes_map _ hu.dialogs))

/-- A script with nothing wrong in it fails on the first dialog whose id is taken. -/
theorem parse_taken {options : Options} {script : List String} {before after : List Chapter}
    {c : Chapter} (h : (Outline.ofScript options.trim script).Spelled)
    (hsplit : (Outline.ofScript options.trim script).chapters = before ++ c :: after)
    (hdistinct : Distinct before) (htaken : c.head.id ∈ before.map (·.head.id)) :
    parse options script =
      .error (options.console.fail (.dialogIdTaken c.head.id options.treeId)) := by
  have hopens : ∀ d ∈ before ++ c :: after,
      d.head.isDialog = true ∧ ∀ g ∈ d.rest, g.isDialog = false := fun d hd =>
    Outline.opens_chapter (o := Outline.ofScript options.trim script) (hsplit ▸ hd)
  -- The chapters before are those of the groups up to the dialog.
  have hbefore := foldl_addGroup_flatMap fun d hd => hopens d (List.mem_append_left _ hd)
  have hgroups := h.groups_eq_flatMap
  rw [hsplit, List.flatMap_append, List.flatMap_cons, List.cons_append] at hgroups
  obtain ⟨l, rest, hlines, hs, hfirst⟩ := h.exists_first
  have hscans := h.scans
  rw [hlines] at hscans
  obtain ⟨hl, hrest⟩ := List.forall_mem_cons.1 hscans
  have hall := fun a ha => And.intro (h.ids a ha) (h.links a ha)
  rw [hfirst] at hall hgroups
  obtain ⟨b, more, hopt, hb, hmore, hcomplete⟩ :=
    Builder.exists_gathers (b := .new options) script ⟨rfl, rfl, rfl⟩ rfl hlines hl hs
  obtain rfl : b.options = options := hopt
  obtain rfl : linesOf b.options.trim more = rest := hmore
  refine hcomplete.trans (Builder.complete_taken more hb hrest hall hgroups ?_ ?_ ?_)
  · rw [hbefore]
    exact hdistinct
  · exact (hopens c (by simp)).1
  · rw [hbefore]
    exact htaken

/-- **Scripts can be put one behind the other.** Of two scripts that are read, under whatever ids,
scores and consoles, the one behind the other is read too if no dialog id occurs in both, and gives
the dialogs of the first tree and then those of the second. If some id does, the reading fails with
the first dialog of the second script whose id occurs in the first. -/
theorem parse_append {options₁ options₂ options : Options} {xs ys : List String} {t u : Tree}
    {notices₁ notices₂ : List Posting} (htrim₁ : options₁.trim = options.trim)
    (htrim₂ : options₂.trim = options.trim) (h₁ : parse options₁ xs = .ok (t, notices₁))
    (h₂ : parse options₂ ys = .ok (u, notices₂)) :
    ((∀ id ∈ u.dialogs.keys, id ∉ t.dialogs.keys) →
        ∃ v notices, parse options (xs ++ ys) = .ok (v, notices) ∧ Joins options t u v) ∧
      ((∃ id ∈ u.dialogs.keys, id ∈ t.dialogs.keys) →
        ∃ id, u.dialogs.keys.find? (· ∈ t.dialogs.keys) = some id ∧
          parse options (xs ++ ys) =
            .error (options.console.fail (.dialogIdTaken id options.treeId))) := by
  obtain ⟨hx, ht⟩ := describes_of_parse h₁
  obtain ⟨hy, hu⟩ := describes_of_parse h₂
  rw [htrim₁] at hx ht
  rw [htrim₂] at hy hu
  rw [keys_eq_of_forall₂ ht.dialogs, keys_eq_of_forall₂ hu.dialogs]
  obtain ⟨hx, hdx⟩ := Outline.wellFormed_iff_spelled.1 hx
  obtain ⟨hy, hdy⟩ := Outline.wellFormed_iff_spelled.1 hy
  have hjoined := hx.append hy
  have hchapters := Outline.chapters_append (o := Outline.ofScript options.trim xs) hy
  rw [← Outline.ofScript_append] at hjoined hchapters
  constructor
  · intro hfresh
    have hdistinct := hdx.append hdy fun d hd => hfresh _ (List.mem_map_of_mem hd)
    rw [← hchapters] at hdistinct
    have hw := Outline.wellFormed_iff_spelled.2 ⟨hjoined, hdistinct⟩
    obtain ⟨v, notices, hv⟩ := exists_parse_of_wellFormed hw
    have hdescribes := (describes_of_parse hv).2
    rw [hchapters] at hdescribes
    exact ⟨v, notices, hv, ht.joins hu hdescribes⟩
  · rintro ⟨id, hid, htaken⟩
    have hsome : (((Outline.ofScript options.trim ys).chapters.map (·.head.id)).find?
        (· ∈ (Outline.ofScript options.trim xs).chapters.map (·.head.id))).isSome :=
      List.find?_isSome.2 ⟨id, hid, decide_eq_true htaken⟩
    obtain ⟨id, hfirst⟩ := Option.isSome_iff_exists.1 hsome
    obtain ⟨htaken, before, after, hkeys, hfresh⟩ := List.find?_eq_some_iff_append.1 hfirst
    obtain ⟨before, behind, hsplit, rfl, hbehind⟩ := List.map_eq_append_iff.1 hkeys
    obtain ⟨c, after, rfl, rfl, rfl⟩ := List.map_eq_cons_iff.1 hbehind
    refine ⟨_, hfirst, ?_⟩
    rw [hsplit] at hdy hchapters
    have hdistinct := hdx.append hdy.of_append_left fun d hd => by
      simpa using hfresh _ (List.mem_map_of_mem hd)
    rw [← List.append_assoc] at hchapters
    refine parse_taken hjoined hchapters hdistinct ?_
    rw [List.map_append]
    exact List.mem_append_left _ (of_decide_eq_true htaken)

theorem parse_append_gate :
    ∃ t u : Tree, parse {} ["$[gate] Well? $D[yard]"] = .ok (t, []) ∧
      parse { treeId := "yard" } ["$[yard] Mud.", "> $[on] On. $D[gate]"] = .ok (u, []) ∧
      (∃ v notices, parse {} ["$[gate] Well? $D[yard]", "$[yard] Mud.", "> $[on] On. $D[gate]"] =
        .ok (v, notices) ∧ Joins {} t u v) ∧
      parse {} ["$[gate] Well? $D[yard]", "$[gate] Well? $D[yard]"] =
        .error (Console.fail {} (.dialogIdTaken "gate" "")) := by
  let t : Tree := { root := "gate", dialogs := ⟨[
    { id := "gate", message := some "Well?", link := .into .dialog "yard" }], by decide⟩ }
  let u : Tree := { id := "yard", root := "yard", dialogs := ⟨[
    { id := "yard", message := some "Mud.", decisions := ⟨[
      { id := "on", message := some "On.", link := .into .dialog "gate" }], by decide⟩ }],
    by decide⟩ }
  have ht : parse {} ["$[gate] Well? $D[yard]"] = .ok (t, []) := by decide +kernel
  have hu : parse { treeId := "yard" } ["$[yard] Mud.", "> $[on] On. $D[gate]"] = .ok (u, []) := by
    decide +kernel
  have htrim : ({} : Options).trim = ({} : Options).trim := rfl
  have htrim' : ({ treeId := "yard" } : Options).trim = ({} : Options).trim := rfl
  refine ⟨t, u, ht, hu, (parse_append htrim htrim' ht hu).1 (by decide), ?_⟩
  obtain ⟨id, hid, htaken⟩ := (parse_append htrim htrim ht ht).2 ⟨"gate", by decide, by decide⟩
  obtain rfl : "gate" = id := Option.some.inj hid
  exact htaken

end Script

end Plotline
