import Plotline.Proofs.Script.Feed

/-!
# Builders stay coherent

A builder can be fed on after a failure, and it can be finished more than once. Whatever is called
on it, its parts fit together (`Builder.Coherent`): there is a current dialog as soon as there is a
tree, it is the last one of the tree, the counter counts, and a decision is only gathered when there
is a dialog that will take it. One call inserts at most the entity that was gathered before it,
behind all others (`Builder.Grows`).

* `Builder.completes_flush`: completing an entity either fails and inserts nothing, or inserts it.
* `Builder.step_feed`, `Builder.step_finish`: what one call keeps.
* `Builder.Coherent.run`: what any calls keep.
-/

namespace Plotline

open Marker (Token)
open Text (strip)

/-! ## Collections and their entities -/

namespace Roster

variable {α : Type} {key : α → String} {r s : Roster α key} {a : α}

/-- No key is empty, no key occurs twice, and every item is found under its own key. -/
structure Named (r : Roster α key) : Prop where
  nonempty : ∀ a ∈ r.items, key a ≠ ""
  unique : r.keys.Nodup
  stored : ∀ k a, r.get? k = some a → key a = k

theorem named_iff : r.Named ↔ ∀ a ∈ r.items, key a ≠ "" :=
  ⟨Named.nonempty, fun h => ⟨h, r.nodup, fun _ _ => key_of_get?⟩⟩

theorem named_empty : (∅ : Roster α key).Named := named_iff.2 fun _ h => absurd h List.not_mem_nil

theorem Named.concat (h : r.Named) (hs : s.items = r.items ++ [a]) (ha : key a ≠ "") :
    s.Named := by
  rw [named_iff, hs, List.forall_mem_append, List.forall_mem_singleton]
  exact ⟨h.nonempty, ha⟩

end Roster

/-- The decisions of a dialog are named, and every link has a target and a kind or neither. -/
structure Dialog.Tidy (d : Dialog) : Prop where
  decisions : d.decisions.Named
  link : d.link.Paired
  links : ∀ x ∈ d.decisions.items, x.link.Paired

/-- The dialogs of a tree are named and tidy, and the first of them is the root. -/
structure Tree.Tidy (t : Tree) : Prop where
  root : ∃ d, t.dialogs.items.head? = some d ∧ t.root = d.id
  dialogs : t.dialogs.Named
  tidy : ∀ d ∈ t.dialogs.items, d.Tidy

theorem Tree.get_of_mem {t : Tree} {d : Dialog} (h : d ∈ t.dialogs.items) : t.get d.id = .ok d := by
  have hget : t.dialogs.get? d.id = some d := Roster.get?_eq_some_iff.2 ⟨h, rfl⟩
  rw [Tree.get, hget]

/-- Tidy dialogs and one more make a tidy tree; with no others, that one is the root. -/
theorem Tree.tidy_of_concat {t : Tree} {r : Roster Dialog Dialog.id} {d : Dialog} (hr : r.Named)
    (hrs : ∀ e ∈ r.items, e.Tidy) (h : t.dialogs.items = r.items ++ [d])
    (hroot : (r.items.head?.map (·.id)).getD d.id = t.root) (hne : d.id ≠ "") (hd : d.Tidy) :
    t.Tidy := by
  refine ⟨?_, hr.concat h hne, ?_⟩
  · rw [← hroot, h]
    cases r.items with
    | nil => exact ⟨d, rfl, rfl⟩
    | cons e es => exact ⟨e, rfl, rfl⟩
  · rw [h, List.forall_mem_append, List.forall_mem_singleton]
    exact ⟨hrs, hd⟩

/-- A tree stays tidy when its last dialog gives way to a tidy one with the same id. -/
theorem Tree.Tidy.replace_last {t t' : Tree} {ds : List Dialog} {d d' : Dialog}
    (ht : t.Tidy) (hroot : t'.root = t.root) (h : t.dialogs.items = ds ++ [d])
    (h' : t'.dialogs.items = ds ++ [d']) (hid : d'.id = d.id) (hd : d'.Tidy) : t'.Tidy := by
  obtain ⟨e, he, hr⟩ := ht.root
  have hnonempty := ht.dialogs.nonempty
  have htidy := ht.tidy
  rw [h, List.forall_mem_append, List.forall_mem_singleton] at hnonempty htidy
  refine ⟨?_, Roster.named_iff.2 ?_, ?_⟩
  · rw [hroot, hr, h']
    rw [h] at he
    cases ds with
    | nil =>
      obtain rfl := Option.some.inj he
      exact ⟨d', rfl, hid.symm⟩
    | cons e' es => exact ⟨e, he, rfl⟩
  · rw [h', List.forall_mem_append, List.forall_mem_singleton, hid]
    exact hnonempty
  · rw [h', List.forall_mem_append, List.forall_mem_singleton]
    exact ⟨htidy.1, hd⟩

namespace Builder

variable {b b' b'' : Builder} {p : Token} {id : String}

/-! ## Coherent builders -/

/-- What is complete fits together: there is a tree exactly if there is a current dialog, which is
the last one of the tree, and the decisions are counted. -/
structure Standing (b : Builder) : Prop where
  tree_iff : b.tree.isSome ↔ b.current.isSome
  tree : ∀ t, b.tree = some t → t.Tidy
  last : ∀ t, b.tree = some t → ∃ d, t.dialogs.items.getLast? = some d ∧ b.current = some d.id
  count : b.decisionCount = (b.tree.map Tree.decisionCount).getD 0

/-- What is gathered fits as well: for a decision there is the dialog that will take it. -/
structure Coherent (b : Builder) : Prop extends Standing b where
  taker : b.pending.isSome → b.kind = .decision →
    ∃ t d, b.tree = some t ∧ b.current = some d.id ∧ t.get d.id = .ok d
  link : ∀ p, b.pending = some p → p.link.Paired

/-- Nothing is inserted. -/
structure Keeps (b b' : Builder) : Prop where
  tree : b'.tree = b.tree
  current : b'.current = b.current
  count : b'.decisionCount = b.decisionCount

/-- The dialog that a token stands for. -/
def dialogOf (b : Builder) (id : String) (p : Token) : Dialog :=
  { id := id, message := some (Script.message p.text), link := p.link
    console := b.options.console }

/-- The decision that a token stands for. -/
def decisionOf (id : String) (p : Token) : Decision :=
  { id := id, message := some (Script.message p.text), link := p.link }

/-- The token is inserted with this id: as the last dialog, which becomes the current one, or as the
last decision of the current dialog. Everything else stays. -/
inductive Gains (b : Builder) (id : String) (p : Token) (b' : Builder) : Prop
  | dialog {t : Tree} (kind : b.kind = .dialog) (tree : b'.tree = some t)
      (frame : t = { b.treeFor id with dialogs := t.dialogs })
      (dialogs : t.dialogs.items = (b.treeFor id).dialogs.items ++ [b.dialogOf id p])
      (current : b'.current = some id) (count : b'.decisionCount = b.decisionCount)
  | decision {t t' : Tree} {ds : List Dialog} {d d' : Dialog} (kind : b.kind = .decision)
      (tree : b.tree = some t) (tree' : b'.tree = some t')
      (frame : t' = { t with dialogs := t'.dialogs })
      (dialogs : t.dialogs.items = ds ++ [d]) (dialogs' : t'.dialogs.items = ds ++ [d'])
      (dialogFrame : d' = { d with decisions := d'.decisions })
      (decisions : d'.decisions.items = d.decisions.items ++ [decisionOf id p])
      (current : b.current = some d.id) (current' : b'.current = b.current)
      (count : b'.decisionCount = b.decisionCount + 1)

/-- Nothing is inserted, or what was gathered is, under the id that it has. -/
inductive Grows (b b' : Builder) : Prop
  | keeps (h : Keeps b b')
  | gains {id : String} {p : Token} (pending : b.pending = some p) (hid : p.id = some id)
      (hne : id ≠ "") (h : Gains b id p b')

theorem Keeps.refl (b : Builder) : Keeps b b := ⟨rfl, rfl, rfl⟩

theorem Gains.trans_keeps (h : Gains b id p b') (hk : Keeps b' b'') : Gains b id p b'' := by
  cases h with
  | dialog kind tree frame dialogs current count =>
    exact .dialog kind (hk.tree.trans tree) frame dialogs (hk.current.trans current)
      (hk.count.trans count)
  | decision kind tree tree' frame dialogs dialogs' dialogFrame decisions current current' count =>
    exact .decision kind tree (hk.tree.trans tree') frame dialogs dialogs' dialogFrame decisions
      current (hk.current.trans current') (hk.count.trans count)

theorem Grows.trans_keeps (h : Grows b b') (hk : Keeps b' b'') : Grows b b'' := by
  cases h with
  | keeps h =>
    exact .keeps ⟨hk.tree.trans h.tree, hk.current.trans h.current, hk.count.trans h.count⟩
  | gains pending hid hne h => exact .gains pending hid hne (h.trans_keeps hk)

/-- What is gathered and the lines do not matter for what an insertion does. -/
theorem Gains.of_eq {c : Builder} (h : Gains c id p b') (hoptions : c.options = b.options)
    (htree : c.tree = b.tree) (hcurrent : c.current = b.current) (hkind : c.kind = b.kind)
    (hcount : c.decisionCount = b.decisionCount) : Gains b id p b' := by
  obtain ⟨_, _, _, _, _, _, _, _⟩ := b
  obtain ⟨_, _, _, _, _, _, _, _⟩ := c
  dsimp only at hoptions htree hcurrent hkind hcount
  subst hoptions htree hcurrent hkind hcount
  cases h with
  | dialog kind tree frame dialogs current count =>
    exact .dialog kind tree frame dialogs current count
  | decision kind tree tree' frame dialogs dialogs' dialogFrame decisions current current' count =>
    exact .decision kind tree tree' frame dialogs dialogs' dialogFrame decisions current current'
      count

theorem Grows.of_nextLine (h : Grows b.nextLine b') : Grows b b' := by
  cases h with
  | keeps h => exact .keeps ⟨h.tree, h.current, h.count⟩
  | gains pending hid hne h => exact .gains pending hid hne (h.of_eq rfl rfl rfl rfl rfl)

/-! ## What is complete -/

theorem Standing.keeps (hb : b.Standing) (h : Keeps b b') : b'.Standing where
  tree_iff := by
    rw [h.tree, h.current]
    exact hb.tree_iff
  tree := by
    rw [h.tree]
    exact hb.tree
  last := by
    rw [h.tree, h.current]
    exact hb.last
  count := by
    rw [h.tree, h.count]
    exact hb.count

/-- A tree that is in order, with its last dialog as the current one. -/
theorem Standing.of_tree {t : Tree} (ht : b.tree = some t) (htidy : t.Tidy)
    (hlast : ∃ d, t.dialogs.items.getLast? = some d ∧ b.current = some d.id)
    (hcount : b.decisionCount = t.decisionCount) : b.Standing where
  tree_iff := by
    obtain ⟨d, -, hcurrent⟩ := hlast
    rw [ht, hcurrent]
    exact Iff.rfl
  tree t' ht' := by
    obtain rfl := Option.some.inj (ht.symm.trans ht')
    exact htidy
  last t' ht' := by
    obtain rfl := Option.some.inj (ht.symm.trans ht')
    exact hlast
  count := by
    rw [hcount, ht]
    rfl

/-- The current dialog is found in the tree. -/
theorem Standing.exists_current (hb : b.Standing) (h : b.current.isSome) :
    ∃ t d, b.tree = some t ∧ b.current = some d.id ∧ t.get d.id = .ok d := by
  obtain ⟨t, ht⟩ := Option.isSome_iff_exists.1 (hb.tree_iff.2 h)
  obtain ⟨d, hlast, hcurrent⟩ := hb.last t ht
  exact ⟨t, d, ht, hcurrent, Tree.get_of_mem (List.mem_of_mem_getLast? hlast)⟩

theorem treeFor_of_none (h : b.tree = none) :
    b.treeFor id = { id := b.options.treeId, root := id, score := b.options.score
                     console := b.options.console } := by
  rw [treeFor, h]
  rfl

theorem treeFor_of_some {t : Tree} (h : b.tree = some t) : b.treeFor id = t := by
  rw [treeFor, h]
  rfl

/-- The tree that the next dialog goes into has everything but, perhaps, its root. -/
theorem Standing.treeFor (hb : b.Standing) (id : String) :
    ((b.treeFor id).dialogs.items.head?.map (·.id)).getD id = (b.treeFor id).root ∧
      (b.treeFor id).dialogs.Named ∧ (∀ d ∈ (b.treeFor id).dialogs.items, d.Tidy) ∧
      b.decisionCount = (b.treeFor id).decisionCount := by
  have hcount := hb.count
  cases ht : b.tree with
  | none =>
    rw [ht] at hcount
    rw [treeFor_of_none ht]
    exact ⟨rfl, Roster.named_empty, fun d hd => absurd hd List.not_mem_nil, hcount⟩
  | some t =>
    rw [ht] at hcount
    rw [treeFor_of_some ht]
    have htidy := hb.tree t ht
    obtain ⟨d, hd, hroot⟩ := htidy.root
    exact ⟨by rw [hd, hroot]; rfl, htidy.dialogs, htidy.tidy, hcount⟩

theorem tidy_dialogOf (b : Builder) (id : String) (hp : p.link.Paired) : (b.dialogOf id p).Tidy :=
  ⟨Roster.named_empty, hp, fun _ hx => absurd hx List.not_mem_nil⟩

/-- A dialog stays tidy with one more decision. -/
theorem tidy_of_concat {d d' : Dialog} (hd : d.Tidy)
    (hframe : d' = { d with decisions := d'.decisions })
    (hitems : d'.decisions.items = d.decisions.items ++ [decisionOf id p]) (hne : id ≠ "")
    (hp : p.link.Paired) : d'.Tidy where
  decisions := hd.decisions.concat hitems hne
  link := by
    rw [hframe]
    exact hd.link
  links := by
    rw [hitems, List.forall_mem_append, List.forall_mem_singleton]
    exact ⟨hd.links, hp⟩

/-- **An insertion leaves what is complete in order.** -/
theorem Standing.gains (hb : b.Standing) (h : Gains b id p b') (hne : id ≠ "")
    (hp : p.link.Paired) : b'.Standing := by
  cases h with
  | @dialog t _ tree frame dialogs current count =>
    obtain ⟨hroot, hnamed, htidy, hcount⟩ := hb.treeFor id
    have hroot' : t.root = (b.treeFor id).root := by rw [frame]
    have htree : t.Tidy :=
      Tree.tidy_of_concat hnamed htidy dialogs (hroot.trans hroot'.symm) hne
        (b.tidy_dialogOf id hp)
    have hdecisions : t.decisionCount = (b.treeFor id).decisionCount := by
      rw [Tree.decisionCount, Tree.decisionCount, dialogs, List.flatMap_append, List.length_append]
      rfl
    exact .of_tree tree htree ⟨b.dialogOf id p, by rw [dialogs, List.getLast?_concat], current⟩
      (by rw [count, hcount, hdecisions])
  | @decision t t' ds d d' _ tree tree' frame dialogs dialogs' dialogFrame decisions current
      current' count =>
    have hid : d'.id = d.id := by rw [dialogFrame]
    have htidy := hb.tree t tree
    have hd : d.Tidy := htidy.tidy d (by rw [dialogs]; simp)
    have htree : t'.Tidy :=
      htidy.replace_last (by rw [frame]) dialogs dialogs' hid
        (tidy_of_concat hd dialogFrame decisions hne hp)
    have hcount : b.decisionCount = t.decisionCount := by
      rw [hb.count, tree]
      rfl
    have hdecisions : t'.decisionCount = t.decisionCount + 1 := by
      rw [Tree.decisionCount, Tree.decisionCount, dialogs, dialogs']
      simp [decisions, Nat.add_assoc]
    exact .of_tree tree' htree
      ⟨d', by rw [dialogs', List.getLast?_concat], by rw [current', current, hid]⟩
      (by rw [count, hcount, hdecisions])

/-! ## Completing what is gathered -/

/-- The outcomes of completing what is gathered: there is nothing, it is refused and nothing is
inserted, or it is inserted. -/
inductive Completes (b : Builder) : Option Failure × Builder → Prop
  | idle (pending : b.pending = none) : Completes b (none, b)
  | refused {f : Failure} {b' : Builder} (h : Keeps b b') : Completes b (some f, b')
  | inserted {id : String} {p : Token} {b' : Builder} (pending : b.pending = some p)
      (hid : p.id = some id) (hne : id ≠ "") (h : Gains b id p b') : Completes b (none, b')

/-- A new dialog is inserted, or it is refused and the tree stays. -/
theorem completes_addDialog (hpending : b.pending = some p) (hid : p.id = some id) (hne : id ≠ "")
    (hkind : b.kind = .dialog) (hp : p.link.Paired) :
    Completes b ({ b with pending := none }.addDialog id p) := by
  have htreeFor : { b with pending := none }.treeFor id = b.treeFor id := rfl
  simp only [addDialog, Link.make_eq_self hp, Tree.insert, htreeFor]
  cases hi : (b.treeFor id).dialogs.insert? _ with
  | none =>
    have hk := Roster.insert?_eq_none_iff.1 hi
    cases ht : b.tree with
    | none =>
      -- the first dialog finds all ids free
      rw [treeFor_of_none ht] at hk
      exact absurd hk List.not_mem_nil
    | some t =>
      have htree : some (b.treeFor id) = b.tree := by rw [treeFor_of_some ht, ht]
      exact .refused ⟨htree, rfl, rfl⟩
  | some dialogs =>
    have hitems := (Roster.insert?_eq_some_iff.1 hi).2
    exact .inserted hpending hid hne (.dialog hkind rfl rfl hitems rfl rfl)

/-- A new decision is inserted or refused. There is always a dialog to take it, so it is not
lost without a failure. -/
theorem completes_addDecision (hb : b.Coherent) (hpending : b.pending = some p)
    (hid : p.id = some id) (hne : id ≠ "") (hkind : b.kind = .decision) :
    Completes b ({ b with pending := none }.addDecision id p) := by
  have hp := hb.link p hpending
  obtain ⟨t, -, ht, -⟩ := hb.taker (by rw [hpending]; rfl) hkind
  obtain ⟨d, hlast, hcurrent⟩ := hb.last t ht
  obtain ⟨ds, hds⟩ := List.getLast?_eq_some_iff.1 hlast
  have hget := Tree.get_of_mem (List.mem_of_mem_getLast? hlast)
  simp only [addDecision, Link.make_eq_self hp, ht, hcurrent, Tree.insertDecision, hget,
    Dialog.insert]
  cases hi : d.decisions.insert? _ with
  | none => exact .refused ⟨ht.symm, hcurrent.symm, rfl⟩
  | some decisions =>
    have hitems := (Roster.insert?_eq_some_iff.1 hi).2
    have hitems' : (t.dialogs.modify d.id fun e => { e with decisions := decisions }).items =
        ds ++ [{ d with decisions := decisions }] := Roster.items_modify_of_concat hds
    exact .inserted hpending hid hne
      (.decision hkind ht rfl rfl hds hitems' rfl hitems hcurrent hcurrent.symm rfl)

theorem pending_addDialog : (b.addDialog id p).2.pending = b.pending := by
  simp only [addDialog]
  split <;> rfl

theorem pending_addDecision : (b.addDecision id p).2.pending = b.pending := by
  simp only [addDecision]
  split
  · split <;> rfl
  · rfl

/-- Nothing is gathered any more, also when completing it failed. -/
theorem pending_flush (b : Builder) : b.flush.2.pending = none := by
  unfold flush
  split
  · assumption
  · dsimp only
    split
    · rfl
    · split
      · exact pending_addDialog
      · exact pending_addDecision

/-- **Completing what is gathered inserts it, or fails and inserts nothing.** -/
theorem completes_flush (hb : b.Coherent) : Completes b b.flush := by
  cases hp : b.pending with
  | none =>
    simp only [flush, hp]
    exact .idle hp
  | some p =>
    cases hid : p.id with
    | none =>
      simp only [flush, hp, hid, Option.getD_none, if_true]
      exact .refused ⟨rfl, rfl, rfl⟩
    | some id =>
      by_cases hne : id = ""
      · simp only [flush, hp, hid, Option.getD_some, hne, if_true]
        exact .refused ⟨rfl, rfl, rfl⟩
      cases hkind : b.kind with
      | dialog =>
        simp only [flush, hp, hid, Option.getD_some, if_neg hne, hkind]
        rw [← hkind]
        exact completes_addDialog hp hid hne hkind (hb.link p hp)
      | decision =>
        simp only [flush, hp, hid, Option.getD_some, if_neg hne, hkind]
        rw [← hkind]
        exact completes_addDecision hb hp hid hne hkind

/-! ## One call -/

/-- A step keeps a builder coherent, and inserts at most what was gathered. -/
structure Step (b b' : Builder) : Prop where
  coherent : b'.Coherent
  grows : Grows b b'

theorem step_flush (hb : b.Coherent) : Step b b.flush.2 := by
  have hpending := pending_flush b
  have hcoherent : ∀ h : b.flush.2.Standing, b.flush.2.Coherent := fun h =>
    ⟨h, by simp [hpending], by simp [hpending]⟩
  have h := completes_flush hb
  generalize b.flush = r at h hcoherent
  cases h with
  | idle _ => exact ⟨hb, .keeps (.refl b)⟩
  | refused h => exact ⟨hcoherent (hb.keeps h), .keeps h⟩
  | inserted hp hid hne h =>
    exact ⟨hcoherent (hb.toStanding.gains h hne (hb.link _ hp)), .gains hp hid hne h⟩

theorem Step.trans_keeps (h : Step b b') (hk : Keeps b' b'') (hc : b''.Coherent) : Step b b'' :=
  ⟨hc, h.grows.trans_keeps hk⟩

/-- After a failed step nothing else is done. -/
theorem Step.andThen {r : Option Failure × Builder} {k : Builder → Option Failure × Builder}
    (h : Step b r.2) (hk : ∀ b', Step b b' → Step b (k b').2) : Step b (Builder.andThen r k).2 := by
  obtain ⟨_ | f, b'⟩ := r
  · exact hk b' h
  · exact h

theorem paired_scan {line : List Char} {t : Token} (h : b.scan line = .ok t) : t.link.Paired := by
  simp only [scan] at h
  split at h
  · cases h
  · rename_i t' hs
    obtain rfl := Except.ok.inj h
    rw [(Token.scan_eq_ok_iff.1 hs).2]
    exact Token.paired_ofSegments _

/-- A decision is started only when there is a dialog. -/
theorem Step.start (h : Step b b') {kind : EntityKind} {t : Token} (ht : t.link.Paired)
    (hkind : kind = .decision → b'.current.isSome) : Step b (b'.start kind t) := by
  have hk : Keeps b' (b'.start kind t) := ⟨rfl, rfl, rfl⟩
  refine h.trans_keeps hk ⟨h.coherent.keeps hk, fun _ hd => ?_, ?_⟩
  · exact h.coherent.exists_current (hkind hd)
  · rintro p hp
    obtain rfl := Option.some.inj hp
    exact ht

theorem step_feedDecision (hb : b.Coherent) (text : List Char) :
    Step b (b.feedDecision text).2 := by
  rw [feedDecision_eq]
  refine (step_flush hb).andThen fun b' h => ?_
  split
  · exact h
  · rename_i hcurrent
    split
    · exact h
    · rename_i t hs
      refine h.start (paired_scan hs) fun _ => ?_
      simpa [Option.isNone_iff_eq_none, Option.isSome_iff_ne_none] using hcurrent

/-- A line that continues an entity changes only its token, also when it is refused. -/
theorem step_continueWith {t : Token} (hb : b.Coherent) (hp : b.pending = some p)
    (ht : t.link.Paired) : Step b (b.continueWith p t).2 := by
  have hpending : b.pending.isSome := by rw [hp]; rfl
  have step : ∀ q : Token, q.link.Paired → Step b { b with pending := some q } := by
    intro q hq
    have hk : Keeps b { b with pending := some q } := ⟨rfl, rfl, rfl⟩
    refine ⟨⟨hb.keeps hk, fun _ hd => hb.taker hpending hd, ?_⟩, .keeps hk⟩
    rintro _ h
    obtain rfl := Option.some.inj h
    exact hq
  have hmerged := hb.link p hp
  cases htarget : t.link.target with
  | none =>
    simp only [continueWith, htarget]
    exact step _ hmerged
  | some target =>
    simp only [continueWith, htarget]
    split
    · exact step _ hmerged
    · exact step _ ht

theorem step_feedText (hb : b.Coherent) (text : List Char) : Step b (b.feedText text).2 := by
  have hrefl : Step b b := ⟨hb, .keeps (.refl b)⟩
  unfold feedText
  split
  · exact hrefl
  · rename_i t hs
    split
    · exact (step_flush hb).andThen fun b' h => h.start (paired_scan hs) fun e => by cases e
    · split
      · exact hrefl
      · rename_i p hp
        exact step_continueWith hb hp (paired_scan hs)

theorem Coherent.nextLine (hb : b.Coherent) : b.nextLine.Coherent :=
  ⟨hb.keeps ⟨rfl, rfl, rfl⟩, hb.taker, hb.link⟩

/-- **Feeding a line.** -/
theorem step_feed (hb : b.Coherent) (line : String) : Step b (b.feed line).2 := by
  have hrefl : Step b.nextLine b.nextLine := ⟨hb.nextLine, .keeps (.refl _)⟩
  have h : Step b.nextLine (b.feed line).2 := by
    rw [feed_eq]
    split
    · exact hrefl
    · split
      · exact hrefl
      · split
        · exact step_feedDecision hb.nextLine _
        · exact step_feedText hb.nextLine _
  exact ⟨h.coherent, h.grows.of_nextLine⟩

theorem finish_snd (b : Builder) : b.finish.2 = b.flush.2 := by
  unfold finish
  rcases b.flush with ⟨_ | f, b'⟩
  · dsimp only
    cases b'.tree <;> rfl
  · rfl

/-- **Finishing.** -/
theorem step_finish (hb : b.Coherent) : Step b b.finish.2 := by
  rw [finish_snd]
  exact step_flush hb

/-! ## Any calls -/

/-- A call on a builder. -/
inductive Call
  | feed (line : String)
  | finish
  deriving DecidableEq, Repr

/-- What a builder is after a call, also when the call fails. -/
def after (b : Builder) : Call → Builder
  | .feed line => (b.feed line).2
  | .finish => b.finish.2

/-- What a builder is after some calls. -/
def run (b : Builder) (calls : List Call) : Builder := calls.foldl after b

theorem step_after (hb : b.Coherent) (call : Call) : Step b (b.after call) := by
  cases call with
  | feed line => exact step_feed hb line
  | finish => exact step_finish hb

theorem coherent_new (options : Script.Options) : (new options).Coherent where
  tree_iff := Iff.rfl
  tree _ h := by cases h
  last _ h := by cases h
  count := rfl
  taker h := by cases h
  link _ h := by cases h

/-- **Any calls leave a builder coherent**, whether they fail or not. -/
theorem Coherent.run (hb : b.Coherent) (calls : List Call) : (b.run calls).Coherent := by
  induction calls generalizing b with
  | nil => exact hb
  | cons call calls ih => exact ih (step_after hb call).coherent

end Builder

end Plotline
