import Plotline.Proofs.Script.Chapters

/-!
# The tree so far

A builder keeps the complete groups as a tree and the last group as a token. `Builder.Drafts` says
which chapters the tree of a builder stands for.

* `Builder.continueWith_group`: a line is added to a group exactly if it brings no second link.
* `Builder.flush_group`: completing a group succeeds exactly if the group has an id and the chapters
  stay distinct, and then adds the group to the chapters.
-/

namespace Plotline.Builder

open Marker (Token)
open Script (Line Group Chapter Distinct addGroup)

variable {b : Builder} {g : Group} {cs : List Chapter}

/-- A step of a builder goes through exactly if `ok` holds, and then leaves a builder with
`post`. -/
def GoesThrough (r : Option Failure × Builder) (ok : Prop) (post : Builder → Prop) : Prop :=
  match r with
  | (none, b) => ok ∧ post b
  | (some _, _) => ¬ok

theorem GoesThrough.imp {r : Option Failure × Builder} {ok ok' : Prop} {post post' : Builder → Prop}
    (h : GoesThrough r ok post) (hok : ok ↔ ok') (hpost : ∀ b, ok → post b → post' b) :
    GoesThrough r ok' post' := by
  obtain ⟨_ | f, b⟩ := r
  · exact ⟨hok.1 h.1, hpost b h.1 h.2⟩
  · exact fun h' => h (hok.2 h')

/-- One step and, unless it failed, another one. -/
def andThen (r : Option Failure × Builder) (k : Builder → Option Failure × Builder) :
    Option Failure × Builder :=
  match r with
  | (some f, b) => (some f, b)
  | (none, b) => k b

/-- Two steps go through exactly if both do. -/
theorem GoesThrough.andThen {r : Option Failure × Builder} {k : Builder → Option Failure × Builder}
    {ok ok' : Prop} {post post' : Builder → Prop} (h : GoesThrough r ok post)
    (hk : ∀ b, post b → GoesThrough (k b) ok' post') :
    GoesThrough (Builder.andThen r k) (ok ∧ ok') post' := by
  obtain ⟨_ | f, b⟩ := r
  · exact (hk b h.2).imp ⟨fun h' => ⟨h.1, h'⟩, fun h' => h'.2⟩ fun _ _ h' => h'
  · exact fun h' => h h'.1

/-- The complete part of a builder stands for these chapters. -/
structure Drafts (b : Builder) (cs : List Chapter) : Prop where
  current : b.current = cs.getLast?.map (·.head.id)
  count : b.decisionCount = (cs.flatMap (·.rest)).length
  tree :
    match b.tree with
    | none => cs = []
    | some t => cs ≠ [] ∧ Script.Describes b.options cs t

/-- **A line continues a group exactly if it brings no second link.** -/
theorem continueWith_group (b : Builder) {l : Line} (hl : l.Scans) (hg : g.links.length ≤ 1) :
    GoesThrough (b.continueWith g.token (Token.ofSegments l.segments))
      ((g.concat l).links.length ≤ 1) fun b' => b' = { b with pending := (g.concat l).token } := by
  have hlink := g.isSome_target_link_iff
  rw [Group.links_concat, Group.token_concat, Group.link, Group.links_concat]
  cases h : Marker.links l.segments with
  | nil =>
    have ht : (Token.ofSegments l.segments).link.target = none := by simp [Token.ofSegments, h]
    simp only [continueWith, ht, List.append_nil]
    exact ⟨hg, rfl⟩
  | cons k ks =>
    have hk : ks = [] := by
      have := hl.2
      rw [h, List.length_cons] at this
      exact List.eq_nil_of_length_eq_zero (by omega)
    subst hk
    have hmem : k ∈ Marker.links l.segments := by simp [h]
    obtain ⟨kind, target, rfl⟩ := Marker.exists_into_of_mem_links hmem
    have ht : (Token.ofSegments l.segments).link = .into kind target := by
      simp [Token.ofSegments, h]
    simp only [continueWith, ht, Link.into, Token.hasLink]
    cases hgl : g.links with
    | nil =>
      have : g.token.link.target.isSome = false := by
        rw [Bool.eq_false_iff, ne_eq, Group.token, hlink, hgl]
        simp
      simp only [this, Bool.false_eq_true, if_false]
      exact ⟨by simp, by simp [Group.token]; rfl⟩
    | cons k' ks' =>
      have : g.token.link.target.isSome = true := by
        rw [Group.token, hlink, hgl]
        simp
      simp only [this, if_true]
      have hlt : ¬(k' :: ks' ++ [Link.into kind target]).length ≤ 1 := by simp
      exact hlt

/-! ## Completing a group -/

/-- The tree that the next dialog goes into. -/
theorem Drafts.treeFor (hd : b.Drafts cs) (id : String) :
    List.Forall₂ (Chapter.Describes b.options.console) cs (b.treeFor id).dialogs.items ∧
      (b.treeFor id).id = b.options.treeId ∧ (b.treeFor id).score = b.options.score ∧
      (b.treeFor id).console = b.options.console ∧
      (cs.head?.map (·.head.id)).getD id = (b.treeFor id).root := by
  have h := hd.tree
  cases ht : b.tree with
  | none =>
    rw [ht] at h
    subst h
    rw [Builder.treeFor, ht]
    exact ⟨.nil, rfl, rfl, rfl, rfl⟩
  | some t =>
    rw [ht] at h
    rw [Builder.treeFor, ht]
    exact ⟨h.2.dialogs, h.2.id, h.2.score, h.2.console, by rw [h.2.root]; rfl⟩

theorem addDialog_group (hd : b.Drafts cs) (hg : g.isDialog = true) :
    GoesThrough (b.addDialog g.id g.token) (Distinct (addGroup cs g)) fun b' =>
      b'.Drafts (addGroup cs g) ∧ b'.options = b.options ∧ b'.pending = b.pending := by
  obtain ⟨hds, hid, hscore, hconsole, hroot⟩ := hd.treeFor g.id
  rw [Script.addGroup_of_isDialog hg]
  simp only [addDialog, Tree.insert]
  cases hi : (b.treeFor g.id).dialogs.insert? _ with
  | none =>
    have hk := Roster.insert?_eq_none_iff.1 hi
    rw [Script.keys_eq_of_forall₂ hds] at hk
    intro hdis
    have := hdis.dialogs
    rw [List.map_append, List.nodup_append] at this
    exact this.2.2 _ hk _ (by simp) rfl
  | some dialogs =>
    obtain ⟨-, hitems⟩ := Roster.insert?_eq_some_iff.1 hi
    have hdesc : Script.Describes b.options (cs ++ [⟨g, []⟩])
        { b.treeFor g.id with dialogs := dialogs } := by
      refine ⟨hid, hscore, hconsole, ?_, ?_⟩
      · rw [← hroot]
        cases cs <;> rfl
      · rw [hitems]
        refine List.rel_append hds (.cons ⟨rfl, ?_, g.link_eq_make, rfl, rfl⟩ .nil)
        rw [Group.message_token]
    exact ⟨hdesc.distinct, ⟨by simp, by simpa using hd.count, by simp, hdesc⟩, rfl, rfl⟩

theorem addDecision_group {c : Chapter} (hd : b.Drafts (cs ++ [c])) (hg : g.isDialog = false) :
    GoesThrough (b.addDecision g.id g.token) (Distinct (addGroup (cs ++ [c]) g)) fun b' =>
      b'.Drafts (addGroup (cs ++ [c]) g) ∧ b'.options = b.options ∧ b'.pending = b.pending := by
  have h := hd.tree
  cases ht : b.tree with
  | none =>
    rw [ht] at h
    simp at h
  | some t =>
    rw [ht] at h
    obtain ⟨-, hdesc⟩ := h
    have hcur : b.current = some c.head.id := by simpa using hd.current
    obtain ⟨ds, d, hitems, hds, hcd⟩ := Script.exists_of_forall₂_concat hdesc.dialogs
    have hget : t.dialogs.get? c.head.id = some d :=
      Roster.get?_eq_some_iff.2 ⟨by simp [hitems], hcd.id⟩
    rw [Script.addGroup_of_not_isDialog hg]
    simp only [addDecision, ht, hcur, Tree.insertDecision, Tree.get, hget, Dialog.insert]
    cases hi : d.decisions.insert? _ with
    | none =>
      have hk := Roster.insert?_eq_none_iff.1 hi
      rw [hcd.keys] at hk
      intro hdis
      have := hdis.decisions ⟨c.head, c.rest ++ [g]⟩ (by simp)
      rw [List.map_append, List.nodup_append] at this
      exact this.2.2 _ hk _ (by simp) rfl
    | some decisions =>
      obtain ⟨-, hdecs⟩ := Roster.insert?_eq_some_iff.1 hi
      have hx : g.decision = { id := g.id, message := some (Script.message g.token.text)
                               link := .make g.token.link.target g.token.link.kind } := by
        have hl : Link.make g.token.link.target g.token.link.kind = g.link := g.link_eq_make
        rw [Group.decision, Group.message_token, hl]
      have hdesc' : Script.Describes b.options (cs ++ [⟨c.head, c.rest ++ [g]⟩])
          { t with
            dialogs := t.dialogs.modify c.head.id fun d => { d with decisions := decisions } } := by
        refine ⟨hdesc.id, hdesc.score, hdesc.console, ?_, ?_⟩
        · rw [← hdesc.root]
          cases cs <;> rfl
        · rw [← hcd.id, Roster.items_modify_of_concat hitems]
          refine List.rel_append hds (.cons ⟨hcd.id, hcd.message, hcd.link, hcd.console, ?_⟩ .nil)
          rw [hdecs, hcd.decisions, List.map_append, List.map_singleton, hx]
      have hcount : b.decisionCount + 1 =
          ((cs ++ [(⟨c.head, c.rest ++ [g]⟩ : Chapter)]).flatMap (·.rest)).length := by
        rw [hd.count]
        simp [Nat.add_assoc]
      exact ⟨hdesc'.distinct, ⟨by simp, hcount, by simp, hdesc'⟩, rfl, rfl⟩

/-- **A group is completed exactly if it has an id and the chapters stay distinct.** -/
theorem flush_group (hd : b.Drafts cs) (hp : b.pending = some g.token)
    (hk : g.head.starts = some b.kind) (hc : cs = [] → g.isDialog = true) :
    GoesThrough b.flush (g.id ≠ "" ∧ Distinct (addGroup cs g)) fun b' =>
      b'.Drafts (addGroup cs g) ∧ b'.options = b.options ∧ b'.pending = none := by
  have hd' : { b with pending := none }.Drafts cs := ⟨hd.current, hd.count, hd.tree⟩
  have hid : g.token.id.getD "" = g.id := rfl
  simp only [flush, hp, hid]
  by_cases hempty : g.id = ""
  · rw [if_pos hempty]
    exact fun h => h.1 hempty
  have hok : Distinct (addGroup cs g) ↔ g.id ≠ "" ∧ Distinct (addGroup cs g) :=
    ⟨fun h => ⟨hempty, h⟩, fun h => h.2⟩
  rw [if_neg hempty]
  cases hkind : b.kind with
  | dialog =>
    rw [hkind] at hd'
    exact (addDialog_group hd' (by simp [Group.isDialog, hk, hkind])).imp hok fun _ _ h => h
  | decision =>
    have hg : g.isDialog = false := by simp [Group.isDialog, hk, hkind]
    obtain rfl | ⟨cs, c, rfl⟩ := List.eq_nil_or_concat' cs
    · simp [hg] at hc
    rw [hkind] at hd'
    exact (addDecision_group hd' hg).imp hok fun _ _ h => h

end Plotline.Builder
