import Plotline.Proofs.Script.Parse
import Plotline.Proofs.Tree.Spaces

/-!
# Trimming is cosmetic

A script is read twice, once with the spaces behind markers skipped and once with them kept. The two
builders go abreast (`Builder.Abreast`): line by line both fail or both go on, and what they have
gathered differs in spaces only. So both scripts give a tree or both do not, and trees and failures
differ in spaces only (`Script.trimming_is_cosmetic`).
-/

namespace Plotline

open Marker (Token)

theorem Script.spaced_message {t u : String} (h : Text.Spaced t u) :
    Text.Spaced (Script.message t) (Script.message u) := by
  rw [Text.spaced_iff, message, message, String.toList_ofList, String.toList_ofList]
  exact Text.padded_joinLines (Text.spaced_iff.1 h).tidyLines

namespace Builder

/-- A builder with the trimming and one without it, which differ in the spaces of texts only. -/
structure Spaced (b c : Builder) : Prop where
  trim : b.options.trim = true
  options : c.options = { b.options with trim := false }
  tree : Option.Rel Tree.Spaced b.tree c.tree
  current : b.current = c.current
  pending : Option.Rel Token.Spaced b.pending c.pending
  kind : b.kind = c.kind
  startLine : b.startLine = c.startLine
  lineCount : b.lineCount = c.lineCount
  decisionCount : b.decisionCount = c.decisionCount

/-- Two steps that both fail or both go through, and leave builders which differ in spaces only. -/
inductive Abreast : Option Failure × Builder → Option Failure × Builder → Prop
  | go {b c : Builder} (h : b.Spaced c) : Abreast (none, b) (none, c)
  | fail {b c : Builder} {f g : Failure} (h : b.Spaced c) (hf : f.Spaced g) :
    Abreast (some f, b) (some g, c)

variable {b c : Builder} {t u : Token}

/-- Steps that go abreast one after the other. -/
theorem Abreast.andThen {r r' : Option Failure × Builder}
    {k k' : Builder → Option Failure × Builder} (h : Abreast r r')
    (hk : ∀ b c : Builder, b.Spaced c → Abreast (k b) (k' c)) :
    Abreast (Builder.andThen r k) (Builder.andThen r' k') := by
  cases h with
  | go h => exact hk _ _ h
  | fail h hf => exact .fail h hf

theorem Spaced.fail (h : b.Spaced c) {f g : Fault} (hf : f.Spaced g) :
    (b.fail f).Spaced (c.fail g) := by
  rw [Builder.fail, Builder.fail, h.options]
  exact Console.spaced_fail _ hf

/-! ## Completing an entity -/

theorem Spaced.treeFor (h : b.Spaced c) (root : String) :
    (b.treeFor root).Spaced (c.treeFor root) := by
  have ht := h.tree
  rw [Builder.treeFor, Builder.treeFor, h.options]
  generalize b.tree = r, c.tree = r' at ht
  cases ht with
  | none => exact ⟨rfl, rfl, rfl, rfl, .empty⟩
  | some ht => exact ht

theorem abreast_addDialog (h : b.Spaced c) (id : String) (ht : t.Spaced u) :
    Abreast (b.addDialog id t) (c.addDialog id u) := by
  have htree := h.treeFor id
  have hd : Dialog.Spaced
      { id := id, message := some (Script.message t.text)
        link := .make t.link.target t.link.kind, console := b.options.console }
      { id := id, message := some (Script.message u.text)
        link := .make u.link.target u.link.kind, console := c.options.console } :=
    ⟨rfl, .some (Script.spaced_message ht.text), by rw [ht.link], by rw [h.options], .empty⟩
  have hi := Tree.agree_insert htree hd
  unfold addDialog
  dsimp only
  generalize (b.treeFor id).insert _ = r, (c.treeFor id).insert _ = r' at hi
  cases hi with
  | error hf => exact .fail { h with tree := .some htree } hf
  | ok hi => exact .go { h with tree := .some hi, current := rfl }

theorem abreast_addDecision (h : b.Spaced c) (id : String) (ht : t.Spaced u) :
    Abreast (b.addDecision id t) (c.addDecision id u) := by
  have htree := h.tree
  have hx : Decision.Spaced
      { id := id, message := some (Script.message t.text)
        link := .make t.link.target t.link.kind }
      { id := id, message := some (Script.message u.text)
        link := .make u.link.target u.link.kind } :=
    ⟨rfl, .some (Script.spaced_message ht.text), by rw [ht.link], rfl, rfl⟩
  unfold addDecision
  dsimp only
  rw [h.current]
  generalize b.tree = r, c.tree = r' at htree
  cases htree with
  | none => exact .fail h (h.fail (.refl _))
  | @some tree tree' htree =>
    cases c.current with
    | none => exact .fail h (h.fail (.refl _))
    | some dialog =>
      have hi := Tree.agree_insertDecision htree dialog hx
      dsimp only
      generalize tree.insertDecision dialog _ = r, tree'.insertDecision dialog _ = r' at hi
      cases hi with
      | error hf => exact .fail h hf
      | ok hi =>
        exact .go { h with
          tree := .some hi, current := rfl, decisionCount := congrArg (· + 1) h.decisionCount }

theorem abreast_add (h : b.Spaced c) (id : String) (ht : t.Spaced u) :
    Abreast
      (match b.kind with
        | .dialog => b.addDialog id t
        | .decision => b.addDecision id t)
      (match c.kind with
        | .dialog => c.addDialog id u
        | .decision => c.addDecision id u) := by
  rw [h.kind]
  cases c.kind with
  | dialog => exact abreast_addDialog h id ht
  | decision => exact abreast_addDecision h id ht

theorem abreast_flush (h : b.Spaced c) : Abreast b.flush c.flush := by
  have hp := h.pending
  unfold flush
  generalize b.pending = r, c.pending = r' at hp
  cases hp with
  | none => exact .go h
  | @some t u ht =>
    have h' : Spaced { b with pending := none } { c with pending := none } :=
      { h with pending := .none }
    have hf : Fault.Spaced (.missingId b.kind b.startLine t) (.missingId c.kind c.startLine u) := by
      rw [h.kind, h.startLine]
      exact ⟨rfl, rfl, rfl, .some ht⟩
    dsimp only
    rw [ht.id]
    split
    · exact .fail h' (h'.fail hf)
    · exact abreast_add h' _ ht

/-! ## One line -/

theorem agree_scan (h : b.Spaced c) (line : List Char) :
    Agree Failure.Spaced Token.Spaced (b.scan line) (c.scan line) := by
  have hs := Token.agree_scan line (.refl {})
  unfold scan
  rw [h.trim, h.options]
  generalize ({} : Token).scan true line = r, ({} : Token).scan false line = r' at hs
  cases hs with
  | error hf => exact .error (h.fail hf)
  | ok ht => exact .ok ht

theorem Spaced.start (h : b.Spaced c) (kind : EntityKind) (ht : t.Spaced u) :
    (b.start kind t).Spaced (c.start kind u) :=
  { h with pending := .some ht, kind := rfl, startLine := h.lineCount }

theorem abreast_continueWith {p q : Token} (h : b.Spaced c) (hp : p.Spaced q) (ht : t.Spaced u) :
    Abreast (b.continueWith p t) (c.continueWith q u) := by
  have hm : Token.Spaced { p with text := p.text ++ "\n" ++ t.text }
      { q with text := q.text ++ "\n" ++ u.text } :=
    ⟨(hp.text.append (.refl _)).append ht.text, hp.id, hp.link⟩
  have hb : Spaced { b with pending := some { p with text := p.text ++ "\n" ++ t.text } }
      { c with pending := some { q with text := q.text ++ "\n" ++ u.text } } :=
    { h with pending := .some hm }
  have hlink : p.link.target.isSome = q.link.target.isSome := by rw [hp.link]
  unfold continueWith Token.hasLink
  dsimp only
  rw [ht.link, hlink]
  cases u.link.target with
  | none => exact .go hb
  | some target =>
    have hf : Fault.Spaced
        (.secondLinkOnLine target b.lineCount { p with text := p.text ++ "\n" ++ t.text })
        (.secondLinkOnLine target c.lineCount { q with text := q.text ++ "\n" ++ u.text }) := by
      rw [h.lineCount]
      exact ⟨rfl, rfl, rfl, .some hm⟩
    dsimp only
    split
    · exact .fail hb (h.fail hf)
    · exact .go { h with pending := .some ⟨hm.text, hm.id, rfl⟩ }

theorem abreast_feedDecision (h : b.Spaced c) (line : List Char) :
    Abreast (b.feedDecision line) (c.feedDecision line) := by
  rw [feedDecision_eq, feedDecision_eq]
  refine (abreast_flush h).andThen fun b c h => ?_
  rw [h.current, h.lineCount]
  split
  · exact .fail h (h.fail (.refl _))
  · have hs := agree_scan h (line.dropWhile (· = ' '))
    generalize b.scan _ = r, c.scan _ = r' at hs
    cases hs with
    | error hf => exact .fail h hf
    | ok ht => exact .go (h.start .decision ht)

theorem abreast_feedText (h : b.Spaced c) (line : List Char) :
    Abreast (b.feedText line) (c.feedText line) := by
  have hs := agree_scan h line
  unfold feedText
  generalize b.scan line = r, c.scan line = r' at hs
  cases hs with
  | error hf => exact .fail h hf
  | @ok t u ht =>
    have hid : t.hasId = u.hasId := by rw [Token.hasId, ht.id, Token.hasId]
    dsimp only
    rw [hid]
    split
    · exact (abreast_flush h).andThen fun b c h => .go (h.start .dialog ht)
    · have hp := h.pending
      generalize b.pending = r, c.pending = r' at hp
      cases hp with
      | none =>
        rw [h.lineCount]
        exact .fail h (h.fail ⟨rfl, rfl, rfl, .some ht⟩)
      | some hp => exact abreast_continueWith h hp ht

theorem abreast_feed (h : b.Spaced c) (line : String) : Abreast (b.feed line) (c.feed line) := by
  have h' : b.nextLine.Spaced c.nextLine := { h with lineCount := congrArg (· + 1) h.lineCount }
  rw [feed_eq, feed_eq]
  split
  · exact .go h'
  · split
    · exact .go h'
    · split
      · exact abreast_feedDecision h' _
      · exact abreast_feedText h' _

/-! ## Whole scripts -/

/-- Notices look at ids, links and counts only. -/
theorem Spaced.notices (h : b.Spaced c) {t u : Tree} (ht : t.Spaced u) :
    b.notices t = c.notices u := by
  have hsize : t.dialogs.size = u.dialogs.size := ht.dialogs.length_eq
  have hlinks := ht.sameLinks
  rw [Builder.notices, Builder.notices, h.options, hlinks.contains, hlinks.root, hlinks.id,
    hlinks.danglingLinks, h.decisionCount, hsize]

theorem agree_finish (h : b.Spaced c) :
    Agree Failure.Spaced (fun r r' => r.1.Spaced r'.1 ∧ r.2 = r'.2) b.finish.1 c.finish.1 := by
  have hflush := abreast_flush h
  unfold finish
  generalize b.flush = r, c.flush = r' at hflush
  cases hflush with
  | fail _ hf => exact .error hf
  | @go b c h =>
    have ht := h.tree
    dsimp only
    generalize b.tree = r, c.tree = r' at ht
    cases ht with
    | none =>
      rw [h.options]
      exact .error (h.fail (.refl _))
    | some ht => exact .ok ⟨ht, h.notices ht⟩

/-- **Builders that differ in spaces only finish a script alike.** -/
theorem agree_complete (h : b.Spaced c) (script : List String) :
    Agree Failure.Spaced (fun r r' => r.1.Spaced r'.1 ∧ r.2 = r'.2) (b.complete script)
      (c.complete script) := by
  induction script generalizing b c with
  | nil => exact agree_finish h
  | cons line script ih =>
    have hfeed := abreast_feed h line
    rw [complete_cons, complete_cons]
    generalize b.feed line = r, c.feed line = r' at hfeed
    cases hfeed with
    | fail _ hf => exact .error hf
    | go h => exact ih h

end Builder

/-- **Trimming is cosmetic.** With the spaces behind markers skipped and with them kept, a script
either gives two trees that differ in the spaces of messages only, with the same notices, or two
failures of one kind and with one message, whose tokens differ in the spaces of their texts only. -/
theorem Script.trimming_is_cosmetic (treeId : String) (score : Int) (console : Console)
    (script : List String) :
    Agree Failure.Spaced (fun r r' => r.1.Spaced r'.1 ∧ r.2 = r'.2)
      (parse { trim := true, treeId := treeId, score := score, console := console } script)
      (parse { trim := false, treeId := treeId, score := score, console := console } script) := by
  have hnew : Builder.Spaced
      (Builder.new { trim := true, treeId := treeId, score := score, console := console })
      (Builder.new { trim := false, treeId := treeId, score := score, console := console }) :=
    ⟨rfl, rfl, .none, rfl, .none, rfl, rfl, rfl, rfl⟩
  exact Builder.agree_complete hnew script

end Plotline
