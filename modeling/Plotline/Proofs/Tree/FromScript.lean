import Plotline.Proofs.Script.Parse
import Plotline.Proofs.Tree.Links
import Plotline.Script.File

/-!
# Trees from scripts

What holds of every tree that was read from a script, also after its messages and scores were
changed and its decisions enabled or disabled: it has its root, and each of its links has a target
and a kind or neither (`Tree.FromScript.sound`).

Both follow from the chapters that the tree stands for, and from then on only ids and links matter
(`Tree.SameLinks`).
-/

namespace Plotline

namespace Tree

/-- Trees that come from scripts: a tree that was read from lines or from a file, and what edits and
choices make of it that set no part of a link. -/
inductive FromScript : Tree → Prop
  | parse {options : Script.Options} {script : List String} {t : Tree} {notices : List Posting}
      (h : Script.parse options script = .ok (t, notices)) : FromScript t
  | load {disk : Disk} {options : Script.Options} {path : String} {t : Tree}
      {notices : List Posting} (h : Script.load disk options path = .ok (t, notices)) : FromScript t
  | edit {t : Tree} (h : FromScript t) (place : Place) {e : Edit} (he : e.KeepsLinks) :
    FromScript (t.edit place e)
  | addScore {t : Tree} (h : FromScript t) (n : Int) : FromScript (t.addScore n)

/-! ## Sound trees -/

/-- The tree has its root, and its links have a target and a kind or neither. -/
structure Sound (t : Tree) : Prop where
  root : t.root ∈ t.dialogs.keys
  paired : ∀ o ∈ t.owners, o.link.Paired

theorem Sound.of_sameLinks {t t' : Tree} (h : t.Sound) (hs : t.SameLinks t') : t'.Sound where
  root := by
    rw [hs.root, hs.keys]
    exact h.root
  paired := by
    rw [hs.owners]
    exact h.paired

end Tree

namespace Script

theorem Chapter.Describes.paired {console : Console} {c : Chapter} {d : Dialog}
    (h : c.Describes console d) : ∀ o ∈ d.owners, o.link.Paired := by
  intro o ho
  rcases List.mem_cons.1 ho with rfl | ho
  · show d.link.Paired
    rw [h.link]
    exact c.head.paired_link
  · obtain ⟨x, hx, rfl⟩ := List.mem_map.1 ho
    rw [h.decisions] at hx
    obtain ⟨g, -, rfl⟩ := List.mem_map.1 hx
    exact g.paired_link

variable {options : Options} {t : Tree}

/-- **A tree that stands for chapters is sound.** -/
theorem Describes.sound {cs : List Chapter} (h : Describes options cs t) : t.Sound where
  root := by
    obtain ⟨c, hc, hroot⟩ := Option.map_eq_some_iff.1 h.root
    rw [keys_eq_of_forall₂ h.dialogs, ← hroot]
    exact List.mem_map_of_mem (List.mem_of_mem_head? hc)
  paired o ho := by
    obtain ⟨d, hd, ho⟩ := List.mem_flatMap.1 ho
    obtain ⟨c, -, hc⟩ := exists_mem_of_forall₂ h.dialogs.flip hd
    exact hc.paired o ho

theorem sound_of_parse {script : List String} {notices : List Posting}
    (h : parse options script = .ok (t, notices)) : t.Sound :=
  (describes_of_parse h).2.sound

/-- Octets that give a tree were parsed as lines. -/
theorem exists_parse_of_parseOctets {path : String} {octets : List UInt8} {r : Tree × List Posting}
    (h : parseOctets options path octets = .ok r) : ∃ script, parse options script = .ok r := by
  simp only [parseOctets] at h
  split at h
  · exact ⟨_, h⟩
  · split at h <;> cases h

theorem exists_parse_of_load {disk : Disk} {path : String} {r : Tree × List Posting}
    (h : load disk options path = .ok r) : ∃ options script, parse options script = .ok r := by
  simp only [load] at h
  split at h
  · cases h
  · split at h
    · cases h
    · exact ⟨_, exists_parse_of_parseOctets h⟩

end Script

/-- **Trees from scripts are sound.** -/
theorem Tree.FromScript.sound {t : Tree} (h : t.FromScript) : t.Sound := by
  induction h with
  | parse h => exact Script.sound_of_parse h
  | load h =>
    obtain ⟨options, script, h⟩ := Script.exists_parse_of_load h
    exact Script.sound_of_parse h
  | edit _ place he ih => exact ih.of_sameLinks (sameLinks_edit _ place he)
  | addScore _ n ih => exact ih.of_sameLinks (sameLinks_addScore _ n)

end Plotline
