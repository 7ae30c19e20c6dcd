import Plotline.Proofs.Story.Walk

/-!
# Looking up trees

Keys and ids are looked up in one go: a key comes before an id, and of several trees with one id the
earliest counts. `Library.Names` says so by the list of the entries, without a search.

* `find_eq_some_iff`, `get_eq_ok_iff`, `get_eq_error_iff`: what a lookup gives.
* `Registers` is what one more tree does to a library, and `Registers.retells` what it does to the
  lookups.
* `Filled` are the libraries that any calls and changes make of one with nothing registered; their
  entries are on the shelf (`Filled.shelved`), so that a new tree takes nobody's place.
* `lookup_law` puts these together.
-/

namespace Plotline.Library

variable {l l' : Library} {k key : String} {r q : TreeRef} {disk : Disk} {path : Path.Spelling}

/-! ## What a lookup gives -/

/-- What a key or id names: the tree registered under the key, or, if there is none, the earliest
registered tree with this id. -/
inductive Names (l : Library) (k : String) : TreeRef → Prop
  | key {r : TreeRef} (h : ⟨k, r⟩ ∈ l.register.entries.items) : Names l k r
  | id {earlier later : List Entry} {e : Entry}
    (hkey : ∀ e ∈ l.register.entries.items, e.key ≠ k)
    (hsplit : l.register.entries.items = earlier ++ e :: later) (hid : (l.tree e.tree).id = k)
    (hfirst : ∀ e ∈ earlier, (l.tree e.tree).id ≠ k) : Names l k e.tree

/-- No registered tree has this as its key or as its id. -/
def Unknown (l : Library) (k : String) : Prop :=
  ∀ e ∈ l.register.entries.items, e.key ≠ k ∧ (l.tree e.tree).id ≠ k

theorem get?_entries_eq_none_iff :
    l.register.entries.get? k = none ↔ ∀ e ∈ l.register.entries.items, e.key ≠ k := by
  simp [Roster.get?]

theorem findById_eq :
    l.findById k =
      (l.register.entries.items.find? fun e => (l.tree e.tree).id = k).map (·.tree) := by
  rw [findById, trees, List.find?_map]
  rfl

/-- **A lookup gives what the key or id names.** -/
theorem find_eq_some_iff : l.find k = some r ↔ l.Names k r := by
  unfold find
  cases hget : l.register.entries.get? k with
  | some e =>
    obtain ⟨he, rfl⟩ := Roster.get?_eq_some_iff.1 hget
    constructor
    · intro h
      obtain rfl := Option.some.inj h
      exact .key he
    · intro h
      cases h with
      | key h =>
        have hsame := Roster.eq_of_mem_of_key_eq he h rfl
        rw [hsame]
      | id hkey => exact absurd rfl (hkey e he)
  | none =>
    have hkey := get?_entries_eq_none_iff.1 hget
    simp only [findById_eq, Option.map_eq_some_iff, List.find?_eq_some_iff_append,
      decide_eq_true_eq, Bool.not_eq_true', decide_eq_false_iff_not]
    constructor
    · rintro ⟨e, ⟨hid, earlier, later, hsplit, hfirst⟩, rfl⟩
      exact .id hkey hsplit hid hfirst
    · intro h
      cases h with
      | key h => exact absurd rfl (hkey _ h)
      | @id earlier later e _ hsplit hid hfirst =>
        exact ⟨e, ⟨hid, earlier, later, hsplit, hfirst⟩, rfl⟩

theorem find_eq_none_iff : l.find k = none ↔ l.Unknown k := by
  unfold find
  cases hget : l.register.entries.get? k with
  | some e =>
    obtain ⟨he, rfl⟩ := Roster.get?_eq_some_iff.1 hget
    exact iff_of_false (by simp) fun h => (h e he).1 rfl
  | none =>
    have hkey := get?_entries_eq_none_iff.1 hget
    simp only [findById_eq, Option.map_eq_none_iff, List.find?_eq_none, decide_eq_true_eq]
    exact ⟨fun h e he => ⟨hkey e he, h e he⟩, fun h e he => (h e he).2⟩

theorem get_eq_ok_iff : l.get k = .ok r ↔ l.Names k r := by
  rw [← find_eq_some_iff, get]
  cases l.find k <;> simp

/-- **A lookup fails exactly if there is nothing that is named so.** -/
theorem get_eq_error_iff {f : Failure} :
    l.get k = .error f ↔ l.Unknown k ∧ f = l.register.console.fail (.treeNotFound k) := by
  rw [← find_eq_none_iff, get]
  cases l.find k <;> simp [eq_comm]

theorem has_iff_get : l.has k = true ↔ ∃ r, l.get k = .ok r := by
  simp only [has_iff_find, find_eq_some_iff, get_eq_ok_iff]

/-! ## One more tree -/

/-- The library `l'` is `l` with the tree `r` registered under a new key, behind the others. -/
structure Registers (l : Library) (key : String) (r : TreeRef) (l' : Library) : Prop where
  new : ∀ e ∈ l.register.entries.items, e.key ≠ key
  entries : l'.register.entries.items = l.register.entries.items ++ [⟨key, r⟩]
  console : l'.register.console = l.register.console
  ids : ∀ e ∈ l.register.entries.items, (l'.tree e.tree).id = (l.tree e.tree).id

/-- What a newly registered tree does to the lookups. -/
structure Retells (l : Library) (key : String) (r : TreeRef) (l' : Library) : Prop where
  /-- The key finds the tree, whatever it found before. -/
  self : l'.get key = .ok r
  /-- Any other key or id that found a tree finds the same one. -/
  kept : ∀ k q, k ≠ key → l.get k = .ok q → l'.get k = .ok q
  /-- The id of the tree finds it, if it found nothing before. -/
  byId : ∀ f, l.get (l'.tree r).id = .error f → l'.get (l'.tree r).id = .ok r
  /-- Everything else that found nothing fails as before. -/
  others : ∀ k f, k ≠ key → k ≠ (l'.tree r).id → l.get k = .error f → l'.get k = .error f

namespace Registers

variable (h : l.Registers key r l')
include h

theorem forall_mem_entries {P : Entry → Prop} :
    (∀ e ∈ l'.register.entries.items, P e) ↔
      (∀ e ∈ l.register.entries.items, P e) ∧ P ⟨key, r⟩ := by
  rw [h.entries, List.forall_mem_append, List.forall_mem_singleton]

theorem names_self : l'.Names key r := by
  refine .key ?_
  rw [h.entries]
  exact List.mem_append_right _ (List.mem_singleton_self _)

theorem names_of_ne (hk : k ≠ key) (hq : l.Names k q) : l'.Names k q := by
  cases hq with
  | key hq =>
    refine .key ?_
    rw [h.entries]
    exact List.mem_append_left _ hq
  | @id earlier later e hkey hsplit hid hfirst =>
    have hmem : ∀ e' ∈ earlier ++ e :: later, (l'.tree e'.tree).id = (l.tree e'.tree).id := by
      rw [← hsplit]
      exact h.ids
    have hsplit' : l'.register.entries.items = earlier ++ e :: (later ++ [⟨key, r⟩]) := by
      rw [h.entries, hsplit]
      simp
    refine .id (h.forall_mem_entries.2 ⟨hkey, hk.symm⟩) hsplit' ?_ ?_
    · rw [hmem e (by simp), hid]
    · intro e' he'
      rw [hmem e' (List.mem_append_left _ he')]
      exact hfirst e' he'

theorem names_id (hk : l.Unknown (l'.tree r).id) : l'.Names (l'.tree r).id r := by
  by_cases hkey : key = (l'.tree r).id
  · have hself := h.names_self
    rwa [hkey] at hself
  · have hold : ∀ e ∈ l.register.entries.items, (l'.tree e.tree).id ≠ (l'.tree r).id := by
      intro e he
      rw [h.ids e he]
      exact (hk e he).2
    exact .id (h.forall_mem_entries.2 ⟨fun e he => (hk e he).1, hkey⟩) h.entries rfl hold

theorem unknown_of_ne (hk : k ≠ key) (hid : k ≠ (l'.tree r).id) (hu : l.Unknown k) :
    l'.Unknown k := by
  refine h.forall_mem_entries.2 ⟨fun e he => ?_, hk.symm, hid.symm⟩
  rw [h.ids e he]
  exact hu e he

/-- **A new tree is found under its key and, if it is the first with its id, under that; all other
lookups stay as they are.** -/
theorem retells : l.Retells key r l' where
  self := get_eq_ok_iff.2 h.names_self
  kept _ _ hk hq := get_eq_ok_iff.2 (h.names_of_ne hk (get_eq_ok_iff.1 hq))
  byId _ hf := get_eq_ok_iff.2 (h.names_id (get_eq_error_iff.1 hf).1)
  others k f hk hid hf := by
    obtain ⟨hu, rfl⟩ := get_eq_error_iff.1 hf
    rw [get_eq_error_iff, h.console]
    exact ⟨h.unknown_of_ne hk hid hu, rfl⟩

end Registers

/-! ## Registering and loading -/

/-- The warning that is due if a registered tree has this id already. -/
def RepeatWarning (l : Library) (key id : String) (postings : List Posting) : Prop :=
  ((∃ e ∈ l.register.entries.items, (l.tree e.tree).id = id) ∧
      postings = l.register.console.warn ("tree id used twice: " ++ id) ["source: " ++ key]) ∨
    (∀ e ∈ l.register.entries.items, (l.tree e.tree).id ≠ id) ∧ postings = []

theorem isSome_findById_iff {id : String} :
    (l.findById id).isSome ↔ ∃ e ∈ l.register.entries.items, (l.tree e.tree).id = id := by
  simp [findById_eq]

/-- A tree is registered exactly if the key is new. -/
theorem exists_add_iff :
    (∃ l' postings, l.add key r = .ok (l', postings)) ↔
      ∀ e ∈ l.register.entries.items, e.key ≠ key := by
  rw [← get?_entries_eq_none_iff, Roster.get?_eq_none_iff]
  constructor
  · rintro ⟨l', postings, h⟩
    obtain ⟨entries, hi, -⟩ := exists_of_add h
    exact (Roster.insert?_eq_some_iff.1 hi).1
  · intro h
    have hkey : Entry.key ⟨key, r⟩ ∉ l.register.entries.keys := h
    obtain ⟨entries, hi⟩ := Roster.exists_insert? hkey
    simp only [add, hi]
    exact ⟨_, _, rfl⟩

theorem registers_of_add {postings : List Posting} (h : l.add key r = .ok (l', postings)) :
    l.Registers key r l' := by
  have hnew := exists_add_iff.1 ⟨l', postings, h⟩
  obtain ⟨entries, hi, rfl⟩ := exists_of_add h
  exact ⟨hnew, (Roster.insert?_eq_some_iff.1 hi).2, rfl, fun _ _ => rfl⟩

theorem repeatWarning_of_add {postings : List Posting} (h : l.add key r = .ok (l', postings)) :
    l.RepeatWarning key (l'.tree r).id postings := by
  obtain ⟨entries, hi, rfl⟩ := exists_of_add h
  simp only [add, hi, Except.ok.injEq, Prod.mk.injEq, true_and] at h
  subst h
  show l.RepeatWarning key (l.tree r).id _
  by_cases hid : (l.findById (l.tree r).id).isSome
  · rw [if_pos hid]
    exact .inl ⟨isSome_findById_iff.1 hid, rfl⟩
  · rw [if_neg hid]
    rw [isSome_findById_iff] at hid
    exact .inr ⟨fun e he heq => hid ⟨e, he, heq⟩, rfl⟩

/-- The registered trees are on the shelf. -/
def Shelved (l : Library) : Prop := ∀ e ∈ l.register.entries.items, e.tree < l.shelf.length

theorem registers_of_load {loaded : Loaded} (hl : l.Shelved)
    (h : l.load disk path = .ok loaded) :
    ∃ key, path = .text key ∧ l.Registers key loaded.tree loaded.library ∧
      ∃ parsing adding, loaded.postings = parsing ++ adding ∧
        l.RepeatWarning key (loaded.library.tree loaded.tree).id adding := by
  obtain ⟨key, t, parsing, adding, hpath, -, ha, htree, hpostings⟩ := exists_of_load h
  have hids : ∀ e ∈ l.register.entries.items,
      ((l.place t).2.tree e.tree).id = (l.tree e.tree).id := fun e he => by
    rw [l.tree_place_of_lt t (hl e he)]
  rw [htree]
  refine ⟨key, hpath, ?_, parsing, adding, hpostings, ?_⟩
  · obtain ⟨hnew, hentries, hconsole, hkept⟩ := registers_of_add ha
    exact ⟨hnew, hentries, hconsole, fun e he => (hkept e he).trans (hids e he)⟩
  · rcases repeatWarning_of_add ha with ⟨⟨e, he, hid⟩, hwarn⟩ | ⟨hnone, hwarn⟩
    · exact .inl ⟨⟨e, he, (hids e he).symm.trans hid⟩, hwarn⟩
    · exact .inr ⟨fun e he hid => hnone e he ((hids e he).trans hid), hwarn⟩

/-! ## Any calls -/

/-- A change that registers nothing but what is on the shelf. -/
def Change.OnShelf (l : Library) : Change → Prop
  | .register _ r => r < l.shelf.length
  | _ => True

/-- What registering and loading make of a library with nothing registered, whether they fail or
not, with any other changes in between. -/
inductive Filled : Library → Prop
  | fresh (shelf : List Tree) (trim : Bool) (console : Console) :
    Filled { shelf := shelf, register := { trim := trim, console := console } }
  | change {l : Library} (h : Filled l) {c : Change} (hc : c.OnShelf l) : Filled (l.change c)

theorem shelved_of_add {postings : List Posting} (hl : l.Shelved) (hr : r < l.shelf.length)
    (h : l.add key r = .ok (l', postings)) : l'.Shelved := by
  obtain ⟨entries, hi, rfl⟩ := exists_of_add h
  have hentries := (Roster.insert?_eq_some_iff.1 hi).2
  intro e he
  rw [hentries, List.mem_append, List.mem_singleton] at he
  rcases he with he | rfl
  · exact hl e he
  · exact hr

theorem shelved_place (hl : l.Shelved) (t : Tree) :
    (l.place t).2.Shelved ∧ (l.place t).1 < (l.place t).2.shelf.length := by
  have hlength : (l.place t).2.shelf.length = l.shelf.length + 1 := by simp [place]
  refine ⟨fun e he => ?_, ?_⟩
  · rw [hlength]
    exact Nat.lt_succ_of_lt (hl e he)
  · rw [hlength]
    exact Nat.lt_succ_self _

/-- **Changes keep the registered trees on the shelf.** -/
theorem Shelved.change {c : Change} (hl : l.Shelved) (hc : c.OnShelf l) : (l.change c).Shelved := by
  cases c with
  | edit r place e =>
    intro e' he
    have hlength : (l.change (.edit r place e)).shelf.length = l.shelf.length := by
      simp [Library.change, modify]
    rw [hlength]
    exact hl e' he
  | shelve t => exact (shelved_place hl t).1
  | register key r =>
    cases h : l.add key r with
    | ok added =>
      simp only [Library.change, h]
      exact shelved_of_add hl hc h
    | error f =>
      simp only [Library.change, h]
      exact hl
  | load disk path =>
    cases h : l.load disk path with
    | ok loaded =>
      obtain ⟨key, t, parsing, adding, -, -, ha, -, -⟩ := exists_of_load h
      obtain ⟨hplace, hlt⟩ := shelved_place hl t
      simp only [Library.change, h]
      exact shelved_of_add hplace hlt ha
    | error f =>
      simp only [Library.change, h]
      exact hl

theorem Filled.shelved (h : l.Filled) : l.Shelved := by
  induction h with
  | fresh => exact fun e he => absurd he List.not_mem_nil
  | change _ hc ih => exact ih.change hc

/-- What holds of the lookups of a library. -/
structure LookupLaw (l : Library) : Prop where
  get_ok : ∀ k r, l.get k = .ok r ↔ l.Names k r
  get_error : ∀ k f, l.get k = .error f ↔
    l.Unknown k ∧ f = l.register.console.fail (.treeNotFound k)
  has : ∀ k, l.has k = true ↔ ∃ r, l.get k = .ok r
  /-- A tree is registered exactly if the key is new. -/
  add_ok : ∀ key r, (∃ l' postings, l.add key r = .ok (l', postings)) ↔
    ∀ e ∈ l.register.entries.items, e.key ≠ key
  /-- What registering a tree does, and when it warns. -/
  add : ∀ key r l' postings, l.add key r = .ok (l', postings) →
    l.Registers key r l' ∧ l.Retells key r l' ∧
      l.RepeatWarning key (l'.tree r).id postings
  /-- Loading a script does the same, and warns after all that the reading itself has to say. -/
  load : ∀ disk path loaded, l.load disk path = .ok loaded → ∃ key, path = .text key ∧
    l.Registers key loaded.tree loaded.library ∧ l.Retells key loaded.tree loaded.library ∧
      ∃ parsing adding, loaded.postings = parsing ++ adding ∧
        l.RepeatWarning key (loaded.library.tree loaded.tree).id adding

/-- **The law of lookups.** After any calls, a lookup gives the tree registered under a key, else
the earliest registered tree with that id, else it fails. One more tree changes what its own key
finds and, if nothing was found by its id, what that finds, and nothing else; a second tree with the
same id is let in with a warning. -/
theorem lookup_law (h : l.Filled) : LookupLaw l where
  get_ok _ _ := get_eq_ok_iff
  get_error _ _ := get_eq_error_iff
  has _ := has_iff_get
  add_ok _ _ := exists_add_iff
  add key r l' postings ha := by
    have hr := registers_of_add ha
    exact ⟨hr, hr.retells, repeatWarning_of_add ha⟩
  load disk path loaded hload := by
    obtain ⟨key, hpath, hr, hwarn⟩ := registers_of_load h.shelved hload
    exact ⟨key, hpath, hr, hr.retells, hwarn⟩

/-- Two trees on the shelf, with ids that are each other's keys. -/
def crossedShelf : List Tree := [{ id := "inn", root := "hall" }, { id := "attic", root := "hall" }]

/-- The inn is registered first. The third call fails. -/
def crossedLibrary : Library :=
  [Change.register "attic" 0, .register "inn" 1, .register "inn" 0, .register "loft" 1].foldl
    change { shelf := crossedShelf }

theorem crossed_lookup_law : crossedLibrary.Filled ∧ LookupLaw crossedLibrary := by
  have h : crossedLibrary.Filled := by
    unfold crossedLibrary
    simp only [List.foldl_cons, List.foldl_nil]
    refine .change (.change (.change (.change (.fresh crossedShelf true {}) ?_) ?_) ?_) ?_ <;>
      unfold Change.OnShelf <;> decide +kernel
  exact ⟨h, lookup_law h⟩

/-- A key comes before an id. -/
example : crossedLibrary.find "attic" = some 0 ∧ crossedLibrary.find "inn" = some 1 := by decide

end Plotline.Library
