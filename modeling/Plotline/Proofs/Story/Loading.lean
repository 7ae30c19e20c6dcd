import Plotline.Proofs.Script.Causes
import Plotline.Proofs.Story.Lookup

/-!
# Loading a list of scripts

Loading scripts one after the other takes in a beginning of the list: the paths that are new and can
be read, up to the first one that is not. What comes of this path is its own failure and nothing
else (`Library.loadAll_is_clean_prefix`). It is about a script, a file or a taken key unless the
path cannot be one at all (`Library.surrogate_in_path_is_no_file_fault`).

* `Library.Stocks` says what a library has more than another: trees at the end of the shelf,
  registered last and under their paths.
* `Library.Refuses` says what a path fails on, and `Library.load_cases` that a path is refused or
  taken in.
-/

namespace Plotline.Library

variable {l l' l'' : Library} {disk : Disk} {path : Path.Spelling}
  {scripts : List (String × Tree)}

/-! ## What is taken in -/

/-- The paths of some scripts. -/
def pathsOf (scripts : List (String × Tree)) : List Path.Spelling := scripts.map fun s => .text s.1

/-- The places that the trees of some scripts get, in order. -/
def newPlaces (l : Library) (scripts : List (String × Tree)) : List TreeRef :=
  List.range' l.shelf.length scripts.length

/-- The library with some scripts more, each a path and a tree. -/
structure Stocks (l : Library) (scripts : List (String × Tree)) (l' : Library) : Prop where
  shelf : l'.shelf = l.shelf ++ scripts.map (·.2)
  entries : l'.register.entries.items = l.register.entries.items ++
    List.zipWith Entry.mk (scripts.map (·.1)) (l.newPlaces scripts)
  trim : l'.register.trim = l.register.trim
  console : l'.register.console = l.register.console

namespace Stocks

theorem refl (l : Library) : l.Stocks [] l := ⟨by simp, by simp, rfl, rfl⟩

theorem cons {s : String × Tree} (h : l.Stocks [s] l') (h' : l'.Stocks scripts l'') :
    l.Stocks (s :: scripts) l'' where
  shelf := by
    rw [h'.shelf, h.shelf]
    simp
  entries := by
    have hlength : l'.shelf.length = l.shelf.length + 1 := by simp [h.shelf]
    rw [h'.entries, h.entries]
    simp [newPlaces, hlength, List.range'_succ]
  trim := h'.trim.trans h.trim
  console := h'.console.trans h.console

variable (h : l.Stocks scripts l')

include h

theorem options : l'.options = l.options := by
  rw [Library.options, Library.options, h.trim, h.console]

/-- The paths are the new keys. -/
theorem keys : l'.register.entries.keys = l.register.entries.keys ++ scripts.map (·.1) := by
  have hkeys : (List.zipWith Entry.mk (scripts.map (·.1)) (l.newPlaces scripts)).map Entry.key =
      scripts.map (·.1) := by
    apply List.ext_getElem <;> simp [newPlaces]
  rw [Roster.keys, h.entries, List.map_append, hkeys]
  rfl

/-- The trees that were on the shelf before are the same. -/
theorem tree_of_lt {r : TreeRef} (hr : r < l.shelf.length) : l'.tree r = l.tree r := by
  simp [tree, h.shelf, List.getD_eq_getElem?_getD, List.getElem?_append_left hr]

/-- The new places hold the new trees. -/
theorem map_tree_newPlaces : (l.newPlaces scripts).map l'.tree = scripts.map (·.2) := by
  apply List.ext_getElem
  · simp [newPlaces]
  · intro i hi hi'
    have hlength : i < scripts.length := by simpa using hi'
    simp [newPlaces, tree, h.shelf, List.getD_eq_getElem?_getD, hlength]

end Stocks

/-! ## One script -/

/-- The script at a path is not loaded: it is on the register already, or it cannot be read. -/
inductive Refuses (disk : Disk) (l : Library) (path : Path.Spelling) : Failure → Prop
  | loaded {key : String} (hpath : path = .text key) (h : key ∈ l.register.entries.keys) :
    Refuses disk l path (l.register.console.fail (.alreadyLoaded key))
  | unread {f : Failure} (hnew : ∀ key ∈ l.register.entries.keys, path ≠ .text key)
    (h : Script.load disk l.options path = .error f) : Refuses disk l path f

/-- **A path is refused, or its script is taken in.** -/
theorem load_cases (disk : Disk) (l : Library) (path : Path.Spelling) :
    (∃ f, l.load disk path = .error f ∧ l.Refuses disk path f) ∨
      ∃ key t notices loaded, path = .text key ∧
        Script.load disk l.options key = .ok (t, notices) ∧
        key ∉ l.register.entries.keys ∧ l.load disk path = .ok loaded ∧
        loaded.tree = l.shelf.length ∧ l.Stocks [(key, t)] loaded.library := by
  cases path with
  | broken b => exact .inl ⟨_, rfl, .unread (fun _ _ h => by cases h) rfl⟩
  | text key =>
    by_cases hkey : key ∈ l.register.entries.keys
    · refine .inl ⟨_, ?_, .loaded rfl hkey⟩
      rw [load, if_pos (Roster.contains_eq_true_iff.2 hkey)]
    · have hfree : ¬l.register.entries.contains key = true := fun h =>
        hkey (Roster.contains_eq_true_iff.1 h)
      cases hread : Script.load disk l.options key with
      | error f =>
        refine .inl ⟨f, ?_, .unread (fun k hk he => hkey ?_) hread⟩
        · rw [options] at hread
          rw [load, if_neg hfree, hread]
        · obtain rfl := Path.Spelling.text.inj he
          exact hk
      | ok r =>
        obtain ⟨t, notices⟩ := r
        obtain ⟨entries, hi⟩ := Roster.exists_insert? (r := l.register.entries)
          (a := ⟨key, l.shelf.length⟩) hkey
        have hload : ∃ loaded, l.load disk key = .ok loaded := by
          rw [options] at hread
          simp only [load, if_neg hfree, hread, place, add, hi]
          exact ⟨_, rfl⟩
        obtain ⟨loaded, hload⟩ := hload
        obtain ⟨key', t', notices', adding, hpath, hread', hadd, htree, -⟩ := exists_of_load hload
        obtain rfl := Path.Spelling.text.inj hpath
        obtain ⟨rfl, -⟩ := Prod.mk.inj (Except.ok.inj (hread.symm.trans hread'))
        obtain ⟨entries', hi', hlibrary⟩ := exists_of_add hadd
        refine .inr ⟨key, t, notices, loaded, rfl, hread, hkey, hload, htree, ?_⟩
        rw [hlibrary]
        exact ⟨rfl, (Roster.insert?_eq_some_iff.1 hi').2, rfl, rfl⟩

/-- A refused path fails on a script, on its file or on a taken key, if it can be a path at all. -/
theorem Refuses.family_mem {f : Failure} (h : l.Refuses disk path f) :
    f.fault.family ∈ [.script, .file, .taken] ∨ path.isPath = false := by
  cases h with
  | loaded _ _ => exact .inl (by simp [Console.fail, Fault.family])
  | unread _ h =>
    rcases Script.family_of_load h with (hf | hf) | hf | hf
    · exact .inl (by simp [hf])
    · exact .inl (by simp [hf])
    · exact .inl (by simp [hf])
    · exact .inr hf

/-! ## All scripts -/

/-- Of a list of paths, a beginning is loaded and the rest is left. All that was there before stays
as it is and comes first. -/
structure LoadsPrefix (disk : Disk) (l : Library) (paths : List Path.Spelling)
    (scripts : List (String × Tree)) (rest : List Path.Spelling) : Prop where
  split : paths = pathsOf scripts ++ rest
  /-- No path was a key before, and none comes twice. -/
  fresh : (l.register.entries.keys ++ scripts.map (·.1)).Nodup
  read : ∀ s ∈ scripts, ∃ notices, Script.load disk l.options s.1 = .ok (s.2, notices)
  stocks : l.Stocks scripts (l.loadAll disk paths).2.1
  kept : ∀ r < l.shelf.length, (l.loadAll disk paths).2.1.tree r = l.tree r
  trees : (l.newPlaces scripts).map (l.loadAll disk paths).2.1.tree = scripts.map (·.2)
  /-- The new trees in order, if nothing is left, and else the failure of the next path. -/
  answer :
    match rest with
    | [] => (l.loadAll disk paths).1 = .ok (l.newPlaces scripts)
    | path :: _ => ∃ f, (l.loadAll disk paths).1 = .error f ∧
      (l.loadAll disk paths).2.1.Refuses disk path f ∧
      (f.fault.family ∈ [.script, .file, .taken] ∨ path.isPath = false)

variable {key : String} {paths rest : List Path.Spelling} {t : Tree} {notices : List Posting}
  {loaded : Loaded}

theorem loadAll_of_load (hload : l.load disk path = .ok loaded) :
    l.loadAll disk (path :: paths) =
      ((loaded.library.loadAll disk paths).1.map (loaded.tree :: ·),
        (loaded.library.loadAll disk paths).2.1,
        loaded.postings ++ (loaded.library.loadAll disk paths).2.2) := by
  simp only [loadAll, hload]

/-- Nothing is loaded when the first path is refused. -/
theorem loadsPrefix_of_refused {f : Failure} (hload : l.load disk path = .error f)
    (h : l.Refuses disk path f) : l.LoadsPrefix disk (path :: paths) [] (path :: paths) := by
  have hall : l.loadAll disk (path :: paths) = (.error f, l, []) := by simp only [loadAll, hload]
  refine ⟨rfl, ?_, fun _ hs => absurd hs List.not_mem_nil, ?_, ?_, rfl, f, ?_⟩
  · rw [List.map_nil, List.append_nil]
    exact l.register.entries.nodup
  · rw [hall]
    exact .refl l
  · intro _ _
    rw [hall]
  · rw [hall]
    exact ⟨rfl, h, h.family_mem⟩

/-- A script that is taken in is loaded in front of what is loaded after it. -/
theorem LoadsPrefix.cons (hread : Script.load disk l.options key = .ok (t, notices))
    (hload : l.load disk key = .ok loaded) (htree : loaded.tree = l.shelf.length)
    (hstocks : l.Stocks [(key, t)] loaded.library)
    (h : loaded.library.LoadsPrefix disk paths scripts rest) :
    l.LoadsPrefix disk (key :: paths) ((key, t) :: scripts) rest := by
  have hplaces : l.newPlaces ((key, t) :: scripts) =
      loaded.tree :: loaded.library.newPlaces scripts := by
    simp [newPlaces, htree, hstocks.shelf, List.range'_succ]
  have hboth := hstocks.cons h.stocks
  have hlibrary : (l.loadAll disk (key :: paths)).2.1 =
      (loaded.library.loadAll disk paths).2.1 := by
    rw [loadAll_of_load hload]
  rw [← hlibrary] at hboth
  refine ⟨by rw [h.split]; rfl, ?_, ?_, hboth, fun r => hboth.tree_of_lt,
    hboth.map_tree_newPlaces, ?_⟩
  · have hfresh := h.fresh
    rw [hstocks.keys, List.append_assoc] at hfresh
    exact hfresh
  · rw [List.forall_mem_cons]
    refine ⟨⟨notices, hread⟩, fun s hs => ?_⟩
    rw [← hstocks.options]
    exact h.read s hs
  · have hanswer := h.answer
    rw [hlibrary, loadAll_of_load hload]
    cases rest with
    | nil =>
      dsimp only at hanswer ⊢
      rw [hanswer, hplaces]
      rfl
    | cons next more =>
      obtain ⟨f, hf, hrefuses⟩ := hanswer
      exact ⟨f, by rw [hf]; rfl, hrefuses⟩

/-- **Loading scripts takes in a clean prefix of the list.** The scripts are taken in order up to
the first path that is a key already, from before or from earlier in the list, or whose script
cannot be read. The trees are then on the register behind those from before, which are unchanged,
and the path that fails leaves nothing behind. Its failure is about a script, a file or a taken key,
unless the character NUL or a surrogate occurs in it. -/
theorem loadAll_is_clean_prefix (disk : Disk) (l : Library) (paths : List Path.Spelling) :
    ∃ scripts rest, l.LoadsPrefix disk paths scripts rest := by
  induction paths generalizing l with
  | nil =>
    refine ⟨[], [], rfl, ?_, fun _ hs => absurd hs List.not_mem_nil, .refl l, fun _ _ => rfl, rfl,
      rfl⟩
    rw [List.map_nil, List.append_nil]
    exact l.register.entries.nodup
  | cons path paths ih =>
    rcases l.load_cases disk path with ⟨f, hload, hrefuses⟩ |
      ⟨key, t, notices, loaded, rfl, hread, -, hload, htree, hstocks⟩
    · exact ⟨[], path :: paths, loadsPrefix_of_refused hload hrefuses⟩
    · obtain ⟨scripts, rest, h⟩ := ih loaded.library
      exact ⟨_, rest, h.cons hread hload htree hstocks⟩

/-- A surrogate in front of `.txt`. The character NUL does not occur in this path. -/
def surrogatePath : Path.Spelling := .broken ⟨"", ⟨0xD800, .inl (by decide)⟩, 0⟩

theorem surrogate_in_path_is_no_file_fault :
    ∃ f, (loadAll (fun _ => .error .notFound) {} [surrogatePath]).1 = .error f ∧
      f.fault.family ∉ [.script, .file, .taken] :=
  ⟨⟨.brokenPath ⟨"", ⟨0xD800, .inl (by decide)⟩, 0⟩, "  "⟩, rfl, by decide⟩

/-- The second path leads to the same file but is another key; the third one is a key by then. -/
example :
    let disk : Disk := fun p =>
      if p.toString = "gate.txt" then .ok [36, 91, 103, 97, 116, 101, 93] else .error .notFound
    let r := loadAll disk {} ["gate.txt", "./gate.txt", "gate.txt", "yard.txt"]
    r.1 = .error (Console.fail {} (.alreadyLoaded "gate.txt")) ∧
      r.2.1.register.entries.keys = ["gate.txt", "./gate.txt"] := by
  decide +kernel

end Plotline.Library
