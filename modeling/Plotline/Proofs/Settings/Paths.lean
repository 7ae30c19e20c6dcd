import Plotline.Settings.Basic

/-!
# Settings by their paths

Every setting has a path, and only what a value holds at that path counts for it. Reading settings
off a value whose integers can all be shown fails for two causes only: the level has no integer, or,
if it has one, the scripts are a number, a truth value, a date or a moment that counts as true.

* `Datum.Lacks` says that there is nothing at a path, and why (`Datum.at?_eq_none_iff`).
* `Settings.Fails` lists the causes, and `Settings.Reads` says what each setting is.
* `Settings.path_law` puts them together for all values.
-/

namespace Plotline

namespace Datum

variable {d v : Datum} {key : String} {path : List String}

/-! ## What is at a path -/

/-- Nothing is at the path: what is at the end of some part of it is no mapping, or a mapping
without the next key. -/
def Lacks (d : Datum) (path : List String) : Prop :=
  ∃ before key after v, path = before ++ key :: after ∧ d.at? before = some v ∧
    ∀ entries, v = .map entries → ∀ w, (.text key, w) ∉ entries

theorem get?_eq_none_iff :
    d.get? key = none ↔ ∀ entries, d = .map entries → ∀ w, (.text key, w) ∉ entries := by
  cases d with
  | map entries =>
    simp only [get?, Option.map_eq_none_iff, List.find?_eq_none, map.injEq, forall_eq']
    constructor
    · intro h w hw
      simpa using h _ hw
    · rintro h ⟨k, w⟩ he
      cases k with
      | text s =>
        have hs : s ≠ key := fun e => h w (e ▸ he)
        simpa using hs
      | _ => simp
  | _ => simp [get?]

/-- **Nothing is found at a path exactly if a key on it is missing or something on the way is no
mapping.** -/
theorem at?_eq_none_iff : d.at? path = none ↔ d.Lacks path := by
  induction path generalizing d with
  | nil =>
    refine iff_of_false (by simp [at?]) ?_
    rintro ⟨before, key, after, v, hpath, -⟩
    simp at hpath
  | cons key path ih =>
    rw [at?, Option.bind_eq_none_iff]
    constructor
    · intro h
      cases hget : d.get? key with
      | none => exact ⟨[], key, path, d, rfl, rfl, get?_eq_none_iff.1 hget⟩
      | some v =>
        obtain ⟨before, key', after, w, rfl, hat, hw⟩ := ih.1 (h v hget)
        exact ⟨key :: before, key', after, w, rfl, by rw [at?, hget]; exact hat, hw⟩
    · rintro ⟨before, key', after, w, hpath, hat, hw⟩ v hget
      cases before with
      | nil =>
        obtain ⟨rfl, rfl⟩ := List.cons.inj hpath
        obtain rfl := Option.some.inj hat
        rw [get?_eq_none_iff.2 hw] at hget
        cases hget
      | cons first before =>
        obtain ⟨rfl, rfl⟩ := List.cons.inj hpath
        rw [at?, hget] at hat
        exact ih.2 ⟨before, key', after, w, rfl, hat, hw⟩

/-! ## Values that can be shown -/

theorem areShowable_iff {items : List Datum} :
    areShowable items = true ↔ ∀ d ∈ items, d.isShowable = true := by
  induction items with
  | nil => simp [areShowable]
  | cons d items ih => rw [areShowable, Bool.and_eq_true, ih, List.forall_mem_cons]

theorem entriesAreShowable_iff {entries : List (Datum × Datum)} :
    entriesAreShowable entries = true ↔
      ∀ e ∈ entries, e.1.isShowable = true ∧ e.2.isShowable = true := by
  induction entries with
  | nil => simp [entriesAreShowable]
  | cons e entries ih =>
    rw [entriesAreShowable, Bool.and_eq_true, Bool.and_eq_true, ih, List.forall_mem_cons]

theorem isShowable_of_get? (hd : d.isShowable = true) (h : d.get? key = some v) :
    v.isShowable = true := by
  cases d with
  | map entries =>
    rw [isShowable, entriesAreShowable_iff] at hd
    obtain ⟨e, he, rfl⟩ := Option.map_eq_some_iff.1 h
    exact (hd e (List.mem_of_find?_eq_some he)).2
  | _ => cases h

/-- A value that can be shown has only such values in it. -/
theorem isShowable_of_at? (hd : d.isShowable = true) (h : d.at? path = some v) :
    v.isShowable = true := by
  induction path generalizing d with
  | nil =>
    obtain rfl := Option.some.inj h
    exact hd
  | cons key path ih =>
    obtain ⟨w, hw, h⟩ := Option.bind_eq_some_iff.1 h
    exact ih (isShowable_of_get? hd hw) h

end Datum

namespace Settings

variable {d v : Datum}

/-! ## Each setting by itself -/

theorem textOf_of_isShowable (h : d.isShowable = true) : textOf d = .ok d.toText := if_pos h

theorem textsOf_of_isShowable {items : List Datum} (h : ∀ d ∈ items, d.isShowable = true) :
    textsOf items = .ok (items.map Datum.toText) := by
  induction items with
  | nil => rfl
  | cons d items ih =>
    obtain ⟨hd, hitems⟩ := List.forall_mem_cons.1 h
    rw [textsOf, textOf_of_isShowable hd, ih hitems]
    rfl

/-- The scripts that a value names. -/
inductive Names : Datum → List String → Prop
  | none {d : Datum} (h : d.truthy = false) : Names d []
  | text {s : String} (h : s ≠ "") : Names (.text s) [s]
  | list (items : List Datum) : Names (.list items) (items.map Datum.toText)
  | map (entries : List (Datum × Datum)) : Names (.map entries) (entries.map (·.1.toText))

/-- A number or a truth value. -/
inductive IsNumber : Datum → Prop
  | bool (b : Bool) : IsNumber (.bool b)
  | int (n : Int) : IsNumber (.int n)
  | real (x : Number.Binary64) : IsNumber (.real x)

/-- A date or a moment. -/
inductive IsTime : Datum → Prop
  | date (d : Date) : IsTime (.date d)
  | moment (m : Moment) : IsTime (.moment m)

/-- **A value that can be shown names scripts, or is one thing that counts as true.** -/
theorem scriptsOf_cases (hv : v.isShowable = true) :
    (∃ scripts, scriptsOf v = .ok scripts ∧ Names v scripts) ∨
      scriptsOf v = .error (.scripts v.kind) ∧ v.truthy = true ∧ (IsNumber v ∨ IsTime v) := by
  cases ht : v.truthy with
  | false => exact .inl ⟨[], by simp only [scriptsOf, ht, Bool.not_false, if_true], .none ht⟩
  | true =>
    simp only [scriptsOf, ht, Bool.not_true, Bool.false_eq_true, if_false]
    cases v with
    | null => cases ht
    | bool b => exact .inr ⟨rfl, trivial, .inl (.bool b)⟩
    | int n => exact .inr ⟨rfl, trivial, .inl (.int n)⟩
    | real x => exact .inr ⟨rfl, trivial, .inl (.real x)⟩
    | date d => exact .inr ⟨rfl, trivial, .inr (.date d)⟩
    | moment m => exact .inr ⟨rfl, trivial, .inr (.moment m)⟩
    | text s => exact .inl ⟨[s], rfl, .text (by simpa [Datum.truthy] using ht)⟩
    | list items =>
      rw [Datum.isShowable, Datum.areShowable_iff] at hv
      exact .inl ⟨_, textsOf_of_isShowable hv, .list items⟩
    | map entries =>
      rw [Datum.isShowable, Datum.entriesAreShowable_iff] at hv
      have hkeys : ∀ k ∈ entries.map (·.1), k.isShowable = true := by
        intro k hk
        obtain ⟨e, he, rfl⟩ := List.mem_map.1 hk
        exact (hv e he).1
      refine .inl ⟨_, textsOf_of_isShowable hkeys, ?_⟩
      rw [List.map_map]
      exact .map entries

/-! ## All settings -/

def indentPath : List String := ["console", "output_indent"]

def levelPath : List String := ["console", "log_level"]

def trimPath : List String := ["parser", "trim_whitespaces_behind_markers"]

def showDisabledPath : List String := ["presenter", "display_disabled_decisions"]

def scriptsPath : List String := ["scripts"]

/-- The value that the level is read off. -/
def levelDatum (d : Datum) : Datum := (d.at? levelPath).getD (.int 1)

/-- The causes for which no settings are read: the level has no integer, or it has one and the
scripts are a number, a truth value, a date or a moment, and count as true. -/
inductive Fails (d : Datum) : Fault → Prop
  | level {f : Number.Fault} (h : (levelDatum d).toInt = .error f) : Fails d (.number f)
  | scripts {n : Int} {v : Datum} (level : (levelDatum d).toInt = .ok n)
    (found : d.at? scriptsPath = some v) (truthy : v.truthy = true) (h : IsNumber v ∨ IsTime v) :
    Fails d (.scripts v.kind)

/-- Every setting is what the value at its own path, or its default, makes it. -/
structure Reads (d : Datum) (s : Settings) : Prop where
  indent : s.indent = ((d.at? indentPath).getD (.text "  ")).toText
  /-- The level is the integer moved into the range of the levels. -/
  level : ∃ n, (levelDatum d).toInt = .ok n ∧ (s.level.val : Int) = max 0 (min 3 n)
  trim : s.trim = switch ((d.at? trimPath).getD (.bool true))
  showDisabled : s.showDisabled = switch ((d.at? showDisabledPath).getD (.bool true))
  scripts : ∃ texts, Names ((d.at? scriptsPath).getD .null) texts ∧ s.scripts = texts.map .text

/-- Settings with nothing at their path have their defaults. -/
structure Defaults (d : Datum) (s : Settings) : Prop where
  indent : d.Lacks indentPath → s.indent = ({} : Settings).indent
  level : d.Lacks levelPath → s.level = ({} : Settings).level
  trim : d.Lacks trimPath → s.trim = ({} : Settings).trim
  showDisabled : d.Lacks showDisabledPath → s.showDisabled = ({} : Settings).showDisabled
  scripts : d.Lacks scriptsPath → s.scripts = ({} : Settings).scripts

/-- Two values that hold the same at the paths of the settings, and perhaps differ elsewhere. -/
structure AgreesAtPaths (d d' : Datum) : Prop where
  indent : d.at? indentPath = d'.at? indentPath
  level : d.at? levelPath = d'.at? levelPath
  trim : d.at? trimPath = d'.at? trimPath
  showDisabled : d.at? showDisabledPath = d'.at? showDisabledPath
  scripts : d.at? scriptsPath = d'.at? scriptsPath

theorem AgreesAtPaths.ofDatum_eq {d d' : Datum} (h : AgreesAtPaths d d') :
    ofDatum d = ofDatum d' := by
  obtain ⟨hindent, hlevel, htrim, hshow, hscripts⟩ := h
  simp only [indentPath, levelPath, trimPath, showDisabledPath, scriptsPath] at *
  simp only [ofDatum, hindent, hlevel, htrim, hshow, hscripts]

theorem isShowable_at (hd : d.isShowable = true) (path : List String) (hv : v.isShowable = true) :
    ((d.at? path).getD v).isShowable = true := by
  cases hat : d.at? path with
  | none => exact hv
  | some w => exact Datum.isShowable_of_at? hd hat

theorem map_switch (o : Option Datum) :
    (o.map switch).getD true = switch (o.getD (.bool true)) := by
  cases o <;> rfl

/-- The indent of a value that can be shown is no cause of a failure. -/
theorem ofDatum_eq (hd : d.isShowable = true) :
    ofDatum d = ((levelDatum d).toInt.mapError .number).bind fun n =>
      (scriptsOf ((d.at? scriptsPath).getD .null)).map fun scripts =>
        { indent := ((d.at? indentPath).getD (.text "  ")).toText
          level := Console.clampLevel n
          trim := switch ((d.at? trimPath).getD (.bool true))
          showDisabled := switch ((d.at? showDisabledPath).getD (.bool true))
          scripts := scripts.map .text } := by
  have hindent := textOf_of_isShowable (isShowable_at hd indentPath (v := .text "  ") rfl)
  rw [indentPath] at hindent
  rw [← map_switch, ← map_switch, ofDatum, levelOf, levelDatum, levelPath]
  cases Datum.toInt _ with
  | error f => rfl
  | ok n =>
    dsimp only
    rw [hindent, scriptsPath]
    cases scriptsOf _ <;> rfl

/-- What holds of the settings that are read off a value. -/
structure PathLaw (d : Datum) : Prop where
  /-- Reading fails for its causes only. -/
  fails : ∀ f, ofDatum d = .error f ↔ Fails d f
  reads : ∀ s, ofDatum d = .ok s → Reads d s
  defaults : ∀ s, ofDatum d = .ok s → Defaults d s
  /-- What a value holds elsewhere does not matter. -/
  alone : ∀ d', AgreesAtPaths d d' → ofDatum d' = ofDatum d

/-- The settings at missing paths are the defaults. -/
theorem Reads.defaults {s : Settings} (h : Reads d s) : Defaults d s where
  indent hp := by
    rw [h.indent, Datum.at?_eq_none_iff.2 hp]
    rfl
  level hp := by
    obtain ⟨n, hn, hlevel⟩ := h.level
    rw [levelDatum, Datum.at?_eq_none_iff.2 hp] at hn
    obtain rfl := Except.ok.inj hn
    exact Fin.ext (Int.ofNat.inj hlevel)
  trim hp := by
    rw [h.trim, Datum.at?_eq_none_iff.2 hp]
    rfl
  showDisabled hp := by
    rw [h.showDisabled, Datum.at?_eq_none_iff.2 hp]
    rfl
  scripts hp := by
    obtain ⟨texts, hnames, hscripts⟩ := h.scripts
    rw [Datum.at?_eq_none_iff.2 hp] at hnames
    cases hnames with
    | none => exact hscripts

theorem reads_or_fails (hd : d.isShowable = true) :
    (∃ s, ofDatum d = .ok s ∧ Reads d s) ∨ ∃ f, ofDatum d = .error f ∧ Fails d f := by
  rw [ofDatum_eq hd]
  cases hn : (levelDatum d).toInt with
  | error f => exact .inr ⟨_, rfl, .level hn⟩
  | ok n =>
    rcases scriptsOf_cases (isShowable_at hd scriptsPath (v := .null) rfl) with
      ⟨scripts, hscripts, hnames⟩ | ⟨hscripts, htruthy, hv⟩
    · rw [hscripts]
      exact .inl ⟨_, rfl, rfl, ⟨n, hn, Console.clampLevel_val n⟩, rfl, rfl, scripts, hnames, rfl⟩
    · rw [hscripts]
      cases hat : d.at? scriptsPath with
      | none =>
        rw [hat] at htruthy
        cases htruthy
      | some v =>
        rw [hat] at htruthy hv
        exact .inr ⟨_, rfl, .scripts hn hat htruthy hv⟩

/-- There is only one cause. -/
theorem Fails.unique {f g : Fault} (hf : Fails d f) (hg : Fails d g) : f = g := by
  cases hf with
  | level h =>
    cases hg with
    | level h' => rw [Except.error.inj (h.symm.trans h')]
    | scripts h' => cases h.symm.trans h'
  | scripts h found =>
    cases hg with
    | level h' => cases h'.symm.trans h
    | scripts h' found' => rw [Option.some.inj (found.symm.trans found')]

theorem Reads.not_fails {s : Settings} {f : Fault} (h : Reads d s) : ¬Fails d f := by
  intro hf
  cases hf with
  | level hf =>
    obtain ⟨n, hn, -⟩ := h.level
    cases hn.symm.trans hf
  | scripts _ found truthy hv =>
    obtain ⟨texts, hnames, -⟩ := h.scripts
    rw [found] at hnames
    cases hnames with
    | none hfalse => cases truthy.symm.trans hfalse
    | _ => rcases hv with hv | hv <;> cases hv

/-- **Each setting comes from its own path, and two causes alone keep settings from being read.** A
missing path gives the default, and what a value holds elsewhere does not matter. -/
theorem path_law (hd : d.isShowable = true) : PathLaw d where
  fails f := by
    rcases reads_or_fails hd with ⟨s, hs, hreads⟩ | ⟨g, hg, hfails⟩
    · refine iff_of_false (fun h => ?_) hreads.not_fails
      cases hs.symm.trans h
    · rw [hg]
      constructor
      · intro h
        rwa [← Except.error.inj h]
      · exact fun hf => by rw [hfails.unique hf]
  reads s hs := by
    rcases reads_or_fails hd with ⟨s', hs', hreads⟩ | ⟨f, hf, -⟩
    · rwa [Except.ok.inj (hs.symm.trans hs')]
    · cases hs.symm.trans hf
  defaults s hs := by
    rcases reads_or_fails hd with ⟨s', hs', hreads⟩ | ⟨f, hf, -⟩
    · rw [Except.ok.inj (hs.symm.trans hs')]
      exact hreads.defaults
    · cases hs.symm.trans hf
  alone d' h := h.ofDatum_eq.symm

/-- A value with a path cut off by a number, a level that is a text and scripts that are keys. -/
def crowdedDatum : Datum :=
  .map
    [(.text "console", .map [(.text "log_level", .text " +1_2 "), (.text "width", .int 80)]),
      (.text "parser", .int 5),
      (.text "presenter", .map [(.text "display_disabled_decisions", .text " Off")]),
      (.text "scripts", .map [(.text "inn.txt", .null), (.text "attic.txt", .list [.bool true])])]

theorem crowded_path_law : crowdedDatum.isShowable = true ∧ PathLaw crowdedDatum := by
  have h : crowdedDatum.isShowable = true := by decide +kernel
  exact ⟨h, path_law h⟩

example : (ofDatum crowdedDatum).toOption =
    some { level := 3, showDisabled := false, scripts := ["inn.txt", "attic.txt"] } := by
  decide +kernel

end Settings

end Plotline
