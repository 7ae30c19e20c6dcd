import Plotline.Proofs.Script.Causes
import Plotline.Proofs.Script.Layout
import Plotline.Proofs.Text.FileLines
import Plotline.Proofs.Text.Utf8

/-!
# Scripts in files

Loading a file is parsing its lines. A tree comes out exactly if there is a file, its octets are
those of a text, and the lines of the text are accepted; it is then the tree of these lines, with
the stem of the path as its id (`Script.load_eq_ok_iff`). All other outcomes are told by
`Script.Refuses` (`Script.load_eq_error_iff`).

Octets that are no text are met while the lines before them are parsed, and what fails first ends
the loading. What is known of a file by then is the beginning of its text (`Script.knownText`), so a
failure in there is that of every file that begins in this way (`Script.parse_of_knownText`).

What ends the lines does not matter (`Script.agree_load_of_sameLines`).
-/

namespace Plotline

open Text (Page EndedLine Utf8.encode Utf8.decode completeLines fileLines keptLines)

namespace Script

variable {disk : Disk} {options : Options} {path : String} {octets : List UInt8} {f : Failure}

/-! ## Files -/

/-- The options that a script file is read with: its tree has the stem of the path as its id. -/
def Options.forFile (options : Options) (path : String) : Options :=
  { options with treeId := (Path.ofString path).stem }

theorem Options.console_forFile (options : Options) (path : String) :
    (options.forFile path).console = options.console := by
  rw [forFile]

/-- There is a file with these octets at the path. -/
structure Holds (disk : Disk) (path : String) (octets : List UInt8) : Prop where
  hasNul : (Path.ofString path).hasNul = false
  file : disk (Path.ofString path) = .ok octets

/-- Lines as they are parsed. -/
def toScript (lines : List (List Char)) : List String := lines.map String.ofList

/-- The text of a file that is known when octets that are no text are met: that of the chunks before
them. -/
def knownText (octets : List UInt8) : List Char :=
  match (Utf8.decode octets).fault with
  | none => (Utf8.decode octets).text
  | some f => (f.findInChunks octets).1

/-- The lines of a file that are parsed before octets that are no text are met. -/
def knownLines (octets : List UInt8) : List String := toScript (completeLines (knownText octets))

/-- How the octets that are no text are told. -/
def octetsWording (octets : List UInt8) : String :=
  match (Utf8.decode octets).fault with
  | none => ""
  | some f => (f.findInChunks octets).2.message

/-- Why a script file gives no tree. -/
inductive Refuses (disk : Disk) (options : Options) (path : String) : Failure → Prop
  /-- No file can have this path. -/
  | nul (h : (Path.ofString path).hasNul = true) :
    Refuses disk options path ((options.forFile path).console.fail .nulInPath)
  | unopened {fault : AccessFault} (hasNul : (Path.ofString path).hasNul = false)
    (h : disk (Path.ofString path) = .error fault) :
    Refuses disk options path
      (unreadable (options.forFile path) path (fault.message (Path.ofString path)))
  /-- The lines are not accepted. -/
  | script {p : Page} {f : Failure} (hp : p.Faithful) (h : Holds disk path (Utf8.encode p.text))
    (hparse : parse (options.forFile path) (toScript p.lines) = .error f) :
    Refuses disk options path f
  /-- A line that is known before octets that are no text are met is not accepted. -/
  | early {octets : List UInt8} {f : Failure} {b : Builder} (h : Holds disk path octets)
    (hoctets : ∀ text, octets ≠ Utf8.encode text)
    (hfeed : (Builder.new (options.forFile path)).feedAll (knownLines octets) = (some f, b)) :
    Refuses disk options path f
  /-- Octets that are no text are met first. -/
  | octets {octets : List UInt8} {b : Builder} (h : Holds disk path octets)
    (hoctets : ∀ text, octets ≠ Utf8.encode text)
    (hfeed : (Builder.new (options.forFile path)).feedAll (knownLines octets) = (none, b)) :
    Refuses disk options path (unreadable (options.forFile path) path (octetsWording octets))

/-! ## What is known of a file -/

/-- What is known is the beginning of the text. -/
theorem prefix_encode_knownText (octets : List UInt8) :
    Utf8.encode (knownText octets) <+: octets := by
  unfold knownText
  split
  · exact Text.Utf8.prefix_encode_text octets
  · exact (Text.Utf8.prefix_encode_text _).trans (List.take_prefix _ octets)

/-- A line that is known is a line of every file that begins in this way. -/
theorem prefix_knownLines (octets : List UInt8) (more : List Char) :
    knownLines octets <+: toScript (fileLines (knownText octets ++ more)) :=
  (Text.prefix_completeLines _ more).map String.ofList

/-- **A failure before octets that are no text** is that of every file that begins in this way. -/
theorem parse_of_knownText {b : Builder}
    (h : (Builder.new options).feedAll (knownLines octets) = (some f, b)) (more : List Char) :
    parse options (toScript (fileLines (knownText octets ++ more))) = .error f :=
  Builder.complete_of_feedAll h (prefix_knownLines octets more)

/-! ## Loading -/

theorem load_of_holds (h : Holds disk path octets) :
    load disk options path = parseOctets (options.forFile path) path octets := by
  rw [load]
  dsimp only
  rw [h.hasNul, if_neg Bool.false_ne_true, h.file]
  rfl

theorem parseOctets_encode (options : Options) (path : String) (text : List Char) :
    parseOctets options path (Utf8.encode text) = parse options (toScript (fileLines text)) := by
  rw [parseOctets, Text.Utf8.decode_eq_iff.2 rfl]
  rfl

/-- Octets that are no text: the known lines are parsed, and then they are told. -/
theorem parseOctets_of_ne (h : ∀ text, octets ≠ Utf8.encode text) (options : Options)
    (path : String) :
    parseOctets options path octets =
      match (Builder.new options).feedAll (knownLines octets) with
      | (some f, _) => .error f
      | (none, _) => .error (unreadable options path (octetsWording octets)) := by
  have hfault := Text.Utf8.fault_ne_none_iff.2 h
  rw [parseOctets, knownLines, knownText, octetsWording]
  cases hf : (Utf8.decode octets).fault with
  | none => exact absurd hf hfault
  | some f => rfl

/-- A file that is a text is parsed line by line. -/
theorem load_of_page {p : Page} (hp : p.Faithful) (h : Holds disk path (Utf8.encode p.text)) :
    load disk options path = parse (options.forFile path) (toScript p.lines) := by
  rw [load_of_holds h, parseOctets_encode, hp.fileLines_text]

theorem Refuses.load_eq (h : Refuses disk options path f) : load disk options path = .error f := by
  cases h with
  | nul h =>
    rw [load]
    dsimp only
    rw [h, if_pos rfl, Options.console_forFile]
  | unopened hasNul h =>
    rw [load]
    dsimp only
    rw [hasNul, if_neg Bool.false_ne_true, h]
    rfl
  | script hp h hparse => rw [load_of_page hp h, hparse]
  | early h hoctets hfeed => rw [load_of_holds h, parseOctets_of_ne hoctets, hfeed]
  | octets h hoctets hfeed => rw [load_of_holds h, parseOctets_of_ne hoctets, hfeed]

/-- A file is a text whose lines are parsed, or it is refused. -/
theorem page_or_refuses (disk : Disk) (options : Options) (path : String) :
    (∃ p : Page, p.Faithful ∧ Holds disk path (Utf8.encode p.text)) ∨
      ∃ f, Refuses disk options path f := by
  cases hasNul : (Path.ofString path).hasNul with
  | true => exact .inr ⟨_, .nul hasNul⟩
  | false =>
    cases hdisk : disk (Path.ofString path) with
    | error fault => exact .inr ⟨_, .unopened hasNul hdisk⟩
    | ok octets =>
      by_cases htext : ∃ text, octets = Utf8.encode text
      · obtain ⟨text, rfl⟩ := htext
        obtain ⟨p, hp, rfl⟩ := Text.exists_page text
        exact .inl ⟨p, hp, hasNul, hdisk⟩
      · have hoctets : ∀ text, octets ≠ Utf8.encode text := fun text h => htext ⟨text, h⟩
        match hfeed : (Builder.new (options.forFile path)).feedAll (knownLines octets) with
        | (some f, b) => exact .inr ⟨f, .early ⟨hasNul, hdisk⟩ hoctets hfeed⟩
        | (none, b) => exact .inr ⟨_, .octets ⟨hasNul, hdisk⟩ hoctets hfeed⟩

/-- **A file gives a tree exactly if it can be read as text and its lines are accepted**, and then it
is the tree of its lines, with their notices. -/
theorem load_eq_ok_iff {out : Tree × List Posting} :
    load disk options path = .ok out ↔
      ∃ p : Page, p.Faithful ∧ Holds disk path (Utf8.encode p.text) ∧
        parse (options.forFile path) (toScript p.lines) = .ok out := by
  constructor
  · intro hload
    rcases page_or_refuses disk options path with ⟨p, hp, h⟩ | ⟨f, hf⟩
    · exact ⟨p, hp, h, by rw [← hload, load_of_page hp h]⟩
    · rw [hf.load_eq] at hload
      cases hload
  · rintro ⟨p, hp, h, hparse⟩
    rw [load_of_page hp h, hparse]

/-- **A file fails in the ways that are told, and in no other.** -/
theorem load_eq_error_iff : load disk options path = .error f ↔ Refuses disk options path f := by
  constructor
  · intro hload
    rcases page_or_refuses disk options path with ⟨p, hp, h⟩ | ⟨g, hg⟩
    · exact .script hp h (by rw [← hload, load_of_page hp h])
    · obtain rfl := Except.error.inj (hg.load_eq.symm.trans hload)
      exact hg
  · exact Refuses.load_eq

/-! ## Line ends -/

/-- A line is kept, or it is empty. -/
theorem keptLines_cons (afterCr : Bool) (l : EndedLine) (ls : List EndedLine) :
    keptLines afterCr (l :: ls) = l.text :: keptLines (l.stop = .cr) ls ∨
      l.text = [] ∧ keptLines afterCr (l :: ls) = keptLines (l.stop = .cr) ls := by
  rw [keptLines]
  split
  · rename_i hbare
    exact .inr ⟨hbare.2.1, by rw [hbare.2.2]; rfl⟩
  · exact .inl rfl

/-- Files with the same lines are read as the same lines, but for empty ones. -/
theorem exists_relayout_keptLines {ls ms : List EndedLine}
    (h : ls.map (·.text) = ms.map (·.text)) (afterCr afterCr' : Bool) (rest : List String) :
    ∃ e : Relayout, e.before = toScript (keptLines afterCr ls) ++ rest ∧
      e.after = toScript (keptLines afterCr' ms) ++ rest := by
  induction ls generalizing ms afterCr afterCr' with
  | nil =>
    obtain rfl : ms = [] := by simpa using h.symm
    induction rest with
    | nil => exact ⟨[], rfl, rfl⟩
    | cons x rest ih =>
      obtain ⟨e, hbefore, hafter⟩ := ih
      exact ⟨.kept x x (.refl x) :: e, congrArg (x :: ·) hbefore, congrArg (x :: ·) hafter⟩
  | cons l ls ih =>
    cases ms with
    | nil => cases h
    | cons m ms =>
      obtain ⟨htext, htexts⟩ : l.text = m.text ∧ ls.map (·.text) = ms.map (·.text) :=
        List.cons.inj h
      obtain ⟨e, hbefore, hafter⟩ := ih htexts (l.stop = .cr) (m.stop = .cr)
      rcases keptLines_cons afterCr l ls with hl | ⟨hempty, hl⟩ <;>
        rcases keptLines_cons afterCr' m ms with hm | ⟨hempty', hm⟩
      · have hinside : SameInside (String.ofList l.text) (String.ofList m.text) := by
          rw [htext]
          exact .refl _
        exact ⟨.kept _ _ hinside :: e, by rw [hl]; exact congrArg (_ :: ·) hbefore,
          by rw [hm]; exact congrArg (_ :: ·) hafter⟩
      · rw [hempty'] at htext
        exact ⟨.removed _ ignored_empty :: e,
          by rw [hl, htext]; exact congrArg (_ :: ·) hbefore, by rw [hm]; exact hafter⟩
      · rw [hempty] at htext
        exact ⟨.added _ ignored_empty :: e, by rw [hl]; exact hbefore,
          by rw [hm, ← htext]; exact congrArg (_ :: ·) hafter⟩
      · exact ⟨e, by rw [hl]; exact hbefore, by rw [hm]; exact hafter⟩

/-- Two files with the same lines are laid out alike, whatever ends their lines. -/
theorem exists_relayout_fileLines {p q : Page} (h : p.SameLines q) :
    ∃ e : Relayout, e.before = toScript (fileLines p.text) ∧
      e.after = toScript (fileLines q.text) := by
  obtain ⟨e, hbefore, hafter⟩ := exists_relayout_keptLines h.ended false false
    (toScript (if p.last = [] then [] else [p.last]))
  refine ⟨e, ?_, ?_⟩
  · rw [hbefore, Page.text, Text.fileLines_textOf _ p.unbroken, toScript, toScript, toScript,
      List.map_append]
  · rw [hafter, Page.text, Text.fileLines_textOf _ q.unbroken, h.last, toScript, toScript, toScript,
      List.map_append]

/-- **What ends the lines does not matter**: files with the same lines are read alike. -/
theorem agree_load_of_sameLines (options : Options) (path : String) {disk disk' : Disk}
    {p q : Page} (h : p.SameLines q)
    (hp : disk (Path.ofString path) = .ok (Utf8.encode p.text))
    (hq : disk' (Path.ofString path) = .ok (Utf8.encode q.text)) :
    Agree (Failure.Moved fun _ _ => True) (· = ·) (load disk options path)
      (load disk' options path) := by
  cases hasNul : (Path.ofString path).hasNul with
  | true =>
    rw [(Refuses.nul hasNul).load_eq, (Refuses.nul hasNul).load_eq]
    exact .error (.of_line?_eq_none rfl)
  | false =>
    obtain ⟨e, hbefore, hafter⟩ := exists_relayout_fileLines h
    rw [load_of_holds ⟨hasNul, hp⟩, load_of_holds ⟨hasNul, hq⟩, parseOctets_encode,
      parseOctets_encode, ← hbefore, ← hafter]
    exact Builder.agree_relayout (b := .new (options.forFile path)) (j := 0) (k := 0) e
      (fun h => by cases h) fun _ _ _ => trivial

/-! ## The whole law -/

/-- What loading a script file comes to. -/
structure ReadsAsScript (disk : Disk) (options : Options) (path : String) : Prop where
  /-- A tree comes out exactly if the file can be read as text and its lines are accepted. -/
  returns : ∀ out, load disk options path = .ok out ↔
    ∃ p : Page, p.Faithful ∧ Holds disk path (Utf8.encode p.text) ∧
      parse (options.forFile path) (toScript p.lines) = .ok out
  fails : ∀ f, load disk options path = .error f ↔ Refuses disk options path f
  /-- The failure is in the script or with the file, unless the path itself is refused. -/
  family : ∀ f, load disk options path = .error f →
    (Path.ofString path).hasNul = true ∧ f.fault.family = .path ∨
      (Path.ofString path).hasNul = false ∧ (f.fault.InScript ∨ f.fault.family = .file)
  /-- What is known of a file before octets that are no text is the beginning of the file. -/
  known : ∀ octets, Utf8.encode (knownText octets) <+: octets
  /-- A failure in what is known is that of all files that begin in this way. -/
  early : ∀ octets f b,
    (Builder.new (options.forFile path)).feedAll (knownLines octets) = (some f, b) →
      ∀ more, parse (options.forFile path) (toScript (fileLines (knownText octets ++ more))) =
        .error f
  /-- What ends the lines does not matter. -/
  sameLines : ∀ (disk' : Disk) (p q : Page), p.SameLines q →
    disk (Path.ofString path) = .ok (Utf8.encode p.text) →
    disk' (Path.ofString path) = .ok (Utf8.encode q.text) →
    Agree (Failure.Moved fun _ _ => True) (· = ·) (load disk options path)
      (load disk' options path)

theorem Refuses.family (h : Refuses disk options path f) :
    (Path.ofString path).hasNul = true ∧ f.fault.family = .path ∨
      (Path.ofString path).hasNul = false ∧ (f.fault.InScript ∨ f.fault.family = .file) := by
  cases h with
  | nul h => exact .inl ⟨h, rfl⟩
  | unopened hasNul h => exact .inr ⟨hasNul, .inr rfl⟩
  | script hp h hparse => exact .inr ⟨h.hasNul, .inl (inScript_parse hparse)⟩
  | early h hoctets hfeed =>
    exact .inr ⟨h.hasNul, .inl (Builder.inScript_of_feedAll (Builder.coherent_new _) hfeed)⟩
  | octets h hoctets hfeed => exact .inr ⟨h.hasNul, .inr rfl⟩

theorem readsAsScript (disk : Disk) (options : Options) (path : String) :
    ReadsAsScript disk options path where
  returns _ := load_eq_ok_iff
  fails _ := load_eq_error_iff
  family _ h := (load_eq_error_iff.1 h).family
  known := prefix_encode_knownText
  early _ _ _ h more := parse_of_knownText h more
  sameLines _ _ _ h hp hq := agree_load_of_sameLines options path h hp hq

/-- **Loading a file is parsing its lines.** Whatever the disk holds at a path, a tree comes out
exactly if it can be read as text and its lines are accepted, all other outcomes are failures of the
file or of the script, and it does not matter what ends the lines. Only a path that can be none
fails in another way: one that holds the character NUL, or one with a surrogate of which no octets
can be made. The surrogates that stand for single octets in the names of files are left out
(`Path.Spelling`). -/
theorem load_reads_as_script (disk : Disk) (options : Options) :
    (∀ path : String, ReadsAsScript disk options path) ∧
      ∀ b : Path.Break, load disk options (.broken b) =
        .error (options.console.fail (.brokenPath b)) :=
  ⟨readsAsScript disk options, fun _ => rfl⟩

/-- A path with the character NUL is no file that can be read, and yet it is not told as one. -/
theorem nul_in_path_is_no_file_fault :
    ¬∀ (disk : Disk) (options : Options) (path : String) (f : Failure),
      load disk options path = .error f → f.fault.InScript ∨ f.fault.family = .file := by
  intro h
  have hnul : (Path.ofString "a\x00b.txt").hasNul = true := by decide +kernel
  rcases h (fun _ => .error .notFound) {} "a\x00b.txt" _ (Refuses.nul hnul).load_eq with h | h
  · rcases h with h | h <;> cases h
  · cases h

end Script

end Plotline
