import Mathlib.Data.List.DropRight
import Plotline.Console.Desk

/-!
# What a console keeps of its calls

A console admits the calls at level 2 or 3 that are not above its own level. After any calls,
whichever of them failed, the logger was given the admitted ones in order, and the journal has the
latest of these, as many as there is room for.

* `Journal.records_keep` takes one record into a journal of any capacity.
* `Desk.Step` lists what a call can do, and `Desk.perform_step` shows that each call does one of
  these.
* `Desk.Holds` is what the desk has after some calls. One call more keeps it (`Holds.perform`), so
  all calls do (`Holds.performAll`).
* `Desk.keeps_latest_admitted` is the law for a console that was made at any level.
-/

namespace Plotline

/-! ## The latest of a list -/

/-- The latest of a list, as many as there is room for. -/
def latest {α : Type} (capacity : Option Nat) (l : List α) : List α :=
  match capacity with
  | none => l
  | some m => l.rtake m

section Latest

variable {α β : Type} (capacity : Option Nat)

@[simp] theorem latest_nil : latest capacity ([] : List α) = [] := by
  cases capacity with
  | none => rfl
  | some m => exact List.rtake_nil m

theorem latest_map (f : α → β) (l : List α) :
    latest capacity (l.map f) = (latest capacity l).map f := by
  cases capacity with
  | none => rfl
  | some m => rw [latest, latest, List.rtake, List.rtake, List.length_map, List.map_drop]

/-- What was let go of earlier is not among the latest afterwards. -/
theorem latest_latest_append (l l' : List α) :
    latest capacity (latest capacity l ++ l') = latest capacity (l ++ l') := by
  cases capacity with
  | none => rfl
  | some m =>
    simp only [latest, List.rtake_eq_reverse_take_reverse, List.reverse_append,
      List.reverse_reverse, List.take_append, List.take_take, Nat.min_eq_left (Nat.sub_le m _)]

end Latest

/-! ## Journals -/

namespace Journal

variable (j : Journal) (r : Record)

@[simp] theorem capacity_keep : (j.keep r).capacity = j.capacity := by
  obtain ⟨_ | m, records⟩ := j <;> rfl

/-- **A journal keeps the latest records.** -/
theorem records_keep : (j.keep r).records = latest j.capacity (j.records ++ [r]) := by
  obtain ⟨_ | m, records⟩ := j <;> rfl

theorem receive_nil (channel : Nat) : j.receive channel [] = j := rfl

/-- A posting on the channel is kept. -/
theorem receive_singleton (channel : Nat) : j.receive channel [⟨channel, r⟩] = j.keep r := by
  simp [receive]

end Journal

namespace Console

/-! ## Calls -/

namespace Call

variable {ε : Type}

/-- The level of a call; text is put out at no level. -/
def level? : Call ε → Option Int
  | log level _ _ _ => some level
  | fail _ _ _ => some 1
  | warn _ _ => some 2
  | info _ _ => some 3
  | out _ _ => none

/-- The text of a call, laid out by a console. -/
def text (c : Console) : Call ε → String
  | log _ _ first details | fail _ first details | warn first details | info first details |
    out first details => c.format first details

/-- The kind of error that a call comes with. -/
def error (plain : String → ε) : Call ε → String → ε
  | log _ error _ _ => error.getD plain
  | fail error _ _ => error
  | _ => plain

/-- A console of a level admits the calls at level 2 or 3 that are not above it. -/
def admitted (l : Int) (call : Call ε) : Bool :=
  call.level?.any fun n => (n = 2 ∨ n = 3) ∧ n ≤ l

/-- The record of a call that was admitted. -/
def record (c : Console) (call : Call ε) : Record :=
  ⟨if call.level? = some 2 then .warning else .info, call.text c⟩

theorem record_severity_eq_warning (c : Console) (call : Call ε) :
    (call.record c).severity = .warning ↔ call.level? = some 2 := by
  simp [record]

end Call

/-- A level that is not one of errors or notices has no effect. -/
theorem log_eq_dropped (c : Console) {level : Int} (h1 : level ≠ 1) (h2 : level ≠ 2)
    (h3 : level ≠ 3) (first : String) (details : List String) :
    c.log level first details = .dropped := by
  rw [log, if_neg h1, Severity.ofRank?, if_neg h2, if_neg h3]

namespace Desk

variable {ε : Type} (plain : String → ε) (k : Desk)

/-! ## One call -/

/-- The desk with one more record. -/
def keep (r : Record) : Desk :=
  { k with journal := k.journal.keep r, logged := k.logged ++ [r] }

theorem receive_singleton (r : Record) : k.receive [⟨k.console.channel, r⟩] = k.keep r := by
  rw [receive, Journal.receive_singleton]
  rfl

theorem receive_nil : k.receive [] = k := by
  rw [receive, Journal.receive_nil, List.map_nil, List.append_nil]

/-- A notice comes to the same as a log at its level. -/
theorem receive_post (s : Severity) (error : String → ε) (first : String) (details : List String) :
    (none, k.receive (k.console.post s first details)) = k.log s.rank error first details := by
  rw [post, log, log_rank]
  split_ifs
  · rfl
  · exact congrArg (none, ·) k.receive_nil

/-- What a call can do: fail and change nothing, leave its record, or leave none. -/
inductive Step (call : Call ε) : Option ε × Desk → Prop
  | failed (level : call.level? = some 1) :
    Step call (some (call.error plain (call.text k.console)), k)
  | kept (level : call.level? ≠ some 1) (admitted : call.admitted k.console.level.val = true) :
    Step call (none, k.keep (call.record k.console))
  | passed (level : call.level? ≠ some 1) (dropped : call.admitted k.console.level.val = false)
    (output : String) : Step call (none, { k with output := output })

/-- A log at the level of a notice. -/
theorem log_rank_step (call : Call ε) (s : Severity) {first : String} {details : List String}
    (hlevel : call.level? = some (s.rank : Int))
    (htext : call.text k.console = k.console.format first details) :
    Step plain k call (k.log s.rank (call.error plain) first details) := by
  have hne : call.level? ≠ some 1 := by rw [hlevel]; cases s <;> decide
  have hadmitted : call.admitted k.console.level.val = decide (s.rank ≤ k.console.level.val) := by
    rw [Call.admitted, hlevel, Option.any_some, decide_eq_decide]
    cases s <;> simp only [Severity.rank] <;> omega
  have hrecord : call.record k.console = ⟨s, k.console.format first details⟩ := by
    rw [Call.record, hlevel, htext]
    cases s <;> rfl
  rw [log, Console.log_rank]
  by_cases h : s.rank ≤ k.console.level.val
  · rw [if_pos h, ← hrecord]
    dsimp only
    rw [receive_singleton]
    exact .kept hne (by rw [hadmitted, decide_eq_true h])
  · rw [if_neg h]
    exact .passed hne (by rw [hadmitted, decide_eq_false h]) _

/-- A log at any level. -/
theorem log_step (call : Call ε) {level : Int} {first : String} {details : List String}
    (hlevel : call.level? = some level)
    (htext : call.text k.console = k.console.format first details) :
    Step plain k call (k.log level (call.error plain) first details) := by
  by_cases h1 : level = 1
  · subst h1
    rw [log, Console.log, if_pos rfl, ← htext]
    exact .failed hlevel
  by_cases h2 : level = 2
  · subst h2
    exact log_rank_step plain k call .warning hlevel htext
  by_cases h3 : level = 3
  · subst h3
    exact log_rank_step plain k call .info hlevel htext
  rw [log, log_eq_dropped _ h1 h2 h3]
  exact .passed (by simpa [hlevel] using h1) (by simp [Call.admitted, hlevel, h2, h3]) _

/-- **Each call does one of these.** -/
theorem perform_step : (call : Call ε) → Step plain k call (k.perform plain call)
  | .log level error first details => log_step plain k (.log level error first details) rfl rfl
  | .fail error first details => log_step plain k (.fail error first details) rfl rfl
  | .warn first details => by
    rw [perform, warn, receive_post k .warning plain]
    exact log_rank_step plain k (.warn first details) .warning rfl rfl
  | .info first details => by
    rw [perform, info, receive_post k .info plain]
    exact log_rank_step plain k (.info first details) .info rfl rfl
  | .out first details =>
    have hlevel : (Call.out first details : Call ε).level? ≠ some 1 := nofun
    .passed hlevel rfl _

variable {plain k}

theorem perform_of_level_eq_one {call : Call ε} (h : call.level? = some 1) :
    k.perform plain call = (some (call.error plain (call.text k.console)), k) := by
  match k.perform plain call, perform_step plain k call with
  | _, .failed _ => rfl
  | _, .kept hne _ | _, .passed hne _ _ => exact absurd h hne

theorem perform_of_level_ne_one {call : Call ε} (h : call.level? ≠ some 1) :
    (k.perform plain call).1 = none := by
  match k.perform plain call, perform_step plain k call with
  | _, .failed heq => exact absurd heq h
  | _, .kept _ _ | _, .passed _ _ _ => rfl

/-! ## All calls -/

/-- What a desk has after some calls. -/
structure Holds (c : Console) (capacity : Option Nat) (calls : List (Call ε)) (k : Desk) :
    Prop where
  console : k.console = c
  room : k.journal.capacity = capacity
  logged : k.logged = (calls.filter (·.admitted c.level.val)).map (·.record c)
  records : k.journal.records =
    (latest capacity (calls.filter (·.admitted c.level.val))).map (·.record c)

namespace Holds

variable {c : Console} {capacity : Option Nat} {calls : List (Call ε)}

/-- A call that leaves no record changes nothing of this. -/
theorem concat_of_not_admitted (h : Holds c capacity calls k) {call : Call ε}
    (hcall : call.admitted c.level.val = false) (output : String) :
    Holds c capacity (calls ++ [call]) { k with output := output } := by
  have hfilter : (calls ++ [call]).filter (·.admitted c.level.val) =
      calls.filter (·.admitted c.level.val) := by
    simp [List.filter_append, hcall]
  exact ⟨h.console, h.room, hfilter ▸ h.logged, hfilter ▸ h.records⟩

/-- A call that is admitted adds its record, and the journal may let go of the oldest. -/
theorem concat_of_admitted (h : Holds c capacity calls k) {call : Call ε}
    (hcall : call.admitted c.level.val = true) :
    Holds c capacity (calls ++ [call]) (k.keep (call.record c)) := by
  have hfilter : (calls ++ [call]).filter (·.admitted c.level.val) =
      calls.filter (·.admitted c.level.val) ++ [call] := by
    simp [List.filter_append, hcall]
  refine ⟨h.console, ?_, ?_, ?_⟩
  · rw [keep, Journal.capacity_keep, h.room]
  · rw [keep, h.logged, hfilter, List.map_append, List.map_singleton]
  · rw [keep, Journal.records_keep, h.room, h.records, hfilter, ← latest_map, ← latest_map,
      latest_latest_append, List.map_append, List.map_singleton]

/-- One call more. -/
theorem perform (h : Holds c capacity calls k) (call : Call ε) :
    Holds c capacity (calls ++ [call]) (k.perform plain call).2 := by
  obtain rfl := h.console
  match k.perform plain call, perform_step plain k call with
  | _, .failed level => exact h.concat_of_not_admitted (by rw [Call.admitted, level]; rfl) k.output
  | _, .kept _ admitted => exact h.concat_of_admitted admitted
  | _, .passed _ dropped output => exact h.concat_of_not_admitted dropped output

/-- All calls. -/
theorem performAll (h : Holds c capacity calls k) (more : List (Call ε)) :
    Holds c capacity (calls ++ more) (k.performAll plain more) := by
  induction more generalizing calls k with
  | nil => rwa [List.append_nil]
  | cons call more ih =>
    rw [List.append_cons]
    exact ih (h.perform call)

/-- The texts of the warnings are those of the calls at level 2. -/
theorem warnings (h : Holds c capacity calls k) :
    k.journal.warnings =
      ((latest capacity (calls.filter (·.admitted c.level.val))).filter
        (·.level? = some 2)).map (·.text c) := by
  rw [Journal.warnings, h.records, List.filter_map, List.map_map]
  simp only [Function.comp_def, Call.record_severity_eq_warning]
  rfl

end Holds

/-! ## The law of a console -/

variable (plain) in
/-- What a console of level `l` makes of its calls, with room for so many records. -/
structure Law (c : Console) (l : Int) (capacity : Option Nat) (calls : List (Call ε)) (k : Desk) :
    Prop where
  /-- The console itself stays as it is. -/
  console : k.console = c
  /-- A call at level 1 fails with its own error, and changes nothing. -/
  fails : ∀ call : Call ε, call.level? = some 1 →
    k.perform plain call = (some (call.error plain (call.text c)), k)
  /-- No other call fails. -/
  passes : ∀ call : Call ε, call.level? ≠ some 1 → (k.perform plain call).1 = none
  /-- The logger was given the admitted calls, in order. -/
  logged : k.logged = (calls.filter (·.admitted l)).map (·.record c)
  /-- The records are the latest of these. -/
  records : k.journal.records = (latest capacity (calls.filter (·.admitted l))).map (·.record c)
  /-- The warnings are those at level 2 among the latest. -/
  warnings : k.journal.warnings =
    ((latest capacity (calls.filter (·.admitted l))).filter (·.level? = some 2)).map (·.text c)

/-- **The records are the latest admitted calls.** This is so for a console that was made at any
level, with room for any number of records or for all, after any calls. -/
theorem keeps_latest_admitted (channel : Nat) (level : Int) (indent : String)
    (capacity : Option Nat) (plain : String → ε) (calls : List (Call ε)) :
    Law plain ⟨channel, clampLevel level, indent⟩ (max 0 (min 3 level)) capacity calls
      ((new channel level indent capacity).performAll plain calls) := by
  have hnew : Holds ⟨channel, clampLevel level, indent⟩ capacity ([] : List (Call ε))
      (new channel level indent capacity) :=
    ⟨rfl, rfl, rfl, by rw [List.filter_nil, latest_nil, List.map_nil]; rfl⟩
  have h : Holds _ _ _ ((new channel level indent capacity).performAll plain calls) :=
    hnew.performAll calls
  rw [List.nil_append] at h
  rw [← clampLevel_val]
  exact
    { console := h.console
      fails := fun _ hcall => h.console ▸ perform_of_level_eq_one hcall
      passes := fun _ => perform_of_level_ne_one
      logged := h.logged
      records := h.records
      warnings := h.warnings }

/-- The failure leaves the journal alone, and the later warning has taken the place of the earlier
one. -/
example :
    let k := (new 0 2 "  " (some 1)).performAll id
      [.warn "first" [], .fail id "wrong" [], .warn "second" ["detail"], .info "third" []]
    k.journal.warnings = ["second\n  detail"] := by decide

end Desk

end Console

end Plotline
