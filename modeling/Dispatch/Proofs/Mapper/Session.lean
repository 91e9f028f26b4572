import Dispatch.Proofs.Mapper.Changing
import Dispatch.Session

/-! Settings through a session. Whatever calls come and however they end, the settings of the mapper
are sound. A call that fails and a call that maps a message leave the mapper as it is; a change of
settings makes the changes that were asked for and no others.
-/

namespace Dispatch

open Dispatch.Result

/-- The changes of settings that a call asks for. A switch by a value that does not count as true or
false asks for none. -/
def Call.changes? : Call → Option Entries
  | .map _ => none
  | .setDefaultUrl v => some [(.text (text "default_url"), v)]
  | .setExtractPayload v =>
      v.truth.toOption.map fun on => [(.text (text "extract_payload"), .bool on)]
  | .setCharset v => some [(.text (text "charset"), v)]
  | .update changes => some (.ofNamed changes)

theorem Call.named_of_changes? {call : Call} {changes : Entries}
    (asked : call.changes? = some changes)
    : changes.Named := by
  cases call with
  | map m => contradiction
  | update values =>
      rw [← Option.some.inj asked]
      exact Entries.named_ofNamed values
  | setExtractPayload v =>
      obtain ⟨on, _, rfl⟩ := Option.map_eq_some_iff.mp asked
      exact Entries.named_singleton _ _
  | _ =>
      rw [← Option.some.inj asked]
      exact Entries.named_singleton _ _

-----------------------------------------------------------------------------------------
-- Programs
-----------------------------------------------------------------------------------------

namespace Session

variable {α β : Type}

theorem outcome_map (g : α → β) (program : Session α) (mapper : Mapper)
    : outcome (g <$> program) mapper
      = ((program.outcome mapper).1.map g, (program.outcome mapper).2) := by
  rw [outcome, ExceptT.run_map, StateT.run_map]
  rfl

theorem outcome_read (f : Mapper → Except Failure α) (mapper : Mapper)
    : outcome (read f) mapper = (f mapper, mapper) := by
  have given : outcome (read f) mapper = outcome (liftExcept (f mapper)) mapper := rfl
  rw [given]
  cases f mapper <;> rfl

/-- The mapper is replaced once its change is known to be possible. -/
theorem outcome_change (f : Mapper → Except Failure Mapper) (mapper : Mapper)
    : outcome (change f) mapper
      = match f mapper with
        | .ok next => (.ok next.settings, next)
        | .error e => (.error e, mapper) := by
  have given : outcome (change f) mapper
      = outcome (do
          let next ← liftExcept (f mapper)
          set next
          return next.settings) mapper := rfl
  rw [given]
  cases f mapper <;> rfl

end Session

namespace Mapper

open Dispatch.Settings

section

variable [Platform] {mapper next : Mapper} {call : Call} {changes : Entries}

-----------------------------------------------------------------------------------------
-- One call
-----------------------------------------------------------------------------------------

/-- Mapping leaves the mapper, with a message or without. -/
theorem perform_map (mapper : Mapper) (m : Option Message)
    : (mapper.perform (.map m)).2 = mapper := by
  cases m with
  | none => rfl
  | some m => rw [perform, Call.program, Session.outcome_map, Session.outcome_read]

/-- A switch by a value that does not count as true or false fails. -/
theorem perform_setExtractPayload_of_error (mapper : Mapper) {v : Value} {f : Fault}
    (silent : v.truth = .error f)
    : mapper.perform (.setExtractPayload v) = (.error (.fault f), mapper) := by
  have failed : mapper.setExtractPayload v = .error (.fault f) := by
    rw [setExtractPayload, silent]
    rfl
  rw [perform, Call.program, Session.outcome_map, Session.outcome_change, failed]
  rfl

/-- A call that changes settings ends as the update that makes its changes. -/
theorem perform_change {f : Mapper → Except Failure Mapper} {answer : Settings → Answer}
    (program : call.program = answer <$> Session.change f)
    (same : f mapper = mapper.update changes)
    : (∃ next answer, mapper.update changes = .ok next ∧ mapper.perform call = (.ok answer, next))
      ∨ ∃ e, mapper.update changes = .error e ∧ mapper.perform call = (.error e, mapper) := by
  rw [perform, program, Session.outcome_map, Session.outcome_change, same]
  cases mapper.update changes with
  | ok next => exact Or.inl ⟨next, _, rfl, rfl⟩
  | error e => exact Or.inr ⟨e, rfl, rfl⟩

theorem perform_of_changes (mapper : Mapper) (asked : call.changes? = some changes)
    (once : ∀ values, call = .update values → namesReceiver values = false)
    : (∃ next answer, mapper.update changes = .ok next ∧ mapper.perform call = (.ok answer, next))
      ∨ ∃ e, mapper.update changes = .error e ∧ mapper.perform call = (.error e, mapper) := by
  cases call with
  | map m => contradiction
  | setDefaultUrl v =>
      cases asked
      exact perform_change rfl (mapper.setDefaultUrl_eq_update v)
  | setExtractPayload v =>
      obtain ⟨on, counts, rfl⟩ := Option.map_eq_some_iff.mp asked
      refine perform_change rfl ?_
      rw [setExtractPayload, eq_ok_of_toOption counts]
      rfl
  | setCharset v =>
      cases asked
      exact perform_change rfl (mapper.setCharset_eq_update v)
  | update values =>
      cases asked
      have program : (Call.update values).program
          = Answer.settings <$> Session.change (·.update (.ofNamed values)) := by
        rw [Call.program, once values rfl]
        rfl
      exact perform_change program rfl

theorem perform_of_namesReceiver (mapper : Mapper) {values : List (Text × Value)}
    (twice : namesReceiver values)
    : mapper.perform (.update values) = (.error (.fault .receiverName), mapper) := by
  rw [perform, Call.program, if_pos twice]
  rfl

/-- The mapper is given under a name that no field has, so there is no such change. -/
theorem update_of_namesReceiver {values : List (Text × Value)} (twice : namesReceiver values)
    : mapper.update (.ofNamed values) ≠ .ok next := by
  intro made
  simp only [update, bind_eq_ok] at made
  obtain ⟨_, _, _, _, made⟩ := made
  split at made
  · rename_i after read
    have noOther := extraErrors_of_ofEntries read
    have named := Entries.named_ofNamed values
    rw [extraErrors_eq_nil_iff (named_merge mapper.settings.named_toEntries named.texts)] at noOther
    obtain ⟨e, listed, same⟩ := List.any_eq_true.mp twice
    have given : ((Entries.ofNamed values).get? receiverName).isSome :=
      Entries.isSome_get?_ofNamed.mpr ⟨e.2, by rw [← of_decide_eq_true same]; exact listed⟩
    have field := noOther receiverName (by
      rw [get?_merge mapper.settings.named_toEntries named, Option.isSome_or, given, Bool.true_or])
    exact absurd field (by decide)
  · contradiction
  · contradiction

/-- A call that changes settings succeeds with the update that makes its changes, and leaves the
mapper without one. -/
theorem perform_cases (mapper : Mapper) (asked : call.changes? = some changes)
    : (∃ next answer, mapper.update changes = .ok next ∧ mapper.perform call = (.ok answer, next))
      ∨ ∃ e, (∀ next, mapper.update changes ≠ .ok next)
        ∧ mapper.perform call = (.error e, mapper) := by
  by_cases twice : ∃ values, call = .update values ∧ namesReceiver values
  · obtain ⟨values, rfl, twice⟩ := twice
    cases asked
    exact Or.inr ⟨_, fun _ => update_of_namesReceiver twice, mapper.perform_of_namesReceiver twice⟩
  · have once (values : List (Text × Value)) (same : call = .update values)
        : namesReceiver values = false :=
      Bool.eq_false_iff.mpr fun named => twice ⟨values, same, named⟩
    rcases mapper.perform_of_changes asked once with made | ⟨e, failed, ended⟩
    · exact Or.inl made
    · refine Or.inr ⟨e, fun next made => ?_, ended⟩
      rw [failed] at made
      contradiction

/-- A call either leaves the mapper or succeeds with an update. -/
theorem perform_eq_or_update (mapper : Mapper) (call : Call)
    : (mapper.perform call).2 = mapper
      ∨ ((mapper.perform call).1.isOk
        ∧ ∃ changes, mapper.update changes = .ok (mapper.perform call).2) := by
  cases asked : call.changes? with
  | none =>
      cases call with
      | map m => exact Or.inl (mapper.perform_map m)
      | setExtractPayload v =>
          cases counts : v.truth with
          | ok on => simp [Call.changes?, counts, Except.toOption] at asked
          | error f =>
              exact Or.inl (congrArg Prod.snd (mapper.perform_setExtractPayload_of_error counts))
      | _ => contradiction
  | some changes =>
      rcases mapper.perform_cases asked with ⟨next, answer, made, ended⟩ | ⟨e, _, ended⟩
      · exact Or.inr ⟨by rw [ended]; rfl, changes, by rw [ended, made]⟩
      · exact Or.inl (by rw [ended])

/-- A call that fails leaves the mapper. -/
theorem perform_of_error {e : Failure} (failed : (mapper.perform call).1 = .error e)
    : (mapper.perform call).2 = mapper := by
  rcases mapper.perform_eq_or_update call with left | ⟨ok, _⟩
  · exact left
  · rw [failed] at ok
    contradiction

-----------------------------------------------------------------------------------------
-- Any calls
-----------------------------------------------------------------------------------------

theorem Reachable.perform (reached : mapper.Reachable) (call : Call)
    : (mapper.perform call).2.Reachable := by
  rcases mapper.perform_eq_or_update call with left | ⟨_, changes, made⟩
  · rw [left]
    exact reached
  · exact .updated reached made

/-- Calls lead from a reachable mapper to a reachable one, however they end. -/
theorem Reachable.after (reached : mapper.Reachable) (calls : List Call)
    : (mapper.after calls).Reachable := by
  rw [Mapper.after]
  induction calls generalizing mapper with
  | nil => exact reached
  | cons call calls ih => exact ih (reached.perform call)

/-- After any calls on a new mapper its settings are sound, and so they are after one more call. A
call that fails leaves the mapper as it was, and so does one that maps a message. A call that
changes settings succeeds exactly if its changes lead to some, and those are all that it changes.
-/
theorem settings_of_session {defaultUrl extractPayload charset : Value} {format : ObjectFormat}
    {start : Mapper} (made : create defaultUrl extractPayload charset format = .ok start)
    (calls : List Call) {ended : Except Failure Answer}
    (performed : (start.after calls).perform call = (ended, next))
    : (start.after calls).settings.Sound ∧ next.settings.Sound
      ∧ (∀ e, ended = .error e → next = start.after calls)
      ∧ (∀ m, call = .map m → next = start.after calls)
      ∧ ∀ changes, call.changes? = some changes →
          ((∃ answer, ended = .ok answer)
              ↔ ∃ s, (start.after calls).settings.ChangedBy changes s)
            ∧ ∀ answer, ended = .ok answer →
                (start.after calls).settings.ChangedBy changes next.settings
                ∧ (∀ s, (start.after calls).settings.ChangedBy changes s → s = next.settings)
                ∧ next = { start.after calls with
                    settings := next.settings
                    revision := (start.after calls).revision + 1 } := by
  have reached := (Reachable.created made).after calls
  have sound := reached.sound
  have soundNext := (reached.perform call).sound
  rw [performed] at soundNext
  refine ⟨sound, soundNext, ?_, ?_, ?_⟩
  · rintro e rfl
    have left := perform_of_error (congrArg Prod.fst performed)
    rw [performed] at left
    exact left
  · rintro m rfl
    have left := (start.after calls).perform_map m
    rw [performed] at left
    exact left
  · intro changes asked
    have named := Call.named_of_changes? asked
    -- Soundness is what lets the fields that are not named be read again as they are.
    rcases (start.after calls).perform_cases asked with
      ⟨changed, answer, updated, given⟩ | ⟨e, never, given⟩
    · rw [performed] at given
      obtain ⟨rfl, rfl⟩ := Prod.mk.inj given
      obtain ⟨s, leads, rfl⟩ := (update_eq_ok_iff sound named).mp updated
      exact ⟨iff_of_true ⟨answer, rfl⟩ ⟨s, leads⟩,
        fun _ _ => ⟨leads, fun t again => again.unique leads, rfl⟩⟩
    · rw [performed] at given
      obtain ⟨rfl, rfl⟩ := Prod.mk.inj given
      refine ⟨iff_of_false nofun ?_, nofun⟩
      rintro ⟨s, leads⟩
      exact never _ ((update_eq_ok_iff sound named).mpr ⟨s, leads, rfl⟩)

end

/-- Calls of which the first and the last fail. -/
def refusedCalls : List Call :=
  [.setDefaultUrl (.text (text "nowhere")), .setExtractPayload (.int 0), .map none]

def refusedMapper : Mapper :=
  asciiMapper.after refusedCalls

/-- A change with a name that is no field's. -/
def colourChange : Call :=
  .update [(text "extract_payload", .bool true), (text "colour", .null)]

/-- A change with a word for a truth value. -/
def wordChange : Call :=
  .update [(text "extract_payload", .text (text "on"))]

theorem perform_colourChange : (refusedMapper.perform colourChange).1.isOk = false := by
  decide +kernel

theorem perform_wordChange
    : (refusedMapper.perform wordChange).1.isOk
      ∧ (refusedMapper.perform wordChange).2.settings = ⟨none, true, text "us-ascii"⟩ := by
  decide +kernel

theorem settings_of_refusedMapper
    : refusedMapper.settings.Sound
      ∧ (refusedMapper.perform colourChange).2 = refusedMapper
      ∧ refusedMapper.settings.ChangedBy
          (.ofNamed [(text "extract_payload", .text (text "on"))])
          ⟨none, true, text "us-ascii"⟩ := by
  have made : create .null (.bool true) (.text (text "us-ascii")) .json = .ok asciiMapper :=
    create_eq_ok (by decide +kernel) true .json
  obtain ⟨e, failed⟩ := isOk_eq_false.mp perform_colourChange
  obtain ⟨answer, changed⟩ := isOk_eq_true.mp perform_wordChange.1
  obtain ⟨sound, _, left, _, _⟩ := settings_of_session made refusedCalls
    (Prod.eta (refusedMapper.perform colourChange)).symm
  obtain ⟨_, _, _, _, changes⟩ := settings_of_session made refusedCalls
    (Prod.eta (refusedMapper.perform wordChange)).symm
  have leads := ((changes _ rfl).2 answer changed).1
  rw [perform_wordChange.2] at leads
  exact ⟨sound, left e failed, leads⟩

end Mapper

end Dispatch
