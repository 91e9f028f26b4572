import Dispatch.Proofs.Mapper.Configuring
import Dispatch.Proofs.Mapper.Escape
import Dispatch.Proofs.Mapper.Session
import Dispatch.Proofs.Url.Reading

/-! How settings are refused. Values that are no settings end in a documented problem, but not all
of them: the checks come upon values that cannot be written down and upon surrogates in a URL, a new
mapper reports a flag as a field, a switch comes upon values that do not count as true or false, and
a change can give the mapper twice. Nothing else escapes.
-/

namespace Dispatch

open Dispatch.Result

-----------------------------------------------------------------------------------------
-- What escapes
-----------------------------------------------------------------------------------------

namespace Settings

/-- The kinds of problems that a change of settings is documented to end with. -/
def refusalKinds : List Problem.Kind := [.charset, .malformedTarget, .mapping]

/-- A computation on settings that ends well or with a documented problem. -/
def EndsDocumented {α : Type} (result : Except Failure α) : Prop :=
  (∃ a, result = .ok a) ∨ ∃ p, result = .error (.ofProblem p) ∧ p.kind ∈ refusalKinds

theorem EndsDocumented.problem {α : Type} {result : Except Failure α} {p : Problem}
    (failed : result = .error (.ofProblem p)) (documented : p.kind ∈ refusalKinds)
    : EndsDocumented result :=
  Or.inr ⟨p, failed, documented⟩

/-- A value that is not given, or stands for something. -/
def Passes {α : Type} (stands : Value → α → Prop) (given : Option Value) : Prop :=
  ∀ v, given = some v → ∃ a, stands v a

variable [Platform]

/-- What the checks of settings come upon without catching it. The charset is checked first. -/
inductive Uncaught (charset defaultUrl : Option Value) : Fault → Prop
  /-- The refused charset has no plain form. -/
  | charset {v : Value} {e : Value.ShowError} (given : charset = some v)
    (unshown : v.plain = .error e)
    : Uncaught charset defaultUrl (.shown e)
  /-- Reading the URL comes upon a surrogate. -/
  | surrogate {v : Value} {t : Text} {c : CodePoint} (passed : Passes IsCharset charset)
    (given : defaultUrl = some v) (url : urlText? v = some t)
    (read : Url.parse t = .error (.surrogate c))
    : Uncaught charset defaultUrl (.url (.surrogate c))
  /-- The refused URL has no written form. -/
  | defaultUrl {v : Value} {e : Value.ShowError} (passed : Passes IsCharset charset)
    (given : defaultUrl = some v) (unshown : v.shown = .error e)
    : Uncaught charset defaultUrl (.shown e)

/-- The failures without a documented problem that making a mapper ends with. -/
inductive CreationEscapes (defaultUrl extractPayload charset : Value) : Failure → Prop
  | uncaught {f : Fault} (uncaught : Uncaught (some charset) (some defaultUrl) f)
    : CreationEscapes defaultUrl extractPayload charset (.fault f)
  /-- The flag is no truth value. -/
  | flag {p : FieldProblem} (passedCharset : Passes IsCharset (some charset))
    (passedUrl : Passes IsDefaultUrl (some defaultUrl))
    (refused : Field.toTruth extractPayload = .error p)
    : CreationEscapes defaultUrl extractPayload charset
        (.fields [⟨p, [Field.name "extract_payload"]⟩])

end Settings

/-- A call that maps no message asks for changes, unless the value to switch by is silent. -/
theorem Call.changes?_cases {call : Call} (noMap : ∀ m, call ≠ .map m)
    : (∃ changes, call.changes? = some changes)
      ∨ ∃ v f, call = .setExtractPayload v ∧ v.truth = .error f := by
  cases call with
  | map m => exact absurd rfl (noMap m)
  | setExtractPayload v =>
      cases counts : v.truth with
      | ok on => exact Or.inl ⟨_, by rw [Call.changes?, counts]; rfl⟩
      | error f => exact Or.inr ⟨v, f, rfl, counts⟩
  | _ => exact Or.inl ⟨_, rfl⟩

section

variable [Platform]

/-- The failures without a documented problem that a call to change settings ends with. -/
inductive Call.Escapes : Call → Failure → Prop
  /-- The mapper is given twice. -/
  | receiver {values : List (Text × Value)} (twice : namesReceiver values)
    : Escapes (.update values) (.fault .receiverName)
  | uncaught {call : Call} {changes : Entries} {f : Fault} (asked : call.changes? = some changes)
    (once : ∀ values, call = .update values → namesReceiver values = false)
    (uncaught : Settings.Uncaught (changes.get? (text "charset"))
      (changes.get? (text "default_url")) f)
    : Escapes call (.fault f)
  /-- The value to switch by does not count as true or false. -/
  | silent {v : Value} {f : Fault} (silent : v.truth = .error f)
    : Escapes (.setExtractPayload v) (.fault f)

end

namespace Mapper

open Dispatch.Settings

section

variable [Platform] {changes : Entries} {f : Fault}

-----------------------------------------------------------------------------------------
-- The checks
-----------------------------------------------------------------------------------------

theorem checkCharset_cases (v : Value)
    : (checkCharset v = .ok () ∧ ∃ name, IsCharset v name)
      ∨ (∃ shown, v.plain = .ok shown
          ∧ checkCharset v = .error (.ofProblem (.unknownCharset shown)))
      ∨ ∃ e, v.plain = .error e ∧ checkCharset v = .error (.fault (.shown e)) := by
  by_cases passes : ∃ name, IsCharset v name
  · exact Or.inl ⟨checkCharset_eq_ok_iff.mpr passes, passes⟩
  · have unsupported (name : Text) (same : v = .text name) : ¬Charset.isSupported name :=
      fun supported => passes ⟨name, same ▸ .given supported⟩
    refine Or.inr ?_
    cases written : v.plain with
    | ok shown =>
        refine Or.inl ⟨shown, rfl, ?_⟩
        simp only [checkCharset, written]
        split
        · rw [if_neg (unsupported _ rfl)]
        · rfl
    | error e =>
        refine Or.inr ⟨e, rfl, ?_⟩
        simp only [checkCharset, written]
        split
        · rw [if_neg (unsupported _ rfl)]
        · rfl

theorem checkDefaultUrl_cases (v : Value)
    : (checkDefaultUrl v = .ok () ∧ ∃ defaultUrl, IsDefaultUrl v defaultUrl)
      ∨ (∃ shown, v.shown = .ok shown
          ∧ checkDefaultUrl v = .error (.ofProblem (.relativeDefault shown)))
      ∨ (∃ e, v.shown = .error e ∧ checkDefaultUrl v = .error (.fault (.shown e)))
      ∨ ∃ t c, urlText? v = some t ∧ Url.parse t = .error (.surrogate c)
          ∧ checkDefaultUrl v = .error (.fault (.url (.surrogate c))) := by
  cases checked : checkDefaultUrl v with
  | ok done => exact Or.inl ⟨rfl, checkDefaultUrl_eq_ok_iff.mp checked⟩
  | error failure =>
      simp only [checkDefaultUrl] at checked
      refine Or.inr ?_
      split at checked
      · contradiction
      · split at checked
        · split at checked
          · rename_i shown written
            exact Or.inl ⟨shown, written, checked.symm⟩
          · rename_i e unshown
            exact Or.inr (Or.inl ⟨e, unshown, checked.symm⟩)
        · rename_i t url
          split at checked
          · contradiction
          · split at checked
            · rename_i shown written
              exact Or.inl ⟨shown, written, checked.symm⟩
            · rename_i e unshown
              exact Or.inr (Or.inl ⟨e, unshown, checked.symm⟩)
          · rename_i e unread
            obtain ⟨c, surrogate, rfl⟩ := Url.isAbsoluteText_eq_error.mp unread
            exact Or.inr (Or.inr ⟨t, c, url, surrogate, checked.symm⟩)

theorem checkCharset_of_unshown {v : Value} {e : Value.ShowError} (unshown : v.plain = .error e)
    : checkCharset v = .error (.fault (.shown e)) := by
  rcases checkCharset_cases v with ⟨_, name, ⟨_⟩⟩ | ⟨shown, written, _⟩ | ⟨again, same, failed⟩
  · contradiction
  · rw [unshown] at written
    contradiction
  · rw [unshown] at same
    rw [failed, Except.error.inj same]

theorem IsDefaultUrl.shown {v : Value} {defaultUrl : Option Text}
    (stands : IsDefaultUrl v defaultUrl)
    : ∃ shown, v.shown = .ok shown := by
  cases stands with
  | absent => exact shown_of_urlText? (Or.inl rfl)
  | given url _ => exact shown_of_urlText? (Or.inr ⟨_, url⟩)

theorem checkDefaultUrl_of_unshown {v : Value} {e : Value.ShowError} (unshown : v.shown = .error e)
    : checkDefaultUrl v = .error (.fault (.shown e)) := by
  rcases checkDefaultUrl_cases v with ⟨_, defaultUrl, stands⟩ | ⟨shown, written, _⟩
    | ⟨again, same, failed⟩ | ⟨t, c, url, _, _⟩
  · obtain ⟨shown, written⟩ := IsDefaultUrl.shown stands
    rw [unshown] at written
    contradiction
  · rw [unshown] at written
    contradiction
  · rw [unshown] at same
    rw [failed, Except.error.inj same]
  · obtain ⟨shown, written⟩ := shown_of_urlText? (Or.inr ⟨t, url⟩)
    rw [unshown] at written
    contradiction

theorem checkDefaultUrl_of_surrogate {v : Value} {t : Text} {c : CodePoint}
    (url : urlText? v = some t) (read : Url.parse t = .error (.surrogate c))
    : checkDefaultUrl v = .error (.fault (.url (.surrogate c))) := by
  have unread : Url.isAbsoluteText t = .error (.surrogate c) :=
    Url.isAbsoluteText_eq_error.mpr ⟨c, read, rfl⟩
  cases v with
  | null => contradiction
  | _ => simp only [checkDefaultUrl, url, unread]

/-- A computation behind the checks of changes. -/
def guarded (changes : Entries) (rest : Except Failure Mapper) : Except Failure Mapper := do
  checkChange changes "charset" checkCharset
  checkChange changes "default_url" checkDefaultUrl
  rest

omit [Platform] in
theorem checkChange_of_passes {α : Type} {stands : Value → α → Prop} {name : String}
    {check : Value → Except Failure Unit} (passes : ∀ {v}, check v = .ok () ↔ ∃ a, stands v a)
    (passed : Passes stands (changes.get? (text name)))
    : checkChange changes name check = .ok () := by
  rw [checkChange]
  cases given : changes.get? (text name) with
  | none => rfl
  | some v => exact passes.mpr (passed v given)

omit [Platform] in
theorem checkChange_of_given {name : String} {check : Value → Except Failure Unit} {v : Value}
    (given : changes.get? (text name) = some v)
    : checkChange changes name check = check v := by
  simp only [checkChange, given]

theorem guarded_of_passes (charset : Passes IsCharset (changes.get? (text "charset")))
    (defaultUrl : Passes IsDefaultUrl (changes.get? (text "default_url")))
    (rest : Except Failure Mapper)
    : guarded changes rest = rest := by
  rw [guarded, checkChange_of_passes checkCharset_eq_ok_iff charset,
    checkChange_of_passes checkDefaultUrl_eq_ok_iff defaultUrl, ok_bind, ok_bind]

theorem guarded_of_charset {v : Value} {e : Failure} (rest : Except Failure Mapper)
    (given : changes.get? (text "charset") = some v) (failed : checkCharset v = .error e)
    : guarded changes rest = .error e := by
  rw [guarded, checkChange_of_given given, failed, error_bind]

theorem guarded_of_defaultUrl {v : Value} {e : Failure} (rest : Except Failure Mapper)
    (passed : Passes IsCharset (changes.get? (text "charset")))
    (given : changes.get? (text "default_url") = some v) (failed : checkDefaultUrl v = .error e)
    : guarded changes rest = .error e := by
  rw [guarded, checkChange_of_passes checkCharset_eq_ok_iff passed, ok_bind,
    checkChange_of_given given, failed, error_bind]

/-- What the checks come upon ends the whole computation. -/
theorem guarded_of_uncaught (rest : Except Failure Mapper)
    (uncaught : Uncaught (changes.get? (text "charset")) (changes.get? (text "default_url")) f)
    : guarded changes rest = .error (.fault f) := by
  cases uncaught with
  | charset given unshown =>
      exact guarded_of_charset rest given (checkCharset_of_unshown unshown)
  | surrogate passed given url read =>
      exact guarded_of_defaultUrl rest passed given (checkDefaultUrl_of_surrogate url read)
  | defaultUrl passed given unshown =>
      exact guarded_of_defaultUrl rest passed given (checkDefaultUrl_of_unshown unshown)

/-- Behind the checks a computation goes on, or it has ended at one of them. -/
theorem guarded_cases (changes : Entries) (rest : Except Failure Mapper)
    : (Passes IsCharset (changes.get? (text "charset"))
        ∧ Passes IsDefaultUrl (changes.get? (text "default_url")))
      ∨ EndsDocumented (guarded changes rest)
      ∨ ∃ f, Uncaught (changes.get? (text "charset")) (changes.get? (text "default_url")) f := by
  by_cases passed : Passes IsCharset (changes.get? (text "charset"))
  · by_cases fits : Passes IsDefaultUrl (changes.get? (text "default_url"))
    · exact Or.inl ⟨passed, fits⟩
    · simp only [Passes, not_forall] at fits
      obtain ⟨v, given, misfit⟩ := fits
      refine Or.inr ?_
      rcases checkDefaultUrl_cases v with ⟨_, valid⟩ | ⟨shown, _, refused⟩ | ⟨e, unshown, _⟩
        | ⟨t, c, url, read, _⟩
      · exact absurd valid misfit
      · exact Or.inl (.problem (guarded_of_defaultUrl rest passed given refused)
          (by rw [Problem.kind]; decide))
      · exact Or.inr ⟨_, .defaultUrl passed given unshown⟩
      · exact Or.inr ⟨_, .surrogate passed given url read⟩
  · simp only [Passes, not_forall] at passed
    obtain ⟨v, given, misfit⟩ := passed
    refine Or.inr ?_
    rcases checkCharset_cases v with ⟨_, valid⟩ | ⟨shown, _, refused⟩ | ⟨e, unshown, _⟩
    · exact absurd valid misfit
    · exact Or.inl (.problem (guarded_of_charset rest given refused)
        (by rw [Problem.kind]; decide))
    · exact Or.inr ⟨_, .charset given unshown⟩

-----------------------------------------------------------------------------------------
-- Behind the checks
-----------------------------------------------------------------------------------------

variable {mapper : Mapper} {defaultUrl extractPayload charset : Value} {format : ObjectFormat}

/-- The settings that changes lead to, or what is wrong with them. -/
def uncheckedUpdate (mapper : Mapper) (changes : Entries) : Except Failure Mapper :=
  match Settings.ofEntries (merge mapper.settings.toEntries changes) with
  | .ok settings => .ok { mapper with settings, revision := mapper.revision + 1 }
  | .error (.fields errors) => .error (.ofProblem (.settings errors))
  | .error e => .error e

theorem update_eq_guarded (mapper : Mapper) (changes : Entries)
    : mapper.update changes = guarded changes (mapper.uncheckedUpdate changes) :=
  rfl

/-- The mapper with the settings of the given values, or what is wrong with them. -/
def uncheckedCreate (defaultUrl extractPayload charset : Value) (format : ObjectFormat) :
    Except Failure Mapper := do
  let settings ← Settings.ofEntries (.ofNamed (fields defaultUrl extractPayload charset))
  return ⟨settings, format, 0⟩

theorem create_eq_guarded (defaultUrl extractPayload charset : Value) (format : ObjectFormat)
    : create defaultUrl extractPayload charset format
      = guarded (.ofNamed (fields defaultUrl extractPayload charset))
          (uncheckedCreate defaultUrl extractPayload charset format) :=
  rfl

/-- A URL that passed its check can be read, and so can the one that was there before. -/
theorem uncheckedUpdate_endsDocumented (named : changes.Named)
    (passed : Passes IsDefaultUrl (changes.get? (text "default_url")))
    : EndsDocumented (mapper.uncheckedUpdate changes) := by
  have documented (errors : List FieldError)
      : (Problem.settings errors).kind ∈ refusalKinds := by
    rw [Problem.kind]
    decide
  rcases ofEntries_cases (merge mapper.settings.toEntries changes) with
    ⟨s, read⟩ | ⟨errors, refused⟩ | ⟨v, e, found, unshown, _⟩
  · exact Or.inl ⟨_, by rw [uncheckedUpdate, read]⟩
  · exact Or.inr ⟨.settings errors, by rw [uncheckedUpdate, refused], documented errors⟩
  · obtain ⟨held, _⟩ := mapper.settings.get?_toEntries
    have shown : ∃ shown, v.shown = .ok shown := by
      rw [get?_merge mapper.settings.named_toEntries named, held] at found
      cases given : changes.get? (text "default_url") with
      | some w =>
          rw [given] at found
          obtain ⟨defaultUrl, stands⟩ := passed w given
          rw [← Option.some.inj found]
          exact IsDefaultUrl.shown stands
      | none =>
          rw [given] at found
          rw [← Option.some.inj found, defaultUrlValue]
          split
          · exact shown_of_urlText? (Or.inr ⟨_, rfl⟩)
          · exact shown_of_urlText? (Or.inl rfl)
    obtain ⟨shown, written⟩ := shown
    rw [unshown] at written
    contradiction

/-- With a charset and a URL that passed, all depends on the flag. -/
theorem uncheckedCreate_of_flag {b : Bool} (named : Passes IsCharset (some charset))
    (passed : Passes IsDefaultUrl (some defaultUrl)) (flag : IsTruth extractPayload b)
    : ∃ mapper, uncheckedCreate defaultUrl extractPayload charset format = .ok mapper := by
  obtain ⟨name, ⟨supported⟩⟩ := named charset rfl
  obtain ⟨url, stands⟩ := passed defaultUrl rfl
  have given : GivenBy defaultUrl extractPayload (.text name) ⟨url, b, name⟩ :=
    ⟨stands, flag, .given supported⟩
  exact ⟨_, by rw [uncheckedCreate, ofEntries_fields_eq_ok_iff.mpr given, ok_bind, pure_eq]⟩

theorem uncheckedCreate_of_noFlag {p : FieldProblem} (named : Passes IsCharset (some charset))
    (passed : Passes IsDefaultUrl (some defaultUrl))
    (refused : Field.toTruth extractPayload = .error p)
    : uncheckedCreate defaultUrl extractPayload charset format
      = .error (.fields [⟨p, [Field.name "extract_payload"]⟩]) := by
  obtain ⟨name, ⟨supported⟩⟩ := named charset rfl
  obtain ⟨url, stands⟩ := passed defaultUrl rfl
  obtain ⟨first, second, third, noOther⟩ := get?_fields defaultUrl extractPayload (.text name)
  have charsetRead : readCharset (.text name) = .ok name :=
    readCharset_text_eq_ok_iff.mpr (.given supported)
  simp [uncheckedCreate, Settings.ofEntries, first, second, third, noOther, stands.read, refused,
    charsetRead, Field.errors]

-----------------------------------------------------------------------------------------
-- Making and changing
-----------------------------------------------------------------------------------------

omit [Platform] in
/-- What escapes is no documented problem. -/
theorem not_endsDocumented {α : Type} {result : Except Failure α} {e : Failure}
    (untyped : IsUntyped e) (failed : result = .error e)
    : ¬EndsDocumented result := by
  rintro (⟨a, made⟩ | ⟨p, same, _⟩)
  · rw [failed] at made
    contradiction
  · rw [failed] at same
    rw [Except.error.inj same] at untyped
    exact untyped

theorem create_of_escapes {e : Failure}
    (escapes : CreationEscapes defaultUrl extractPayload charset e)
    : IsUntyped e ∧ create defaultUrl extractPayload charset format = .error e := by
  obtain ⟨first, _, third, _⟩ := get?_fields defaultUrl extractPayload charset
  rw [create_eq_guarded]
  cases escapes with
  | uncaught uncaught =>
      refine ⟨trivial, guarded_of_uncaught _ ?_⟩
      rw [first, third]
      exact uncaught
  | flag named passed refused =>
      rw [guarded_of_passes (third ▸ named) (first ▸ passed)]
      exact ⟨trivial, uncheckedCreate_of_noFlag named passed refused⟩

theorem create_endsDocumented_or_escapes (defaultUrl extractPayload charset : Value)
    (format : ObjectFormat)
    : EndsDocumented (create defaultUrl extractPayload charset format)
      ∨ ∃ e, CreationEscapes defaultUrl extractPayload charset e := by
  obtain ⟨first, _, third, _⟩ := get?_fields defaultUrl extractPayload charset
  rw [create_eq_guarded]
  have checks := guarded_cases (.ofNamed (fields defaultUrl extractPayload charset))
    (uncheckedCreate defaultUrl extractPayload charset format)
  rw [first, third] at checks
  rcases checks with ⟨named, passed⟩ | typed | ⟨f, uncaught⟩
  · rw [guarded_of_passes (third ▸ named) (first ▸ passed)]
    cases truth : Field.toTruth extractPayload with
    | ok b => exact Or.inl (Or.inl (uncheckedCreate_of_flag named passed truth))
    | error p => exact Or.inr ⟨_, .flag named passed truth⟩
  · exact Or.inl typed
  · exact Or.inr ⟨_, .uncaught uncaught⟩

theorem update_endsDocumented_or_uncaught (mapper : Mapper) (named : changes.Named)
    : EndsDocumented (mapper.update changes)
      ∨ ∃ f, Uncaught (changes.get? (text "charset")) (changes.get? (text "default_url")) f := by
  rw [update_eq_guarded]
  rcases guarded_cases changes (mapper.uncheckedUpdate changes) with ⟨charset, passed⟩ | checked
  · rw [guarded_of_passes charset passed]
    exact Or.inl (uncheckedUpdate_endsDocumented named passed)
  · exact checked

/-- A call that changes settings ends as its update does, or gives the mapper twice. -/
theorem perform_of_escapes {call : Call} {e : Failure} (mapper : Mapper) (escapes : call.Escapes e)
    : IsUntyped e ∧ (mapper.perform call).1 = .error e := by
  cases escapes with
  | receiver twice =>
      rw [mapper.perform_of_namesReceiver twice]
      exact ⟨trivial, rfl⟩
  | @uncaught _ changes f asked once uncaught =>
      have failed := guarded_of_uncaught (mapper.uncheckedUpdate changes) uncaught
      rw [← update_eq_guarded] at failed
      refine ⟨trivial, ?_⟩
      rcases mapper.perform_of_changes asked once with ⟨next, _, made, _⟩ | ⟨e, ended, given⟩
      · rw [failed] at made
        contradiction
      · rw [failed] at ended
        rw [given, Except.error.inj ended]
  | silent silent => exact ⟨trivial, by rw [mapper.perform_setExtractPayload_of_error silent]⟩

theorem perform_endsDocumented_or_escapes (mapper : Mapper) {call : Call}
    (asked : call.changes? = some changes)
    : EndsDocumented (mapper.perform call).1 ∨ ∃ e, call.Escapes e := by
  by_cases once : ∀ values, call = .update values → namesReceiver values = false
  · rcases mapper.update_endsDocumented_or_uncaught (Call.named_of_changes? asked) with
      typed | ⟨f, uncaught⟩
    · refine Or.inl ?_
      rcases mapper.perform_of_changes asked once with ⟨next, answer, _, given⟩ | ⟨e, ended, given⟩
      · exact Or.inl ⟨answer, by rw [given]⟩
      · rcases typed with ⟨next, made⟩ | ⟨p, failed, documented⟩
        · rw [ended] at made
          contradiction
        · rw [ended] at failed
          exact .problem (by rw [given, Except.error.inj failed]) documented
    · exact Or.inr ⟨_, .uncaught asked once uncaught⟩
  · simp only [not_forall, Bool.not_eq_false] at once
    obtain ⟨values, rfl, twice⟩ := once
    exact Or.inr ⟨_, .receiver twice⟩

/-- To make a mapper and to change its settings ends well or with a documented problem, unless a
value escapes, and then it ends with just the failure that escapes.
-/
theorem settings_documented_iff_not_escapes (format : ObjectFormat)
    : (∀ defaultUrl extractPayload charset,
        (EndsDocumented (create defaultUrl extractPayload charset format)
            ↔ ∀ e, ¬CreationEscapes defaultUrl extractPayload charset e)
          ∧ ∀ e, CreationEscapes defaultUrl extractPayload charset e →
              create defaultUrl extractPayload charset format = .error e)
      ∧ ∀ (mapper : Mapper) (call : Call), (∀ m, call ≠ .map m) →
          (EndsDocumented (mapper.perform call).1 ↔ ∀ e, ¬call.Escapes e)
            ∧ ∀ e, call.Escapes e → (mapper.perform call).1 = .error e := by
  refine ⟨fun defaultUrl extractPayload charset => ⟨⟨?_, ?_⟩, fun e escapes => ?_⟩,
    fun mapper call noMap => ⟨⟨?_, ?_⟩, fun e escapes => ?_⟩⟩
  · intro typed e escapes
    obtain ⟨untyped, failed⟩
        : IsUntyped e ∧ create defaultUrl extractPayload charset format = .error e :=
      create_of_escapes escapes
    exact not_endsDocumented untyped failed typed
  · intro noEscape
    have ways := create_endsDocumented_or_escapes defaultUrl extractPayload charset format
    exact ways.resolve_right fun ⟨e, escapes⟩ => noEscape e escapes
  · exact (create_of_escapes escapes).2
  · intro typed e escapes
    obtain ⟨untyped, failed⟩ := mapper.perform_of_escapes escapes
    exact not_endsDocumented untyped failed typed
  · intro noEscape
    rcases Call.changes?_cases noMap with ⟨changes, asked⟩ | ⟨v, f, rfl, silent⟩
    · have ways := mapper.perform_endsDocumented_or_escapes asked
      exact ways.resolve_right fun ⟨e, escapes⟩ => noEscape e escapes
    · exact absurd (.silent silent) (noEscape _)
  · exact (mapper.perform_of_escapes escapes).2

end

/-- A change of the flag to a number that is no truth value. -/
def numberChange : Call :=
  .update [(text "extract_payload", .int 2)]

/-- A URL that ends in a lone surrogate. -/
def surrogateUrl : Text :=
  text "http://a/" ++ [CodePoint.ofNat 0xd800]

/-- The same flag is a documented problem of a change, but none of a new mapper. A surrogate in the
URL is none of either.
-/
theorem settings_documented_of_number
    : ¬EndsDocumented (create .null (.int 2) (.text (text "us-ascii")) .json)
      ∧ EndsDocumented (asciiMapper.perform numberChange).1
      ∧ ¬EndsDocumented (asciiMapper.perform (.setDefaultUrl (.text surrogateUrl))).1 := by
  obtain ⟨making, changing⟩ := settings_documented_iff_not_escapes .json
  have named : Passes IsCharset (some (.text (text "us-ascii"))) := by
    rintro _ ⟨_⟩
    exact ⟨_, .given (by decide +kernel)⟩
  have passed : Passes IsDefaultUrl (some .null) := by
    rintro _ ⟨_⟩
    exact ⟨_, .absent⟩
  have flag : CreationEscapes .null (.int 2) (.text (text "us-ascii")) _ :=
    .flag named passed (p := .truthWord) rfl
  have surrogate : Call.Escapes (.setDefaultUrl (.text surrogateUrl)) _ :=
    .uncaught rfl nofun (.surrogate nofun rfl rfl (c := CodePoint.ofNat 0xd800) (by decide +kernel))
  refine ⟨fun typed => (making _ _ _).1.mp typed _ flag, (changing _ numberChange nofun).1.mpr ?_,
    fun typed =>
      (changing _ (.setDefaultUrl (.text surrogateUrl)) nofun).1.mp typed _ surrogate⟩
  intro e escapes
  cases escapes with
  | receiver twice => exact absurd twice (by decide +kernel)
  | uncaught asked once uncaught =>
      cases asked
      cases uncaught with
      | charset given _ => contradiction
      | surrogate _ given _ _ => contradiction
      | defaultUrl _ given _ => contradiction

end Mapper

end Dispatch
