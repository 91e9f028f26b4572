import Dispatch.Proofs.Mapper.Configuring
import Dispatch.Proofs.Template
import Dispatch.Proofs.Yaml.Document
import Dispatch.Settings.Document

/-! Settings from documents. A document gives sound settings or a problem of the configuration,
unless one of five things escapes: a scalar that stands for nothing, too much nesting, a node that
is its own content, a value that cannot be filled in, and a URL to fall back on that cannot be
written down.
-/

namespace Dispatch.Settings

open Dispatch.Result

section

variable [Platform] {env : Environment} {path content : Text}

/-- The faults that reading settings from a document ends with. -/
inductive Escapes (env : Environment) (content : Text) : Fault → Prop
  /-- An escape, a version or a node fits the grammar, stands for nothing, and is the first to do
  so. -/
  | scalar {e : Yaml.ScalarError} (senseless : Yaml.Senseless content e)
    (read : Yaml.read content = .error (.scalar e))
    : Escapes env content (.scalar e)
  /-- The nodes of the document are nested too deeply. -/
  | nesting (deep : Yaml.parse content = .error .depth) : Escapes env content .depth
  /-- The value sign of a map within the document leads back to the map. -/
  | endless {n m : Yaml.Node} (parsed : Yaml.parse content = .ok (some n))
    (within : Yaml.Node.Within m n) (endless : m.IsEndless)
    (read : Yaml.read content = .error .depth)
    : Escapes env content .depth
  /-- The selected part is too deep, holds itself, or has a placeholder whose name has no bytes. -/
  | unfilled {document : Value} {entries : Entries} {f : Fault}
    (read : Yaml.read content = .ok document) (part : selected document = .ok entries)
    (stops : Template.Stops env Platform.filledDepth (.map .plain entries) (.fault f))
    : Escapes env content f
  /-- The refused URL has no written form. -/
  | unshown {document v : Value} {entries filled : Entries} {e : Value.ShowError}
    (read : Yaml.read content = .ok document) (part : selected document = .ok entries)
    (done : Template.fillValue env (.map .plain entries) = .ok (.map .plain filled))
    (given : filled.get? (text "default_url") = some v) (unshown : v.shown = .error e)
    (uncaught : e ≠ .digits)
    : Escapes env content (.shown e)

omit [Platform] in
theorem entriesOf_cases (v : Value) (isNothing : Value → Bool) (otherwise : Problem)
    (kind : otherwise.kind = .configuration)
    : (∃ entries, entriesOf v isNothing otherwise = .ok entries)
      ∨ ∃ p, entriesOf v isNothing otherwise = .error (.ofProblem p) ∧ p.kind = .configuration := by
  unfold entriesOf
  split
  · exact Or.inl ⟨[], rfl⟩
  · split
    · exact Or.inl ⟨_, rfl⟩
    · exact Or.inr ⟨otherwise, rfl, kind⟩

omit [Platform] in
/-- The selected part is entries, or a problem of the configuration. -/
theorem selected_cases (document : Value)
    : (∃ entries, selected document = .ok entries)
      ∨ ∃ p, selected document = .error (.ofProblem p) ∧ p.kind = .configuration := by
  rw [selected]
  rcases entriesOf_cases document Value.isNull .documentNotMap rfl with
    ⟨entries, whole⟩ | ⟨p, refused, kind⟩
  · rw [whole, ok_bind]
    split
    · exact entriesOf_cases _ _ _ rfl
    · exact Or.inl ⟨entries, rfl⟩
  · rw [refused]
    exact Or.inr ⟨p, rfl, kind⟩

/-- A map that is filled in stays a map. -/
theorem fillValue_map_cases (env : Environment) (entries : Entries)
    : (∃ filled, Template.fillValue env (.map .plain entries) = .ok (.map .plain filled))
      ∨ ∃ e, Template.fillValue env (.map .plain entries) = .error e
          ∧ Template.Stops env Platform.filledDepth (.map .plain entries) e := by
  cases filled : Template.fillValue env (.map .plain entries) with
  | error e => exact Or.inr ⟨e, rfl, Template.fillWithin_eq_error.mp filled⟩
  | ok v =>
      rw [Template.fillValue_map env .plain _ rfl, map_eq_ok] at filled
      obtain ⟨found, _, rfl⟩ := filled
      exact Or.inl ⟨found, rfl⟩

/-- Settings that are read, or a problem of the configuration. -/
def EndsConfigured (result : Except Failure Settings) : Prop :=
  (∃ s, result = .ok s ∧ s.Sound) ∨ ∃ p, result = .error (.ofProblem p) ∧ p.kind = .configuration

theorem ofDocumentValue_of_filled {document : Value} {entries filled : Entries}
    (part : selected document = .ok entries)
    (done : Template.fillValue env (.map .plain entries) = .ok (.map .plain filled))
    : ofDocumentValue env document
      = match ofEntries filled with
        | .ok settings => .ok settings
        | .error (.fields errors) => .error (.ofProblem (.documentFields errors))
        | .error e => .error e := by
  rw [ofDocumentValue, part, ok_bind, done, ok_bind]
  rfl

theorem ofDocument_of_value {document : Value} (read : Yaml.read content = .ok document)
    : ofDocument env path (some content) = ofDocumentValue env document := by
  simp only [ofDocument, read, mapError_ok, ok_bind]

theorem ofDocument_of_unread {e : Yaml.Error} (unread : Yaml.read content = .error e)
    : ofDocument env path (some content) = .error (documentFailure e) := by
  simp only [ofDocument, unread, mapError_error, error_bind]

/-- What escapes ends the reading with just this fault. -/
theorem ofDocument_of_escapes {f : Fault} (escapes : Escapes env content f) (path : Text)
    : ofDocument env path (some content) = .error (.fault f) := by
  cases escapes with
  | scalar _ read => rw [ofDocument_of_unread read, documentFailure]
  | nesting deep => rw [ofDocument_of_unread (Yaml.read_of_parse_eq_depth deep), documentFailure]
  | endless _ _ _ read => rw [ofDocument_of_unread read, documentFailure]
  | @unfilled document entries f read part stops =>
      have failed : Template.fillValue env (.map .plain entries) = .error (.fault f) :=
        Template.fillWithin_eq_error.mpr stops
      rw [ofDocument_of_value read, ofDocumentValue, part, ok_bind, failed, error_bind]
  | @unshown document v entries filled e read part done given unshown uncaught =>
      rw [ofDocument_of_value read, ofDocumentValue_of_filled part done]
      have failed : ofEntries filled = .error (.fault (.shown e)) := by
        have unread : readDefaultUrl v = .error (.shown e) :=
          readDefaultUrl_eq_error.mpr ⟨e, unshown, uncaught, rfl⟩
        simp only [ofEntries, given, unread, mapError_error, error_bind]
      rw [failed]

/-- Every document gives sound settings, a problem of the configuration, or escapes, stage by
stage. -/
theorem ofDocument_cases (env : Environment) (path content : Text)
    : EndsConfigured (ofDocument env path (some content)) ∨ ∃ f, Escapes env content f := by
  cases read : Yaml.read content with
  | error e =>
      cases e with
      | grammar =>
          rw [ofDocument_of_unread read]
          exact Or.inl (Or.inr ⟨.documentGrammar, rfl, rfl⟩)
      | depth =>
          rcases Yaml.deep_or_endless_of_read read with deep | ⟨n, m, parsed, within, endless⟩
          · exact Or.inr ⟨_, .nesting deep⟩
          · exact Or.inr ⟨_, .endless parsed within endless read⟩
      | scalar e => exact Or.inr ⟨_, .scalar (Yaml.senseless_of_read read) read⟩
  | ok document =>
      rw [ofDocument_of_value read]
      rcases selected_cases document with ⟨entries, part⟩ | ⟨p, refused, kind⟩
      · rcases fillValue_map_cases env entries with ⟨filled, done⟩ | ⟨e, failed, stops⟩
        · rw [ofDocumentValue_of_filled part done]
          rcases ofEntries_cases filled with ⟨s, settled⟩ | ⟨errors, refused⟩
            | ⟨v, e, given, unshown, uncaught, _⟩
          · rw [settled]
            exact Or.inl (Or.inl ⟨s, rfl, sound_of_read settled⟩)
          · rw [refused]
            exact Or.inl (Or.inr ⟨.documentFields errors, rfl, rfl⟩)
          · exact Or.inr ⟨_, .unshown read part done given unshown uncaught⟩
        · rcases stops.cases with ⟨name, rfl⟩ | ⟨f, rfl⟩
          · rw [ofDocumentValue, part, ok_bind, failed, error_bind]
            exact Or.inl (Or.inr ⟨.unsetVariable name, rfl, rfl⟩)
          · exact Or.inr ⟨f, .unfilled read part stops⟩
      · rw [ofDocumentValue, refused, error_bind]
        exact Or.inl (Or.inr ⟨p, rfl, kind⟩)

/-- A document gives sound settings or a problem of the configuration, unless a fault escapes, and
it ends with a fault exactly if this one escapes. -/
theorem ofDocument_configured_iff_not_escapes (env : Environment) (path content : Text)
    : (EndsConfigured (ofDocument env path (some content)) ↔ ∀ f, ¬Escapes env content f)
      ∧ ∀ f, ofDocument env path (some content) = .error (.fault f) ↔ Escapes env content f := by
  have notBoth {f : Fault} (failed : ofDocument env path (some content) = .error (.fault f))
      : ¬EndsConfigured (ofDocument env path (some content)) := by
    rintro (⟨s, read, _⟩ | ⟨p, refused, _⟩)
    · rw [failed] at read
      contradiction
    · rw [failed] at refused
      cases refused
  refine ⟨⟨fun ends f escapes => ?_, fun noEscape => ?_⟩,
    fun f => ⟨fun failed => ?_, fun escapes => ?_⟩⟩
  · exact notBoth (ofDocument_of_escapes escapes path) ends
  · exact (ofDocument_cases env path content).resolve_right fun ⟨f, escapes⟩ => noEscape f escapes
  · obtain ⟨g, escapes⟩ := (ofDocument_cases env path content).resolve_left (notBoth failed)
    have same := (ofDocument_of_escapes escapes path).symm.trans failed
    cases same
    exact escapes
  · exact ofDocument_of_escapes escapes path

end

/-- A document whose URL to fall back on reads as a date of a thirteenth month. -/
def thirteenthMonth : Text :=
  text "default_url: 2001-13-01\n"

theorem ofDocument_of_thirteenthMonth
    : ¬EndsConfigured (ofDocument [] (text "mapper.yaml") (some thirteenthMonth)) := by
  have read : Yaml.read thirteenthMonth = .error (.scalar (.moment .month)) :=
    errorOf?_eq_some.mp (by decide +kernel)
  have ends := ofDocument_configured_iff_not_escapes [] (text "mapper.yaml") thirteenthMonth
  exact fun configured => ends.1.mp configured _ (.scalar (Yaml.senseless_of_read read) read)

end Dispatch.Settings
