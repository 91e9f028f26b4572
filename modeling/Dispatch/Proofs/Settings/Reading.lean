import Dispatch.Proofs.Result
import Dispatch.Settings.Basic

/-! Settings that were read are in order. Their charset may be configured and the URL to fall back
on is absolute, whatever entries they were read from.
-/

namespace Dispatch.Settings

open Dispatch.Result

variable [Platform]

/-- Settings that a mapper can work with. -/
structure Sound (s : Settings) : Prop where
  charset : Charset.isSupported s.charset
  defaultUrl : ∀ t ∈ s.defaultUrl, Url.isAbsoluteText t = .ok true

/-- The URL to fall back on that a value stands for: none, or the text of an absolute URL. -/
inductive IsDefaultUrl : Value → Option Text → Prop
  | absent : IsDefaultUrl .null none
  | given {v : Value} {t : Text} (url : urlText? v = some t)
    (absolute : Url.isAbsoluteText t = .ok true)
    : IsDefaultUrl v (some t)

/-- What is read is what the value stands for; every other way through the reading refuses it. -/
theorem isDefaultUrl_of_readDefaultUrl {v : Value} {defaultUrl : Option Text}
    (read : readDefaultUrl v = .ok (.ok defaultUrl))
    : IsDefaultUrl v defaultUrl := by
  simp only [readDefaultUrl] at read
  split at read
  · cases read
    exact .absent
  · split at read
    · split at read <;> simp at read
    · rename_i url
      split at read
      · rename_i absolute
        cases read
        exact .given url absolute
      · split at read <;> simp at read
      · simp at read

theorem IsDefaultUrl.read {v : Value} {defaultUrl : Option Text}
    (stands : IsDefaultUrl v defaultUrl)
    : readDefaultUrl v = .ok (.ok defaultUrl) := by
  cases stands with
  | absent => rfl
  | given url absolute =>
      cases v with
      | null => contradiction
      | _ => simp only [readDefaultUrl, url, absolute]

/-- Null and whatever has the text of a URL can be written down. -/
theorem shown_of_urlText? {v : Value} (url : v = .null ∨ ∃ t, urlText? v = some t)
    : ∃ shown, v.shown = .ok shown := by
  rcases url with rfl | ⟨t, url⟩
  · exact ⟨_, Value.shown_null⟩
  · cases v with
    | text t => exact ⟨_, Value.shown_text t⟩
    | url u => exact ⟨_, Value.shown_url u⟩
    | _ => contradiction

/-- Reading ends at a value that cannot be written down, unless it is for its digits, and at no
other. -/
theorem readDefaultUrl_eq_error {v : Value} {f : Fault}
    : readDefaultUrl v = .error f ↔ ∃ e, v.shown = .error e ∧ e ≠ .digits ∧ f = .shown e := by
  constructor
  · intro failed
    simp only [readDefaultUrl] at failed
    split at failed
    · contradiction
    · split at failed
      · split at failed
        · contradiction
        · contradiction
        · rename_i e uncaught unshown
          exact ⟨e, unshown, uncaught, (Except.error.inj failed).symm⟩
      · split at failed
        · contradiction
        · simp only [Value.shown_text] at failed
          contradiction
        · contradiction
  · rintro ⟨e, unshown, uncaught, rfl⟩
    have other : ¬(v = .null ∨ ∃ t, urlText? v = some t) := fun url => by
      obtain ⟨shown, written⟩ := shown_of_urlText? url
      rw [unshown] at written
      contradiction
    obtain ⟨notNull, noText⟩ := not_or.mp other
    have noUrl : urlText? v = none := by
      cases url : urlText? v with
      | none => rfl
      | some t => exact absurd ⟨t, url⟩ noText
    simp only [readDefaultUrl, noUrl, unshown]

theorem isAbsoluteText_of_readDefaultUrl {v : Value} {t : Text}
    (read : readDefaultUrl v = .ok (.ok (some t)))
    : Url.isAbsoluteText t = .ok true := by
  cases isDefaultUrl_of_readDefaultUrl read with
  | given url absolute => exact absolute

theorem isSupported_of_readCharset {v : Value} {name : Text} (read : readCharset v = .ok name)
    : Charset.isSupported name := by
  rw [readCharset, bind_eq_ok] at read
  obtain ⟨given, _, checked⟩ := read
  split at checked
  · rename_i supported
    rw [← Except.ok.inj checked]
    exact supported
  · simp at checked

/-- Settings that were read hold what the entries give for each field, or the default. -/
theorem fields_of_ofEntries {entries : Entries} {s : Settings} (read : ofEntries entries = .ok s)
    : (∀ v, entries.get? (text "default_url") = some v → readDefaultUrl v = .ok (.ok s.defaultUrl))
      ∧ (entries.get? (text "default_url") = none → s.defaultUrl = none)
      ∧ (∀ v, entries.get? (text "charset") = some v → readCharset v = .ok s.charset)
      ∧ (entries.get? (text "charset") = none → s.charset = standardCharset) := by
  rw [ofEntries, bind_eq_ok] at read
  obtain ⟨defaultUrl, first, read⟩ := read
  simp only at read
  split at read
  · rename_i defaultUrl extractPayload charset _ charsetRead _
    rw [← Except.ok.inj read]
    refine ⟨fun v found => ?_, fun absent => ?_, fun v found => ?_, fun absent => ?_⟩
    · rw [found] at first
      exact mapError_eq_ok.mp first
    · rw [absent] at first
      exact (Except.ok.inj (Except.ok.inj first)).symm
    · rw [found] at charsetRead
      exact charsetRead
    · rw [absent] at charsetRead
      exact (Except.ok.inj charsetRead).symm
  · simp at read

/-- Settings that were read have extraction as it is given. -/
theorem toTruth_of_ofEntries {entries : Entries} {s : Settings} {v : Value}
    (read : ofEntries entries = .ok s) (given : entries.get? (text "extract_payload") = some v)
    : Field.toTruth v = .ok s.extractPayload := by
  rw [ofEntries, bind_eq_ok] at read
  obtain ⟨defaultUrl, _, read⟩ := read
  simp only [given] at read
  split at read
  · rename_i truth _ _ _
    rw [← Except.ok.inj read]
    exact truth
  · simp at read

/-- Entries that are no settings are refused field by field, unless the reading ends at the URL to
fall back on. -/
theorem ofEntries_cases (entries : Entries)
    : (∃ s, ofEntries entries = .ok s) ∨ (∃ errors, ofEntries entries = .error (.fields errors))
      ∨ ∃ v e, entries.get? (text "default_url") = some v ∧ v.shown = .error e ∧ e ≠ .digits
          ∧ ofEntries entries = .error (.fault (.shown e)) := by
  cases read : ofEntries entries with
  | ok s => exact Or.inl ⟨s, rfl⟩
  | error e =>
      refine Or.inr ?_
      rw [ofEntries, bind_eq_error] at read
      rcases read with unread | ⟨defaultUrl, _, refused⟩
      · obtain ⟨f, failed, rfl⟩ := mapError_eq_error.mp unread
        split at failed
        · rename_i v found
          obtain ⟨e, unshown, uncaught, rfl⟩ := readDefaultUrl_eq_error.mp failed
          exact Or.inr ⟨v, e, found, unshown, uncaught, rfl⟩
        · contradiction
      · simp only at refused
        split at refused
        · contradiction
        · exact Or.inl ⟨_, refused.symm⟩

/-- Settings are read from entries of the known names only. -/
theorem extraErrors_of_ofEntries {entries : Entries} {s : Settings}
    (read : ofEntries entries = .ok s)
    : Field.extraErrors fieldNames entries = [] := by
  rw [ofEntries, bind_eq_ok] at read
  obtain ⟨defaultUrl, _, read⟩ := read
  simp only at read
  split at read
  · assumption
  · simp at read

theorem isAbsoluteText_of_ofEntries {entries : Entries} {s : Settings}
    (read : ofEntries entries = .ok s) {t : Text} (held : t ∈ s.defaultUrl)
    : Url.isAbsoluteText t = .ok true := by
  obtain ⟨given, absent, _⟩ := fields_of_ofEntries read
  rw [Option.mem_def] at held
  cases found : entries.get? (text "default_url") with
  | none =>
      rw [absent found] at held
      contradiction
  | some v =>
      have urlRead := given v found
      rw [held] at urlRead
      exact isAbsoluteText_of_readDefaultUrl urlRead

/-- Settings read from entries that name a charset are sound. -/
theorem sound_of_ofEntries {entries : Entries} {s : Settings} (read : ofEntries entries = .ok s)
    (named : (entries.get? (text "charset")).isSome)
    : s.Sound := by
  obtain ⟨_, _, given, _⟩ := fields_of_ofEntries read
  obtain ⟨v, found⟩ := Option.isSome_iff_exists.mp named
  exact ⟨isSupported_of_readCharset (given v found), fun t => isAbsoluteText_of_ofEntries read⟩

/-- Settings without a URL to fall back on are read as they are given. -/
theorem ofEntries_of_isSupported {charset : Text} (supported : Charset.isSupported charset)
    (extractPayload : Bool)
    : ofEntries [
        (.text (text "default_url"), .null),
        (.text (text "extract_payload"), .bool extractPayload),
        (.text (text "charset"), .text charset)]
      = .ok ⟨none, extractPayload, charset⟩ := by
  have read : readCharset (.text charset) = .ok charset := by
    simp only [readCharset, Field.toText, ok_bind, supported, if_true, pure_eq]
  have named (entries : Entries) (same : entries = [
        (.text (text "default_url"), .null),
        (.text (text "extract_payload"), .bool extractPayload),
        (.text (text "charset"), .text charset)])
      : entries.get? (text "default_url") = some .null
        ∧ entries.get? (text "extract_payload") = some (.bool extractPayload)
        ∧ entries.get? (text "charset") = some (.text charset)
        ∧ Field.extraErrors fieldNames entries = [] := by
    subst same
    exact ⟨rfl, rfl, rfl, rfl⟩
  obtain ⟨defaultPart, extractPart, charsetPart, noOther⟩ := named _ rfl
  simp only [ofEntries, defaultPart, extractPart, charsetPart, noOther, readDefaultUrl,
    Field.toTruth, read, mapError_ok, ok_bind, pure_eq]

end Dispatch.Settings
