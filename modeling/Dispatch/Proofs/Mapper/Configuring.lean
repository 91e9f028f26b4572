import Dispatch.Proofs.Charset.Standard
import Dispatch.Proofs.Mapper.Changing

/-! The ways to settings agree. Whether settings are read on their own, a mapper is made with them
or a mapper is changed to them, the same values are valid and they stand for the same settings.
Settings that were read stand for themselves, so a mapper can always be made from them.
-/

namespace Dispatch

open Dispatch.Result

namespace Settings

variable [Platform]

/-- Values for all fields by their names. -/
def fields (defaultUrl extractPayload charset : Value) : List (Text × Value) :=
  [(text "default_url", defaultUrl), (text "extract_payload", extractPayload),
    (text "charset", charset)]

/-- The settings that values for all fields stand for. -/
structure GivenBy (defaultUrl extractPayload charset : Value) (s : Settings) : Prop where
  defaultUrl : IsDefaultUrl defaultUrl s.defaultUrl
  extractPayload : IsTruth extractPayload s.extractPayload
  charset : IsCharset charset s.charset

variable {defaultUrl extractPayload charset : Value} {s : Settings}

/-- Each of the fields is found under its name, and there are no others. -/
theorem get?_fields (defaultUrl extractPayload charset : Value)
    : (Entries.ofNamed (fields defaultUrl extractPayload charset)).get? (text "default_url")
          = some defaultUrl
      ∧ (Entries.ofNamed (fields defaultUrl extractPayload charset)).get? (text "extract_payload")
          = some extractPayload
      ∧ (Entries.ofNamed (fields defaultUrl extractPayload charset)).get? (text "charset")
          = some charset
      ∧ Field.extraErrors fieldNames (Entries.ofNamed (fields defaultUrl extractPayload charset))
          = [] :=
  ⟨rfl, rfl, rfl, rfl⟩

/-- Settings are read exactly if each value stands for its field. The charset is given as a text. -/
theorem ofEntries_fields_eq_ok_iff {name : Text}
    : ofEntries (.ofNamed (fields defaultUrl extractPayload (.text name))) = .ok s
      ↔ GivenBy defaultUrl extractPayload (.text name) s := by
  obtain ⟨first, second, third, noOther⟩ := get?_fields defaultUrl extractPayload (.text name)
  rw [ofEntries_eq_ok_iff first second third, readDefaultUrl_eq_ok_iff,
    readCharset_text_eq_ok_iff, ← IsTruth]
  constructor
  · rintro ⟨url, truth, named, _⟩
    exact ⟨url, truth, named⟩
  · rintro ⟨url, truth, named⟩
    exact ⟨url, truth, named, noOther⟩

/-- To change every field is to give all values anew, whatever the settings were before. -/
theorem changedBy_fields_iff {before : Settings}
    : before.ChangedBy (.ofNamed (fields defaultUrl extractPayload charset)) s
      ↔ GivenBy defaultUrl extractPayload charset s := by
  obtain ⟨first, second, third, noOther⟩ := get?_fields defaultUrl extractPayload charset
  constructor
  · rintro ⟨_, url, truth, named⟩
    rw [first] at url
    rw [second] at truth
    rw [third] at named
    rcases url with _ | url
    rcases truth with _ | truth
    rcases named with _ | named
    exact ⟨url, truth, named⟩
  · rintro ⟨url, truth, named⟩
    refine ⟨(Mapper.extraErrors_eq_nil_iff (Entries.named_ofNamed _)).mp noOther, ?_, ?_, ?_⟩
    · rw [first]
      exact .changed url
    · rw [second]
      exact .changed truth
    · rw [third]
      exact .changed named

/-- Sound settings are what their own fields stand for. -/
theorem Sound.givenBy (sound : s.Sound)
    : GivenBy s.defaultUrlValue (.bool s.extractPayload) (.text s.charset) s :=
  ⟨sound.isDefaultUrl_iff.mpr rfl, isTruth_bool_iff.mpr rfl, sound.isCharset_iff.mpr rfl⟩

/-- Settings that were read are sound. A charset that is not named is the standard one. -/
theorem sound_of_read {entries : Entries} (read : ofEntries entries = .ok s) : s.Sound := by
  cases named : entries.get? (text "charset") with
  | some v => exact sound_of_ofEntries read (by rw [named]; rfl)
  | none =>
      obtain ⟨_, _, _, standard⟩ := fields_of_ofEntries read
      refine ⟨?_, fun t => isAbsoluteText_of_ofEntries read⟩
      rw [standard named]
      exact Charset.isSupported_standard

end Settings

namespace Mapper

open Dispatch.Settings

section

variable [Platform] {mapper next : Mapper} {format : ObjectFormat}
  {defaultUrl extractPayload charset : Value} {s : Settings}

/-- A mapper is made exactly if each value stands for its field. -/
theorem create_eq_ok_iff
    : create defaultUrl extractPayload charset format = .ok mapper
      ↔ ∃ s, GivenBy defaultUrl extractPayload charset s ∧ mapper = ⟨s, format, 0⟩ := by
  constructor
  · intro made
    simp only [create, bind_eq_ok] at made
    obtain ⟨_, charsetChecked, _, _, s, read, made⟩ := made
    obtain ⟨name, ⟨_⟩⟩ := checkCharset_eq_ok_iff.mp charsetChecked
    exact ⟨s, ofEntries_fields_eq_ok_iff.mp read, (Except.ok.inj made).symm⟩
  · rintro ⟨s, given, rfl⟩
    have charsetChecked := checkCharset_eq_ok_iff.mpr ⟨_, given.charset⟩
    have urlChecked := checkDefaultUrl_eq_ok_iff.mpr ⟨_, given.defaultUrl⟩
    obtain ⟨_⟩ := given.charset
    have read := ofEntries_fields_eq_ok_iff.mpr given
    have entries : Settings.ofEntries [(.text (text "default_url"), defaultUrl),
        (.text (text "extract_payload"), extractPayload), (.text (text "charset"), .text s.charset)]
          = .ok s :=
      read
    simp only [create, charsetChecked, urlChecked, ok_bind, entries, pure_eq]

/-- A mapper of any settings before is changed exactly if each value stands for its field. -/
theorem update_fields_eq_ok_iff (sound : mapper.settings.Sound)
    : mapper.update (.ofNamed (fields defaultUrl extractPayload charset)) = .ok next
      ↔ ∃ s, GivenBy defaultUrl extractPayload charset s
        ∧ next = { mapper with settings := s, revision := mapper.revision + 1 } := by
  rw [update_eq_ok_iff sound (Entries.named_ofNamed _)]
  exact exists_congr fun s => and_congr_left fun _ => changedBy_fields_iff

/-- A mapper can be made from sound settings, and it has them. -/
theorem ofSettings_of_sound (sound : s.Sound) (format : ObjectFormat)
    : ofSettings s format = .ok ⟨s, format, 0⟩ :=
  create_eq_ok_iff.mpr ⟨s, sound.givenBy, rfl⟩

/-- Values for the three fields are read as settings exactly if a mapper can be made with them, and
exactly if any mapper can be changed to them, and then the settings are the same. All settings that
can be read, and those of all mappers, make a mapper with just these settings.
-/
theorem settings_agree (defaultUrl extractPayload : Value) (name : Text) (format : ObjectFormat)
    : (∀ s, Settings.ofEntries (.ofNamed (fields defaultUrl extractPayload (.text name))) = .ok s
        ↔ ∃ mapper, create defaultUrl extractPayload (.text name) format = .ok mapper
          ∧ mapper.settings = s)
      ∧ (∀ mapper : Mapper, mapper.Reachable →
        ∀ s, Settings.ofEntries (.ofNamed (fields defaultUrl extractPayload (.text name))) = .ok s
          ↔ ∃ next, mapper.update (.ofNamed (fields defaultUrl extractPayload (.text name)))
              = .ok next
            ∧ next.settings = s)
      ∧ (∀ entries s, Settings.ofEntries entries = .ok s →
        ∃ mapper, ofSettings s format = .ok mapper ∧ mapper.settings = s)
      ∧ ∀ mapper : Mapper, mapper.Reachable →
        ∃ again, ofSettings mapper.settings format = .ok again
          ∧ again.settings = mapper.settings := by
  refine ⟨fun s => ?_, fun mapper reached s => ?_, fun entries s read => ?_,
    fun mapper reached => ?_⟩
  · simp only [ofEntries_fields_eq_ok_iff, create_eq_ok_iff]
    constructor
    · intro given
      exact ⟨_, ⟨s, given, rfl⟩, rfl⟩
    · rintro ⟨_, ⟨t, given, rfl⟩, rfl⟩
      exact given
  · simp only [ofEntries_fields_eq_ok_iff, update_fields_eq_ok_iff reached.sound]
    constructor
    · intro given
      exact ⟨_, ⟨s, given, rfl⟩, rfl⟩
    · rintro ⟨_, ⟨t, given, rfl⟩, rfl⟩
      exact given
  · exact ⟨_, ofSettings_of_sound (sound_of_read read) format, rfl⟩
  · exact ⟨_, ofSettings_of_sound reached.sound format, rfl⟩

end

/-- Settings with a URL to fall back on. -/
def fallbackSettings : Settings :=
  ⟨some (text "http://a/b?x"), true, text "us-ascii"⟩

theorem settings_agree_of_words
    : (∃ mapper, create (.text (text "http://a/b?x")) (.text (text "Yes"))
            (.text (text "us-ascii")) .json = .ok mapper
          ∧ mapper.settings = fallbackSettings)
      ∧ (∃ next, asciiMapper.update (.ofNamed (fields (.text (text "http://a/b?x"))
            (.text (text "Yes")) (.text (text "us-ascii")))) = .ok next
          ∧ next.settings = fallbackSettings)
      ∧ ∃ mapper, ofSettings fallbackSettings .json = .ok mapper
          ∧ mapper.settings = fallbackSettings := by
  obtain ⟨created, updated, configured, _⟩ := settings_agree (.text (text "http://a/b?x"))
    (.text (text "Yes")) (text "us-ascii") .json
  have read : Settings.ofEntries (.ofNamed (fields (.text (text "http://a/b?x"))
      (.text (text "Yes")) (.text (text "us-ascii")))) = .ok fallbackSettings :=
    eq_ok_of_toOption (by decide +kernel)
  exact ⟨(created _).mp read, (updated asciiMapper reachable_asciiMapper _).mp read,
    configured _ _ read⟩

end Mapper

end Dispatch
