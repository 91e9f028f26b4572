import Dispatch.Proofs.Mapper.Merging
import Dispatch.Proofs.Mapper.Reachable

/-! Changes of settings. A change is made exactly when every name in it is that of a field and every
value is valid for its field. The fields that it names then hold their values in valid form, and all
others are as they were.
-/

namespace Dispatch

open Dispatch.Result

namespace Settings

-----------------------------------------------------------------------------------------
-- What a change makes of settings
-----------------------------------------------------------------------------------------

variable [Platform]

/-- The charset that a value stands for. -/
inductive IsCharset : Value → Text → Prop
  | given {name : Text} (supported : Charset.isSupported name) : IsCharset (.text name) name

/-- The truth value that a value stands for. -/
def IsTruth (v : Value) (b : Bool) : Prop :=
  Field.toTruth v = .ok b

/-- A field keeps what it holds without a change, and holds what the new value stands for with
one. -/
inductive Follows {α : Type} (stands : Value → α → Prop) : Option Value → α → α → Prop
  | kept {before : α} : Follows stands none before before
  | changed {v : Value} {before after : α} (valid : stands v after)
    : Follows stands (some v) before after

/-- The settings that changes lead to, field by field. -/
structure ChangedBy (changes : Entries) (before after : Settings) : Prop where
  known : ∀ name, (changes.get? name).isSome → name ∈ fieldNames.map text
  defaultUrl
    : Follows IsDefaultUrl (changes.get? (text "default_url")) before.defaultUrl after.defaultUrl
  extractPayload
    : Follows IsTruth (changes.get? (text "extract_payload")) before.extractPayload
        after.extractPayload
  charset : Follows IsCharset (changes.get? (text "charset")) before.charset after.charset

omit [Platform] in
theorem IsDefaultUrl.unique {v : Value} {s t : Option Text} (first : IsDefaultUrl v s)
    (second : IsDefaultUrl v t)
    : s = t := by
  cases first with
  | absent =>
      rcases second with _ | ⟨url, _⟩
      · rfl
      · contradiction
  | given url absolute =>
      rcases second with _ | ⟨again, _⟩
      · contradiction
      · rw [← url, ← again]

omit [Platform] in
theorem IsTruth.unique {v : Value} {b c : Bool} (first : IsTruth v b) (second : IsTruth v c)
    : b = c :=
  Except.ok.inj (first.symm.trans second)

theorem IsCharset.unique {v : Value} {s t : Text} (first : IsCharset v s) (second : IsCharset v t)
    : s = t := by
  cases first
  cases second
  rfl

omit [Platform] in
theorem Follows.unique {α : Type} {stands : Value → α → Prop} {change : Option Value}
    {before s t : α} (first : Follows stands change before s)
    (second : Follows stands change before t)
    (functional : ∀ v a b, stands v a → stands v b → a = b)
    : s = t := by
  cases first with
  | kept =>
      cases second
      rfl
  | changed valid =>
      rcases second with _ | again
      exact functional _ _ _ valid again

/-- Changes lead to no two settings. -/
theorem ChangedBy.unique {changes : Entries} {before s t : Settings}
    (first : before.ChangedBy changes s) (second : before.ChangedBy changes t)
    : s = t := by
  have defaultUrl := first.defaultUrl.unique second.defaultUrl fun _ _ _ => IsDefaultUrl.unique
  have extractPayload :=
    first.extractPayload.unique second.extractPayload fun _ _ _ => IsTruth.unique
  have charset := first.charset.unique second.charset fun _ _ _ => IsCharset.unique
  cases s
  cases t
  simp only at defaultUrl extractPayload charset
  rw [defaultUrl, extractPayload, charset]

/-- The URL to fall back on as an entry. -/
def defaultUrlValue (s : Settings) : Value :=
  match s.defaultUrl with
  | some t => .text t
  | none => .null

omit [Platform] in
theorem named_toEntries (s : Settings) : s.toEntries.Named := by
  have keys : s.toEntries.map (fun e => e.1.asText?)
      = fieldNames.map fun name => some (text name) :=
    rfl
  have once : (fieldNames.map fun name => some (text name)).Pairwise (· ≠ ·) := by
    decide
  rw [← keys, List.pairwise_map] at once
  refine ⟨?_, once⟩
  simp [toEntries, Value.isText]

theorem get?_toEntries (s : Settings)
    : s.toEntries.get? (text "default_url") = some s.defaultUrlValue
      ∧ s.toEntries.get? (text "extract_payload") = some (.bool s.extractPayload)
      ∧ s.toEntries.get? (text "charset") = some (.text s.charset)
      ∧ Field.extraErrors fieldNames s.toEntries = [] :=
  ⟨rfl, rfl, rfl, rfl⟩

/-- Settings are read from entries with all fields exactly if every entry stands for its field. -/
theorem ofEntries_eq_ok_iff {entries : Entries} {defaultUrl extractPayload charset : Value}
    {s : Settings} (first : entries.get? (text "default_url") = some defaultUrl)
    (second : entries.get? (text "extract_payload") = some extractPayload)
    (third : entries.get? (text "charset") = some charset)
    : ofEntries entries = .ok s
      ↔ readDefaultUrl defaultUrl = .ok (.ok s.defaultUrl)
        ∧ Field.toTruth extractPayload = .ok s.extractPayload
        ∧ readCharset charset = .ok s.charset
        ∧ Field.extraErrors fieldNames entries = [] := by
  simp only [ofEntries, first, second, third]
  constructor
  · intro read
    obtain ⟨url, urlRead, read⟩ := bind_eq_ok.mp read
    split at read
    · rename_i urlGiven truth charsetRead noOther
      rw [← Except.ok.inj read]
      exact ⟨mapError_eq_ok.mp urlRead, truth, charsetRead, noOther⟩
    · simp at read
  · rintro ⟨url, truth, charsetRead, noOther⟩
    simp only [url, truth, charsetRead, noOther, mapError_ok, ok_bind, pure_eq]

/-- The charset that stands in settings is read as itself, and so is every other name. -/
theorem readCharset_text_eq_ok_iff {name charset : Text}
    : readCharset (.text name) = .ok charset ↔ IsCharset (.text name) charset := by
  constructor
  · intro read
    have supported := isSupported_of_readCharset read
    simp only [readCharset, Field.toText, ok_bind] at read
    split at read
    · cases read
      exact .given supported
    · contradiction
  · rintro ⟨supported⟩
    simp only [readCharset, Field.toText, ok_bind, supported, if_true, pure_eq]

theorem readDefaultUrl_eq_ok_iff {v : Value} {defaultUrl : Option Text}
    : readDefaultUrl v = .ok (.ok defaultUrl) ↔ IsDefaultUrl v defaultUrl :=
  ⟨isDefaultUrl_of_readDefaultUrl, IsDefaultUrl.read⟩

-----------------------------------------------------------------------------------------
-- Sound settings stand for themselves
-----------------------------------------------------------------------------------------

theorem Sound.isDefaultUrl_iff {s : Settings} (sound : s.Sound) {defaultUrl : Option Text}
    : IsDefaultUrl s.defaultUrlValue defaultUrl ↔ defaultUrl = s.defaultUrl := by
  have absolute := sound.defaultUrl
  rw [defaultUrlValue]
  cases held : s.defaultUrl with
  | none =>
      constructor
      · rintro (_ | ⟨url, _⟩)
        · rfl
        · contradiction
      · rintro rfl
        exact .absent
  | some t =>
      constructor
      · rintro (_ | ⟨⟨_⟩, _⟩)
        rfl
      · rintro rfl
        exact .given rfl (absolute t held)

theorem Sound.isCharset_iff {s : Settings} (sound : s.Sound) {name : Text}
    : IsCharset (.text s.charset) name ↔ name = s.charset := by
  constructor
  · rintro ⟨_⟩
    rfl
  · rintro rfl
    exact .given sound.charset

omit [Platform] in
theorem isTruth_bool_iff {b c : Bool} : IsTruth (.bool b) c ↔ c = b := by
  rw [IsTruth, Field.toTruth, Except.ok.injEq, eq_comm]

omit [Platform] in
/-- With what a field holds in the place of a missing change, to stand for a value is to follow the
change. -/
theorem follows_iff {α : Type} {stands : Value → α → Prop} {held : Value} {before after : α}
    (itself : stands held after ↔ after = before) (change : Option Value)
    : stands (change.getD held) after ↔ Follows stands change before after := by
  cases change with
  | none =>
      rw [Option.getD_none, itself]
      constructor
      · rintro rfl
        exact .kept
      · rintro ⟨_⟩
        rfl
  | some v =>
      constructor
      · exact .changed
      · rintro (_ | valid)
        exact valid

end Settings

namespace Mapper

open Dispatch.Settings

variable [Platform]

-----------------------------------------------------------------------------------------
-- The checks that come before a change let its valid values through
-----------------------------------------------------------------------------------------

theorem checkCharset_eq_ok_iff {v : Value}
    : checkCharset v = .ok () ↔ ∃ name, IsCharset v name := by
  constructor
  · intro checked
    simp only [checkCharset] at checked
    split at checked
    · rename_i name
      split at checked
      · rename_i supported
        exact ⟨name, .given supported⟩
      · split at checked <;> contradiction
    · split at checked <;> contradiction
  · rintro ⟨name, ⟨supported⟩⟩
    simp only [checkCharset, supported, if_true]

theorem checkDefaultUrl_eq_ok_iff {v : Value}
    : checkDefaultUrl v = .ok () ↔ ∃ defaultUrl, IsDefaultUrl v defaultUrl := by
  constructor
  · intro checked
    simp only [checkDefaultUrl] at checked
    split at checked
    · exact ⟨none, .absent⟩
    · split at checked
      · split at checked <;> contradiction
      · rename_i t url
        split at checked
        · rename_i absolute
          exact ⟨some t, .given url absolute⟩
        · split at checked <;> contradiction
        · contradiction
  · rintro ⟨defaultUrl, stands⟩
    cases stands with
    | absent => rfl
    | given url absolute =>
        cases v with
        | null => contradiction
        | _ => simp only [checkDefaultUrl, url, absolute]

omit [Platform] in
/-- A change passes its check if it stands for a value. -/
theorem checkChange_of_follows {α : Type} {stands : Value → α → Prop} {changes : Entries}
    {name : String} {check : Value → Except Failure Unit} {before after : α}
    (passes : ∀ {v}, check v = .ok () ↔ ∃ a, stands v a)
    (follows : Follows stands (changes.get? (text name)) before after)
    : checkChange changes name check = .ok () := by
  rw [checkChange]
  cases given : changes.get? (text name) with
  | none => rfl
  | some v =>
      rw [given] at follows
      rcases follows with _ | valid
      exact passes.mpr ⟨after, valid⟩

/-- After its check, a changed charset is read as what it stands for. -/
theorem readCharset_eq_ok_iff {changes : Entries} {held charset : Text}
    (checked : checkChange changes "charset" checkCharset = .ok ())
    : readCharset ((changes.get? (text "charset")).getD (.text held)) = .ok charset
      ↔ IsCharset ((changes.get? (text "charset")).getD (.text held)) charset := by
  rw [checkChange] at checked
  cases given : changes.get? (text "charset") with
  | none => exact readCharset_text_eq_ok_iff
  | some v =>
      rw [given] at checked
      obtain ⟨name, ⟨_⟩⟩ := checkCharset_eq_ok_iff.mp checked
      exact readCharset_text_eq_ok_iff

-----------------------------------------------------------------------------------------
-- A change is made as a whole or not at all
-----------------------------------------------------------------------------------------

variable {mapper next : Mapper} {changes : Entries}

theorem checks_of_update (made : mapper.update changes = .ok next)
    : checkChange changes "charset" checkCharset = .ok ()
      ∧ checkChange changes "default_url" checkDefaultUrl = .ok () := by
  simp only [update, bind_eq_ok] at made
  obtain ⟨_, charsetChecked, _, urlChecked, _⟩ := made
  exact ⟨charsetChecked, urlChecked⟩

/-- The settings that are read from the merged entries are those that the changes lead to. -/
theorem ofEntries_merge_eq_ok_iff {s after : Settings} (sound : s.Sound) (named : changes.Named)
    (checked : checkChange changes "charset" checkCharset = .ok ())
    : Settings.ofEntries (merge s.toEntries changes) = .ok after ↔ s.ChangedBy changes after := by
  obtain ⟨urlHeld, truthHeld, charsetHeld, noOther⟩ := s.get?_toEntries
  have merged {name : Text} {held : Value} (found : s.toEntries.get? name = some held)
      : (merge s.toEntries changes).get? name = some ((changes.get? name).getD held) := by
    rw [get?_merge s.named_toEntries named, found]
    cases changes.get? name <;> rfl
  have known : Field.extraErrors fieldNames (merge s.toEntries changes) = []
      ↔ ∀ name, (changes.get? name).isSome → name ∈ fieldNames.map text := by
    rw [extraErrors_eq_nil_iff s.named_toEntries] at noOther
    rw [extraErrors_eq_nil_iff (named_merge s.named_toEntries named.texts)]
    refine forall_congr' fun name => ?_
    rw [get?_merge s.named_toEntries named, Option.isSome_or, Bool.or_eq_true]
    exact ⟨fun fits found => fits (Or.inl found), fun fits => Or.rec fits (noOther name)⟩
  rw [ofEntries_eq_ok_iff (merged urlHeld) (merged truthHeld) (merged charsetHeld), known,
    readDefaultUrl_eq_ok_iff, readCharset_eq_ok_iff checked, ← IsTruth,
    follows_iff sound.isDefaultUrl_iff, follows_iff isTruth_bool_iff,
    follows_iff sound.isCharset_iff]
  exact ⟨fun ⟨defaultUrl, extractPayload, charset, known⟩ =>
    ⟨known, defaultUrl, extractPayload, charset⟩,
    fun changed => ⟨changed.defaultUrl, changed.extractPayload, changed.charset, changed.known⟩⟩

/-- A mapper is changed exactly if its settings can be, and nothing else about it changes but the
count of its changes. -/
theorem update_eq_ok_iff (sound : mapper.settings.Sound) (named : changes.Named)
    : mapper.update changes = .ok next
      ↔ ∃ after, mapper.settings.ChangedBy changes after
        ∧ next = { mapper with settings := after, revision := mapper.revision + 1 } := by
  constructor
  · intro made
    have charsetChecked := (checks_of_update made).1
    simp only [update, bind_eq_ok] at made
    obtain ⟨_, _, _, _, made⟩ := made
    split at made
    · rename_i after read
      exact ⟨after, (ofEntries_merge_eq_ok_iff sound named charsetChecked).mp read,
        (Except.ok.inj made).symm⟩
    · contradiction
    · contradiction
  · rintro ⟨after, changed, rfl⟩
    have charsetChecked := checkChange_of_follows checkCharset_eq_ok_iff changed.charset
    have urlChecked := checkChange_of_follows checkDefaultUrl_eq_ok_iff changed.defaultUrl
    have read := (ofEntries_merge_eq_ok_iff sound named charsetChecked).mpr changed
    simp only [update, charsetChecked, urlChecked, ok_bind, read, pure_eq]

/-- A single change is checked on its own before, which is no more than the update does. -/
theorem setDefaultUrl_eq_update (mapper : Mapper) (v : Value)
    : mapper.setDefaultUrl v = mapper.update [(.text (text "default_url"), v)] := by
  have charsetChecked : checkChange [(.text (text "default_url"), v)] "charset" checkCharset
      = .ok () :=
    rfl
  have urlChecked : checkChange [(.text (text "default_url"), v)] "default_url" checkDefaultUrl
      = checkDefaultUrl v :=
    rfl
  rw [setDefaultUrl, update, charsetChecked, urlChecked, ok_bind]
  cases checkDefaultUrl v <;> rfl

theorem setCharset_eq_update (mapper : Mapper) (v : Value)
    : mapper.setCharset v = mapper.update [(.text (text "charset"), v)] := by
  have charsetChecked : checkChange [(.text (text "charset"), v)] "charset" checkCharset
      = checkCharset v :=
    rfl
  rw [setCharset, update, charsetChecked]
  cases checkCharset v <;> rfl

end Mapper

end Dispatch
