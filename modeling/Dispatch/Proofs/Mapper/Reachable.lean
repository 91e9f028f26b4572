import Dispatch.Mapper
import Dispatch.Proofs.Settings.Reading

/-! The mappers that a program can come to hold. Each is made with checked settings, and each change
of settings is read as a whole, so the settings of every one of them are sound.
-/

namespace Dispatch

open Dispatch.Result

-----------------------------------------------------------------------------------------
-- Changes keep the names of entries
-----------------------------------------------------------------------------------------

/-- Inserting keeps every name that is there. -/
theorem Entries.isSome_get?_insert {entries : Entries} {name : Text}
    (named : (entries.get? name).isSome) (key value : Value)
    : (Entries.get? (Value.insert entries key value) name).isSome := by
  simp only [Entries.get?, Option.isSome_map, List.find?_isSome] at named ⊢
  obtain ⟨e, listed, same⟩ := named
  rw [Value.insert]
  split
  · refine ⟨if Value.sameKey e.1 key then (e.1, value) else e, ?_, ?_⟩
    · exact List.mem_map.mpr ⟨e, listed, rfl⟩
    split <;> exact same
  · exact ⟨e, List.mem_append_left _ listed, same⟩

namespace Mapper

/-- Changes keep every name, by induction on the changes. -/
theorem isSome_get?_merge {entries : Entries} {name : Text} (named : (entries.get? name).isSome)
    (changes : Entries)
    : (Entries.get? (merge entries changes) name).isSome := by
  rw [merge]
  induction changes generalizing entries with
  | nil => exact named
  | cons e changes ih => exact ih (Entries.isSome_get?_insert named e.1 e.2)

section

variable [Platform]

-----------------------------------------------------------------------------------------
-- Every way to a mapper reads its settings as a whole
-----------------------------------------------------------------------------------------

/-- The mappers that are made from settings, and those that changes of settings lead to. -/
inductive Reachable : Mapper → Prop
  | created {defaultUrl extractPayload charset : Value} {format : ObjectFormat} {mapper : Mapper}
    (made : create defaultUrl extractPayload charset format = .ok mapper)
    : Reachable mapper
  | configured {s : Settings} {format : ObjectFormat} {mapper : Mapper}
    (made : ofSettings s format = .ok mapper)
    : Reachable mapper
  | rebuilt {mapper next : Mapper} (before : Reachable mapper) (made : mapper.rebuild = .ok next)
    : Reachable next
  | updated {mapper next : Mapper} {changes : Entries} (before : Reachable mapper)
    (made : mapper.update changes = .ok next)
    : Reachable next
  | defaultUrlSet {mapper next : Mapper} {v : Value} (before : Reachable mapper)
    (made : mapper.setDefaultUrl v = .ok next)
    : Reachable next
  | extractPayloadSet {mapper next : Mapper} {v : Value} (before : Reachable mapper)
    (made : mapper.setExtractPayload v = .ok next)
    : Reachable next
  | charsetSet {mapper next : Mapper} {v : Value} (before : Reachable mapper)
    (made : mapper.setCharset v = .ok next)
    : Reachable next

theorem sound_of_create {defaultUrl extractPayload charset : Value} {format : ObjectFormat}
    {mapper : Mapper} (made : create defaultUrl extractPayload charset format = .ok mapper)
    : mapper.settings.Sound := by
  simp only [create, bind_eq_ok] at made
  obtain ⟨_, _, _, _, settings, read, made⟩ := made
  rw [← Except.ok.inj made]
  exact Settings.sound_of_ofEntries read rfl

/-- A supported charset is all that a mapper needs. -/
theorem create_eq_ok {charset : Text} (supported : Charset.isSupported charset)
    (extractPayload : Bool) (format : ObjectFormat)
    : create .null (.bool extractPayload) (.text charset) format
      = .ok ⟨⟨none, extractPayload, charset⟩, format, 0⟩ := by
  have read := Settings.ofEntries_of_isSupported supported extractPayload
  simp only [create, checkCharset, checkDefaultUrl, supported, if_true, ok_bind, read, pure_eq]

theorem sound_of_update {mapper next : Mapper} {changes : Entries}
    (made : mapper.update changes = .ok next)
    : next.settings.Sound := by
  simp only [update, bind_eq_ok] at made
  obtain ⟨_, _, _, _, made⟩ := made
  split at made
  · rename_i settings read
    rw [← Except.ok.inj made]
    exact Settings.sound_of_ofEntries read (isSome_get?_merge rfl changes)
  · simp at made
  · simp at made

/-- The settings of a reachable mapper are sound, whatever the last step was. -/
theorem Reachable.sound {mapper : Mapper} (reached : mapper.Reachable) : mapper.settings.Sound := by
  cases reached with
  | created made => exact sound_of_create made
  | configured made => exact sound_of_create made
  | rebuilt before made =>
      obtain ⟨again, remade, same⟩ := bind_eq_ok.mp made
      have sound : again.settings.Sound := sound_of_create remade
      rw [← Except.ok.inj same]
      exact sound
  | updated before made => exact sound_of_update made
  | defaultUrlSet before made =>
      obtain ⟨_, _, made⟩ := bind_eq_ok.mp made
      exact sound_of_update made
  | extractPayloadSet before made =>
      obtain ⟨_, _, made⟩ := bind_eq_ok.mp made
      exact sound_of_update made
  | charsetSet before made =>
      obtain ⟨_, _, made⟩ := bind_eq_ok.mp made
      exact sound_of_update made

end

/-- A mapper that writes ASCII and JSON. -/
def asciiMapper : Mapper :=
  ⟨⟨none, true, text "us-ascii"⟩, .json, 0⟩

theorem reachable_asciiMapper : asciiMapper.Reachable :=
  .created (create_eq_ok (by decide +kernel) true .json)

end Mapper

end Dispatch
