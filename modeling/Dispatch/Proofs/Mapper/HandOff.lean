import Dispatch.Proofs.Charset.Spelling
import Dispatch.Proofs.Mapper.Changing
import Dispatch.Proofs.Mapper.Outcome
import Dispatch.Proofs.Request

/-! Handing a descriptor on. The name of the charset stands in the content type of a text as it was
given, so the headers are printable exactly if that name is. A request can be made exactly if that
name is ASCII and the host of the target can be written and read.
-/

namespace Dispatch

open Dispatch.Result

namespace Payload

variable [Platform]

/-- The content type of a value that has content. -/
def contentType (format : ObjectFormat) (charset : Text) : Value → Text
  | .blob _ _ => Dispatch.text "application/octet-stream"
  | .text _ => Dispatch.text "text/plain; charset=" ++ charset
  | _ => format.contentType

/-- What an object format writes has the content type of the format. -/
theorem contentType_of_structured {format : ObjectFormat} {charset v : Value} {c : Content}
    (structured : v.isStructured) (written : content format charset v = .ok c)
    : c.contentType = format.contentType := by
  rw [content_of_isStructured structured] at written
  split at written
  · contradiction
  · rw [← Except.ok.inj written]
  · split at written <;> contradiction

theorem contentType_of_content {format : ObjectFormat} {charset : Text} {v : Value} {c : Content}
    (written : content format (.text charset) v = .ok c)
    : c.contentType = contentType format charset v := by
  cases v with
  | null => contradiction
  | blob kind bytes =>
      simp only [content, ofValue] at written
      split at written
      · contradiction
      · rw [← Except.ok.inj written]
        rfl
  | text t =>
      simp only [content, ofValue, textContent] at written
      split at written
      · rw [← Except.ok.inj written]
        rfl
      · contradiction
  | _ => exact contentType_of_structured rfl written

omit [Platform] in
theorem contentType_of_isText {format : ObjectFormat} {charset : Text} {v : Value}
    (isText : v.isText)
    : contentType format charset v = Dispatch.text "text/plain; charset=" ++ charset := by
  cases v with
  | text t => rfl
  | _ => contradiction

omit [Platform] in
theorem isPrintableAscii_contentType {format : ObjectFormat} {charset : Text} {v : Value}
    (other : v.isText = false) (named : format.contentType.isPrintableAscii)
    : (contentType format charset v).isPrintableAscii := by
  cases v with
  | text t => contradiction
  | blob kind bytes =>
      rw [contentType]
      decide
  | _ => exact named

end Payload

namespace Mapper

section

variable [Platform] {mapper next : Mapper} {m : Message} {d : Descriptor}

/-- Whether the body of a request is text: the payload is one, and it alone goes into the body. -/
def WritesText (mapper : Mapper) (m : Message) (d : Descriptor) : Prop :=
  Method.hasBody d.method ∧ mapper.settings.extractPayload ∧ m.payload.isText

omit [Platform] in
theorem isText_bodyValue
    : (mapper.bodyValue m).isText ↔ mapper.settings.extractPayload ∧ m.payload.isText := by
  cases extract : mapper.settings.extractPayload with
  | true => simp [bodyValue, extract]
  | false => simp [bodyValue, extract, Message.toValue, Value.isText]

/-- Only the content type of a text depends on the settings. -/
theorem Made.contentType_cases (made : mapper.Made m d)
    (named : mapper.format.contentType.isPrintableAscii)
    : (mapper.WritesText m d
          ∧ d.contentType = some (text "text/plain; charset=" ++ mapper.settings.charset))
      ∨ (¬mapper.WritesText m d ∧ ∀ t ∈ d.contentType, t.isPrintableAscii) := by
  cases made with
  | query resolved known noBody extract given added noType =>
      refine Or.inr ⟨fun writes => ?_, ?_⟩
      · exact absurd writes.1 (Bool.eq_false_iff.mp noBody)
      · rw [noType]
        exact nofun
  | body resolved known body written contentType =>
      rw [Payload.contentType_of_content written] at contentType
      cases isText : (mapper.bodyValue m).isText with
      | true =>
          rw [Payload.contentType_of_isText isText] at contentType
          exact Or.inl ⟨⟨body, isText_bodyValue.mp isText⟩, contentType⟩
      | false =>
          refine Or.inr ⟨fun writes => ?_, ?_⟩
          · exact absurd (isText_bodyValue.mpr writes.2) (Bool.eq_false_iff.mp isText)
          · rw [contentType]
            rintro t ⟨⟩
            exact Payload.isPrintableAscii_contentType isText named

/-- A property that printable texts have is missing from a content type exactly where a text is
written under a name that does not have it. -/
theorem Made.forall_mem_contentType_iff (made : mapper.Made m d)
    (named : mapper.format.contentType.isPrintableAscii) {p : Text → Bool}
    (prefixed : ∀ name, p (text "text/plain; charset=" ++ name) = p name)
    (printable : ∀ t, t.isPrintableAscii → p t)
    : (∀ t ∈ d.contentType, p t) ↔ (mapper.WritesText m d → p mapper.settings.charset) := by
  rcases made.contentType_cases named with ⟨writes, contentType⟩ | ⟨other, types⟩
  · rw [contentType, ← prefixed mapper.settings.charset]
    constructor
    · exact fun held _ => held _ rfl
    · rintro held t ⟨⟩
      exact held writes
  · exact iff_of_true (fun t member => printable t (types t member))
      fun writes => absurd writes other

theorem isPrintableAscii_standard : ObjectFormat.standard.contentType.isPrintableAscii := by
  have named : ObjectFormat.standard.contentType
      = text "application/x-python-serialized-object" := rfl
  rw [named]
  decide

/-- A line break may stand behind the name of the charset of any mapper. -/
theorem setCharset_lineBreak (reached : mapper.Reachable)
    : ∃ next, mapper.setCharset (.text (mapper.settings.charset ++ text "\r\n")) = .ok next
        ∧ next.Reachable := by
  have supported : Charset.isSupported (mapper.settings.charset ++ text "\r\n") :=
    Charset.isSupported_append reached.sound.charset (by decide +kernel) (by decide) (by decide)
  have changed : mapper.settings.ChangedBy
      [(.text (text "charset"), .text (mapper.settings.charset ++ text "\r\n"))]
      { mapper.settings with charset := mapper.settings.charset ++ text "\r\n" } := by
    refine ⟨?_, ?_, ?_, ?_⟩
    · intro name found
      obtain ⟨e, listed, same⟩ := Entries.isSome_get?_iff.mp found
      rw [List.mem_singleton.mp listed] at same
      rw [← Option.some.inj same]
      decide
    · exact .kept
    · exact .kept
    · exact .changed (.given supported)
  have made := (update_eq_ok_iff reached.sound (Entries.named_singleton _ _)).mpr ⟨_, changed, rfl⟩
  have set := (setCharset_eq_update mapper _).trans made
  exact ⟨_, set, .charsetSet reached set⟩

/-- With the standard format, the headers of a descriptor are printable ASCII exactly when the body
is no text or the name of the charset is printable ASCII, and a request can be made exactly when the
body is no text or that name is ASCII, and the host of the target can be written and read. The
settings do not see to that: any charset may be configured again with a line break behind it.
-/
theorem handOff_of_map (reached : mapper.Reachable) (format : mapper.format = .standard)
    (mapped : mapper.map m = .ok d)
    : ((∀ h ∈ d.headers, h.2.isPrintableAscii)
          ↔ (mapper.WritesText m d → mapper.settings.charset.isPrintableAscii))
      ∧ (∃ u, Url.parse d.target = .ok u
        ∧ ((∃ r, Request.ofDescriptor d [] = .ok r)
          ↔ (mapper.WritesText m d → mapper.settings.charset.isAscii) ∧ u.HasReadableHost))
      ∧ ∃ next, mapper.setCharset (.text (mapper.settings.charset ++ text "\r\n")) = .ok next
          ∧ next.Reachable := by
  obtain ⟨made, absolute⟩ := made_of_map mapped
  obtain ⟨u, read, named⟩ := Url.isAbsoluteText_eq_true.mp absolute
  have standard : mapper.format.contentType.isPrintableAscii := by
    rw [format]
    exact isPrintableAscii_standard
  have printable := made.forall_mem_contentType_iff standard (p := Text.isPrintableAscii)
    (fun name => by rw [Text.isPrintableAscii_append]; exact Bool.true_and _) fun t fits => fits
  have ascii := made.forall_mem_contentType_iff standard (p := Text.isAscii)
    (fun name => by rw [Text.isAscii_append]; exact Bool.true_and _)
    fun t => Text.isAscii_of_isPrintableAscii
  -- The names of the headers and the length of the body are plain, so the content type decides.
  refine ⟨?_, ⟨u, read, ?_⟩, ?_⟩
  · rw [← printable]
    exact Descriptor.forall_mem_headers_iff Text.isPrintableAscii_ofNat
  · rw [Request.ofDescriptor_isOk_iff read named, ascii, Request.hostHeader_isOk_iff]
  · exact setCharset_lineBreak reached

end

-----------------------------------------------------------------------------------------
-- A charset whose name is none that a header may hold
-----------------------------------------------------------------------------------------

/-- A mapper that writes ASCII under a name with a line break and a letter that is not ASCII. -/
def accentedMapper : Mapper :=
  ⟨⟨none, true, text "us-ascii\r\né"⟩, .standard, 0⟩

theorem reachable_accentedMapper : accentedMapper.Reachable := by
  have supported : Charset.isSupported (text "us-ascii" ++ text "\r\né") :=
    Charset.isSupported_append (by decide +kernel) (by decide +kernel) (by decide) (by decide)
  exact .created (create_eq_ok supported true .standard)

def plainText : Message where
  payload := .text (text "x")
  headers := [(targetHeader, .text (text "http://a/"))]
  given := ⟨true, true, []⟩

def plainTextDescriptor : Descriptor :=
  ⟨text "http://a/", text "POST", some (text "text/plain; charset=us-ascii\r\né"), [0x78]⟩

theorem map_plainText : accentedMapper.map plainText = .ok plainTextDescriptor :=
  eq_ok_of_toOption (by decide +kernel)

theorem handOff_of_plainText
    : accentedMapper.map plainText = .ok plainTextDescriptor
      ∧ ¬(∀ h ∈ plainTextDescriptor.headers, h.2.isPrintableAscii)
      ∧ ¬∃ r, Request.ofDescriptor plainTextDescriptor [] = .ok r := by
  obtain ⟨headers, ⟨u, _, request⟩, _⟩ :=
    handOff_of_map reachable_accentedMapper rfl map_plainText
  have writes : accentedMapper.WritesText plainText plainTextDescriptor :=
    ⟨by decide +kernel, rfl, rfl⟩
  refine ⟨map_plainText, fun printable => ?_, fun made => ?_⟩
  · exact absurd (headers.mp printable writes) (by decide)
  · exact absurd ((request.mp made).1 writes) (by decide)

end Mapper

end Dispatch
