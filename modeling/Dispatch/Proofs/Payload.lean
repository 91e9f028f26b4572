import Dispatch.Payload
import Dispatch.Proofs.Charset.Repertoire

/-! How values become content. With a configured charset and a format that writes bytes, a value
either becomes bytes with a type or is a problem of the payload, and nothing else can happen.
-/

namespace Dispatch

open Dispatch.Result

/-- A format that gives bytes for each value that it does not refuse. -/
def ObjectFormat.WritesBytes (format : ObjectFormat) : Prop :=
  ∀ v encoded, format.encode v = .ok encoded → ∃ bytes, encoded = .blob .fixed bytes

variable [Platform]

theorem ObjectFormat.writesBytes_pickleOf (sharing : Pickle.Sharing) (version : Int)
    : (ObjectFormat.pickleOf sharing version).WritesBytes := by
  intro v encoded written
  simp only [ObjectFormat.pickleOf] at written
  split at written
  · exact ⟨_, (Except.ok.inj written).symm⟩
  · simp at written

theorem ObjectFormat.writesBytes_json : ObjectFormat.json.WritesBytes := by
  intro v encoded written
  simp only [ObjectFormat.json] at written
  split at written
  · exact ⟨_, (Except.ok.inj written).symm⟩
  · simp at written

/-- Whether a value goes through an object format: it is not missing, no text and no bytes. -/
def Value.isStructured : Value → Bool
  | .null | .text _ | .blob _ _ => false
  | _ => true

omit [Platform] in
theorem Value.isNull_of_isStructured {v : Value} (structured : v.isStructured)
    : v.isNull = false := by
  cases v with
  | null => contradiction
  | _ => rfl

omit [Platform] in
/-- Values by the ways that they become content. -/
@[elab_as_elim]
theorem Value.content_cases {motive : Value → Prop} (null : motive .null)
    (text : ∀ t, motive (.text t)) (blob : ∀ kind bytes, motive (.blob kind bytes))
    (structured : ∀ v, v.isStructured → motive v) (v : Value)
    : motive v := by
  cases v with
  | null => exact null
  | text t => exact text t
  | blob kind bytes => exact blob kind bytes
  | _ => exact structured _ rfl

namespace Payload

omit [Platform] in
theorem ofValue_of_isStructured {v : Value} (structured : v.isStructured)
    (format : ObjectFormat)
    : ofValue format v
      = match format.encode v with
        | .ok encoded => .structured encoded
        | .error f => .unsupported (some f) := by
  cases v with
  | null => contradiction
  | text t => contradiction
  | blob kind bytes => contradiction
  | _ => rfl

/-- The fault that comes in the place of content where a problem of the payload's type would be
expected: a view that was released has no bytes, and the text of a format's error may raise another
one. -/
def fault? (format : ObjectFormat) : Value → Option Fault
  | .null => none
  | .text _ => none
  | v@(.blob ..) => if v.isReleased then some .released else none
  | v => (errorOf? (format.encode v)).bind Fault.raisedByMessage?

omit [Platform] in
theorem fault?_of_isStructured {v : Value} (structured : v.isStructured) (format : ObjectFormat)
    : fault? format v = (errorOf? (format.encode v)).bind Fault.raisedByMessage? := by
  cases v with
  | null => contradiction
  | text t => contradiction
  | blob kind bytes => contradiction
  | _ => rfl

/-- Whether a value has content: bytes unless they are released, a text if the charset can write it,
and any other value but the missing one if the format does not refuse it. -/
def isWritable (format : ObjectFormat) (charset : Text) : Value → Bool
  | .null => false
  | v@(.blob ..) => !v.isReleased
  | .text t => (Charset.encode charset t).isOk
  | v => (format.encode v).isOk

theorem content_of_isWritable {format : ObjectFormat} (writes : format.WritesBytes)
    {charset : Text} {v : Value} (writable : isWritable format charset v)
    : ∃ contentType bytes,
        content format (.text charset) v = .ok ⟨contentType, .blob .fixed bytes⟩ := by
  cases v with
  | null => simp [isWritable] at writable
  | blob kind bytes =>
      have held : (Value.blob kind bytes).isReleased = false := by simpa [isWritable] using writable
      simp only [content, ofValue, held, Bool.false_eq_true, if_false]
      exact ⟨_, bytes, rfl⟩
  | text t =>
      obtain ⟨bytes, written⟩ := isOk_eq_true.mp writable
      simp only [content, ofValue, textContent, written]
      exact ⟨_, bytes, rfl⟩
  | _ =>
      obtain ⟨encoded, written⟩ := isOk_eq_true.mp writable
      obtain ⟨bytes, rfl⟩ := writes _ encoded written
      simp only [content, ofValue, written]
      exact ⟨format.contentType, bytes, rfl⟩

/-- Why a value has no content: the charset refuses the text, or the format the value. The missing
value is not even tried. -/
def refusal? (format : ObjectFormat) (charset : Text) : Value → Option Fault
  | .null => none
  | .blob _ _ => none
  | .text t => (errorOf? (Charset.encode charset t)).map Fault.charset
  | v => errorOf? (format.encode v)

theorem refusal?_of_isStructured {v : Value} (structured : v.isStructured)
    (format : ObjectFormat) (charset : Text)
    : refusal? format charset v = errorOf? (format.encode v) := by
  cases v with
  | null => contradiction
  | text t => contradiction
  | blob kind bytes => contradiction
  | _ => rfl

/-- A structured value has what the format writes as its content, if that is anything. -/
theorem content_of_isStructured {v : Value} (structured : v.isStructured) (format : ObjectFormat)
    (charset : Value)
    : content format charset v
      = match format.encode v with
        | .ok .null => .error (.fault .noContent)
        | .ok encoded => .ok ⟨format.contentType, encoded⟩
        | .error f =>
            match f.raisedByMessage? with
            | some raised => .error (.fault raised)
            | none => .error (.ofProblem (.notSerializable format.name v.typeName (some f))) := by
  rw [content, ofValue_of_isStructured structured]
  cases format.encode v with
  | ok encoded => cases encoded <;> rfl
  | error f => rfl

/-- Where a fault comes in the place of content, there is nothing else. -/
theorem content_of_fault? {format : ObjectFormat} {v : Value} {f : Fault}
    (lost : fault? format v = some f) (charset : Value)
    : content format charset v = .error (.fault f) := by
  cases v using Value.content_cases with
  | null => contradiction
  | text t => contradiction
  | blob kind bytes =>
      simp only [fault?, Option.ite_none_right_eq_some, Option.some.injEq] at lost
      obtain ⟨released, rfl⟩ := lost
      simp only [content, ofValue, released, if_true]
  | structured v structured =>
      rw [fault?_of_isStructured structured] at lost
      obtain ⟨g, refused, raised⟩ := Option.bind_eq_some_iff.mp lost
      rw [content_of_isStructured structured, errorOf?_eq_some.mp refused]
      simp only [raised]

/-- What is refused is a problem of the payload's type, with the refusal as its cause, or else the
fault that the text of the refusal raises. -/
theorem content_of_refusal? {format : ObjectFormat} {charset : Text} {v : Value} {f : Fault}
    (supported : Charset.isSupported charset) (refused : refusal? format charset v = some f)
    : (fault? format v = none
        ∧ ∃ p, content format (.text charset) v = .error (.ofProblem p) ∧ p.kind = .payloadType
          ∧ p.cause? = some (.fault f))
      ∨ ∃ raised, fault? format v = some raised := by
  cases v using Value.content_cases with
  | null => contradiction
  | blob kind bytes => contradiction
  | text t =>
      obtain ⟨e, unwritten, rfl⟩ := Option.map_eq_some_iff.mp refused
      have written := errorOf?_eq_some.mp unwritten
      have refusal := Charset.refusesText_of_isSupported supported written
      refine Or.inl ⟨rfl, .textNotEncodable charset (.charset e), ?_, rfl, rfl⟩
      simp only [content, ofValue, textContent, written, refusal, if_true]
  | structured v structured =>
      rw [refusal?_of_isStructured structured] at refused
      rw [fault?_of_isStructured structured, content_of_isStructured structured, refused,
        errorOf?_eq_some.mp refused, Option.bind_some]
      cases silent : f.raisedByMessage? with
      | some raised => exact Or.inr ⟨raised, rfl⟩
      | none =>
          simp only [silent]
          exact Or.inl ⟨trivial, .notSerializable format.name v.typeName (some f), rfl, rfl, rfl⟩

/-- Whatever is not writable is refused, but the missing value and bytes that are released. -/
theorem refusal?_of_not_isWritable {format : ObjectFormat} {charset : Text} {v : Value}
    (unwritable : isWritable format charset v = false) (given : v.isNull = false)
    (held : v.isReleased = false)
    : ∃ f, refusal? format charset v = some f := by
  cases v with
  | null => contradiction
  | blob kind bytes => simp [isWritable, held] at unwritable
  | text t =>
      obtain ⟨e, unwritten⟩ := isOk_eq_false.mp unwritable
      exact ⟨.charset e, by rw [refusal?, unwritten, errorOf?_error, Option.map_some]⟩
  | _ =>
      obtain ⟨f, unwritten⟩ := isOk_eq_false.mp unwritable
      exact ⟨f, errorOf?_eq_some.mpr unwritten⟩

omit [Platform] in
theorem isReleased_of_fault?_none {format : ObjectFormat} {v : Value}
    (noFault : fault? format v = none)
    : v.isReleased = false := by
  cases v with
  | blob kind bytes => simpa [fault?] using noFault
  | _ => rfl

/-- What is not writable is a problem of the payload's type, whichever stage refuses it, if no fault
comes in its place. -/
theorem content_of_not_isWritable {format : ObjectFormat} {charset : Text}
    (supported : Charset.isSupported charset) {v : Value} (noFault : fault? format v = none)
    (unwritable : isWritable format charset v = false)
    : ∃ p, content format (.text charset) v = .error (.ofProblem p) ∧ p.kind = .payloadType := by
  by_cases given : v.isNull = false
  · obtain ⟨f, refused⟩ :=
      refusal?_of_not_isWritable unwritable given (isReleased_of_fault?_none noFault)
    rcases content_of_refusal? supported refused with ⟨_, p, failed, kind, _⟩ | ⟨raised, fault⟩
    · exact ⟨p, failed, kind⟩
    · rw [noFault] at fault
      contradiction
  · cases v with
    | null => exact ⟨_, rfl, rfl⟩
    | _ => exact absurd rfl given

/-- Without a refusal there is content, unless there is no value or no bytes of it, or the format
gives nothing. -/
theorem content_of_no_refusal {format : ObjectFormat} {charset : Text} {v : Value}
    (taken : refusal? format charset v = none)
    : (∃ c, content format (.text charset) v = .ok c)
      ∨ (∃ f, content format (.text charset) v = .error (.fault f))
      ∨ ∃ p, content format (.text charset) v = .error (.ofProblem p) ∧ p.kind = .payloadType
          ∧ p.cause? = none := by
  cases v using Value.content_cases with
  | null => exact Or.inr (Or.inr ⟨_, rfl, rfl, rfl⟩)
  | blob kind bytes =>
      simp only [content, ofValue]
      split
      · exact Or.inr (Or.inl ⟨_, rfl⟩)
      · exact Or.inl ⟨_, rfl⟩
  | text t =>
      obtain ⟨bytes, written⟩ := errorOf?_eq_none.mp (Option.map_eq_none_iff.mp taken)
      simp only [content, ofValue, textContent, written]
      exact Or.inl ⟨_, rfl⟩
  | structured v structured =>
      rw [refusal?_of_isStructured structured] at taken
      obtain ⟨w, encoded⟩ := errorOf?_eq_none.mp taken
      rw [content_of_isStructured structured, encoded]
      cases w with
      | null => exact Or.inr (Or.inl ⟨_, rfl⟩)
      | _ => exact Or.inl ⟨_, rfl⟩

end Payload

end Dispatch
