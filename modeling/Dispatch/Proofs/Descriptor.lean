import Dispatch.Mapper
import Dispatch.Proofs.Method
import Dispatch.Proofs.Url.Reading

/-! When the parts of a request make a descriptor. The method and the content are always in order,
so the target alone decides: it must still read as an absolute URL.
-/

namespace Dispatch.Mapper

open Dispatch.Result

theorem readTarget_text {target : Text} (absolute : Url.isAbsoluteText target = .ok true)
    : Descriptor.readTarget (.text target) = .ok target := by
  simp only [Descriptor.readTarget, Field.toText, ok_bind, absolute, pure_eq]

theorem readTarget_eq_error {target : Text} (unread : Url.isAbsoluteText target ≠ .ok true)
    : ∃ p, Descriptor.readTarget (.text target) = .error p := by
  simp only [Descriptor.readTarget, Field.toText, ok_bind]
  split
  · contradiction
  · exact ⟨_, rfl⟩
  · exact ⟨_, rfl⟩

theorem readMethod_text {method : Text} (valid : Method.Valid method)
    : Descriptor.readMethod (.text method) = .ok method := by
  have fits : (List.isEmpty method || method != Text.upper method) = false := by
    simp [valid.upper, valid.nonempty]
  simp only [Descriptor.readMethod, Field.toText, ok_bind, fits, Bool.false_eq_true, if_false,
    pure_eq]

/-- The parts of a request by the names of the fields. -/
def parts (target method : Text) (content : Option Content) : Entries :=
  [(.text (text "target_url"), .text target), (.text (text "method"), .text method)]
    ++ (content.map fun c =>
      [(.text (text "content_type"), .text c.contentType), (.text (text "body"), c.value)]).getD []

variable [Platform]

theorem describe_eq (target method : Text) (content : Option Content)
    : describe target method content
      = (Descriptor.ofEntries (parts target method content)).mapError Failure.fields := by
  cases content <;> rfl

/-- Each part is found under its name, and there are no others. -/
theorem get?_parts (target method : Text) (content : Option Content)
    : Entries.get? (parts target method content) (text "target_url") = some (.text target)
      ∧ Entries.get? (parts target method content) (text "method") = some (.text method)
      ∧ Entries.get? (parts target method content) (text "content_type")
          = content.map (fun c => .text c.contentType)
      ∧ Entries.get? (parts target method content) (text "body") = content.map (·.value)
      ∧ Field.extraErrors Descriptor.fieldNames (parts target method content) = [] := by
  cases content <;> exact ⟨rfl, rfl, rfl, rfl, rfl⟩

theorem describe_none {target method : Text} (absolute : Url.isAbsoluteText target = .ok true)
    (valid : Method.Valid method)
    : describe target method none = .ok ⟨target, method, none, []⟩ := by
  obtain ⟨targetPart, methodPart, typePart, bodyPart, noOther⟩ := get?_parts target method none
  simp only [describe_eq, Descriptor.ofEntries, targetPart, methodPart, typePart, bodyPart, noOther,
    readTarget_text absolute, readMethod_text valid, Option.map_none, mapError_ok]

theorem describe_some {target method : Text} (absolute : Url.isAbsoluteText target = .ok true)
    (valid : Method.Valid method) (contentType : Text) (bytes : Bytes)
    : describe target method (some ⟨contentType, .blob .fixed bytes⟩)
      = .ok ⟨target, method, some contentType, bytes⟩ := by
  obtain ⟨targetPart, methodPart, typePart, bodyPart, noOther⟩ :=
    get?_parts target method (some ⟨contentType, .blob .fixed bytes⟩)
  simp only [describe_eq, Descriptor.ofEntries, targetPart, methodPart, typePart, bodyPart, noOther,
    readTarget_text absolute, readMethod_text valid, Option.map_some, Descriptor.readContentType,
    Field.toText, Field.toBytes, map_ok, mapError_ok]

/-- A target that does not read as an absolute URL is refused as a field. -/
theorem describe_eq_error {target : Text} (unread : Url.isAbsoluteText target ≠ .ok true)
    (method : Text) (content : Option Content)
    : ∃ errors, describe target method content = .error (.fields errors) := by
  obtain ⟨p, refused⟩ := readTarget_eq_error unread
  have targetPart := (get?_parts target method content).1
  simp only [describe_eq, Descriptor.ofEntries, targetPart, refused, mapError_error]
  exact ⟨_, rfl⟩

-----------------------------------------------------------------------------------------
-- A finished descriptor holds the parts that it was made of
-----------------------------------------------------------------------------------------

omit [Platform] in
theorem readTarget_eq_ok {v : Value} {t : Text} (read : Descriptor.readTarget v = .ok t)
    : Field.toText v = .ok t ∧ Url.isAbsoluteText t = .ok true := by
  obtain ⟨s, given, read⟩ := bind_eq_ok.mp read
  split at read
  · rename_i absolute
    rw [← Except.ok.inj read]
    exact ⟨given, absolute⟩
  · contradiction
  · contradiction

omit [Platform] in
theorem readMethod_eq_ok {v : Value} {t : Text} (read : Descriptor.readMethod v = .ok t)
    : Field.toText v = .ok t ∧ Method.Valid t := by
  obtain ⟨s, given, read⟩ := bind_eq_ok.mp read
  split at read
  · contradiction
  · rename_i fits
    rw [← Except.ok.inj read]
    simp only [Bool.or_eq_true, List.isEmpty_iff, bne_iff_ne, not_or, not_not] at fits
    exact ⟨given, fits.1, fits.2.symm⟩

/-- What is read of each field, with the default in its place if there is none. -/
theorem ofEntries_eq_ok {entries : Entries} {d : Descriptor}
    (made : Descriptor.ofEntries entries = .ok d)
    : (∃ v, entries.get? (text "target_url") = some v ∧ Descriptor.readTarget v = .ok d.target)
      ∧ (entries.get? (text "method")).elim (.ok (text "POST")) Descriptor.readMethod
          = .ok d.method
      ∧ (entries.get? (text "content_type")).elim (.ok none) Descriptor.readContentType
          = .ok d.contentType
      ∧ (entries.get? (text "body")).elim (.ok []) Field.toBytes = .ok d.body := by
  rw [Descriptor.ofEntries] at made
  split at made
  · rename_i targetRead methodRead typeRead bodyRead _
    rw [← Except.ok.inj made]
    refine ⟨?_, ?_, ?_, ?_⟩
    · split at targetRead
      · rename_i v found
        exact ⟨v, found, targetRead⟩
      · contradiction
    · cases found : entries.get? (text "method") <;> simp only [found] at methodRead <;>
        exact methodRead
    · cases found : entries.get? (text "content_type") <;> simp only [found] at typeRead <;>
        exact typeRead
    · cases found : entries.get? (text "body") <;> simp only [found] at bodyRead <;> exact bodyRead
  · contradiction

/-- Every descriptor has an absolute target and a method in upper case. -/
theorem valid_of_ofEntries {entries : Entries} {d : Descriptor}
    (made : Descriptor.ofEntries entries = .ok d)
    : Url.isAbsoluteText d.target = .ok true ∧ Method.Valid d.method := by
  obtain ⟨⟨_, _, targetRead⟩, methodRead, _⟩ := ofEntries_eq_ok made
  refine ⟨(readTarget_eq_ok targetRead).2, ?_⟩
  cases found : entries.get? (text "method") with
  | none =>
      rw [found] at methodRead
      rw [← Except.ok.inj methodRead]
      exact Method.valid_standard
  | some v =>
      rw [found] at methodRead
      exact (readMethod_eq_ok methodRead).2

/-- The bytes of the content that a descriptor is made with. -/
def contentBytes (content : Option Content) : Except FieldProblem Bytes :=
  (content.map fun c => Field.toBytes c.value).getD (.ok [])

theorem describe_eq_ok {target method : Text} {content : Option Content} {d : Descriptor}
    (described : describe target method content = .ok d)
    : Url.isAbsoluteText target = .ok true ∧ d.target = target ∧ d.method = method
      ∧ d.contentType = content.map (·.contentType) ∧ contentBytes content = .ok d.body := by
  obtain ⟨targetPart, methodPart, typePart, bodyPart, _⟩ := get?_parts target method content
  rw [describe_eq, mapError_eq_ok] at described
  obtain ⟨⟨v, found, targetRead⟩, methodRead, typeRead, bodyRead⟩ := ofEntries_eq_ok described
  rw [targetPart] at found
  rw [methodPart] at methodRead
  rw [typePart] at typeRead
  rw [bodyPart] at bodyRead
  rw [← Option.some.inj found] at targetRead
  obtain ⟨same, absolute⟩ := readTarget_eq_ok targetRead
  cases same
  refine ⟨absolute, rfl, (Except.ok.inj (readMethod_eq_ok methodRead).1).symm, ?_, ?_⟩
  · cases content <;> exact (Except.ok.inj typeRead).symm
  · cases content <;> exact bodyRead

end Dispatch.Mapper
