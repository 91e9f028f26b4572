import Dispatch.Proofs.Charset.Repertoire
import Dispatch.Proofs.Text.Ascii
import Dispatch.Proofs.Value
import Dispatch.Request

/-! Requests from descriptors. The URL is the one that the target reads as. Without extra headers a
request can be made as soon as the content type is ASCII and the host can be written.
-/

namespace Dispatch

open Dispatch.Result

/-- A URL whose host can be written in a header and, where it is marked as the ASCII form of a name,
has a readable form. -/
structure Url.HasReadableHost (u : Url) : Prop where
  ascii : u.host.isAscii
  readable : u.host.startsWith Idna.acePrefix → ∃ name, Idna.decodeName u.host = .ok name

/-- Port and brackets are ASCII whatever the host is. -/
theorem Url.isAscii_hostAndPort (u : Url) : u.hostAndPort.isAscii = u.host.isAscii := by
  have colon : (text ":").isAscii := by decide
  have opening : (text "[").isAscii := by decide
  have closing : (text "]").isAscii := by decide
  have empty : Text.isAscii [] := rfl
  simp only [hostAndPort, Text.isAscii_append]
  cases u.port <;> split <;>
    simp only [Text.isAscii_append, Text.isAscii_ofInt, colon, opening, closing, empty,
      Bool.true_and, Bool.and_true]

-----------------------------------------------------------------------------------------
-- The headers of a descriptor are its content type and a decimal number
-----------------------------------------------------------------------------------------

namespace Descriptor

theorem name_of_mem_headers {d : Descriptor} {h : Text × Text} (member : h ∈ d.headers)
    : h.1 = text "Content-Type" ∨ h.1 = text "Content-Length" := by
  rw [headers] at member
  cases d.contentType <;> cases d.body.isEmpty <;> simp at member <;> grind

/-- What holds of decimal numbers holds of all header values once it holds of the content type. -/
theorem forall_mem_headers_iff {d : Descriptor} {p : Text → Bool} (numbers : ∀ n, p (Text.ofNat n))
    : (∀ h ∈ d.headers, p h.2) ↔ ∀ t ∈ d.contentType, p t := by
  rw [headers]
  cases d.contentType <;> cases d.body.isEmpty <;> simp [numbers]

/-- The headers replace no entries of other names, and not each other. -/
theorem foldl_insert_headers (d : Descriptor) (entries : List (Value × Value))
    (apart : ∀ e ∈ entries, ∀ h ∈ d.headers, Value.sameKey e.1 (.text h.1) = false)
    : d.headers.foldl (fun entries h => Value.insert entries (.text h.1) (.text h.2)) entries
      = entries ++ d.headers.map fun h => (.text h.1, .text h.2) := by
  have differ : d.headers.Pairwise fun h k => Value.sameKey (.text h.1) (.text k.1) = false := by
    have other : Value.sameKey (.text (text "Content-Type")) (.text (text "Content-Length"))
        = false := by
      decide
    rw [headers]
    cases d.contentType <;> cases d.body.isEmpty <;> simp [other]
  generalize d.headers = headers at apart differ
  induction headers generalizing entries with
  | nil => simp
  | cons h rest ih =>
      obtain ⟨first, others⟩ := List.pairwise_cons.mp differ
      rw [List.foldl_cons, Value.insert_of_differ (fun e member => apart e member h (by simp)),
        ih _ _ others]
      · simp
      · intro e member k listed
        rcases List.mem_append.mp member with before | last
        · exact apart e before k (by simp [listed])
        · rw [List.mem_singleton.mp last]
          exact first k listed

end Descriptor

namespace Request

variable [Platform]

/-- The URL of a request is the target, read. -/
theorem parse_of_ofDescriptor {d : Descriptor} {extra : Entries} {r : Request}
    (made : ofDescriptor d extra = .ok r)
    : Url.parse d.target = .ok r.url := by
  simp only [ofDescriptor, bind_eq_ok, pure_eq, mapError_eq_ok, Except.ok.injEq] at made
  obtain ⟨_, _, url, read, _, _, _, _, rfl⟩ := made
  exact read

-----------------------------------------------------------------------------------------
-- Headers can be written if they are ASCII
-----------------------------------------------------------------------------------------

theorem encodeAscii_of_isAscii {t : Text} (ascii : t.isAscii)
    : encodeAscii t = .ok (Charset.asciiBytes t) := by
  rw [Text.isAscii, List.all_eq_true] at ascii
  have code : ∀ c ∈ t, Charset.lowCode? 0x80 c = some [UInt8.ofNat c.val] := fun c member =>
    if_pos (of_decide_eq_true (ascii c member))
  have held : ∀ c ∈ t, (Charset.lowCode? 0x80 c).isSome := fun c member => by
    rw [code c member, Option.isSome_some]
  rw [encodeAscii, Charset.Codec.encode, Charset.encodeEach_of_isSome held, mapError_ok,
    Charset.asciiBytes, List.map_eq_flatMap, List.flatMap_def, List.flatMap_def]
  refine congrArg (Except.ok ∘ List.flatten) (List.map_congr_left fun c member => ?_)
  rw [code c member, Option.getD_some]

theorem isAscii_of_encodeAscii {t : Text} {bytes : Bytes} (written : encodeAscii t = .ok bytes)
    : t.isAscii := by
  rw [encodeAscii, mapError_eq_ok, Charset.Codec.encode] at written
  rw [Text.isAscii, List.all_eq_true]
  intro c member
  by_contra outside
  have noCode : Charset.lowCode? 0x80 c = none := if_neg fun small => outside (decide_eq_true small)
  obtain ⟨_, _, _, refused⟩ := Charset.encodeEach_of_isNone member noCode
    ⟨text "ascii", "ordinal not in range(128)", true⟩
  rw [refused] at written
  contradiction

theorem hostHeader_isOk_iff {u : Url}
    : (∃ header, hostHeader u = .ok header) ↔ u.HasReadableHost := by
  constructor
  · rintro ⟨header, written⟩
    have ascii {rest : Bytes × Bytes} (named : (do
        return (Utf8.encode (text "Host"), ← encodeAscii u.hostAndPort)) = .ok rest)
        : u.host.isAscii := by
      obtain ⟨bytes, given, _⟩ := bind_eq_ok.mp named
      rw [← Url.isAscii_hostAndPort]
      exact isAscii_of_encodeAscii given
    rw [hostHeader] at written
    split at written
    · obtain ⟨name, decoded, named⟩ := bind_eq_ok.mp written
      exact ⟨ascii named, fun _ => ⟨name, mapError_eq_ok.mp decoded⟩⟩
    · rename_i unmarked
      exact ⟨ascii written, fun marked => absurd marked unmarked⟩
  · rintro ⟨ascii, readable⟩
    rw [← Url.isAscii_hostAndPort] at ascii
    rw [hostHeader, encodeAscii_of_isAscii ascii]
    split
    · rename_i marked
      obtain ⟨name, decoded⟩ := readable marked
      rw [decoded]
      exact ⟨_, rfl⟩
    · exact ⟨_, rfl⟩

-----------------------------------------------------------------------------------------
-- Of a descriptor only the content type and the host can stand in the way of a request
-----------------------------------------------------------------------------------------

/-- A header of a descriptor in bytes. -/
def asciiHeader (h : Text × Text) : Bytes × Bytes :=
  (Charset.asciiBytes h.1, Charset.asciiBytes h.2)

omit [Platform] in
theorem isAscii_name_of_mem_headers {d : Descriptor} {h : Text × Text} (member : h ∈ d.headers)
    : h.1.isAscii := by
  rcases Descriptor.name_of_mem_headers member with same | same <;> rw [same] <;> decide

/-- Headers of ASCII are written as they are. -/
theorem mapM_headerBytes_of_isAscii {headers : List (Text × Text)}
    (names : ∀ h ∈ headers, h.1.isAscii) (values : ∀ h ∈ headers, h.2.isAscii)
    : (headers.map fun h => (Value.text h.1, Value.text h.2)).mapM headerBytes
      = .ok (headers.map asciiHeader) := by
  rw [List.mapM_map]
  refine mapM_eq_ok_map fun h member => ?_
  have name := encodeAscii_of_isAscii (names h member)
  have value := encodeAscii_of_isAscii (values h member)
  simp only [Function.comp_apply, headerBytes, nameBytes, valueBytes, name, value, ok_bind, pure_eq,
    asciiHeader]

theorem isAscii_of_mapM_headerBytes {d : Descriptor} {headers : List (Bytes × Bytes)}
    (written : (d.headers.map fun h => (Value.text h.1, Value.text h.2)).mapM headerBytes
      = .ok headers)
    : ∀ h ∈ d.headers, h.2.isAscii := by
  intro h member
  obtain ⟨_, given⟩ := exists_of_mapM_eq_ok written (List.mem_map_of_mem member)
  obtain ⟨_, _, given⟩ := bind_eq_ok.mp given
  obtain ⟨_, value, _⟩ := bind_eq_ok.mp given
  exact isAscii_of_encodeAscii value

omit [Platform] in
/-- A descriptor does not bring the host header itself. -/
theorem hasHeader_host (d : Descriptor)
    : hasHeader (d.headers.map asciiHeader) "host" = false := by
  rw [hasHeader, List.any_eq_false]
  intro header member
  obtain ⟨h, listed, rfl⟩ := List.mem_map.mp member
  have other : lowerBytes (Charset.asciiBytes h.1) ≠ Utf8.encode (text "host") := by
    rcases Descriptor.name_of_mem_headers listed with same | same <;> rw [same] <;> decide
  exact fun same => other (of_decide_eq_true same)

/-- A descriptor for an absolute URL becomes a request exactly when its content type is ASCII and
its host can be written and read. -/
theorem ofDescriptor_isOk_iff {d : Descriptor} {u : Url} (read : Url.parse d.target = .ok u)
    (absolute : u.isAbsolute)
    : (∃ r, ofDescriptor d [] = .ok r)
      ↔ (∀ t ∈ d.contentType, t.isAscii) ∧ ∃ header, hostHeader u = .ok header := by
  have host : u.host.isEmpty = false := by
    simp only [Url.isAbsolute, Bool.and_eq_true, Bool.not_eq_true'] at absolute
    exact absolute.2
  have kept : keptHeaders [] = .ok [] := rfl
  have typed : (∀ h ∈ d.headers, h.2.isAscii) ↔ ∀ t ∈ d.contentType, t.isAscii :=
    Descriptor.forall_mem_headers_iff fun n =>
      Text.isAscii_of_isPrintableAscii (Text.isPrintableAscii_ofNat n)
  rw [← typed]
  have entries := d.foldl_insert_headers [] (by simp)
  rw [List.nil_append] at entries
  simp only [ofDescriptor, kept, ok_bind, entries, read, mapError_ok]
  by_cases ascii : ∀ h ∈ d.headers, h.2.isAscii
  · have written :=
      mapM_headerBytes_of_isAscii (fun h => isAscii_name_of_mem_headers (d := d)) ascii
    simp only [written, ok_bind, addMissing, hasHeader_host, host,
      Bool.or_false, Bool.false_eq_true, if_false, pure_eq]
    rw [and_iff_right ascii]
    cases hostHeader u <;> simp
  · refine iff_of_false ?_ fun both => ascii both.1
    rintro ⟨r, made⟩
    obtain ⟨headers, written, _⟩ := bind_eq_ok.mp made
    exact ascii (isAscii_of_mapM_headerBytes written)

end Request

end Dispatch
