import Dispatch.Proofs.Descriptor
import Dispatch.Proofs.Request
import Dispatch.Proofs.Text.Utf8

/-! The headers of a request. The host comes first and then the length of an empty body, each unless
an extra header makes it needless; the extra headers keep their order, and the descriptor alone
gives the type and the length of the content.
-/

namespace Dispatch

open Dispatch.Result

-----------------------------------------------------------------------------------------
-- Names of ASCII are compared in lower case as text or as bytes
-----------------------------------------------------------------------------------------

theorem Charset.asciiBytes_eq_encode {t : Text} (ascii : t.isAscii)
    : asciiBytes t = Utf8.encode t := by
  rw [Text.isAscii, List.all_eq_true] at ascii
  rw [Utf8.encode, asciiBytes, List.map_eq_flatMap, List.flatMap_def, List.flatMap_def]
  refine congrArg List.flatten (List.map_congr_left fun c member => ?_)
  exact (if_pos (of_decide_eq_true (ascii c member))).symm

namespace Request

theorem lowerBytes_asciiBytes {t : Text} (ascii : t.isAscii)
    : lowerBytes (Charset.asciiBytes t) = Charset.asciiBytes t.lowerAscii := by
  have code : ∀ n : Fin 0x80,
      (if 0x41 ≤ UInt8.ofNat n && UInt8.ofNat n ≤ 0x5a then UInt8.ofNat n + 0x20
          else UInt8.ofNat n)
        = UInt8.ofNat (if 0x41 ≤ n.val && n.val ≤ 0x5a then n.val + 0x20 else n.val) := by
    decide
  rw [Text.isAscii, List.all_eq_true] at ascii
  rw [lowerBytes, Charset.asciiBytes, Charset.asciiBytes, Text.lowerAscii, List.map_map,
    List.map_map]
  refine List.map_congr_left fun c member => ?_
  simp only [Function.comp_apply, CodePoint.val_toLowerAscii]
  exact code ⟨c.val, of_decide_eq_true (ascii c member)⟩

/-- Whether a header has a name, in any case of letters. -/
def isNamed (name : String) (h : Text × Text) : Bool :=
  h.1.lowerAscii = text name

/-- Whether a header in bytes has a name, in any case of letters. -/
def hasName (name : String) (h : Bytes × Bytes) : Bool :=
  lowerBytes h.1 = Utf8.encode (text name)

theorem hasName_asciiHeader {h : Text × Text} (ascii : h.1.isAscii) (name : String)
    : hasName name (asciiHeader h) = isNamed name h := by
  rw [hasName, isNamed, asciiHeader, lowerBytes_asciiBytes ascii,
    Charset.asciiBytes_eq_encode (Text.isAscii_lowerAscii ascii)]
  exact decide_eq_decide.mpr Utf8.encode_inj

theorem isNamed_mk {name spelling : String} (same : (text spelling).lowerAscii = text name)
    (value : Text)
    : isNamed name (text spelling, value) :=
  decide_eq_true same

/-- A header has one name. -/
theorem isNamed_eq_false {name other : String} {h : Text × Text} (named : isNamed name h)
    (differ : name ≠ other)
    : isNamed other h = false := by
  refine decide_eq_false fun same => differ (text_inj.mp ?_)
  rw [← same]
  exact (of_decide_eq_true named).symm

/-- Headers of one name are found under no other. -/
theorem filter_isNamed_eq_nil {headers : List (Text × Text)} {name other : String}
    (named : ∀ h ∈ headers, isNamed name h) (differ : name ≠ other)
    : headers.filter (isNamed other) = [] := by
  rw [List.filter_eq_nil_iff]
  intro h member same
  rw [isNamed_eq_false (named h member) differ] at same
  contradiction

-----------------------------------------------------------------------------------------
-- What a request is made with
-----------------------------------------------------------------------------------------

/-- A header as an entry of a map. -/
def entry (h : Text × Text) : Value × Value :=
  (.text h.1, .text h.2)

/-- Whether only the descriptor gives headers of this name. -/
def isEntity (h : Text × Text) : Bool :=
  isNamed "content-type" h || isNamed "content-length" h

/-- The host header, where no extra header is one. -/
def hostLine (u : Url) (extra : List (Text × Text)) : List (Text × Text) :=
  if extra.any (isNamed "host") then [] else [(text "Host", u.hostAndPort)]

/-- The length of an empty body, where the method asks for it and no extra header tells of another
way to send one. -/
def emptyLine (d : Descriptor) (extra : List (Text × Text)) : List (Text × Text) :=
  if d.body.isEmpty && lengthMethods.contains d.method && !extra.any (isNamed "transfer-encoding")
  then [(text "Content-Length", text "0")]
  else []

/-- The type of the content. -/
def typeLine (d : Descriptor) : List (Text × Text) :=
  (d.contentType.map fun t => (text "Content-Type", t)).toList

/-- The length of a body that is not empty. -/
def lengthLine (d : Descriptor) : List (Text × Text) :=
  if d.body.isEmpty then [] else [(text "Content-Length", Text.ofNat d.body.length)]

/-- The extra headers that are kept. -/
def keptLines (extra : List (Text × Text)) : List (Text × Text) :=
  extra.filter fun h => !isEntity h

/-- The headers of a request in their order. -/
def merged (d : Descriptor) (u : Url) (extra : List (Text × Text)) : List (Text × Text) :=
  hostLine u extra ++ emptyLine d extra ++ keptLines extra ++ typeLine d ++ lengthLine d

variable {d : Descriptor} {u : Url} {extra : List (Text × Text)}

theorem isNamed_of_mem_hostLine : ∀ h ∈ hostLine u extra, isNamed "host" h := by
  rw [hostLine]
  split
  · exact nofun
  · intro h member
    rw [List.mem_singleton.mp member]
    exact isNamed_mk (by decide) _

theorem isNamed_of_mem_emptyLine : ∀ h ∈ emptyLine d extra, isNamed "content-length" h := by
  rw [emptyLine]
  split
  · decide
  · exact nofun

theorem isNamed_of_mem_typeLine : ∀ h ∈ typeLine d, isNamed "content-type" h := by
  rw [typeLine]
  cases d.contentType with
  | none => exact nofun
  | some t =>
      intro h member
      rw [List.mem_singleton.mp member]
      exact isNamed_mk (by decide) _

theorem isNamed_of_mem_lengthLine : ∀ h ∈ lengthLine d, isNamed "content-length" h := by
  rw [lengthLine]
  split
  · exact nofun
  · intro h member
    rw [List.mem_singleton.mp member]
    exact isNamed_mk (by decide) _

/-- Of a name that only the descriptor gives, no extra header is kept. -/
theorem filter_keptLines_of_eq {name : String}
    (own : name = "content-type" ∨ name = "content-length")
    : (keptLines extra).filter (isNamed name) = [] := by
  rw [List.filter_eq_nil_iff]
  intro h member named
  have other := (List.mem_filter.mp member).2
  rcases own with rfl | rfl <;> simp [isEntity, named] at other

/-- Of any other name, all extra headers are kept. -/
theorem filter_keptLines_of_ne {name : String} (type : "content-type" ≠ name)
    (length : "content-length" ≠ name)
    : (keptLines extra).filter (isNamed name) = extra.filter (isNamed name) := by
  rw [keptLines, List.filter_filter]
  refine List.filter_congr fun h _ => ?_
  cases named : isNamed name h with
  | true =>
      rw [isEntity, isNamed_eq_false named type.symm, isNamed_eq_false named length.symm]
      rfl
  | false => rw [Bool.false_and]

theorem headers_eq (d : Descriptor) : d.headers = typeLine d ++ lengthLine d := by
  rw [Descriptor.headers, typeLine, lengthLine, Descriptor.contentLength]
  cases d.contentType <;> rfl

theorem isEntity_of_mem_headers {h : Text × Text} (member : h ∈ d.headers) : isEntity h := by
  rw [headers_eq] at member
  rcases List.mem_append.mp member with type | length
  · rw [isEntity, isNamed_of_mem_typeLine h type, Bool.true_or]
  · rw [isEntity, isNamed_of_mem_lengthLine h length, Bool.or_true]

-----------------------------------------------------------------------------------------
-- Every header of a request is found by its name
-----------------------------------------------------------------------------------------

/-- The headers of a request before any is added in front. -/
def given (d : Descriptor) (extra : List (Text × Text)) : List (Text × Text) :=
  keptLines extra ++ typeLine d ++ lengthLine d

theorem filter_given_of_ne {name : String} (type : "content-type" ≠ name)
    (length : "content-length" ≠ name)
    : (given d extra).filter (isNamed name) = extra.filter (isNamed name) := by
  rw [given, List.filter_append, List.filter_append, filter_keptLines_of_ne type length,
    filter_isNamed_eq_nil isNamed_of_mem_typeLine type,
    filter_isNamed_eq_nil isNamed_of_mem_lengthLine length, List.append_nil, List.append_nil]

theorem filter_given_type : (given d extra).filter (isNamed "content-type") = typeLine d := by
  rw [given, List.filter_append, List.filter_append, filter_keptLines_of_eq (Or.inl rfl),
    List.filter_eq_self.mpr isNamed_of_mem_typeLine,
    filter_isNamed_eq_nil isNamed_of_mem_lengthLine (by decide), List.nil_append, List.append_nil]

theorem filter_given_length
    : (given d extra).filter (isNamed "content-length") = lengthLine d := by
  rw [given, List.filter_append, List.filter_append, filter_keptLines_of_eq (Or.inr rfl),
    filter_isNamed_eq_nil isNamed_of_mem_typeLine (by decide),
    List.filter_eq_self.mpr isNamed_of_mem_lengthLine, List.nil_append, List.nil_append]

theorem any_eq_not_isEmpty_filter {α : Type} (p : α → Bool) (xs : List α)
    : xs.any p = !(xs.filter p).isEmpty := by
  rw [Bool.eq_iff_iff]
  simp [List.filter_eq_nil_iff]

theorem any_given_of_ne {name : String} (type : "content-type" ≠ name)
    (length : "content-length" ≠ name)
    : (given d extra).any (isNamed name) = extra.any (isNamed name) := by
  rw [any_eq_not_isEmpty_filter, any_eq_not_isEmpty_filter, filter_given_of_ne type length]

theorem any_given_length : (given d extra).any (isNamed "content-length") = !d.body.isEmpty := by
  rw [any_eq_not_isEmpty_filter, filter_given_length, lengthLine]
  cases d.body.isEmpty <;> rfl

-----------------------------------------------------------------------------------------
-- A request has these headers, in bytes
-----------------------------------------------------------------------------------------

/-- What the descriptor does not give itself is kept of the extra headers. -/
theorem keptHeaders_entry (names : ∀ h ∈ extra, h.1.isAscii)
    : keptHeaders (extra.map entry) = .ok ((keptLines extra).map entry) := by
  have kept : ∀ e ∈ extra.map entry,
      keeps e.1 = .ok (!entityHeaders.contains (e.1.asKeyText?.getD []).lower) := by
    intro e member
    obtain ⟨h, _, rfl⟩ := List.mem_map.mp member
    rfl
  rw [keptHeaders, filterM_eq_ok_filter kept, List.filter_map]
  refine congrArg (fun hs => Except.ok (List.map entry hs)) (List.filter_congr fun h member => ?_)
  have lower : h.1.lower = h.1.lowerAscii := if_pos (names h member)
  simp [entry, Value.asKeyText?, lower, entityHeaders, isEntity, isNamed]

/-- No extra header that is kept has the key of a header of the descriptor. -/
theorem sameKey_of_mem_keptLines {h k : Text × Text} (kept : h ∈ keptLines extra)
    (listed : k ∈ d.headers)
    : Value.sameKey (.text h.1) (.text k.1) = false := by
  rw [Value.sameKey_text]
  refine decide_eq_false fun same => ?_
  have entity := isEntity_of_mem_headers listed
  rw [isEntity, isNamed, isNamed, ← same] at entity
  have other := (List.mem_filter.mp kept).2
  rw [isEntity, isNamed, isNamed, entity] at other
  contradiction

theorem foldl_insert_keptLines
    : d.headers.foldl (fun entries h => Value.insert entries (.text h.1) (.text h.2))
        ((keptLines extra).map entry)
      = (given d extra).map entry := by
  rw [d.foldl_insert_headers]
  · rw [given, List.append_assoc, ← headers_eq, List.map_append]
    rfl
  · intro e member k listed
    obtain ⟨h, kept, rfl⟩ := List.mem_map.mp member
    exact sameKey_of_mem_keptLines kept listed

theorem isAscii_of_mem_given (typed : ∀ t ∈ d.contentType, t.isAscii)
    (names : ∀ h ∈ extra, h.1.isAscii) (values : ∀ h ∈ extra, h.2.isAscii)
    : ∀ h ∈ given d extra, h.1.isAscii ∧ h.2.isAscii := by
  have own : ∀ h ∈ d.headers, h.2.isAscii := (Descriptor.forall_mem_headers_iff fun n =>
    Text.isAscii_of_isPrintableAscii (Text.isPrintableAscii_ofNat n)).mpr typed
  rw [given, List.append_assoc, ← headers_eq]
  intro h member
  rcases List.mem_append.mp member with kept | listed
  · have inExtra := (List.mem_filter.mp kept).1
    exact ⟨names h inExtra, values h inExtra⟩
  · exact ⟨isAscii_name_of_mem_headers listed, own h listed⟩

theorem hasHeader_map {headers : List (Text × Text)} (names : ∀ h ∈ headers, h.1.isAscii)
    (name : String)
    : hasHeader (headers.map asciiHeader) name = headers.any (isNamed name) := by
  have same : hasHeader (headers.map asciiHeader) name
      = (headers.map asciiHeader).any (hasName name) := rfl
  rw [same, List.any_map, Bool.eq_iff_iff, List.any_eq_true, List.any_eq_true]
  refine exists_congr fun h => and_congr_right fun member => ?_
  rw [Function.comp_apply, hasName_asciiHeader (names h member)]

section

variable [Platform]

theorem hostHeader_eq_ok {header : Bytes × Bytes} (written : hostHeader u = .ok header)
    : header = asciiHeader (text "Host", u.hostAndPort) := by
  have named {rest : Bytes × Bytes} (given : (do
      return (Utf8.encode (text "Host"), ← encodeAscii u.hostAndPort)) = .ok rest)
      : rest = asciiHeader (text "Host", u.hostAndPort) := by
    obtain ⟨bytes, written, same⟩ := bind_eq_ok.mp given
    rw [encodeAscii_of_isAscii (isAscii_of_encodeAscii written)] at written
    rw [← Except.ok.inj same, ← Except.ok.inj written]
    rfl
  rw [hostHeader] at written
  split at written
  · obtain ⟨_, _, given⟩ := bind_eq_ok.mp written
    exact named given
  · exact named written

/-- The host header in bytes, unless an extra header is one. -/
def hostBytes (u : Url) (extra : List (Text × Text)) : Except Fault (List (Bytes × Bytes)) :=
  if extra.any (isNamed "host") then .ok [] else (hostHeader u).map ([·])

theorem hostBytes_eq_ok {host : List (Bytes × Bytes)} (written : hostBytes u extra = .ok host)
    : host = (hostLine u extra).map asciiHeader := by
  rw [hostBytes] at written
  split at written
  · rename_i named
    rw [← Except.ok.inj written, hostLine, if_pos named, List.map_nil]
  · rename_i unnamed
    obtain ⟨header, given, rfl⟩ := map_eq_ok.mp written
    rw [hostHeader_eq_ok given, hostLine, if_neg unnamed, List.map_singleton]

theorem hostBytes_isOk_iff
    : (∃ host, hostBytes u extra = .ok host) ↔ extra.any (isNamed "host") ∨ u.HasReadableHost := by
  rw [hostBytes, ← hostHeader_isOk_iff]
  split
  · rename_i hosted
    exact iff_of_true ⟨[], rfl⟩ (Or.inl hosted)
  · rename_i unhosted
    rw [or_iff_right unhosted]
    simp only [map_eq_ok]
    exact ⟨fun ⟨_, header, written, _⟩ => ⟨header, written⟩,
      fun ⟨header, written⟩ => ⟨[header], header, written, rfl⟩⟩

/-- What is added in front is the host and the length of an empty body. -/
theorem addMissing_given (ascii : ∀ h ∈ given d extra, h.1.isAscii ∧ h.2.isAscii)
    (hosted : u.host.isEmpty = false)
    : addMissing d.method u ((given d extra).map asciiHeader)
      = (hostBytes u extra).map
          fun host => host ++ (emptyLine d extra ++ given d extra).map asciiHeader := by
  have any := hasHeader_map fun h member => (ascii h member).1
  have empty : (if (!d.body.isEmpty || extra.any (isNamed "transfer-encoding"))
        || !lengthMethods.contains d.method then []
      else [(Utf8.encode (text "Content-Length"), Utf8.encode (text "0"))])
        = (emptyLine d extra).map asciiHeader := by
    have zero : asciiHeader (text "Content-Length", text "0")
        = (Utf8.encode (text "Content-Length"), Utf8.encode (text "0")) := by
      decide
    rw [emptyLine]
    cases d.body.isEmpty <;> cases extra.any (isNamed "transfer-encoding") <;>
      cases lengthMethods.contains d.method <;> simp [zero]
  rw [addMissing, any, any, any, any_given_of_ne (by decide) (by decide), any_given_length,
    any_given_of_ne (by decide) (by decide), hosted, Bool.or_false, empty, List.map_append]
  rw [hostBytes]
  split
  · simp only [pure_eq, ok_bind, map_ok, List.append_assoc]
  · cases hostHeader u with
    | error f => rfl
    | ok host => simp only [pure_eq, map_ok, ok_bind, List.append_assoc]

/-- A request is made of what the descriptor has and of the headers in bytes. -/
theorem ofDescriptor_entry (read : Url.parse d.target = .ok u) (hosted : u.host.isEmpty = false)
    (upper : d.method.upper = d.method) (typed : ∀ t ∈ d.contentType, t.isAscii)
    (names : ∀ h ∈ extra, h.1.isAscii) (values : ∀ h ∈ extra, h.2.isAscii)
    : ofDescriptor d (extra.map entry)
      = (hostBytes u extra).map fun host =>
          ⟨d.method, u, host ++ (emptyLine d extra ++ given d extra).map asciiHeader, d.body⟩ := by
  have ascii := isAscii_of_mem_given typed names values
  have written := mapM_headerBytes_of_isAscii (fun h member => (ascii h member).1)
    fun h member => (ascii h member).2
  have entries : (given d extra).map entry
      = (given d extra).map fun h => (Value.text h.1, Value.text h.2) := rfl
  rw [ofDescriptor, keptHeaders_entry names, ok_bind, foldl_insert_keptLines, upper, read,
    mapError_ok, ok_bind, entries, written, ok_bind, addMissing_given ascii hosted]
  cases hostBytes u extra <;> rfl

-----------------------------------------------------------------------------------------
-- The headers of a request
-----------------------------------------------------------------------------------------

omit [Platform] in
theorem merged_eq (d : Descriptor) (u : Url) (extra : List (Text × Text))
    : merged d u extra = hostLine u extra ++ (emptyLine d extra ++ given d extra) := by
  simp only [merged, given, List.append_assoc]

omit [Platform] in
theorem filter_merged {name : String} (host : "host" ≠ name)
    : (merged d u extra).filter (isNamed name)
      = (emptyLine d extra).filter (isNamed name) ++ (given d extra).filter (isNamed name) := by
  rw [merged_eq, List.filter_append, List.filter_append,
    filter_isNamed_eq_nil isNamed_of_mem_hostLine host, List.nil_append]

omit [Platform] in
theorem filter_map_asciiHeader {headers : List (Text × Text)}
    (names : ∀ h ∈ headers, h.1.isAscii) (name : String)
    : (headers.map asciiHeader).filter (hasName name)
      = (headers.filter (isNamed name)).map asciiHeader := by
  rw [List.filter_map]
  exact congrArg (List.map asciiHeader)
    (List.filter_congr fun h member => hasName_asciiHeader (names h member) name)

omit [Platform] in
theorem isAscii_name_of_mem_merged (ascii : ∀ h ∈ given d extra, h.1.isAscii ∧ h.2.isAscii)
    : ∀ h ∈ merged d u extra, h.1.isAscii := by
  intro h member
  rw [merged_eq, List.mem_append, List.mem_append, hostLine, emptyLine] at member
  rcases member with host | empty | later
  · split at host
    · contradiction
    · rw [List.mem_singleton.mp host]
      exact (by decide : (text "Host").isAscii)
  · split at empty
    · rw [List.mem_singleton.mp empty]
      decide
    · contradiction
  · exact (ascii h later).1

omit [Platform] in
/-- The length of an empty body and the length of another are not both there. -/
theorem length_emptyLine_append_lengthLine : (emptyLine d extra ++ lengthLine d).length ≤ 1 := by
  rw [emptyLine, lengthLine]
  cases d.body.isEmpty with
  | true => split <;> simp
  | false => simp

/-- The method, the URL and the content of a request are those of the descriptor. The headers are
the host, unless an extra header is one, the length of an empty body, where the method asks for it
and nothing is said of the transfer, the extra headers but those that only the descriptor gives, and
the type and the length of the content, each at most once. A descriptor becomes a request exactly
when an extra header is the host or the host of the target can be written and read.
-/
theorem ofDescriptor_eq_ok_iff {fields : Entries} (extra : List (Text × Text))
    (made : Descriptor.ofEntries fields = .ok d) (typed : ∀ t ∈ d.contentType, t.isAscii)
    (names : ∀ h ∈ extra, h.1.isAscii) (values : ∀ h ∈ extra, h.2.isAscii)
    : ∃ u, Url.parse d.target = .ok u
      ∧ (∀ r, ofDescriptor d (extra.map entry) = .ok r
        ↔ r = ⟨d.method, u, (merged d u extra).map asciiHeader, d.body⟩
          ∧ (extra.any (isNamed "host") ∨ u.HasReadableHost))
      ∧ ((merged d u extra).map asciiHeader).filter (hasName "content-type")
          = (typeLine d).map asciiHeader
      ∧ ((merged d u extra).map asciiHeader).filter (hasName "content-length")
          = (emptyLine d extra ++ lengthLine d).map asciiHeader
      ∧ (emptyLine d extra ++ lengthLine d).length ≤ 1 := by
  obtain ⟨absolute, valid⟩ := Mapper.valid_of_ofEntries made
  obtain ⟨u, read, named⟩ := Url.isAbsoluteText_eq_true.mp absolute
  have hosted : u.host.isEmpty = false := by
    simp only [Url.isAbsolute, Bool.and_eq_true, Bool.not_eq_true'] at named
    exact named.2
  have ascii := isAscii_name_of_mem_merged (u := u) (isAscii_of_mem_given typed names values)
  have request := ofDescriptor_entry read hosted valid.upper typed names values
  refine ⟨u, read, fun r => ?_, ?_, ?_, length_emptyLine_append_lengthLine⟩
  · rw [request, map_eq_ok, ← hostBytes_isOk_iff]
    constructor
    · rintro ⟨host, written, rfl⟩
      rw [hostBytes_eq_ok written, ← List.map_append, ← merged_eq]
      exact ⟨rfl, host, written⟩
    · rintro ⟨rfl, host, written⟩
      refine ⟨host, written, ?_⟩
      rw [hostBytes_eq_ok written, ← List.map_append, ← merged_eq]
  · rw [filter_map_asciiHeader ascii, filter_merged (by decide), filter_given_type,
      filter_isNamed_eq_nil isNamed_of_mem_emptyLine (by decide), List.nil_append]
  · rw [filter_map_asciiHeader ascii, filter_merged (by decide), filter_given_length,
      List.filter_eq_self.mpr isNamed_of_mem_emptyLine]

end

-----------------------------------------------------------------------------------------
-- A target whose host is marked as the ASCII form of a name but is the form of none
-----------------------------------------------------------------------------------------

def markedFields : Entries :=
  [(.text (text "target_url"), .text (text "http://xn--/")),
    (.text (text "method"), .text (text "GET"))]

def markedDescriptor : Descriptor :=
  ⟨text "http://xn--/", text "GET", none, []⟩

/-- The descriptor is made, but it becomes a request only beside a host header. -/
theorem ofDescriptor_of_markedHost
    : Descriptor.ofEntries markedFields = .ok markedDescriptor
      ∧ (¬∃ r, ofDescriptor markedDescriptor [] = .ok r)
      ∧ ∃ r, ofDescriptor markedDescriptor [(.text (text "hOST"), .text (text "a"))] = .ok r := by
  have made : Descriptor.ofEntries markedFields = .ok markedDescriptor :=
    eq_ok_of_toOption (by decide +kernel)
  refine ⟨made, ?_, ?_⟩
  · rintro ⟨r, given⟩
    obtain ⟨u, read, request, _⟩ :=
      ofDescriptor_eq_ok_iff [] made nofun nofun nofun
    have host : (Url.parse markedDescriptor.target).toOption.map (·.host) = some (text "xn--") := by
      decide +kernel
    rw [read] at host
    have same : u.host = text "xn--" := Option.some.inj host
    rcases ((request r).mp given).2 with hosted | readable
    · contradiction
    · obtain ⟨name, decoded⟩ := readable.readable (by rw [same]; decide)
      have unread : (Idna.decodeName (text "xn--")).toOption = none := by decide +kernel
      rw [← same, decoded] at unread
      contradiction
  · obtain ⟨u, _, request, _⟩ :=
      ofDescriptor_eq_ok_iff [(text "hOST", text "a")] made nofun (by decide) (by decide)
    exact ⟨_, (request _).mpr ⟨rfl, Or.inl (by decide)⟩⟩

end Request

end Dispatch
