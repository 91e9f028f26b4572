import Dispatch.Proofs.Pickle.Container

/-! Messages as objects with a state. The machine makes a message from its class and takes payload,
headers and the names of the given fields from the state; which header names were given as bytes
does not come back.
-/

namespace Dispatch.Pickle

open Dispatch.Result

theorem field?_cons (first name : String) (v : Value) (entries : List (Value × Value))
    : field? ((.text (text first), v) :: entries) name
      = if first = name then some v else field? entries name := by
  by_cases same : first = name
  · simp [field?, Value.lookup?, Value.sameKey_text, same]
  · simp [field?, Value.lookup?, Value.sameKey_text, same, text_inj]

/-- The header of a message as an entry of a map. -/
def headerEntry (h : Text × Value) : Value × Value :=
  (.text h.1, h.2)

theorem mapM_header? (headers : List (Text × Value))
    : headers.mapM (header? ∘ headerEntry) = some headers := by
  induction headers with
  | nil => rfl
  | cons h headers ih => simp [header?, headerEntry, Value.asText?, ih]

/-- The names of the fields that were given. -/
def givenNames (given : Given) : List Value :=
  (if given.payload then [Value.text (text "payload")] else [])
    ++ (if given.headers then [Value.text (text "headers")] else [])

/-- The names of the given fields tell which ones were given. -/
theorem any_givenNames (given : Given)
    : (givenNames given).any (Value.sameKey (.text (text "payload"))) = given.payload
      ∧ (givenNames given).any (Value.sameKey (.text (text "headers"))) = given.headers := by
  obtain ⟨payload, headers, byteNames⟩ := given
  cases payload <;> cases headers <;> simp [givenNames, Value.sameKey_text, text_inj]

/-- The names of the given fields are texts, none of them there twice. -/
theorem exists_givenNames (given : Given)
    : ∃ names : List Text, givenNames given = names.map Value.text ∧ names.Nodup := by
  obtain ⟨payload, headers, byteNames⟩ := given
  have other : text "payload" ≠ text "headers" := by simp [text_inj]
  cases payload <;> cases headers
  · exact ⟨[], rfl, List.nodup_nil⟩
  · exact ⟨[text "headers"], rfl, by simp⟩
  · exact ⟨[text "payload"], rfl, by simp⟩
  · exact ⟨[text "payload", text "headers"], rfl, by simp [other]⟩

variable {save : Draft → Part → Except Error Draft} {sharing : Sharing} {payload : Value}
  {headers : List (Text × Value)} {given : Given} {known : Nat → Value}

/-- The fields of a message. -/
def messageFields (save : Draft → Part → Except Error Draft) (sharing : Sharing) (payload : Value)
    (headers : List (Text × Value)) (byteNames : List Text) : List Field := [
  ⟨"payload", fun d => save d ⟨payload, sharing.part 0⟩, payload⟩,
  ⟨"headers",
    fun d => (d.object.code .emptyDict).store.complete none fun d =>
      fillMap (saveHeader save byteNames) d ((sharing.part 1).headers headers),
    .map .plain (headers.map headerEntry)⟩]

/-- The state of a message. -/
def messageState (save : Draft → Part → Except Error Draft) (sharing : Sharing) (payload : Value)
    (headers : List (Text × Value)) (given : Given) : List Field :=
  let fields := messageFields save sharing payload headers given.byteNames
  let nothing (d : Draft) : Except Error Draft := .ok (d.object.code .null)
  [⟨"__dict__", fun d => record d (fields.map Field.written),
      .map .plain (fields.map Field.entry)⟩,
    ⟨"__pydantic_extra__", nothing, .null⟩,
    ⟨"__pydantic_fields_set__",
      fun d => setObject save d none ((givenNames given).map Part.byContent),
      .set (givenNames given)⟩,
    ⟨"__pydantic_private__", nothing, .null⟩]

theorem messageObject_eq (d : Draft)
    : messageObject save d sharing payload headers given
      = (d.construct "outbound_http.models" "Message" "object" Draft.noArguments).complete
          sharing.object? fun d =>
            (record d ((messageState save sharing payload headers given).map Field.written)).map
              (·.code .build) := by
  rfl

/-- The machine takes from the state what was put into it. -/
theorem messageOf?_messageState
    : messageOf? ((messageState save sharing payload headers given).map Field.entry)
      = some (.message payload headers ⟨given.payload, given.headers, []⟩) := by
  obtain ⟨first, second⟩ := any_givenNames given
  simp [messageOf?, messageState, messageFields, Field.entry, field?_cons, mapM_header?, first,
    second]

/-- The name of a header is one text, whichever way it was given. -/
theorem writes_header {byteNames : List Text} {h : Text × Option Nat × Part}
    (same : ∀ n ∈ h.2.1, known n = .text h.1) (each : Writes known save h.2.2 [h.2.2.value])
    : Writes known (saveHeader save byteNames) h (entryValues (headerEntry (headerOf h))) := by
  intro d filling stack below shows
  rw [saveHeader]
  split
  · exact each.named (shows.byteName h.1)
  · exact each.named (shows.sharedText same)

/-- Fields whose names differ are entries of a map. -/
theorem areEntries_of_fields {fields : List Field} (once : (fields.map Field.name).Nodup)
    : Value.AreEntries (fields.map Field.entry) := by
  refine Value.areEntries_of_names ?_
  have texts : (fields.map fun f => text f.name) = (fields.map Field.name).map text := by simp
  rw [texts]
  exact List.pairwise_map.mpr (once.imp fun other same => other (text_inj.mp same))

/-- Whether the names and the values of headers are written as they are. -/
def AreWritten (known : Nat → Value) (save : Draft → Part → Except Error Draft)
    (hs : List (Text × Option Nat × Part)) : Prop :=
  ∀ h ∈ hs, (∀ n ∈ h.2.1, known n = .text h.1) ∧ Writes known save h.2.2 [h.2.2.value]

theorem isWritten_messageFields (byteNames : List Text)
    (first : Writes known save ⟨payload, sharing.part 0⟩ [payload])
    (each : AreWritten known save ((sharing.part 1).headers headers))
    (once : (headers.map (·.1)).Nodup)
    : ∀ f ∈ messageFields save sharing payload headers byteNames, f.IsWritten known := by
  have entries : ((sharing.part 1).headers headers).map (fun h => headerEntry (headerOf h))
      = headers.map headerEntry := by
    conv_rhs => rw [← map_headerOf_headers (sharing.part 1) headers, List.map_map]
    rfl
  simp only [messageFields, List.forall_mem_cons]
  refine ⟨first, ?_, by simp⟩
  intro d filling stack below shows
  have inner : ∀ h ∈ (sharing.part 1).headers headers,
      Writes known (saveHeader save byteNames) h (entryValues (headerEntry (headerOf h))) :=
    fun h member => writes_header (each h member).1 (each h member).2
  have written := shows.map inner (entries ▸ Value.areEntries_of_names once) (agrees_none _)
  rwa [entries] at written

theorem isWritten_messageState
    (texts : ∀ t, Writes known save (.byContent (.text t)) [.text t])
    (first : Writes known save ⟨payload, sharing.part 0⟩ [payload])
    (each : AreWritten known save ((sharing.part 1).headers headers))
    (once : (headers.map (·.1)).Nodup)
    : ∀ f ∈ messageState save sharing payload headers given, f.IsWritten known := by
  have nothing (name : String)
      : Field.IsWritten known ⟨name, fun d => .ok (d.object.code .null), .null⟩ := by
    intro d filling stack below shows
    exact ⟨_, [.value .null], rfl, stacked_singleton rfl, shows.push .null trivial fun _ => rfl⟩
  have fields := isWritten_messageFields given.byteNames first each once
  have proper : Value.AreEntries
      ((messageFields save sharing payload headers given.byteNames).map Field.entry) :=
    areEntries_of_fields (by simp [messageFields])
  have values : ((givenNames given).map Part.byContent).map Part.value = givenNames given := by
    simp [Part.byContent, Function.comp_def]
  have set : Field.IsWritten known ⟨"__pydantic_fields_set__",
      fun d => setObject save d none ((givenNames given).map Part.byContent),
      .set (givenNames given)⟩ := by
    intro d filling stack below shows
    obtain ⟨names, list, differ⟩ := exists_givenNames given
    rw [list] at values ⊢
    have each : ∀ p ∈ (names.map Value.text).map Part.byContent, Writes known save p [p.value] := by
      rw [List.map_map]
      exact List.forall_mem_map.mpr fun t _ => texts t
    have keys : ∀ p ∈ (names.map Value.text).map Part.byContent, p.value.isKey := by
      rw [List.map_map]
      exact List.forall_mem_map.mpr fun _ _ => rfl
    have apart : Value.AllDiffer (((names.map Value.text).map Part.byContent).map Part.value) := by
      rw [values]
      exact Value.allDiffer_text differ
    have written := shows.set each keys apart (agrees_none _)
    rwa [values] at written
  simp only [messageState, List.forall_mem_cons]
  exact ⟨fun _ _ _ _ shows => shows.record fields proper, nothing _, set, nothing _, by simp⟩

/-- The machine makes a message from its class and its state. -/
theorem step?_build {item : Item} {index : Nat} {memo : List Item} {stack : List Item}
    {below : List (List Item)}
    (state : item.value?
      = some (.map .plain ((messageState save sharing payload headers given).map Field.entry)))
    (held : memo[index]?
      = some (.blank (some index) (text "outbound_http.models") (text "Message")))
    : let m := Value.message payload headers { given with byteNames := [] }
      Machine.step?
          ⟨item :: .blank (some index) (text "outbound_http.models") (text "Message") :: stack,
            below, memo⟩ .build
        = some ⟨.value m :: stack, below, memo.set index (.value m)⟩ := by
  simp only [Machine.step?, state, isMessageClass, decide_true, Bool.and_self, if_true,
    messageOf?_messageState, Option.bind_some]
  exact Machine.replace?_of_isOpen held rfl _ _ _ _

/-- A message comes back but for the header names that were given as bytes. -/
theorem Draft.Shows.messageObject
    (texts : ∀ t, Writes known save (.byContent (.text t)) [.text t])
    (first : Writes known save ⟨payload, sharing.part 0⟩ [payload])
    (each : AreWritten known save ((sharing.part 1).headers headers))
    (once : (headers.map (·.1)).Nodup)
    (same : ∀ n ∈ sharing.object?,
      known n = .message payload headers { given with byteNames := [] })
    {d : Draft} {filling : List (Nat × Item)} {stack : List Item} {below : List (List Item)}
    (shows : d.Shows known filling stack below)
    : ∃ d', Pickle.messageObject save d sharing payload headers given = .ok d'
        ∧ d'.Shows known filling
          (.value (.message payload headers { given with byteNames := [] }) :: stack) below := by
  obtain ⟨index, count, blank⟩ := shows.construct "outbound_http.models" "Message" "object"
  have proper : Value.AreEntries
      ((messageState save sharing payload headers given).map Field.entry) :=
    areEntries_of_fields (by simp [messageState])
  obtain ⟨last, items, wrote, stacked, rest⟩ :=
    blank.record (isWritten_messageState texts first each once) proper
  obtain ⟨item, rfl, state⟩ := stacked.eq_singleton
  have built := rest.fill (o := .build) trivial (fun _ => rfl) fun memo held =>
    step?_build state held
  refine ⟨(last.code .build).note sharing.object? index, ?_, built.note rfl same⟩
  rw [messageObject_eq, Draft.complete, wrote, count]
  rfl

end Dispatch.Pickle
