import Dispatch.Proofs.Yaml.Content
import Dispatch.Proofs.Yaml.Reader
import Dispatch.Proofs.Yaml.Tokens
import Dispatch.Yaml.Document

/-! Why a document has no value. It breaks the grammar, its nodes are nested too deeply, an escape
in it is for no code point, its version has too many digits, or a node in it does not fit its tag or
is its own content.
-/

namespace Dispatch.Yaml

open Dispatch.Result

variable [Platform]

/-- The node of a document. An empty document has none. -/
def parse (content : Text) : Except Error (Option Node) :=
  let t := normalBreaks content []
  if !t.all isAllowed then .error .grammar else Node.ofTokens (Token.ofText t)

variable {content : Text}

/-- A document is read by reading its node. -/
theorem read_eq (content : Text)
    : read content = parse content >>= fun found => match found with
      | none => .ok .null
      | some n => n.shallow >>= fun _ => n.toValue := by
  rw [read, parse]
  dsimp only
  split <;> rfl

/-- What fits the grammar and stands for nothing: an escape between quotes, a version, or a node. -/
inductive Senseless (content : Text) : ScalarError → Prop
  | codePoint (unparsed : parse content = .error (.scalar .codePoint))
    : Senseless content .codePoint
  | codePointRange (unparsed : parse content = .error (.scalar .codePointRange))
    : Senseless content .codePointRange
  | version {count : Nat} (long : Text.maxDigits < count)
    (unparsed : parse content = .error (.scalar (.integerDigits count)))
    : Senseless content (.integerDigits count)
  | scalar {n m : Node} {e : ScalarError} (parsed : parse content = .ok (some n))
    (within : Node.Within m n) (unfit : Node.Unfit m e)
    : Senseless content e

theorem failsWith_parse (content : Text)
    : FailsWith (fun e => e = .depth ∨ Undivided e) (parse content) := by
  refine FailsWith.ite (.error (Or.inr .grammar)) ?_
  refine (Node.failsWith_ofTokens _).mono fun e reason => ?_
  rcases reason with rfl | rfl | failure
  · exact Or.inr .grammar
  · exact Or.inl rfl
  · exact Or.inr (Token.undivided_of_ofText failure)

omit [Platform] in
theorem failsWith_valueOf (n : Node)
    : FailsWith (Node.Explains n) (n.shallow >>= fun _ => n.toValue) :=
  (Node.failsWith_shallow n).bind fun _ _ => Node.failsWith_toValue n

theorem senseless_of_read {e : ScalarError} (unread : read content = .error (.scalar e))
    : Senseless content e := by
  rw [read_eq] at unread
  rcases bind_eq_error.mp unread with unparsed | ⟨found, parsed, unread⟩
  · rcases failsWith_parse content _ unparsed with impossible | undivided
    · contradiction
    · cases undivided with
      | codePoint => exact .codePoint unparsed
      | codePointRange => exact .codePointRange unparsed
      | version long => exact .version long unparsed
  · cases found with
    | none => contradiction
    | some n =>
        rcases failsWith_valueOf n _ unread with impossible | ⟨m, within, flawed⟩
        · contradiction
        · cases flawed with
          | unfit unfit => exact .scalar parsed within unfit

theorem read_of_parse_eq_depth (deep : parse content = .error .depth)
    : read content = .error .depth := by
  rw [read_eq, deep]
  rfl

/-- What never ends: nodes that are nested too deeply, or a node that is its own content. The values
of nodes have no limit of their own. -/
theorem deep_or_endless_of_read (unread : read content = .error .depth)
    : parse content = .error .depth
      ∨ ∃ n m, parse content = .ok (some n) ∧ Node.Within m n ∧ m.IsEndless := by
  rw [read_eq] at unread
  rcases bind_eq_error.mp unread with unparsed | ⟨found, parsed, unread⟩
  · exact Or.inl unparsed
  · cases found with
    | none => contradiction
    | some n =>
        rcases failsWith_valueOf n _ unread with impossible | ⟨m, within, flawed⟩
        · contradiction
        · cases flawed with
          | endless endless => exact Or.inr ⟨n, m, parsed, within, endless⟩

-----------------------------------------------------------------------------------------
-- Documents of one entry
-----------------------------------------------------------------------------------------

/-- The tokens of a document of one entry, a key and a word. -/
def entryTokens (key word : Text) : List Token :=
  [.mapStart, .key, .scalar key true, .value, .scalar word true, .blockEnd, .streamEnd]

namespace Node

variable {key word : Text} {tag : Tag} {v : Value}

theorem ofTokens_entryTokens (key word : Text)
    : ofTokens (entryTokens key word)
      = .ok (some (.map .map
          [(.scalar (Schema.tagOf key) key, .scalar (Schema.tagOf word) word)])) := by
  obtain ⟨depth, levels⟩ := Nat.exists_eq_add_of_le' Platform.two_le_documentDepth
  rw [ofTokens, Reader.document, levels]
  rfl

omit [Platform] in
/-- A scalar that fits its tag holds nothing to fill, and it has its value at any level. -/
theorem scalar_of_value (stands : Literal.value tag word = .ok v)
    : (scalar tag word).shallow = .ok v ∧ (scalar tag word).fill = .ok []
      ∧ ∀ fuel, valueWithin (fuel + 1) (scalar tag word) = .ok v := by
  cases tag with
  | sequence | omap | pairs | set | map | merge | value | unknown => contradiction
  | _ =>
      refine ⟨stands, rfl, fun fuel => ?_⟩
      rw [valueWithin]
      · exact stands
      all_goals
        intro _ _ _ same
        contradiction

omit [Platform] in
theorem allEntries_text (n : Node)
    : allEntries [(.scalar .text key, n)] = .ok [(.scalar .text key, n)] := by
  simp only [allEntries, sortEntries, tag?, asKey, Option.some.injEq, reduceCtorEq, if_false,
    ok_bind, pure_eq, List.nil_append]

omit [Platform] in
/-- A map of one entry is filled in two levels, and has the value of its entry. -/
theorem toValue_soleEntry (stands : Literal.value tag word = .ok v)
    : (map .map [(scalar .text key, scalar tag word)]).toValue
      = .ok (.map .plain [(.text key, v)]) := by
  obtain ⟨shallowValue, fillValue, valueOf⟩ := scalar_of_value stands
  have named : Literal.value .text key = .ok (.text key) := rfl
  obtain ⟨_, _, keyOf⟩ := scalar_of_value named
  have filled : (map .map [(scalar .text key, scalar tag word)]).fill = .ok [scalar tag word] := by
    have entries : (map .map [(scalar .text key, scalar tag word)]).fill
        = fill.fillMap [(scalar .text key, scalar tag word)] := rfl
    have checked : checkKey (scalar .text key) = .ok () := rfl
    rw [entries, fill.fillMap, allEntries_text, ok_bind]
    simp [checked, shallowValue]
  have levels : (map .map [(scalar .text key, scalar tag word)]).toValue
      = valueWithin 3 (map .map [(scalar .text key, scalar tag word)]) := by
    rw [toValue, height, entriesHeight, entriesHeight, height, height]
    simp [fillLevels, filled, fillValue]
  have entries : valueWithin.entryValues 2 [(scalar .text key, scalar tag word)]
      = .ok [(.text key, v)] := by
    simp [valueWithin.entryValues, keyOf, valueOf]
  rw [levels, valueWithin, allEntries_text, ok_bind, entries]
  · rfl
  · rfl

end Node

/-- A document of one entry is read as the map of it. -/
theorem read_entry {key word : Text} {v : Value} (allowed : (normalBreaks content []).all isAllowed)
    (tokens : Token.ofText (normalBreaks content []) = entryTokens key word)
    (named : Schema.tagOf key = .text) (stands : Literal.value (Schema.tagOf word) word = .ok v)
    : read content = .ok (.map .plain [(.text key, v)]) := by
  have parsed : parse content
      = .ok (some (.map .map [(.scalar .text key, .scalar (Schema.tagOf word) word)])) := by
    rw [parse, allowed, tokens, Node.ofTokens_entryTokens, named]
    rfl
  rw [read_eq, parsed, ok_bind]
  exact Node.toValue_soleEntry stands

end Dispatch.Yaml
