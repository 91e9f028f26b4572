import Dispatch.Proofs.Result
import Dispatch.Proofs.Url.Components

/-! What reading a URL gives. It is in order exactly when each component is, the query touches no
other component, and a surrogate that ends the reading is one of the text.
-/

namespace Dispatch

open Dispatch.Result

-----------------------------------------------------------------------------------------
-- Resolving dots invents slashes only
-----------------------------------------------------------------------------------------

theorem Text.mem_of_mem_splitOn {separator c : CodePoint} {t piece : Text}
    (listed : piece ∈ Text.splitOn separator t) (member : c ∈ piece)
    : c ∈ t := by
  induction t generalizing piece with
  | nil =>
      rw [List.mem_singleton.mp listed] at member
      exact member
  | cons d t ih =>
      by_cases same : d = separator
      · rw [same, Text.splitOn_cons_self, List.mem_cons] at listed
        rcases listed with rfl | later
        · simp at member
        · exact List.mem_cons_of_mem d (ih later member)
      · obtain ⟨first, pieces, rest⟩ :=
          List.exists_cons_of_ne_nil (Text.splitOn_ne_nil separator t)
        rw [Text.splitOn_cons_of_ne same rest, List.mem_cons] at listed
        rcases listed with rfl | later
        · rcases List.mem_cons.mp member with rfl | inside
          · exact List.mem_cons_self
          · exact List.mem_cons_of_mem d (ih (by simp [rest]) inside)
        · exact List.mem_cons_of_mem d (ih (by simp [rest, later]) member)

namespace Url

/-- Segments are taken over or dropped, by induction on those still to be added. -/
theorem mem_of_mem_foldl_addSegment {pieces segments : List Text} {piece : Text}
    (listed : piece ∈ pieces.foldl addSegment segments)
    : piece ∈ segments ∨ piece ∈ pieces := by
  induction pieces generalizing segments with
  | nil => exact Or.inl listed
  | cons next pieces ih =>
      rcases ih listed with before | later
      · rw [addSegment] at before
        split at before
        · exact Or.inl before
        · split at before
          · split at before
            · exact Or.inl before
            · exact Or.inl (List.mem_of_mem_tail before)
          · rcases List.mem_cons.mp before with rfl | old
            · exact Or.inr List.mem_cons_self
            · exact Or.inl old
      · exact Or.inr (List.mem_cons_of_mem next later)

/-- Resolving the dots of a path invents no code point but slashes. -/
theorem mem_of_mem_resolveDots {path : Text} {c : CodePoint} (member : c ∈ resolveDots path)
    : c = CodePoint.ofChar '/' ∨ c ∈ path := by
  rcases Text.mem_joinWith member with between | ⟨piece, listed, inside⟩
  · exact Or.inl (by simpa [text] using between)
  · rcases mem_of_mem_foldl_addSegment (List.mem_reverse.mp listed) with impossible | split
    · simp at impossible
    · exact Or.inr (Text.mem_of_mem_splitOn split inside)

-----------------------------------------------------------------------------------------
-- Escaping fails at surrogates only
-----------------------------------------------------------------------------------------

/-- A component is escaped exactly when it holds no surrogate. -/
theorem quote_eq_ok {allowed : CodePoint → Bool} {t q : Text}
    : quote allowed t = .ok q
      ↔ (∀ c ∈ t, c.isSurrogate = false) ∧ q = Escape.escape allowed t := by
  rw [quote, mapError_eq_ok, Escape.quote]
  cases found : t.find? CodePoint.isSurrogate with
  | none =>
      have plain : ∀ c ∈ t, c.isSurrogate = false := by simpa using found
      simp only [Except.ok.injEq, eq_comm (a := Escape.escape allowed t)]
      exact ⟨fun same => ⟨plain, same⟩, And.right⟩
  | some c =>
      have surrogate := List.find?_some found
      simp only [reduceCtorEq, false_iff]
      rintro ⟨plain, _⟩
      rw [plain c (List.mem_of_find?_eq_some found)] at surrogate
      contradiction

/-- Escaping fails at a surrogate of the component. -/
theorem quote_eq_error {allowed : CodePoint → Bool} {t : Text} {e : Error}
    (failed : quote allowed t = .error e)
    : ∃ c ∈ t, c.isSurrogate ∧ e = .surrogate c := by
  rw [quote, mapError_eq_error, Escape.quote] at failed
  obtain ⟨c, found, rfl⟩ := failed
  split at found
  · rename_i d first
    rw [← Except.error.inj found]
    exact ⟨d, List.mem_of_find?_eq_some first, List.find?_some first, rfl⟩
  · simp at found

/-- A component that holds allowed code points only stays as it is. -/
theorem escape_eq_self {allowed : CodePoint → Bool} {t : Text} (kept : ∀ c ∈ t, allowed c)
    : Escape.escape allowed t = t := by
  induction t with
  | nil => rfl
  | cons c t ih =>
      have rest := ih fun d member => kept d (List.mem_cons_of_mem c member)
      rw [Escape.escape] at rest
      rw [Escape.escape, List.flatMap_cons, if_pos (kept c List.mem_cons_self), rest,
        List.singleton_append]

-----------------------------------------------------------------------------------------
-- The normal form is decided component by component
-----------------------------------------------------------------------------------------

/-- Whether a URL names anything of an authority. -/
def hasAuthority (u : Url) : Bool :=
  !u.userinfo.isEmpty || !u.host.isEmpty || u.port.isSome

/-- The path that is escaped under a given scheme and authority. -/
def Components.plainPath (c : Components) (u : Url) : Text :=
  if !u.scheme.isEmpty || u.hasAuthority then resolveDots c.path else c.path

/-- Components that are in order, with the URL that they give. -/
structure Components.Gives (c : Components) (u : Url) : Prop where
  scheme : u.scheme = c.scheme.lowerAscii
  userinfo : quote Escape.inUserinfo c.userinfo = .ok u.userinfo
  host : normalHost c.host = .ok u.host
  port : normalPort c.scheme c.port = .ok u.port
  start : checkPath c.path (!u.scheme.isEmpty) u.hasAuthority = .ok ()
  path : quote Escape.inPath (c.plainPath u) = .ok u.path
  query : quote? Escape.inQuery c.query = .ok u.query
  fragment : quote? Escape.inFragment c.fragment = .ok u.fragment

theorem Components.normalize_eq_ok {c : Components} {u : Url}
    : c.normalize = .ok u ↔ c.Gives u := by
  constructor
  · intro given
    simp only [Components.normalize, bind_eq_ok, pure_eq, Except.ok.injEq] at given
    obtain ⟨userinfo, escaped, host, named, port, numbered, _, started, rest⟩ := given
    obtain ⟨path, placed, query, asked, fragment, marked, rfl⟩ := rest
    exact ⟨rfl, escaped, named, numbered, started, placed, asked, marked⟩
  · intro given
    have start := given.start
    have path := given.path
    rw [hasAuthority] at start
    rw [Components.plainPath, hasAuthority] at path
    simp only [Components.normalize, ← given.scheme, given.userinfo, given.host, given.port, start,
      path, given.query, given.fragment, ok_bind, pure_eq]

/-- Another query gives the same URL but for it. -/
theorem Components.Gives.replaceQuery {c : Components} {u : Url} (given : c.Gives u) {q : Text}
    (plain : ∀ c ∈ q, c.isSurrogate = false)
    : { c with query := some q }.Gives { u with query := some (Escape.escape Escape.inQuery q) } :=
  { given with query := by rw [quote?, quote_eq_ok.mpr ⟨plain, rfl⟩, map_ok] }

theorem normalHost_ne_surrogate (host : Text) (c : CodePoint)
    : normalHost host ≠ .error (.surrogate c) := by
  simp only [normalHost]
  repeat' split
  all_goals simp

theorem normalPort_ne_surrogate (scheme port : Text) (c : CodePoint)
    : normalPort scheme port ≠ .error (.surrogate c) := by
  rw [normalPort]
  repeat' split
  all_goals simp

theorem checkPath_ne_surrogate (path : Text) (hasScheme hasAuthority : Bool) (c : CodePoint)
    : checkPath path hasScheme hasAuthority ≠ .error (.surrogate c) := by
  rw [checkPath]
  repeat' split
  all_goals simp

/-- A surrogate that ends the reading stands in a component that is escaped. -/
theorem Components.normalize_eq_surrogate {c : Components} {s : CodePoint}
    (failed : c.normalize = .error (.surrogate s))
    : s.isSurrogate ∧ ∃ part ∈ c.escaped, s ∈ part := by
  have within {allowed : CodePoint → Bool} {t : Text}
      (refused : quote allowed t = .error (.surrogate s))
      : s.isSurrogate ∧ s ∈ t := by
    obtain ⟨d, member, surrogate, same⟩ := quote_eq_error refused
    rw [Error.surrogate.inj same]
    exact ⟨surrogate, member⟩
  have within? {allowed : CodePoint → Bool} {t : Option Text}
      (refused : quote? allowed t = .error (.surrogate s))
      : s.isSurrogate ∧ ∃ part ∈ t, s ∈ part := by
    cases t with
    | none => simp [quote?] at refused
    | some part =>
        obtain ⟨surrogate, member⟩ := within (map_eq_error.mp refused)
        exact ⟨surrogate, part, rfl, member⟩
  simp only [Components.normalize, bind_eq_error, pure_eq, normalHost_ne_surrogate,
    normalPort_ne_surrogate, checkPath_ne_surrogate, false_or, reduceCtorEq, and_false,
    exists_false, or_false] at failed
  rcases failed with userinfo | ⟨_, _, _, _, _, _, _, _, path | ⟨_, _, query | ⟨_, _, fragment⟩⟩⟩
  · exact (within userinfo).imp_right fun member => ⟨_, by simp [Components.escaped], member⟩
  · refine (within path).imp_right fun member => ⟨c.path, by simp [Components.escaped], ?_⟩
    split at member
    · refine (mem_of_mem_resolveDots member).resolve_left ?_
      rintro rfl
      exact absurd (within path).1 (by decide)
    · exact member
  · obtain ⟨surrogate, part, found, member⟩ := within? query
    exact ⟨surrogate, part, by simp [Components.escaped, Option.mem_def.mp found], member⟩
  · obtain ⟨surrogate, part, found, member⟩ := within? fragment
    exact ⟨surrogate, part, by simp [Components.escaped, Option.mem_def.mp found], member⟩

-----------------------------------------------------------------------------------------
-- A text is read through its components
-----------------------------------------------------------------------------------------

theorem firstControl_eq_none {n : Nat} {t : Text}
    : firstControl n t = none ↔ ∀ c ∈ t, isControl c = false := by
  induction t generalizing n with
  | nil => simp [firstControl]
  | cons c t ih =>
      cases control : isControl c <;> simp [firstControl, control, ih]

/-- A text reads as a URL exactly when it is short enough, holds no control character and has
components in order. -/
theorem parse_eq_ok {t : Text} {u : Url}
    : parse t = .ok u
      ↔ t.length ≤ maxLength ∧ (∀ c ∈ t, isControl c = false)
        ∧ (Components.ofText t).Gives u := by
  rw [parse, ← Nat.not_lt, ← firstControl_eq_none (n := 0), ← Components.normalize_eq_ok]
  split
  · rename_i long
    simp [long]
  · rename_i short
    split
    · rename_i control
      simp [control]
    · rename_i plain
      simp [plain, short]

/-- A surrogate that ends the reading is one of the text. -/
theorem parse_eq_surrogate {t : Text} {c : CodePoint} (failed : parse t = .error (.surrogate c))
    : c.isSurrogate ∧ c ∈ t := by
  rw [parse] at failed
  split at failed
  · simp at failed
  · split at failed
    · simp at failed
    · obtain ⟨surrogate, part, listed, member⟩ := Components.normalize_eq_surrogate failed
      exact ⟨surrogate, mem_of_mem_escaped listed member⟩

/-- Whether a text is absolute is decided by reading it. -/
theorem isAbsoluteText_eq_true {t : Text}
    : isAbsoluteText t = .ok true ↔ ∃ u, parse t = .ok u ∧ u.isAbsolute := by
  rw [isAbsoluteText]
  split <;> rename_i read <;> simp [read]

/-- Whether a text is that of an absolute URL. -/
def isAbsoluteUrl (t : Text) : Bool :=
  (isAbsoluteText t).toOption.getD false

theorem isAbsoluteUrl_iff {t : Text} : isAbsoluteUrl t ↔ isAbsoluteText t = .ok true := by
  rw [isAbsoluteUrl]
  cases isAbsoluteText t <;> simp [Except.toOption]

theorem isAbsoluteText_eq_false_of_ok {t : Text} {u : Url} (read : parse t = .ok u)
    (relative : u.isAbsolute = false)
    : isAbsoluteText t = .ok false := by
  rw [isAbsoluteText, read, ← relative]

theorem isAbsoluteText_eq_false_of_error {t : Text} {e : Error} (read : parse t = .error e)
    (other : ∀ c, e ≠ .surrogate c)
    : isAbsoluteText t = .ok false := by
  rw [isAbsoluteText, read]
  cases e with
  | surrogate c => exact absurd rfl (other c)
  | _ => rfl

theorem isAbsoluteText_eq_error {t : Text} {e : Error}
    : isAbsoluteText t = .error e ↔ ∃ c, parse t = .error (.surrogate c) ∧ e = .surrogate c := by
  rw [isAbsoluteText]
  cases read : parse t with
  | ok u => simp
  | error f => cases f <;> simp [eq_comm]

/-- The query of a URL is that of its text, escaped. -/
theorem query_of_parse {t : Text} {u : Url} (read : parse t = .ok u)
    : u.query = (queryText? t).map (Escape.escape Escape.inQuery) := by
  have query := (parse_eq_ok.mp read).2.2.query
  rw [ofText_query] at query
  cases found : queryText? t with
  | none =>
      rw [found, quote?] at query
      exact (Except.ok.inj query).symm
  | some q =>
      rw [found, quote?, map_eq_ok] at query
      obtain ⟨_, quoted, same⟩ := query
      rw [← same, (quote_eq_ok.mp quoted).2, Option.map_some]

theorem query_getD_of_parse {t : Text} {u : Url} (read : parse t = .ok u)
    : u.query.getD [] = Escape.escape Escape.inQuery (queryText t) := by
  rw [query_of_parse read, queryText]
  cases queryText? t <;> rfl

end Url

end Dispatch
