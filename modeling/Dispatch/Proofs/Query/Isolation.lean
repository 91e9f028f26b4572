import Dispatch.Proofs.Query.Adding

/-! Parameters touch the query alone. Whatever their names and values are, the URL that takes them
up keeps its target and its fragment, and only its length can keep it from taking them up.
-/

namespace Dispatch

open Dispatch.Result

/-- Two URLs that differ in their queries at most. -/
structure Url.AgreesBesideQuery (u v : Url) : Prop where
  scheme : v.scheme = u.scheme
  userinfo : v.userinfo = u.userinfo
  host : v.host = u.host
  port : v.port = u.port
  path : v.path = u.path
  fragment : v.fragment = u.fragment

namespace Query

open Dispatch.Url

theorem agreesBesideQuery_of_query (u : Url) (query : Option Text)
    : u.AgreesBesideQuery { u with query } :=
  ⟨rfl, rfl, rfl, rfl, rfl, rfl⟩

section

variable [Platform]

/-- An absolute URL takes up parameters that the charset can write exactly when the text with them
is short enough, and its length is the only thing that is ever wrong with it. The URL with
parameters has the target and the fragment of the one without, as it is written and as it reads.
-/
theorem add_keeps_target {url charset : Text} {parameters : Parameters}
    (absolute : Url.isAbsoluteUrl url) (nonempty : parameters ≠ [])
    (encodable : parameters.isEncodable charset)
    : ((∃ result, add url parameters charset = .ok result)
        ↔ (assemble url (parameters.pairTexts charset)).length ≤ 65536)
      ∧ (65536 < (assemble url (parameters.pairTexts charset)).length
          → ∃ p, add url parameters charset = .error (.ofProblem p) ∧ p.kind = .malformedTarget)
      ∧ ∃ u, Url.parse url = .ok u
        ∧ ∀ result, add url parameters charset = .ok result
          → result = assemble url (parameters.pairTexts charset)
            ∧ pathText result = pathText url ∧ fragmentText? result = fragmentText? url
            ∧ ∃ v, Url.parse result = .ok v ∧ u.AgreesBesideQuery v := by
  have absoluteText := Url.isAbsoluteUrl_iff.mp absolute
  obtain ⟨u, read, _⟩ := isAbsoluteText_eq_true.mp absoluteText
  have outcome := add_of_isAbsolute absoluteText nonempty encodable
  by_cases short : (assemble url (parameters.pairTexts charset)).length ≤ maxLength
  · rw [if_pos short] at outcome
    refine ⟨⟨fun _ => short, fun _ => ⟨_, outcome⟩⟩, fun long => ?_, u, read, ?_⟩
    · exact absurd short (Nat.not_le_of_lt long)
    · intro result added
      rw [outcome] at added
      rw [← Except.ok.inj added]
      have fits : ∀ p ∈ parameters.pairTexts charset, IsPairText p :=
        fun p => isPairText_of_mem_pairTexts
      obtain ⟨path, fragment⟩ := parts_assemble fits url
      exact ⟨rfl, path, fragment, _, parse_assemble fits read short,
        agreesBesideQuery_of_query u _⟩
  · rw [if_neg short] at outcome
    refine ⟨⟨?_, fun other => absurd other short⟩, fun _ => ⟨_, outcome, rfl⟩, u, read, ?_⟩
    · rintro ⟨result, added⟩
      rw [outcome] at added
      contradiction
    · intro result added
      rw [outcome] at added
      contradiction

end

/-- Signs that divide a URL stay inside the query when they stand in names and values. -/
theorem add_keeps_target_of_signs
    : ∃ u v, Url.parse (text "HTTP://u:p@h:81/a/../b?x=1&#f?") = .ok u
        ∧ add (text "HTTP://u:p@h:81/a/../b?x=1&#f?") [(text "#@", [text "//e/..", text "?#\n"])]
            (text "us-ascii")
          = .ok (text "HTTP://u:p@h:81/a/../b?x=1&%23%40=%2F%2Fe%2F..&%23%40=%3F%23%0A#f?")
        ∧ Url.parse
            (text "HTTP://u:p@h:81/a/../b?x=1&%23%40=%2F%2Fe%2F..&%23%40=%3F%23%0A#f?") = .ok v
        ∧ u.AgreesBesideQuery v := by
  obtain ⟨_, _, u, read, kept⟩ := add_keeps_target
    (show Url.isAbsoluteUrl (text "HTTP://u:p@h:81/a/../b?x=1&#f?") by decide +kernel)
    (List.cons_ne_nil (text "#@", [text "//e/..", text "?#\n"]) [])
    (show Parameters.isEncodable (text "us-ascii") _ by decide +kernel)
  have added : add (text "HTTP://u:p@h:81/a/../b?x=1&#f?")
      [(text "#@", [text "//e/..", text "?#\n"])] (text "us-ascii")
        = .ok (text "HTTP://u:p@h:81/a/../b?x=1&%23%40=%2F%2Fe%2F..&%23%40=%3F%23%0A#f?") :=
    eq_ok_of_toOption (by decide +kernel)
  obtain ⟨_, _, _, v, readAgain, agrees⟩ := kept _ added
  exact ⟨u, v, read, added, readAgain, agrees⟩

end Query

end Dispatch
