import Dispatch.Text.Decomposition

/-! Normalisation forms of text. A text is decomposed, marks are put in the order of their combining
classes, and starters are composed with the marks that follow them unblocked.
-/

namespace Dispatch

namespace Hangul

/-- The parts of a Hangul syllable, by arithmetic on its number. -/
def decompose? (n : Nat) : Option (List Nat) :=
  if 0xac00 ≤ n && n < 0xac00 + 11172 then
    let s := n - 0xac00
    let parts := [0x1100 + s / 588, 0x1161 + s % 588 / 28]
    some (if s % 28 = 0 then parts else parts ++ [0x11a7 + s % 28])
  else none

/-- The syllable of two parts: a leading consonant with a vowel, or an open syllable with a
trailing consonant. -/
def compose? (a b : Nat) : Option Nat :=
  if 0x1100 ≤ a && a < 0x1113 && 0x1161 ≤ b && b < 0x1176 then
    some (0xac00 + ((a - 0x1100) * 21 + (b - 0x1161)) * 28)
  else if 0xac00 ≤ a && a < 0xac00 + 11172 && (a - 0xac00) % 28 = 0 && 0x11a8 ≤ b && b < 0x11c3 then
    some (a + (b - 0x11a7))
  else none

end Hangul

namespace CodePoint

/-- The full decomposition of a code point, with the compatibility ones if asked for. -/
def decomposition (compatible : Bool) (c : CodePoint) : Text :=
  if c.isAscii then [c]
  else
    let found :=
      (Hangul.decompose? c.val).orElse fun _ =>
        ((if compatible then Decomposition.find? Decomposition.compatible c.val else none).orElse
          fun _ => Decomposition.find? Decomposition.canonical c.val)
    match found with
    | some ns => ns.map ofNat
    | none => [c]

/-- The single code point that two code points compose to. -/
def compose? (a b : CodePoint) : Option CodePoint :=
  match Hangul.compose? a.val b.val with
  | some n => some (ofNat n)
  | none =>
      Decomposition.compositions.findSome? fun
        | [x, y, n] => if x = a.val && y = b.val then some (ofNat n) else none
        | _ => none

end CodePoint

namespace Text

/-- Inserts a mark before the marks of higher class at the start of a list. -/
def insertMark (mark : CodePoint × Nat) : List (CodePoint × Nat) → List (CodePoint × Nat)
  | [] => [mark]
  | other :: rest =>
      if other.2 ≤ mark.2 then other :: insertMark mark rest else mark :: other :: rest

/-- Puts each run of marks in ascending order of class; marks of one class keep their order. -/
def orderMarks (t : Text) : Text :=
  let (done, run) :=
    t.foldl
      (fun (done, run) c =>
        let k := c.combiningClass
        if k = 0 then (c :: (run.map (·.1)).reverse ++ done, [])
        else (done, insertMark (c, k) run))
      (([] : Text), ([] : List (CodePoint × Nat)))
  ((run.map (·.1)).reverse ++ done).reverse

def decompose (compatible : Bool) (t : Text) : Text :=
  orderMarks (t.flatMap (CodePoint.decomposition compatible))

/-- Composes a starter with what follows. `passed` holds the marks that stay behind the starter,
latest first, and `top` the class of the latest of them. -/
def composeFrom (starter : CodePoint) : Text → Text → Nat → Text → Text
  | [], passed, _, done => (passed ++ starter :: done).reverse
  | c :: rest, passed, top, done =>
      let k := c.combiningClass
      let free := passed.isEmpty || (top < k && top != 0)
      match (if free then starter.compose? c else none) with
      | some joined => composeFrom joined rest passed top done
      | none =>
          if k = 0 then composeFrom c rest [] 0 (passed ++ starter :: done)
          else composeFrom starter rest (c :: passed) k done

/-- Composes a decomposed text from its first starter on. -/
def compose (t : Text) : Text :=
  let marks := t.takeWhile (·.combiningClass != 0)
  match t.dropWhile (·.combiningClass != 0) with
  | [] => marks
  | starter :: rest => marks ++ composeFrom starter rest [] 0 []

/-- The canonical composed form. -/
def nfc (t : Text) : Text :=
  if t.isAscii then t else compose (decompose false t)

/-- The compatibility composed form. -/
def nfkc (t : Text) : Text :=
  if t.isAscii then t else compose (decompose true t)

end Text

end Dispatch
