import Dispatch.Text.Lower
import Dispatch.Text.Normalize
import Dispatch.Text.Quoted
import Dispatch.Url.Idna.Punycode
import Dispatch.Url.Idna.Tables

/-! Labels of internationalised host names. A label is valid if it is in composed form, its hyphens
and its first code point are in order, every code point is allowed where it stands, and the
directions of its code points agree. A valid label that is not ASCII is written in Punycode.
-/

namespace Dispatch.Idna

inductive Error where
  | domainTooLong
  | emptyDomain
  | emptyLabel
  | labelEmpty
  | labelTooLong
  | notComposed
  | innerHyphens
  | outerHyphens
  | leadingMark
  | codePoint (c : CodePoint) (position : Nat) (label : Text)
  | joiner (c : CodePoint) (position : Nat) (label : Text)
  | context (c : CodePoint) (position : Nat) (label : Text)
  | unknownNeighbour (c : CodePoint) (position : Nat) (label : Text)
  | unknownDirection (position : Nat) (label : Text)
  | firstDirection (label : Text)
  | directionInRightToLeft (position : Nat)
  | directionInLeftToRight (position : Nat)
  | mixedNumerals
  | lastDirection
  | nothingEncoded
  | trailingHyphen
  | notPunycode
deriving DecidableEq

/-- A code point as `U+` and at least four upper case hexadecimal digits. -/
def codeName (c : CodePoint) : Text :=
  text "U+" ++ (Text.ofHex 4 c.val).map fun d =>
    if d.isLowerAscii then CodePoint.ofNat (d.val - 0x20) else d

def Error.message : Error → Text
  | .domainTooLong => text "Domain too long"
  | .emptyDomain => text "Empty domain"
  | .emptyLabel => text "Empty label"
  | .labelEmpty => text "Empty Label"
  | .labelTooLong => text "Label too long"
  | .notComposed => text "Label must be in Normalization Form C"
  | .innerHyphens => text "Label has disallowed hyphens in 3rd and 4th position"
  | .outerHyphens => text "Label must not start or end with a hyphen"
  | .leadingMark => text "Label begins with an illegal combining character"
  | .codePoint c n label =>
      text "Codepoint " ++ codeName c ++ text " at position " ++ Text.ofNat n ++ text " of "
        ++ label.quoted ++ text " not allowed"
  | .joiner c n label =>
      text "Joiner " ++ codeName c ++ text " not allowed at position " ++ Text.ofNat n
        ++ text " in " ++ label.quoted
  | .context c n label =>
      text "Codepoint " ++ codeName c ++ text " not allowed at position " ++ Text.ofNat n
        ++ text " in " ++ label.quoted
  | .unknownNeighbour c n label =>
      text "Unknown codepoint adjacent to joiner " ++ codeName c ++ text " at position "
        ++ Text.ofNat n ++ text " in " ++ label.quoted
  | .unknownDirection n label =>
      text "Unknown directionality in label " ++ label.quoted ++ text " at position "
        ++ Text.ofNat n
  | .firstDirection label =>
      text "First codepoint in label " ++ label.quoted
        ++ text " must be directionality L, R or AL"
  | .directionInRightToLeft n =>
      text "Invalid direction for codepoint at position " ++ Text.ofNat n
        ++ text " in a right-to-left label"
  | .directionInLeftToRight n =>
      text "Invalid direction for codepoint at position " ++ Text.ofNat n
        ++ text " in a left-to-right label"
  | .mixedNumerals => text "Can not mix numeral types in a right-to-left label"
  | .lastDirection => text "Label ends with illegal codepoint directionality"
  | .nothingEncoded => text "Malformed A-label, no Punycode eligible content found"
  | .trailingHyphen => text "A-label must not end with a hyphen"
  | .notPunycode => text "Invalid A-label"

/-! ### Directions -/

inductive Direction where
  | left | right | arabic | arabicNumber | europeanNumber | europeanSeparator | commonSeparator
  | europeanTerminator | neutral | boundary | mark | other
deriving DecidableEq

def Direction.ofClass : Nat → Direction
  | 0 => .left
  | 1 => .right
  | 2 => .arabic
  | 3 => .arabicNumber
  | 4 => .europeanNumber
  | 5 => .europeanSeparator
  | 6 => .commonSeparator
  | 7 => .europeanTerminator
  | 8 => .neutral
  | 9 => .boundary
  | 10 => .mark
  | _ => .other

/-- The direction of a code point; an unassigned one has none. -/
def direction? (c : CodePoint) : Option Direction :=
  (Table.classOf? directionData c.val).map Direction.ofClass

def Direction.isRightToLeft (d : Direction) : Bool :=
  d = .right || d = .arabic || d = .arabicNumber

def Direction.inRightToLeft (d : Direction) : Bool :=
  d != .left && d != .other

def Direction.inLeftToRight (d : Direction) : Bool :=
  d != .right && d != .arabic && d != .arabicNumber && d != .other

def Direction.endsRightToLeft (d : Direction) : Bool :=
  d = .right || d = .arabic || d = .europeanNumber || d = .arabicNumber

def Direction.endsLeftToRight (d : Direction) : Bool :=
  d = .left || d = .europeanNumber

/-- Checks the directions of a right-to-left label from a position on. The flag says whether the
label may end here; the numeral is the first kind of numeral seen. -/
def checkRightToLeft : Nat → Bool → Option Direction → List Direction → Except Error Unit
  | _, mayEnd, _, [] => if mayEnd then .ok () else .error .lastDirection
  | n, mayEnd, numeral, d :: rest =>
      if !d.inRightToLeft then .error (.directionInRightToLeft n)
      else
        let mayEnd := if d.endsRightToLeft then true else if d = .mark then mayEnd else false
        if d = .arabicNumber || d = .europeanNumber then
          match numeral with
          | none => checkRightToLeft (n + 1) mayEnd (some d) rest
          | some e =>
              if e = d then checkRightToLeft (n + 1) mayEnd numeral rest
              else .error .mixedNumerals
        else checkRightToLeft (n + 1) mayEnd numeral rest

/-- Checks the directions of a left-to-right label from a position on. -/
def checkLeftToRight : Nat → Bool → List Direction → Except Error Unit
  | _, mayEnd, [] => if mayEnd then .ok () else .error .lastDirection
  | n, mayEnd, d :: rest =>
      if !d.inLeftToRight then .error (.directionInLeftToRight n)
      else
        checkLeftToRight (n + 1)
          (if d.endsLeftToRight then true else if d = .mark then mayEnd else false) rest

/-- The directions of the code points of a label; each must be known. -/
def directions (label : Text) : Nat → Text → Except Error (List Direction)
  | _, [] => .ok []
  | n, c :: rest =>
      match direction? c with
      | none => .error (.unknownDirection n label)
      | some d => (directions label (n + 1) rest).map (d :: ·)

/-- The rule for directions; it applies to labels with a code point written from right to left. -/
def checkDirections (label : Text) : Except Error Unit := do
  let ds ← directions label 1 label
  if !ds.any Direction.isRightToLeft then return ()
  match ds with
  | [] => return ()
  | d :: _ =>
      if d = .right || d = .arabic then checkRightToLeft 1 false none ds
      else if d = .left then checkLeftToRight 1 false ds
      else throw (.firstDirection label)

/-! ### Code points that need a context -/

/-- The combining class of a virama, which joins consonants. -/
def viramaClass : Nat := 9

/-- The first code point that joining passes through, told from the transparent ones. -/
def firstJoining (t : Text) : Option CodePoint :=
  t.find? fun c => !joinTransparent.holds c.val

/-- Whether a joiner may stand between what is before it, nearest first, and what follows. The
outer `none` says that the code point before it is not known. -/
def joinerAllowed? (c : CodePoint) (before after : Text) : Option Bool :=
  match before with
  | [] => some false
  | nearest :: _ =>
      if nearest.combiningClass = 0 && (direction? nearest).isNone then none
      else if nearest.combiningClass = viramaClass then some true
      else if c.val = 0x200c then
        some (((firstJoining before).any fun d =>
            joinLeft.holds d.val || joinDual.holds d.val)
          && (firstJoining after).any fun d => joinRight.holds d.val || joinDual.holds d.val)
      else some false

/-- Whether a code point that is not a joiner may stand in its context. -/
def contextAllowed (c : CodePoint) (before after label : Text) : Bool :=
  let n := c.val
  if n = 0xb7 then
    (before.head?.any fun d => d.val = 0x6c) && (after.head?.any fun d => d.val = 0x6c)
  else if n = 0x375 then after.head?.any fun d => greek.holds d.val
  else if n = 0x5f3 || n = 0x5f4 then before.head?.any fun d => hebrew.holds d.val
  else if n = 0x30fb then
    label.any fun d =>
      d.val != 0x30fb && (hiragana.holds d.val || katakana.holds d.val || han.holds d.val)
  else if 0x660 ≤ n && n ≤ 0x669 then !label.any fun d => 0x6f0 ≤ d.val && d.val ≤ 0x6f9
  else if 0x6f0 ≤ n && n ≤ 0x6f9 then !label.any fun d => 0x660 ≤ d.val && d.val ≤ 0x669
  else false

/-- Checks each code point of a label where it stands. -/
def checkCodePoints (label : Text) : Nat → Text → Text → Except Error Unit
  | _, _, [] => .ok ()
  | n, before, c :: rest =>
      if validRanges.holds c.val then checkCodePoints label (n + 1) (c :: before) rest
      else if joinerRanges.holds c.val then
        match joinerAllowed? c before rest with
        | some true => checkCodePoints label (n + 1) (c :: before) rest
        | some false => .error (.joiner c n label)
        | none => .error (.unknownNeighbour c n label)
      else if contextRanges.holds c.val then
        if contextAllowed c before rest label then
          checkCodePoints label (n + 1) (c :: before) rest
        else .error (.context c n label)
      else .error (.codePoint c n label)

/-! ### Labels and names -/

/-- The most octets of a label. -/
def maxLabel : Nat := 63

/-- The most octets of a name that ends in a point. -/
def maxName : Nat := 254

def checkLabel (label : Text) : Except Error Unit :=
  if label.isEmpty then .error .labelEmpty
  else if maxName < label.length then .error .labelTooLong
  else if label.nfc != label then .error .notComposed
  else if (label.drop 2).take 2 = text "--" then .error .innerHyphens
  else if label.head? = some (CodePoint.ofChar '-')
      || label.getLast? = some (CodePoint.ofChar '-') then .error .outerHyphens
  else if label.head?.any fun c => markRanges.holds c.val then .error .leadingMark
  else do
    checkCodePoints label 1 [] label
    checkDirections label

/-- The start of a label in Punycode. -/
def acePrefix : Text := text "xn--"

/-- The readable form of a label. -/
def toReadable (label : Text) : Except Error Text :=
  if !label.isAscii then (checkLabel label).map fun _ => label
  else
    let lower := label.lowerAscii
    if !lower.startsWith acePrefix then (checkLabel lower).map fun _ => lower
    else
      let digits := lower.drop acePrefix.length
      if digits.isEmpty then .error .nothingEncoded
      else if digits.getLast? = some (CodePoint.ofChar '-') then .error .trailingHyphen
      else
        match Punycode.decode? digits with
        | none => .error .notPunycode
        | some readable => (checkLabel readable).map fun _ => readable

/-- The ASCII form of a label. -/
def toAscii (label : Text) : Except Error Text :=
  if label.isAscii then do
    let _ ← toReadable label
    if maxLabel < label.length then .error .labelTooLong else .ok label
  else do
    checkLabel label
    let ascii := acePrefix ++ Punycode.encode label
    if maxLabel < ascii.length then .error .labelTooLong else .ok ascii

/-- The full stops that divide the labels of a name. -/
def isStop (c : CodePoint) : Bool :=
  c.val = 0x2e || c.val = 0x3002 || c.val = 0xff0e || c.val = 0xff61

/-- Converts each label of a name; a final full stop is kept. -/
def convertName (convert : Text → Except Error Text) (name : Text) : Except Error Text :=
  if maxName < name.length then .error .domainTooLong
  else
    match name.splitWhere isStop with
    | [[]] => .error .emptyDomain
    | labels => do
        let rooted := labels.getLast? = some []
        let labels := if rooted then labels.dropLast else labels
        let converted ← labels.mapM fun label => do
          let done ← convert label
          if done.isEmpty then .error .emptyLabel else .ok done
        return Text.joinWith (text ".") (if rooted then converted ++ [[]] else converted)

/-- The ASCII form of a host name. -/
def encodeName (name : Text) : Except Error Text := do
  let ascii ← convertName toAscii name
  let rooted := name.getLast?.any isStop
  if (if rooted then maxName else maxName - 1) < ascii.length then .error .domainTooLong
  else return ascii

/-- The readable form of a host name. -/
def decodeName (name : Text) : Except Error Text :=
  convertName toReadable name

end Dispatch.Idna
