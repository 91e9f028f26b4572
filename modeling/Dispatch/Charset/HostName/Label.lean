import Dispatch.Charset.Basic
import Dispatch.Charset.HostName.Tables
import Dispatch.Text.Lower
import Dispatch.Text.Normalize
import Dispatch.Url.Idna.Punycode

/-! Host names as a charset, by the older rules for internationalised names. An ASCII name is kept
if its labels are neither empty nor long. Any other label is folded, brought to compatibility form,
checked and written in Punycode.
-/

namespace Dispatch.Charset.HostName

/-- The folded form of a code point. -/
def fold (c : CodePoint) : Text :=
  match foldings.find? fun row => row.head? = some c.val with
  | some row => row.tail.map CodePoint.ofNat
  | none => Text.lower [c]

/-- The compatibility decomposition of a code point under the early version of the standard. -/
def decomposition (c : CodePoint) : Text :=
  match oldDecompositions.find? fun row => row.head? = some c.val with
  | some row => row.tail.map CodePoint.ofNat
  | none => if undecomposed.holds c.val then [c] else c.decomposition true

/-- Checks the directions of a label: with a code point written from right to left there is none
written from left to right, and the first and the last one are written from right to left. -/
def checkDirections (label : Text) : Except LabelError Unit :=
  let fromRight := fun (c : CodePoint) => rightToLeft.holds c.val
  if !label.any fromRight then .ok ()
  else if label.any fun c => leftToRight.holds c.val then .error (.direction 2)
  else if (label.head?.any fromRight) && (label.getLast?.any fromRight) then .ok ()
  else .error (.direction 3)

/-- The prepared form of a label. -/
def prepare (label : Text) : Except LabelError Text := do
  let folded := (label.filter fun c => !dropped.holds c.val).flatMap fold
  let normal := Text.compose (Text.orderMarks (folded.flatMap decomposition))
  match normal.find? fun c => prohibited.holds c.val with
  | some c => throw (.character c)
  | none => do
      checkDirections normal
      return normal

/-- A label has one to 63 bytes. -/
def checkSize (label : Text) : Except LabelError Text :=
  if label.isEmpty || 63 < label.length then .error .emptyOrLong else .ok label

/-- The ASCII form of a label. -/
def labelToAscii (label : Text) : Except LabelError Text :=
  if label.isAscii then checkSize label
  else do
    let prepared ← prepare label
    if prepared.isAscii then checkSize prepared
    else if prepared.startsWith (text "xn--") then throw .acePrefix
    else checkSize (text "xn--" ++ Punycode.encode prepared)

def isStop (c : CodePoint) : Bool :=
  c.val = 0x2e || c.val = 0x3002 || c.val = 0xff0e || c.val = 0xff61

/-- The ASCII form of a name. The last label of an ASCII name may be empty. -/
def toAscii (name : Text) : Except LabelError Text :=
  if name.isEmpty then .ok []
  else if name.isAscii then do
    let labels := name.splitOn '.'
    if labels.dropLast.any fun l => l.isEmpty || 63 < l.length then throw .emptyOrLong
    else if labels.getLast?.any fun l => 63 < l.length then throw .long
    else return name
  else do
    let labels := name.splitWhere isStop
    let rooted := labels.getLast? = some []
    let ascii ← (if rooted then labels.dropLast else labels).mapM labelToAscii
    return Text.joinWith (text ".") ascii ++ (if rooted then text "." else [])

end Dispatch.Charset.HostName
