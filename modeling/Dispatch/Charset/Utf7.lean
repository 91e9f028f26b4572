import Dispatch.Charset.Wide

/-! UTF-7: text in ASCII bytes. A code point that may stand for itself does so; a run of others is a
plus sign, the bits of their two-byte units in groups of six, and a minus sign where what follows
could be taken for more of the run.
-/

namespace Dispatch.Charset.Utf7

attribute [local instance (1100)] instPowNat

/-- Whether a code point stands for itself outside a run, and ends one. -/
def isDirect (c : CodePoint) : Bool :=
  c.val = 0x09 || c.val = 0x0a || c.val = 0x0d
    || (0x20 ≤ c.val && c.val < 0x7e && c.val != 0x2b && c.val != 0x5c)

/-- The character of six bits. -/
def sextet (n : Nat) : UInt8 :=
  UInt8.ofNat (if n < 26 then 0x41 + n
    else if n < 52 then 0x61 + (n - 26)
    else if n < 62 then 0x30 + (n - 52)
    else if n = 62 then 0x2b
    else 0x2f)

/-- The six bits of a character. -/
def sextet? (b : UInt8) : Option Nat :=
  let n := b.toNat
  if 0x41 ≤ n && n ≤ 0x5a then some (n - 0x41)
  else if 0x61 ≤ n && n ≤ 0x7a then some (n - 0x61 + 26)
  else if 0x30 ≤ n && n ≤ 0x39 then some (n - 0x30 + 52)
  else if n = 0x2b then some 62
  else if n = 0x2f then some 63
  else none

/-- Groups of bits, the highest first: a number of bits that wait and their value. -/
structure Bits where
  count : Nat
  value : Nat

/-- Adds a unit of sixteen bits and takes out groups of six. -/
def addUnit (out : Bytes) (bits : Bits) (unit : Nat) : Bytes × Bits :=
  let value := bits.value * 0x10000 + unit
  let count := bits.count + 16
  let groups := count / 6
  let rest := count % 6
  let whole := value / 2 ^ rest
  (((List.range groups).map fun i => sextet (whole / 64 ^ (groups - 1 - i) % 64)).reverse ++ out,
    ⟨rest, value % 2 ^ rest⟩)

/-- The groups of six bits of a run, the last one filled with zeros. -/
def packed (run : Text) : Bytes :=
  let units := run.flatMap (Wide.unitsOf .double)
  let (out, bits) := units.foldl (fun (out, bits) unit => addUnit out bits unit) ([], ⟨0, 0⟩)
  (if bits.count = 0 then out else sextet (bits.value * 2 ^ (6 - bits.count)) :: out).reverse

/-- Whether a minus sign must stand between a run and what follows it. -/
def needsEnd : List Text → Bool
  | (c :: _) :: _ => (sextet? (UInt8.ofNat c.val)).isSome || c.val = 0x2d
  | _ => true

/-- The bytes of runs of which each is direct throughout or nowhere. Plus signs at the start of a
run that is not direct are written on their own. -/
def runBytes : List Text → Bytes
  | [] => []
  | run :: rest =>
      (if run.all isDirect then run.map fun c => UInt8.ofNat c.val
      else
        let plus := run.takeWhile (·.val = 0x2b)
        let shifted := run.dropWhile (·.val = 0x2b)
        (plus.flatMap fun _ => [0x2b, 0x2d])
          ++ (if shifted.isEmpty then []
            else 0x2b :: packed shifted ++ (if needsEnd rest then [0x2d] else [])))
      ++ runBytes rest

def encode (t : Text) : Bytes :=
  runBytes (t.splitBy fun a b => isDirect a == isDirect b)

/-- Units of sixteen bits from groups of six; fewer than six bits may remain, and they are zero. -/
def unpack : Bytes → Bits → List Nat → Option (List Nat)
  | [], bits, units =>
      if bits.count < 6 && bits.value = 0 then some units.reverse else none
  | b :: rest, bits, units =>
      match sextet? b with
      | none => none
      | some n =>
          let value := bits.value * 64 + n
          let count := bits.count + 6
          if 16 ≤ count then
            unpack rest ⟨count - 16, value % 2 ^ (count - 16)⟩ (value / 2 ^ (count - 16) :: units)
          else unpack rest ⟨count, value⟩ units

/-- Two-byte units as code points; surrogates that make no pair stay alone. -/
def ofUnits : List Nat → Text
  | [] => []
  | [n] => [CodePoint.ofNat n]
  | n :: m :: rest =>
      if 0xd800 ≤ n && n < 0xdc00 && 0xdc00 ≤ m && m < 0xe000 then
        CodePoint.ofNat (0x10000 + 0x400 * (n - 0xd800) + (m - 0xdc00)) :: ofUnits rest
      else CodePoint.ofNat n :: ofUnits (m :: rest)

/-- Whether units end in the first half of a pair. -/
def endOpen (units : List Nat) : Bool :=
  units.getLast?.any fun n => 0xd800 ≤ n && n < 0xdc00

/-- Reads bytes from outside a run, at most as many steps as the fuel. A plus sign starts a run or
stands before a minus sign; the first half of a pair may not be the last thing of all. -/
def decodeWithin : Nat → Bytes → Text → Option Text
  | _, [], done => some done.reverse
  | 0, _ :: _, _ => none
  | fuel + 1, b :: rest, done =>
      if b = 0x2b then
        if rest.head? = some 0x2d then
          decodeWithin fuel (rest.drop 1) (CodePoint.ofChar '+' :: done)
        else
          let run := rest.takeWhile fun d => (sextet? d).isSome
          let rest := rest.dropWhile fun d => (sextet? d).isSome
          if run.isEmpty && !rest.isEmpty then none
          else
            match unpack run ⟨0, 0⟩ [] with
            | none => none
            | some units =>
                if rest.isEmpty && endOpen units then none
                else
                  let rest := if rest.head? = some 0x2d then rest.drop 1 else rest
                  decodeWithin fuel rest ((ofUnits units).reverse ++ done)
      else if b.toNat < 0x80 then
        decodeWithin fuel rest (CodePoint.ofNat b.toNat :: done)
      else none

def decode? (bytes : Bytes) : Option Text :=
  decodeWithin bytes.length bytes []

end Dispatch.Charset.Utf7
