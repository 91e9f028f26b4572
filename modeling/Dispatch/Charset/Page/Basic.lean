import Dispatch.Text.Table
import Dispatch.Text.Utf8

/-! Code pages: one byte for each code point of a repertoire of at most 256. A page is given by runs
of bytes that stand for consecutive code points, in the order of the bytes. Where a code point has
several bytes, the last one is written.
-/

namespace Dispatch

/-- Runs of bytes, none of them empty, that each end before the next one begins. A run holds its
first byte, its last byte and the code point of its first byte. -/
structure AreByteRuns (runs : List (Nat × Nat × Nat)) : Prop where
  apart : runs.Pairwise fun earlier later => earlier.2.1 < later.1
  bytes : ∀ run ∈ runs, run.1 ≤ run.2.1 ∧ run.2.1 < 0x100

instance (runs : List (Nat × Nat × Nat)) : Decidable (AreByteRuns runs) :=
  decidable_of_iff ((runs.Pairwise fun earlier later => earlier.2.1 < later.1)
      ∧ ∀ run ∈ runs, run.1 ≤ run.2.1 ∧ run.2.1 < 0x100)
    ⟨fun ⟨apart, bytes⟩ => ⟨apart, bytes⟩, fun ⟨apart, bytes⟩ => ⟨apart, bytes⟩⟩

/-- A code page: each byte stands for at most one code point. -/
structure CodePage where
  runs : List (Nat × Nat × Nat)
  areByteRuns : AreByteRuns runs

namespace CodePage

/-- The page of a table. A table that holds other entries than runs of bytes in order is that of no
page and gives the empty one. -/
def read (lines : List String) : CodePage :=
  if inOrder : AreByteRuns (Table.readClasses lines) then ⟨Table.readClasses lines, inOrder⟩
  else ⟨[], .nil, nofun⟩

/-- The byte of a code point under one run. -/
def byteIn? (c : CodePoint) : Nat × Nat × Nat → Option UInt8
  | (low, high, start) =>
      if start ≤ c.val && c.val ≤ start + (high - low) then
        some (UInt8.ofNat (low + (c.val - start)))
      else none

/-- The byte of a code point. -/
def byte? (page : CodePage) (c : CodePoint) : Option UInt8 :=
  page.runs.foldl (fun found run => (byteIn? c run).or found) none

/-- The code point of a byte. -/
def codePoint? (page : CodePage) (b : UInt8) : Option CodePoint :=
  page.runs.findSome? fun (low, high, start) =>
    if low ≤ b.toNat && b.toNat ≤ high then CodePoint.ofNat? (start + (b.toNat - low)) else none

end CodePage

end Dispatch
