import Dispatch.Charset.Utf7
import Dispatch.Proofs.Charset.Wide
import Mathlib.Data.List.SplitBy
import Mathlib.Data.List.TakeWhile

/-! UTF-7 back and forth. The groups of six bits of a run give its units again: after each unit the
reader is behind the writer by at most one unit. A text is taken apart into runs that are direct and
not direct by turns, and each of them is read as far as it goes, whatever follows.
-/

namespace Dispatch.Charset.Utf7

attribute [local instance (1100)] instPowNat

open Wide (unitsOf Pair unitsOf_double_cases)

variable {c : CodePoint} {t run : Text} {b : UInt8} {bits : Bits} {n u : Nat}
  {units read pending : List Nat} {bytes : Bytes}

-----------------------------------------------------------------------------------------
-- Groups of six bits
-----------------------------------------------------------------------------------------

theorem sextet?_sextet (small : n < 64) : sextet? (sextet n) = some n := by
  have all : ∀ n < 64, sextet? (sextet n) = some n := by decide
  exact all n small

theorem unpack_sextet (small : n < 64)
    : unpack (sextet n :: bytes) bits read
      = if 16 ≤ bits.count + 6 then
          unpack bytes ⟨bits.count + 6 - 16, (bits.value * 64 + n) % 2 ^ (bits.count + 6 - 16)⟩
            ((bits.value * 64 + n) / 2 ^ (bits.count + 6 - 16) :: read)
        else unpack bytes ⟨bits.count + 6, bits.value * 64 + n⟩ read := by
  rw [unpack, sextet?_sextet small]

/-- Whatever is unpacked is made of characters for six bits. -/
theorem isSome_sextet?_of_unpack (unpacked : unpack bytes bits read = some units)
    : ∀ b ∈ bytes, (sextet? b).isSome := by
  induction bytes generalizing bits read with
  | nil => exact nofun
  | cons b bytes ih =>
      rw [unpack] at unpacked
      intro d member
      cases held : sextet? b with
      | none =>
          rw [held] at unpacked
          contradiction
      | some n =>
          rw [held] at unpacked
          rcases List.mem_cons.mp member with rfl | later
          · rw [held]
            rfl
          · simp only at unpacked
            split at unpacked
            · exact ih unpacked d later
            · exact ih unpacked d later

/-- The groups that are written, the last one first, with the bits that wait as one more. -/
def closed (written : Bytes × Bits) : Bytes :=
  (if written.2.count = 0 then written.1
    else sextet (written.2.value * 2 ^ (6 - written.2.count)) :: written.1).reverse

/-- The groups of units behind bits that wait, in their order. -/
def flow (bits : Bits) : List Nat → Bytes
  | [] => closed ([], bits)
  | u :: units => (addUnit [] bits u).1.reverse ++ flow (addUnit [] bits u).2 units

theorem addUnit_eq (out : Bytes) (bits : Bits) (u : Nat)
    : addUnit out bits u = ((addUnit [] bits u).1 ++ out, (addUnit [] bits u).2) := by
  simp [addUnit]

theorem closed_foldl (units : List Nat) (out : Bytes) (bits : Bits)
    : closed (units.foldl (fun written u => addUnit written.1 written.2 u) (out, bits))
      = out.reverse ++ flow bits units := by
  induction units generalizing out bits with
  | nil => by_cases none : bits.count = 0 <;> simp [flow, closed, none]
  | cons u units ih =>
      rw [List.foldl_cons, addUnit_eq, ih, flow, List.reverse_append, List.append_assoc]

theorem packed_eq (run : Text) : packed run = flow ⟨0, 0⟩ (run.flatMap (unitsOf .double)) :=
  closed_foldl _ [] ⟨0, 0⟩

-- Sixteen bits behind none, four or two that wait fill two, three and three groups.

theorem flow_level (v : Nat) (units : List Nat)
    : flow ⟨0, 0⟩ (v :: units)
      = sextet (v / 0x400 % 64) :: sextet (v / 0x10 % 64) :: flow ⟨4, v % 0x10⟩ units := by
  simp [flow, addUnit, List.range_succ, Nat.div_div_eq_div_mul]

theorem flow_four (w v : Nat) (units : List Nat)
    : flow ⟨4, w⟩ (v :: units)
      = sextet ((w * 0x10000 + v) / 0x4000 % 64) :: sextet ((w * 0x10000 + v) / 0x100 % 64)
        :: sextet ((w * 0x10000 + v) / 4 % 64) :: flow ⟨2, (w * 0x10000 + v) % 4⟩ units := by
  simp [flow, addUnit, List.range_succ, Nat.div_div_eq_div_mul]

theorem flow_two (w v : Nat) (units : List Nat)
    : flow ⟨2, w⟩ (v :: units)
      = sextet ((w * 0x10000 + v) / 0x1000 % 64) :: sextet ((w * 0x10000 + v) / 0x40 % 64)
        :: sextet ((w * 0x10000 + v) % 64) :: flow ⟨0, 0⟩ units := by
  simp [flow, addUnit, List.range_succ, Nat.mod_one]

-----------------------------------------------------------------------------------------
-- The reader behind the writer
-----------------------------------------------------------------------------------------

/-- The bits that wait to be written, those that wait to be read, and the unit of which the writer
has begun to write the bits and the reader has not read all of them. -/
inductive Behind : Bits → Bits → List Nat → Prop
  | level : Behind ⟨0, 0⟩ ⟨0, 0⟩ []
  | twelve {u : Nat} (small : u < 0x10000) : Behind ⟨4, u % 16⟩ ⟨12, u / 16⟩ [u]
  | fourteen {u : Nat} (small : u < 0x10000) : Behind ⟨2, u % 4⟩ ⟨14, u / 4⟩ [u]

/-- The last bits of a unit are written with zeros behind them, which stay unread. -/
theorem unpack_closed {written : Bits} (behind : Behind written bits pending)
    : unpack (flow written []) bits read = some (read.reverse ++ pending) := by
  cases behind with
  | level => simp [flow, closed, unpack]
  | @twelve u small =>
      have unit : (u / 16 * 64 + u % 16 * 4) / 4 = u := by omega
      have rest : (u / 16 * 64 + u % 16 * 4) % 4 = 0 := by omega
      simp [flow, closed, unpack_sextet (show u % 16 * 4 < 64 by omega), unpack, unit, rest]
  | @fourteen u small =>
      have unit : (u / 4 * 64 + u % 4 * 16) / 16 = u := by omega
      have rest : (u / 4 * 64 + u % 4 * 16) % 16 = 0 := by omega
      simp [flow, closed, unpack_sextet (show u % 4 * 16 < 64 by omega), unpack, unit, rest]

/-- The groups of units are unpacked as the units, by induction on the units. Three units fill eight
groups, and after each unit the reader is behind in one of three ways. -/
theorem unpack_flow {written : Bits} (behind : Behind written bits pending)
    (small : ∀ u ∈ units, u < 0x10000) (read : List Nat)
    : unpack (flow written units) bits read = some (read.reverse ++ pending ++ units) := by
  induction units generalizing written bits pending read with
  | nil => rw [unpack_closed behind, List.append_nil]
  | cons v units ih =>
      have bound := small v List.mem_cons_self
      have later : ∀ u ∈ units, u < 0x10000 := fun u member =>
        small u (List.mem_cons_of_mem _ member)
      have group (n : Nat) : n % 64 < 64 := Nat.mod_lt _ (by decide)
      cases behind with
      | level =>
          have waiting : v / 0x400 % 64 * 64 + v / 0x10 % 64 = v / 16 := by omega
          have rest := ih (.twelve bound) later read
          rw [flow_level, unpack_sextet (group _), if_neg (by simp), unpack_sextet (group _)]
          simpa [waiting] using rest
      | @twelve u first =>
          have unit : (u / 16 * 64 + (u % 16 * 0x10000 + v) / 0x4000 % 64) / 4 = u := by omega
          have waiting : ((u / 16 * 64 + (u % 16 * 0x10000 + v) / 0x4000 % 64) % 4 * 64
              + (u % 16 * 0x10000 + v) / 0x100 % 64) * 64 + (u % 16 * 0x10000 + v) / 4 % 64
                = v / 4 := by
            omega
          have left : (u % 16 * 0x10000 + v) % 4 = v % 4 := by omega
          have rest := ih (.fourteen bound) later (u :: read)
          rw [flow_four, unpack_sextet (group _), if_pos (by simp), unpack_sextet (group _),
            if_neg (by simp), unpack_sextet (group _), if_neg (by simp), left]
          simpa [waiting, unit] using rest
      | @fourteen u first =>
          have unit : (u / 4 * 64 + (u % 4 * 0x10000 + v) / 0x1000 % 64) / 16 = u := by omega
          have waiting : ((u / 4 * 64 + (u % 4 * 0x10000 + v) / 0x1000 % 64) % 16 * 64
              + (u % 4 * 0x10000 + v) / 0x40 % 64) * 64 + (u % 4 * 0x10000 + v) % 64 = v := by
            omega
          have rest := ih .level later (v :: u :: read)
          rw [flow_two, unpack_sextet (group _), if_pos (by simp), unpack_sextet (group _),
            if_neg (by simp), unpack_sextet (group _), if_pos (by simp)]
          simpa [waiting, unit, Nat.mod_one] using rest

-----------------------------------------------------------------------------------------
-- Runs that are not direct
-----------------------------------------------------------------------------------------

theorem lt_of_mem_units (plain : ∀ c ∈ t, c.isSurrogate = false)
    (member : u ∈ t.flatMap (unitsOf .double))
    : u < 0x10000 := by
  obtain ⟨c, listed, inside⟩ := List.mem_flatMap.mp member
  exact Wide.lt_unitLimit (plain c listed) inside

theorem unpack_packed (plain : ∀ c ∈ t, c.isSurrogate = false)
    : unpack (packed t) ⟨0, 0⟩ [] = some (t.flatMap (unitsOf .double)) := by
  rw [packed_eq]
  exact unpack_flow .level (fun u => lt_of_mem_units plain) []

/-- A unit that is no surrogate is a code point of its own, whatever follows. -/
theorem ofUnits_cons (alone : ¬(0xd800 ≤ c.val ∧ c.val < 0xe000)) (units : List Nat)
    : ofUnits (c.val :: units) = c :: ofUnits units := by
  have noPair : ¬(0xd800 ≤ c.val ∧ c.val < 0xdc00) := by omega
  cases units <;> simp [ofUnits, noPair, CodePoint.ofNat_val]

theorem ofUnits_pair {high low : Nat} (pair : Pair high low c) (units : List Nat)
    : ofUnits (high :: low :: units) = c :: ofUnits units := by
  simp [ofUnits, pair.first, pair.second, pair.value, CodePoint.ofNat_val]

/-- Units are taken for the text that they were written for, by induction on the text. -/
theorem ofUnits_unitsOf (plain : ∀ c ∈ t, c.isSurrogate = false)
    : ofUnits (t.flatMap (unitsOf .double)) = t := by
  induction t with
  | nil => rfl
  | cons c t ih =>
      have rest := ih fun d member => plain d (List.mem_cons_of_mem _ member)
      rw [List.flatMap_cons]
      rcases unitsOf_double_cases (plain c List.mem_cons_self)
        with ⟨one, _, alone⟩ | ⟨high, low, two, pair⟩
      · rw [one, List.singleton_append, ofUnits_cons alone, rest]
      · rw [two, List.cons_append, List.singleton_append, ofUnits_pair pair, rest]

/-- A run that is not empty has a first character, and it is one for six bits. -/
theorem exists_packed_eq (plain : ∀ c ∈ t, c.isSurrogate = false) (nonempty : t ≠ [])
    : ∃ b bytes, packed t = b :: bytes ∧ (sextet? b).isSome := by
  have unpacked := unpack_packed plain
  cases shape : packed t with
  | nil =>
      have back := ofUnits_unitsOf plain
      rw [shape, unpack] at unpacked
      rw [← Option.some.inj unpacked] at back
      exact absurd back.symm nonempty
  | cons b bytes =>
      have first := isSome_sextet?_of_unpack unpacked b (by rw [shape]; exact List.mem_cons_self)
      exact ⟨b, bytes, rfl, first⟩

-----------------------------------------------------------------------------------------
-- Bytes that are read as a text
-----------------------------------------------------------------------------------------

/-- Bytes are read as a text behind any other one, with a step for each byte. -/
def Reads (bytes : Bytes) (t : Text) : Prop :=
  ∀ fuel done, bytes.length ≤ fuel → decodeWithin fuel bytes done = some (done.reverse ++ t)

/-- The byte of a direct code point. -/
def byteOf (c : CodePoint) : UInt8 := UInt8.ofNat c.val

theorem toNat_byteOf (direct : isDirect c) : (byteOf c).toNat = c.val := by
  refine Utf8.toNat_ofNat_of_lt ?_
  simp [isDirect] at direct
  omega

/-- A direct code point has a byte of ASCII that starts no run. -/
theorem byteOf_of_isDirect (direct : isDirect c) : byteOf c ≠ 0x2b ∧ (byteOf c).toNat < 0x80 := by
  have value := toNat_byteOf direct
  simp [isDirect] at direct
  refine ⟨fun plus => ?_, by omega⟩
  rw [plus] at value
  have sign : (0x2b : UInt8).toNat = 0x2b := rfl
  omega

theorem Reads.nil : Reads [] [] := by
  intro fuel done _
  cases fuel <;> simp [decodeWithin]

theorem Reads.direct (direct : isDirect c) (rest : Reads bytes t)
    : Reads (byteOf c :: bytes) (c :: t) := by
  intro fuel done enough
  cases fuel with
  | zero => simp at enough
  | succ fuel =>
      obtain ⟨noPlus, ascii⟩ := byteOf_of_isDirect direct
      rw [decodeWithin, if_neg noPlus, if_pos ascii, toNat_byteOf direct, CodePoint.ofNat_val,
        rest fuel (c :: done) (by simpa using enough)]
      simp

theorem Reads.plus (rest : Reads bytes t)
    : Reads (0x2b :: 0x2d :: bytes) (CodePoint.ofChar '+' :: t) := by
  intro fuel done enough
  cases fuel with
  | zero => simp at enough
  | succ fuel =>
      have left : bytes.length ≤ fuel := by
        simp only [List.length_cons] at enough
        omega
      simp [decodeWithin, rest fuel (CodePoint.ofChar '+' :: done) left]

/-- A run ends at the first byte that is no character for six bits, and a minus sign there belongs
to it. -/
theorem decodeWithin_packed (plain : ∀ c ∈ run, c.isSurrogate = false) (nonempty : run ≠ [])
    (ended : sextet? b = none) (fuel : Nat) (bytes : Bytes) (done : Text)
    : decodeWithin (fuel + 1) (0x2b :: packed run ++ b :: bytes) done
      = decodeWithin fuel (if b = 0x2d then bytes else b :: bytes) (run.reverse ++ done) := by
  obtain ⟨first, others, shape, isSextet⟩ := exists_packed_eq plain nonempty
  have unpacked := unpack_packed plain
  have sextets := isSome_sextet?_of_unpack unpacked
  have notEmpty : (packed run).isEmpty = false := by rw [shape, List.isEmpty_cons]
  have noSign : (packed run ++ b :: bytes).head? ≠ some 0x2d := by
    rw [shape, List.cons_append, List.head?_cons]
    intro sign
    rw [Option.some.inj sign] at isSextet
    contradiction
  have taken : (packed run ++ b :: bytes).takeWhile (fun d => (sextet? d).isSome) = packed run := by
    rw [List.takeWhile_append_of_pos sextets, List.takeWhile_cons_of_neg (by simp [ended]),
      List.append_nil]
  have dropped : (packed run ++ b :: bytes).dropWhile (fun d => (sextet? d).isSome)
      = b :: bytes := by
    rw [List.dropWhile_append_of_pos sextets, List.dropWhile_cons_of_neg (by simp [ended])]
  rw [List.cons_append, decodeWithin, if_pos rfl, if_neg noSign]
  simp only [taken, dropped, unpacked, notEmpty, List.isEmpty_cons, Bool.false_and,
    Bool.false_eq_true, if_false, List.head?_cons, Option.some.injEq, List.drop_one, List.tail_cons,
    ofUnits_unitsOf plain]

/-- A run with a minus sign of its own is read whatever follows. -/
theorem Reads.ended (plain : ∀ c ∈ run, c.isSurrogate = false) (nonempty : run ≠ [])
    (rest : Reads bytes t)
    : Reads (0x2b :: packed run ++ 0x2d :: bytes) (run ++ t) := by
  intro fuel done enough
  cases fuel with
  | zero => simp at enough
  | succ fuel =>
      have left : bytes.length ≤ fuel := by
        simp only [List.cons_append, List.length_cons, List.length_append] at enough
        omega
      rw [decodeWithin_packed plain nonempty rfl, if_pos rfl, rest fuel _ left]
      simp

/-- A run without one is read before a byte that cannot be taken for more of it. -/
theorem Reads.before (plain : ∀ c ∈ run, c.isSurrogate = false) (nonempty : run ≠ [])
    (outside : sextet? b = none) (noSign : b ≠ 0x2d) (rest : Reads (b :: bytes) t)
    : Reads (0x2b :: packed run ++ b :: bytes) (run ++ t) := by
  intro fuel done enough
  cases fuel with
  | zero => simp at enough
  | succ fuel =>
      have left : (b :: bytes).length ≤ fuel := by
        simp only [List.cons_append, List.length_cons, List.length_append] at enough ⊢
        omega
      rw [decodeWithin_packed plain nonempty outside, if_neg noSign, rest fuel _ left]
      simp

-----------------------------------------------------------------------------------------
-- Direct runs and others by turns
-----------------------------------------------------------------------------------------

/-- Runs that are not empty and are direct and not direct by turns; the first one is as given. -/
inductive Alternate : Bool → List Text → Prop
  | nil {direct : Bool} : Alternate direct []
  | cons {direct : Bool} {run : Text} {runs : List Text} (nonempty : run ≠ [])
    (uniform : ∀ c ∈ run, isDirect c = direct) (rest : Alternate (!direct) runs)
    : Alternate direct (run :: runs)

/-- The relation in which neighbours of a run are. -/
def alike (c d : CodePoint) : Bool := isDirect c == isDirect d

/-- Neighbours that are alike make a run of the same kind throughout. -/
theorem isDirect_of_isChain (chain : run.IsChain fun c d => alike c d)
    : ∀ c ∈ run, ∀ d ∈ run, isDirect c = isDirect d := by
  have same : run.IsChain fun c d => isDirect c = isDirect d :=
    chain.imp fun c d neighbours => eq_of_beq neighbours
  have transitive : IsTrans CodePoint fun c d => isDirect c = isDirect d :=
    ⟨fun _ _ _ => Eq.trans⟩
  have symmetric : Std.Symm fun c d => isDirect c = isDirect d :=
    ⟨fun _ _ => Eq.symm⟩
  exact (List.isChain_iff_pairwise.mp same).forall_of_forall fun _ _ => rfl

theorem exists_alternate {runs : List Text} (nonempty : [] ∉ runs)
    (uniform : ∀ run ∈ runs, run.IsChain fun c d => alike c d)
    (apart : runs.IsChain fun r s => ∃ hr hs, alike (r.getLast hr) (s.head hs) = false)
    : ∃ direct, Alternate direct runs := by
  induction runs with
  | nil => exact ⟨true, .nil⟩
  | cons run runs ih =>
      have filled : run ≠ [] := fun empty => nonempty (by simp [empty])
      have same := isDirect_of_isChain (uniform run List.mem_cons_self)
      have kind (c : CodePoint) (member : c ∈ run) : isDirect c = isDirect (run.getLast filled) :=
        same c member _ (List.getLast_mem filled)
      rw [List.isChain_cons] at apart
      obtain ⟨direct, rest⟩ := ih (fun inside => nonempty (List.mem_cons_of_mem _ inside))
        (fun r member => uniform r (List.mem_cons_of_mem _ member)) apart.2
      cases rest with
      | nil => exact ⟨isDirect (run.getLast filled), .cons filled kind .nil⟩
      | @cons _ next runs nextFilled nextKind rest =>
          obtain ⟨_, _, other⟩ := apart.1 next rfl
          have turned : isDirect (run.getLast filled) = !direct := by
            rw [alike, nextKind _ (List.head_mem _)] at other
            exact Bool.eq_not.mpr (by simpa using other)
          refine ⟨!direct, .cons filled (fun c member => (kind c member).trans turned) ?_⟩
          rw [Bool.not_not]
          exact .cons nextFilled nextKind rest

/-- A text is cut between code points of which one is direct and the other is not. -/
theorem exists_alternate_splitBy (t : Text) : ∃ direct, Alternate direct (t.splitBy alike) :=
  exists_alternate (List.nil_notMem_splitBy alike t) (fun _ => List.isChain_of_mem_splitBy)
    (List.isChain_getLast_head_splitBy alike t)

theorem runBytes_of_direct {runs : List Text} (direct : ∀ c ∈ run, isDirect c)
    : runBytes (run :: runs) = run.map byteOf ++ runBytes runs := by
  rw [runBytes, if_pos (List.all_eq_true.mpr direct)]
  rfl

theorem Reads.directs (direct : ∀ c ∈ run, isDirect c) (rest : Reads bytes t)
    : Reads (run.map byteOf ++ bytes) (run ++ t) := by
  induction run with
  | nil => exact rest
  | cons c run ih =>
      have others := ih fun d member => direct d (List.mem_cons_of_mem _ member)
      exact others.direct (direct c List.mem_cons_self)

theorem Reads.pluses (plus : ∀ c ∈ run, c.val = 0x2b) (rest : Reads bytes t)
    : Reads ((run.flatMap fun _ => [0x2b, 0x2d]) ++ bytes) (run ++ t) := by
  induction run with
  | nil => exact rest
  | cons c run ih =>
      have others := ih fun d member => plus d (List.mem_cons_of_mem _ member)
      have sign : c = CodePoint.ofChar '+' := by
        have value := CodePoint.ofNat_val c
        rw [plus c List.mem_cons_self] at value
        exact value.symm
      rw [sign]
      exact others.plus

/-- Without a minus sign, a direct run follows whose first byte is neither one nor a character for
six bits. -/
theorem exists_byte_of_needsEnd {runs : List Text} (alternate : Alternate true runs)
    (bare : needsEnd runs = false)
    : ∃ b bytes, runBytes runs = b :: bytes ∧ sextet? b = none ∧ b ≠ 0x2d := by
  cases alternate with
  | nil => contradiction
  | @cons _ run runs nonempty uniform rest =>
      obtain ⟨c, others, rfl⟩ := List.exists_cons_of_ne_nil nonempty
      have direct : isDirect c := uniform c List.mem_cons_self
      rw [needsEnd, Bool.or_eq_false_iff, Option.isSome_eq_false_iff, Option.isNone_iff_eq_none,
        decide_eq_false_iff_not] at bare
      refine ⟨byteOf c, _, runBytes_of_direct uniform, bare.1, fun sign => bare.2 ?_⟩
      rw [← toNat_byteOf direct, sign]
      rfl

/-- A run that is not direct is read from its plus signs on, whatever of it is left behind them. -/
theorem Reads.indirect {runs : List Text} (plain : ∀ c ∈ run, c.isSurrogate = false)
    (alternate : Alternate true runs) (rest : Reads (runBytes runs) t)
    : Reads ((if run.isEmpty then []
        else 0x2b :: packed run ++ (if needsEnd runs then [0x2d] else [])) ++ runBytes runs)
        (run ++ t) := by
  cases run with
  | nil => exact rest
  | cons c run =>
      rw [List.isEmpty_cons, if_neg Bool.false_ne_true, List.append_assoc]
      cases bare : needsEnd runs with
      | true => exact rest.ended plain (List.cons_ne_nil c run)
      | false =>
          obtain ⟨b, bytes, shape, outside, noSign⟩ := exists_byte_of_needsEnd alternate bare
          rw [shape] at rest ⊢
          exact rest.before plain (List.cons_ne_nil c run) outside noSign

/-- Runs by turns are read one after the other, by induction on the runs. -/
theorem reads_runBytes {direct : Bool} {runs : List Text} (alternate : Alternate direct runs)
    (plain : ∀ c ∈ runs.flatten, c.isSurrogate = false)
    : Reads (runBytes runs) runs.flatten := by
  induction alternate with
  | nil => exact .nil
  | @cons direct run runs nonempty uniform alternate ih =>
      rw [List.flatten_cons] at plain ⊢
      have rest := ih fun c member => plain c (List.mem_append_right _ member)
      cases direct with
      | true =>
          rw [runBytes_of_direct uniform]
          exact rest.directs uniform
      | false =>
          have others : run.all isDirect = false := by
            obtain ⟨c, member⟩ := List.exists_mem_of_ne_nil run nonempty
            exact List.all_eq_false.mpr ⟨c, member, by simp [uniform c member]⟩
          have whole : run.takeWhile (·.val = 0x2b) ++ run.dropWhile (·.val = 0x2b) = run :=
            List.takeWhile_append_dropWhile
          have leftPlain : ∀ c ∈ run.dropWhile (·.val = 0x2b), c.isSurrogate = false := by
            intro c member
            exact plain c (List.mem_append_left _ ((List.dropWhile_sublist _).subset member))
          have leading : ∀ c ∈ run.takeWhile (·.val = 0x2b), c.val = 0x2b := by
            intro c member
            simpa using List.mem_takeWhile_imp member
          have signs := (rest.indirect leftPlain alternate).pluses leading
          rw [← List.append_assoc, ← List.append_assoc, whole] at signs
          rw [runBytes, others, if_neg Bool.false_ne_true]
          exact signs

/-- A text without surrogates is read as it was written. -/
theorem decode?_encode (plain : ∀ c ∈ t, c.isSurrogate = false)
    : decode? (encode t) = some t := by
  obtain ⟨direct, alternate⟩ := exists_alternate_splitBy t
  have whole : (t.splitBy alike).flatten = t := List.flatten_splitBy alike t
  have reads := reads_runBytes alternate (by rw [whole]; exact plain)
  rw [whole] at reads
  exact reads _ [] le_rfl

end Dispatch.Charset.Utf7
