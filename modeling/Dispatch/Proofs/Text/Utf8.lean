import Dispatch.Text.Utf8

/-! Reading UTF-8 undoes writing it. One code point comes back in front of any rest, and a whole
text by induction, since every code point has at least one byte.
-/

namespace Dispatch

theorem CodePoint.ofNat?_val (c : CodePoint) : CodePoint.ofNat? c.val = some c := by
  simp [CodePoint.ofNat?, c.isLt]

theorem CodePoint.ofNat_val (c : CodePoint) : CodePoint.ofNat c.val = c := by
  simp [CodePoint.ofNat, c.isLt]

namespace Utf8

theorem toNat_ofNat_of_lt {n : Nat} (small : n < 0x100) : (UInt8.ofNat n).toNat = n := by
  simp only [UInt8.toNat_ofNat']
  omega

theorem tail?_ofNat {n : Nat} (small : n < 0x40) : tail? (UInt8.ofNat (0x80 + n)) = some n := by
  rw [tail?, toNat_ofNat_of_lt (by omega), if_pos (by simp; omega)]
  simp

theorem encodeChar_ne_nil (c : CodePoint) : encodeChar c ≠ [] := by
  rw [encodeChar]
  split
  · simp
  · split
    · simp
    · split <;> simp

/-- A code point comes back with the bytes after it, by the four lengths of its form. -/
theorem decodeChar?_encodeChar (c : CodePoint) (rest : Bytes)
    : decodeChar? (encodeChar c ++ rest) = some (c, rest) := by
  have bound := c.isLt
  have back := CodePoint.ofNat?_val c
  rw [encodeChar]
  split
  · rename_i one
    simp only [List.singleton_append, decodeChar?]
    rw [toNat_ofNat_of_lt (by omega), if_pos one, back, Option.map_some]
  · split
    · rename_i many two
      have value : 0x40 * (0xc0 + c.val / 0x40 - 0xc0) + c.val % 0x40 = c.val := by omega
      simp only [List.cons_append, List.nil_append, decodeChar?]
      rw [toNat_ofNat_of_lt (by omega), if_neg (by omega), if_neg (by omega), if_pos (by omega),
        tail?_ofNat (by omega)]
      simp only [Option.bind_eq_bind, Option.bind_some, value]
      rw [back]
      rfl
    · split
      · rename_i many more three
        have value : 0x1000 * (0xe0 + c.val / 0x1000 - 0xe0) + 0x40 * (c.val / 0x40 % 0x40)
            + c.val % 0x40 = c.val := by omega
        simp only [List.cons_append, List.nil_append, decodeChar?]
        rw [toNat_ofNat_of_lt (by omega), if_neg (by omega), if_neg (by omega), if_neg (by omega),
          if_pos (by omega), tail?_ofNat (by omega), tail?_ofNat (by omega)]
        simp only [Option.bind_eq_bind, Option.bind_some, value]
        rw [if_neg (by omega), back]
        rfl
      · rename_i many more most
        have value : 0x40000 * (0xf0 + c.val / 0x40000 - 0xf0) + 0x1000 * (c.val / 0x1000 % 0x40)
            + 0x40 * (c.val / 0x40 % 0x40) + c.val % 0x40 = c.val := by omega
        simp only [List.cons_append, List.nil_append, decodeChar?]
        rw [toNat_ofNat_of_lt (by omega), if_neg (by omega), if_neg (by omega), if_neg (by omega),
          if_neg (by omega), if_pos (by omega), tail?_ofNat (by omega), tail?_ofNat (by omega),
          tail?_ofNat (by omega)]
        simp only [Option.bind_eq_bind, Option.bind_some, value]
        rw [if_neg (by omega), back]
        rfl

/-- A text comes back after what is read already, by induction on the text. -/
theorem decodeWithin_encode (t done : Text) (fuel : Nat) (enough : t.length ≤ fuel)
    : decodeWithin fuel (encode t) done = some (done.reverse ++ t) := by
  induction t generalizing fuel done with
  | nil => cases fuel <;> simp [encode, decodeWithin]
  | cons c t ih =>
      obtain ⟨b, bytes, form⟩ := List.exists_cons_of_ne_nil (encodeChar_ne_nil c)
      have first := decodeChar?_encodeChar c (encode t)
      cases fuel with
      | zero => simp at enough
      | succ fuel =>
          have split : encode (c :: t) = b :: (bytes ++ encode t) := by
            rw [encode, List.flatMap_cons, form]
            rfl
          rw [form, List.cons_append] at first
          rw [split, decodeWithin, first]
          simpa using ih (c :: done) fuel (by simpa using enough)

theorem length_le_encode (t : Text) : t.length ≤ (encode t).length := by
  induction t with
  | nil => simp
  | cons c t ih =>
      have head := List.length_pos_iff.mpr (encodeChar_ne_nil c)
      simp only [encode, List.flatMap_cons, List.length_append, List.length_cons] at ih ⊢
      omega

theorem decodeGeneral?_encode (t : Text) : decodeGeneral? (encode t) = some t :=
  decodeWithin_encode t [] _ (length_le_encode t)

theorem encode_inj {t s : Text} : encode t = encode s ↔ t = s := by
  refine ⟨fun same => ?_, congrArg encode⟩
  have read := congrArg decodeGeneral? same
  rw [decodeGeneral?_encode, decodeGeneral?_encode] at read
  exact Option.some.inj read

/-- A text without surrogates comes back from its UTF-8 form. -/
theorem decode?_encode {t : Text} (whole : ∀ c ∈ t, c.isSurrogate = false)
    : decode? (encode t) = some t := by
  have read := decodeGeneral?_encode t
  have noSurrogate : t.any CodePoint.isSurrogate = false := by
    simpa [List.any_eq_false] using whole
  simp [decode?, read, noSurrogate]

end Utf8

end Dispatch
