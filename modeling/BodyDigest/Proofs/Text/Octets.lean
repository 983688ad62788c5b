import BodyDigest.Text.Lines
import BodyDigest.Text.Utf8

/-! What is written as UTF-8 is read again, and line feeds are kept. -/
namespace BodyDigest

namespace Utf8

variable {a b c d : UInt8}

theorem decodeFrom_one (h : a < 0x80) (position : Nat) (rest : List UInt8) :
    decodeFrom position (a :: rest) =
      (decodeFrom (position + 1) rest).map (Char.ofNat a.toNat :: ·) := by
  rw [decodeFrom.eq_def]
  simp only [h, if_true]
  cases decodeFrom (position + 1) rest <;> rfl

theorem decodeFrom_two (ha : 0xc2 ≤ a.toNat ∧ a.toNat < 0xe0) (hb : isTail b) (position : Nat)
    (rest : List UInt8) :
    decodeFrom position (a :: b :: rest) = (decodeFrom (position + 2) rest).map
      (Char.ofNat ((a.toNat % 32) * 64 + bits b) :: ·) := by
  have not_one : ¬ a < 0x80 := by simp [UInt8.lt_iff_toNat_lt]; omega
  have starts : (decide (a < 0xc2) || decide (0xf5 ≤ a)) = false := by
    simp [UInt8.lt_iff_toNat_lt, UInt8.le_iff_toNat_le]; omega
  have two : a < 0xe0 := by simp [UInt8.lt_iff_toNat_lt]; omega
  rw [decodeFrom.eq_def]
  simp only [not_one, starts, two, hb, if_true, if_false, Bool.false_eq_true]
  cases decodeFrom (position + 2) rest <;> rfl

theorem decodeFrom_three (ha : 0xe0 ≤ a.toNat ∧ a.toNat < 0xf0) (hb : isSecondOfThree a b)
    (hc : isTail c) (position : Nat) (rest : List UInt8) :
    decodeFrom position (a :: b :: c :: rest) = (decodeFrom (position + 3) rest).map
      (Char.ofNat ((a.toNat % 16) * 4096 + bits b * 64 + bits c) :: ·) := by
  have not_one : ¬ a < 0x80 := by simp [UInt8.lt_iff_toNat_lt]; omega
  have starts : (decide (a < 0xc2) || decide (0xf5 ≤ a)) = false := by
    simp [UInt8.lt_iff_toNat_lt, UInt8.le_iff_toNat_le]; omega
  have not_two : ¬ a < 0xe0 := by simp [UInt8.lt_iff_toNat_lt]; omega
  have three : a < 0xf0 := by simp [UInt8.lt_iff_toNat_lt]; omega
  rw [decodeFrom.eq_def]
  simp only [not_one, starts, not_two, three, hb, hc, if_true, if_false, Bool.false_eq_true,
    Bool.not_true]
  cases decodeFrom (position + 3) rest <;> rfl

theorem decodeFrom_four (ha : 0xf0 ≤ a.toNat ∧ a.toNat < 0xf5) (hb : isSecondOfFour a b)
    (hc : isTail c) (hd : isTail d) (position : Nat) (rest : List UInt8) :
    decodeFrom position (a :: b :: c :: d :: rest) = (decodeFrom (position + 4) rest).map
      (Char.ofNat ((a.toNat % 8) * 262144 + bits b * 4096 + bits c * 64 + bits d) :: ·) := by
  have not_one : ¬ a < 0x80 := by simp [UInt8.lt_iff_toNat_lt]; omega
  have starts : (decide (a < 0xc2) || decide (0xf5 ≤ a)) = false := by
    simp [UInt8.lt_iff_toNat_lt, UInt8.le_iff_toNat_le]; omega
  have not_two : ¬ a < 0xe0 := by simp [UInt8.lt_iff_toNat_lt]; omega
  have not_three : ¬ a < 0xf0 := by simp [UInt8.lt_iff_toNat_lt]; omega
  rw [decodeFrom.eq_def]
  simp only [not_one, starts, not_two, not_three, hb, hc, hd, if_true, if_false, Bool.false_eq_true,
    Bool.not_true]
  cases decodeFrom (position + 4) rest <;> rfl

/-! ### Characters -/

theorem octet_toNat {n : Nat} (h : n < 256) : (UInt8.ofNat n).toNat = n := by
  rw [UInt8.toNat_ofNat', Nat.mod_eq_of_lt h]

theorem isTail_iff : isTail b ↔ 0x80 ≤ b.toNat ∧ b.toNat < 0xc0 := by
  simp [isTail, UInt8.lt_iff_toNat_lt, UInt8.le_iff_toNat_le]

theorem isSecondOfThree_iff : isSecondOfThree a b ↔ (0x80 ≤ b.toNat ∧ b.toNat < 0xc0) ∧
    ¬ (a.toNat = 0xe0 ∧ b.toNat < 0xa0) ∧ ¬ (a.toNat = 0xed ∧ 0xa0 ≤ b.toNat) := by
  simp [isSecondOfThree, isTail_iff, ← UInt8.toNat_inj, UInt8.lt_iff_toNat_lt,
    UInt8.le_iff_toNat_le, and_assoc]
  omega

theorem isSecondOfFour_iff : isSecondOfFour a b ↔ (0x80 ≤ b.toNat ∧ b.toNat < 0xc0) ∧
    ¬ (a.toNat = 0xf0 ∧ b.toNat < 0x90) ∧ ¬ (a.toNat = 0xf4 ∧ 0x90 ≤ b.toNat) := by
  simp [isSecondOfFour, isTail_iff, ← UInt8.toNat_inj, UInt8.lt_iff_toNat_lt,
    UInt8.le_iff_toNat_le, and_assoc]
  omega

/-- The numbers of characters leave out the surrogates. -/
theorem char_bounds (c : Char) : c.toNat < 0xd800 ∨ 0xdfff < c.toNat ∧ c.toNat < 0x110000 := by
  have valid : c.toNat.isValidChar := c.valid
  simpa [Nat.isValidChar] using valid

theorem ofNat_of_eq {c : Char} {n : Nat} (h : n = c.toNat) : Char.ofNat n = c := by
  rw [h, Char.ofNat_toNat]

theorem decodeFrom_char (position : Nat) (c : Char) (rest : List UInt8) :
    ∃ next, decodeFrom position (String.utf8EncodeChar c ++ rest) =
      (decodeFrom next rest).map (c :: ·) := by
  have bounds := char_bounds c
  have value : c.val.toNat = c.toNat := rfl
  unfold String.utf8EncodeChar
  simp only [value]
  generalize number : c.toNat = v at bounds ⊢
  have last := octet_toNat (n := v % 0x40 + 0x80) (by omega)
  have third := octet_toNat (n := v / 64 % 0x40 + 0x80) (by omega)
  have second := octet_toNat (n := v / 4096 % 0x40 + 0x80) (by omega)
  generalize UInt8.ofNat (v % 0x40 + 0x80) = d at last ⊢
  generalize UInt8.ofNat (v / 64 % 0x40 + 0x80) = c' at third ⊢
  generalize UInt8.ofNat (v / 4096 % 0x40 + 0x80) = b at second ⊢
  split
  · have first := octet_toNat (n := v) (by omega)
    generalize UInt8.ofNat v = a at first ⊢
    refine ⟨position + 1, ?_⟩
    rw [List.singleton_append, decodeFrom_one (by simp [UInt8.lt_iff_toNat_lt]; omega), first,
      ofNat_of_eq number.symm]
  · split
    · have first := octet_toNat (n := v / 64 % 0x20 + 0xc0) (by omega)
      generalize UInt8.ofNat (v / 64 % 0x20 + 0xc0) = a at first ⊢
      refine ⟨position + 2, ?_⟩
      simp only [List.cons_append, List.nil_append]
      rw [decodeFrom_two (by omega) (isTail_iff.2 (by omega)), bits, ofNat_of_eq (c := c) (by omega)]
    · split
      · have first := octet_toNat (n := v / 4096 % 0x10 + 0xe0) (by omega)
        generalize UInt8.ofNat (v / 4096 % 0x10 + 0xe0) = a at first ⊢
        refine ⟨position + 3, ?_⟩
        simp only [List.cons_append, List.nil_append]
        rw [decodeFrom_three (by omega) (isSecondOfThree_iff.2 (by omega)) (isTail_iff.2 (by omega)),
          bits, bits, ofNat_of_eq (c := c) (by omega)]
      · have first := octet_toNat (n := v / 262144 % 0x08 + 0xf0) (by omega)
        generalize UInt8.ofNat (v / 262144 % 0x08 + 0xf0) = a at first ⊢
        refine ⟨position + 4, ?_⟩
        simp only [List.cons_append, List.nil_append]
        rw [decodeFrom_four (by omega) (isSecondOfFour_iff.2 (by omega)) (isTail_iff.2 (by omega))
          (isTail_iff.2 (by omega)), bits, bits, bits, ofNat_of_eq (c := c) (by omega)]

theorem decode_encode (cs : List Char) : decode (encode cs) = .ok cs := by
  have run (position : Nat) : decodeFrom position (encode cs) = .ok cs := by
    induction cs generalizing position with
    | nil => rfl
    | cons c rest ih =>
      obtain ⟨next, step⟩ := decodeFrom_char position c (encode rest)
      rw [encode, List.flatMap_cons]
      rw [encode] at step ih
      rw [step, ih next]
      rfl
  exact run 0

end Utf8

theorem Lines.unify_eq_self {cs : List Char} (h : '\r' ∉ cs) :
    Lines.unify cs = cs := by
  induction cs with
  | nil => rfl
  | cons c rest ih =>
    have other : c ≠ '\r' := by
      rintro rfl
      simp at h
    have tail := ih fun member => h (by simp [member])
    rw [Lines.unify]
    · rw [tail]
    · intro _ same
      exact absurd same other
    · intro same
      exact absurd same other

end BodyDigest
