import Mathlib.Data.List.Basic
import BodyDigest.Proofs.Text.Octets

/-!
Cuts of octets between the characters that they stand for. What lies between two cuts are the octets of
characters again.
-/
namespace BodyDigest

namespace Utf8

variable {os ps : List UInt8} {cs ds : List Char} {c : Char} {b : UInt8} {k j : Nat}

theorem encode_append (cs ds : List Char) : encode (cs ++ ds) = encode cs ++ encode ds :=
  List.flatMap_append

theorem encode_cons (c : Char) (cs : List Char) :
    encode (c :: cs) = String.utf8EncodeChar c ++ encode cs := List.flatMap_cons

theorem encode_flatten (css : List (List Char)) : encode css.flatten = (css.map encode).flatten := by
  induction css with
  | nil => rfl
  | cons cs rest ih => rw [List.flatten_cons, encode_append, ih, List.map_cons, List.flatten_cons]

theorem encode_spaces (n : Nat) : encode (List.replicate n ' ') = List.replicate n 32 := by
  induction n with
  | zero => rfl
  | succ n ih => rw [List.replicate_succ, encode_cons, ih]; rfl

theorem encode_injective : Function.Injective encode := by
  intro cs ds same
  have read := decode_encode cs
  rw [same, decode_encode ds] at read
  exact (Except.ok.inj read).symm

/-- What stands between two places of one line, in octets and in characters. -/
theorem drop_encode {front back : List Char} (line : cs ++ ds = front ++ back) :
    (encode front).drop (encode cs).length = encode (front.drop cs.length) := by
  rcases List.append_eq_append_iff.mp line with ⟨inner, rfl, -⟩ | ⟨more, rfl, -⟩
  · rw [encode_append, List.drop_left, List.drop_left]
  · rw [encode_append, List.drop_eq_nil_of_le (by simp), List.drop_eq_nil_of_le (by simp)]
    rfl

/-- An octet below 128 stands for a character by itself. -/
theorem octet_alone (member : b ∈ String.utf8EncodeChar c) (small : b.toNat < 128) :
    String.utf8EncodeChar c = [b] := by
  have large (n : Nat) (least : 128 ≤ n) (less : n < 256) : 128 ≤ (UInt8.ofNat n).toNat := by
    rw [octet_toNat less]
    exact least
  have bounds := char_bounds c
  have value : c.val.toNat = c.toNat := rfl
  unfold String.utf8EncodeChar at member ⊢
  simp only [value] at member ⊢
  split at member
  · rename_i one
    rw [if_pos one, List.mem_singleton.mp member]
  · exfalso
    have last := large (c.toNat % 64 + 128) (by omega) (by omega)
    have third := large (c.toNat / 64 % 64 + 128) (by omega) (by omega)
    have second := large (c.toNat / 4096 % 64 + 128) (by omega) (by omega)
    split at member
    · have first := large (c.toNat / 64 % 32 + 192) (by omega) (by omega)
      simp only [List.mem_cons, List.not_mem_nil, or_false] at member
      rcases member with rfl | rfl <;> omega
    · split at member
      · have first := large (c.toNat / 4096 % 16 + 224) (by omega) (by omega)
        simp only [List.mem_cons, List.not_mem_nil, or_false] at member
        rcases member with rfl | rfl | rfl <;> omega
      · have first := large (c.toNat / 262144 % 8 + 240) (by omega) (by omega)
        simp only [List.mem_cons, List.not_mem_nil, or_false] at member
        rcases member with rfl | rfl | rfl | rfl <;> omega

theorem char_of_octet {d : Char} (member : b ∈ String.utf8EncodeChar c)
    (alone : String.utf8EncodeChar d = [b]) (small : b.toNat < 128) : c = d := by
  have same : encode [c] = encode [d] := by
    rw [encode_cons, encode_cons, alone, octet_alone member small]
  exact (List.cons.inj (encode_injective same)).1

theorem octets_ne_nil (c : Char) : String.utf8EncodeChar c ≠ [] := by
  intro none
  have size := String.length_utf8EncodeChar c
  rw [none] at size
  have := c.utf8Size_pos
  simp only [List.length_nil] at size
  omega

/-- Octets that are those of characters. -/
def IsText (os : List UInt8) : Prop := ∃ cs, os = encode cs

theorem isText_nil : IsText [] := ⟨[], rfl⟩

theorem IsText.append (h : IsText os) (h' : IsText ps) : IsText (os ++ ps) := by
  obtain ⟨cs, rfl⟩ := h
  obtain ⟨ds, rfl⟩ := h'
  exact ⟨cs ++ ds, (encode_append cs ds).symm⟩

theorem isText_flatten {oss : List (List UInt8)} (each : ∀ os ∈ oss, IsText os) : IsText oss.flatten := by
  induction oss with
  | nil => exact isText_nil
  | cons os rest ih =>
    obtain ⟨first, each⟩ := List.forall_mem_cons.mp each
    exact first.append (ih each)

theorem isText_spaces (n : Nat) : IsText (List.replicate n 32) := ⟨_, (encode_spaces n).symm⟩

/-- So many octets are those of the first characters. -/
def IsCut (os : List UInt8) (k : Nat) : Prop :=
  ∃ front back, os = encode (front ++ back) ∧ k = (encode front).length

theorem IsCut.isText (h : IsCut os k) : IsText os := by
  obtain ⟨front, back, rfl, -⟩ := h
  exact ⟨_, rfl⟩

theorem isCut_zero (h : IsText os) : IsCut os 0 := by
  obtain ⟨cs, rfl⟩ := h
  exact ⟨[], cs, rfl, rfl⟩

theorem IsCut.take (h : IsCut os k) : IsText (os.take k) := by
  obtain ⟨front, back, rfl, rfl⟩ := h
  exact ⟨front, by rw [encode_append, List.take_left]⟩

/-- What stands between two cuts. -/
theorem IsCut.between (start : IsCut os k) (stop : IsCut os j) : IsText ((os.take j).drop k) := by
  obtain ⟨front, back, rfl, rfl⟩ := start
  obtain ⟨before, behind, same, rfl⟩ := stop
  rw [same, encode_append before, List.take_left]
  rcases List.append_eq_append_iff.mp (encode_injective same) with ⟨inner, rfl, -⟩ | ⟨more, rfl, -⟩
  · exact ⟨inner, by rw [encode_append, List.drop_left]⟩
  · rw [List.drop_eq_nil_of_le (by simp [encode_append])]
    exact isText_nil

theorem IsCut.drop (h : IsCut os k) : IsText (os.drop k) := by
  obtain ⟨front, back, rfl, rfl⟩ := h
  exact ⟨back, by rw [encode_append, List.drop_left]⟩

/-- There is a cut before each octet below 128. -/
theorem isCut_before {front back : List UInt8} (h : IsText (front ++ b :: back)) (small : b.toNat < 128) :
    IsCut (front ++ b :: back) front.length := by
  obtain ⟨cs, same⟩ := h
  induction cs generalizing front with
  | nil => simp [encode] at same
  | cons c rest ih =>
    rw [encode_cons] at same
    rcases List.append_eq_append_iff.mp same with ⟨inner, octets, later⟩ | ⟨more, rfl, later⟩
    · cases inner with
      | nil =>
        rw [List.append_nil] at octets
        rw [List.nil_append] at later
        refine ⟨[c], rest, ?_, ?_⟩
        · rw [same, List.singleton_append, encode_cons]
        · rw [← octets, encode, List.flatMap_singleton]
      | cons d inner =>
        obtain rfl : b = d := (List.cons.inj later).1
        have alone := octet_alone (octets ▸ List.mem_append_right front (List.mem_cons_self ..)) small
        obtain rfl : front = [] := by
          have lengths := congrArg List.length (octets.symm.trans alone)
          simp only [List.length_append, List.length_cons, List.length_nil] at lengths
          exact List.eq_nil_of_length_eq_zero (by omega)
        exact ⟨[], c :: rest, by rw [same, List.nil_append, encode_cons], rfl⟩
    · obtain ⟨before, behind, whole, length⟩ := ih later.symm
      refine ⟨c :: before, behind, ?_, ?_⟩
      · rw [List.append_assoc, whole, List.cons_append, encode_cons]
      · rw [List.length_append, encode_cons, List.length_append, length]

end Utf8

end BodyDigest
