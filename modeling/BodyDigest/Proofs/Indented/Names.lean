import BodyDigest.Emit.Names
import BodyDigest.Indented.Grammar.Cursor
import BodyDigest.Indented.Lexer
import BodyDigest.Proofs.Text.Plain

/-! Emitted attributes are read as names: they are no keywords and have only characters of names. -/
namespace BodyDigest

namespace Emit

theorem keyword_end : ∀ k ∈ Indented.keywords, (Text.ofString k).getLast? ≠ some underscore := by
  decide

theorem marked_not_keyword (t : Text) : isKeyword (t ++ [underscore]) = false := by
  rw [Bool.eq_false_iff]
  intro keyword
  simp only [isKeyword, List.contains_eq_mem, List.mem_map, decide_eq_true_eq] at keyword
  obtain ⟨k, member, same⟩ := keyword
  exact keyword_end k member (by rw [same, List.getLast?_concat])

theorem staticName_not_keyword (t : Text) : isKeyword (staticName t) = false := by
  unfold staticName
  split
  · exact marked_not_keyword _
  · split
    · exact marked_not_keyword t
    · rename_i plain
      simp only [Bool.or_eq_true, not_or, Bool.not_eq_true] at plain
      exact plain.1

end Emit

namespace Indented.Lexer

theorem isNameChar_iff (d : Char) : isNameChar d ↔
    (48 ≤ d.toNat ∧ d.toNat ≤ 57) ∨ (65 ≤ d.toNat ∧ d.toNat ≤ 90) ∨ d.toNat = 95 ∨
      (97 ≤ d.toNat ∧ d.toNat ≤ 122) ∨ 128 ≤ d.toNat := by
  have value : d.val.toNat = d.toNat := rfl
  have low_line : d = '_' ↔ d.toNat = 95 := by
    rw [← Char.toNat_inj]
    rfl
  have classes : isNameChar d = (decide (d.val ≥ 65 ∧ d.val ≤ 90) ||
      (d.val ≥ 97 && d.val ≤ 122) || (d.val ≥ 48 && d.val ≤ 57) || d = '_' ||
        128 ≤ d.toNat) := rfl
  simp only [classes, Bool.or_eq_true, Bool.and_eq_true, decide_eq_true_eq, ge_iff_le,
    UInt32.le_iff_toNat_le, value, low_line]
  simp
  omega

theorem isDigit_iff (d : Char) : d.isDigit ↔ 48 ≤ d.toNat ∧ d.toNat ≤ 57 := by
  have value : d.val.toNat = d.toNat := rfl
  simp only [Char.isDigit, Bool.and_eq_true, decide_eq_true_eq, ge_iff_le, UInt32.le_iff_toNat_le,
    value]
  simp

theorem isNameChar_of_part {d : Char} (h : (CodePoint.char d).isIdentifierPart) :
    isNameChar d := by
  have value : (CodePoint.char d).val = d.toNat := rfl
  rw [isNameChar_iff]
  unfold CodePoint.isIdentifierPart at h
  split at h
  · simp only [Bool.or_eq_true, Bool.and_eq_true, decide_eq_true_eq, beq_iff_eq, value] at h
    omega
  · omega

theorem isNameStart_of_start {d : Char} (h : (CodePoint.char d).isIdentifierStart) :
    isNameStart d := by
  have value : (CodePoint.char d).val = d.toNat := rfl
  have digit := isDigit_iff d
  have part := isNameChar_iff d
  unfold CodePoint.isIdentifierStart at h
  simp only [isNameStart, Bool.and_eq_true, Bool.not_eq_true', Bool.eq_false_iff, ne_eq, digit, part]
  split at h
  · simp only [Bool.or_eq_true, Bool.and_eq_true, decide_eq_true_eq, beq_iff_eq, value] at h
    omega
  · omega

/-- The characters of an identifier: a start, and characters that go on with a name. -/
theorem identifier_chars {t : Text} (h : t.isIdentifier) :
    ∃ c rest, t.chars = c :: rest ∧ isNameStart c ∧ ∀ d ∈ t.chars, isNameChar d := by
  have plain := Text.isPlain_identifier h
  cases t with
  | nil => cases h
  | cons c rest =>
    obtain ⟨d, rfl⟩ := plain c (by simp)
    simp only [Text.isIdentifier, Bool.and_eq_true] at h
    have start := isNameStart_of_start h.1
    refine ⟨d, Text.chars rest, rfl, start, ?_⟩
    intro x member
    rw [Text.chars_cons_char] at member
    rcases List.mem_cons.1 member with rfl | member
    · simp only [isNameStart, Bool.and_eq_true] at start
      exact start.1
    · obtain ⟨p, inside, shown⟩ := List.mem_filterMap.1 member
      obtain ⟨y, rfl⟩ := plain p (by simp [inside])
      cases shown
      exact isNameChar_of_part (List.all_eq_true.1 h.2 _ inside)

theorem nameLexeme_identifier {t : Text} (h : t.isIdentifier) (keyword : Emit.isKeyword t = false) :
    ∃ l, nameLexeme t.chars = some l ∧ Grammar.isName l := by
  have plain := Text.ofChars_chars (Text.isPlain_identifier h)
  unfold nameLexeme
  split
  · have word : keywords.contains (String.ofList t.chars) = false := by
      rw [Bool.eq_false_iff]
      intro reserved
      rw [Bool.eq_false_iff] at keyword
      apply keyword
      simp only [Emit.isKeyword, List.contains_eq_mem, List.mem_map, decide_eq_true_eq] at reserved ⊢
      refine ⟨_, reserved, ?_⟩
      rw [Text.ofString, String.toList_ofList, plain]
    simp only [word, Bool.false_eq_true, if_false]
    split
    · exact ⟨_, rfl, rfl⟩
    · exact ⟨_, rfl, rfl⟩
  · simp only [plain, h, if_true]
    exact ⟨_, rfl, rfl⟩

end Indented.Lexer

end BodyDigest
