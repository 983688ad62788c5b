import BodyDigest.Text.Basic
import BodyDigest.Text.Identifier
import BodyDigest.Text.Printable
import BodyDigest.Proofs.Text.Octets

/-! Texts without lone surrogates: what is printable, and what is an identifier. -/
namespace BodyDigest

/-! ### Sets of numbers -/

/-- Numbers that no boundary separates are both inside or both outside. -/
theorem withinRuns_congr {boundaries : List Nat} {m n : Nat}
    (apart : ∀ b ∈ boundaries, m < b ↔ n < b) : withinRuns boundaries m = withinRuns boundaries n := by
  have run (inside : Bool) :
      withinRunsFrom inside boundaries m = withinRunsFrom inside boundaries n := by
    induction boundaries generalizing inside with
    | nil => rfl
    | cons b rest ih =>
      have tail := ih (fun x member => apart x (by simp [member])) (!inside)
      simp only [withinRunsFrom, apart b (by simp), tail]
  exact run false

/-- No surrogate is in the runs, and none is a boundary of them. -/
def SkipsSurrogates (boundaries : List Nat) : Prop :=
  (boundaries.all fun b => b ≤ 0xd800 || 0xdfff < b) ∧ withinRuns boundaries 0xd800 = false

instance (boundaries : List Nat) : Decidable (SkipsSurrogates boundaries) :=
  inferInstanceAs (Decidable (_ ∧ _))

theorem withinRuns_surrogate {boundaries : List Nat} (outside : SkipsSurrogates boundaries)
    (offset : Fin 0x800) :
    withinRuns boundaries (CodePoint.surrogate offset).val = false := by
  have small := offset.isLt
  rw [← outside.2]
  apply withinRuns_congr
  intro b member
  have place := List.all_eq_true.1 outside.1 b member
  simp only [Bool.or_eq_true, decide_eq_true_eq] at place
  simp only [CodePoint.val]
  omega

namespace CodePoint

theorem surrogate_not_ascii (offset : Fin 0x800) : ¬ (surrogate offset).val < 128 := by
  simp [val]
  omega

theorem tables_skip_surrogates : SkipsSurrogates printableBoundaries ∧
    SkipsSurrogates identifierPartBoundaries ∧ SkipsSurrogates identifierStartBoundaries := by
  decide +kernel

theorem printable_char {c : CodePoint} (h : c.isPrintable) : ∃ d, c = .char d := by
  cases c with
  | char d => exact ⟨d, rfl⟩
  | surrogate offset =>
    rw [isPrintable, if_neg (surrogate_not_ascii offset),
      withinRuns_surrogate tables_skip_surrogates.1 offset] at h
    cases h

theorem identifierPart_char {c : CodePoint} (h : c.isIdentifierPart) : ∃ d, c = .char d := by
  cases c with
  | char d => exact ⟨d, rfl⟩
  | surrogate offset =>
    rw [isIdentifierPart, if_neg (surrogate_not_ascii offset),
      withinRuns_surrogate tables_skip_surrogates.2.1 offset] at h
    cases h

theorem identifierStart_char {c : CodePoint} (h : c.isIdentifierStart) : ∃ d, c = .char d := by
  cases c with
  | char d => exact ⟨d, rfl⟩
  | surrogate offset =>
    rw [isIdentifierStart, if_neg (surrogate_not_ascii offset),
      withinRuns_surrogate tables_skip_surrogates.2.2 offset] at h
    cases h

/-- A code point is found again by its number. -/
theorem ofNat?_val (c : CodePoint) : ofNat? c.val = some c := by
  unfold ofNat?
  cases c with
  | char d =>
    have valid : (char d).val.isValidChar := d.valid
    rw [dif_pos valid]
    exact congrArg some (val_injective rfl)
  | surrogate offset =>
    have small := offset.isLt
    have invalid : ¬ (surrogate offset).val.isValidChar := by
      simp only [Nat.isValidChar, val]
      omega
    have inside : 0xd800 ≤ (surrogate offset).val ∧ (surrogate offset).val < 0xe000 := by
      simp only [val]
      omega
    rw [dif_neg invalid, dif_pos inside]
    apply congrArg some
    apply val_injective
    simp only [val]
    omega

end CodePoint

namespace Text

/-- The characters of a text that are no surrogates. -/
def chars (t : Text) : List Char := t.filterMap CodePoint.char?

/-- No lone surrogate is in the text. -/
def IsPlain (t : Text) : Prop := ∀ c ∈ t, ∃ d, c = .char d

@[simp] theorem chars_nil : chars [] = [] := rfl

@[simp] theorem chars_cons_char (c : Char) (t : Text) : chars (.char c :: t) = c :: chars t := rfl

@[simp] theorem chars_append (t u : Text) : chars (t ++ u) = chars t ++ chars u :=
  List.filterMap_append

@[simp] theorem chars_ofChars (cs : List Char) : chars (ofChars cs) = cs := by
  induction cs with
  | nil => rfl
  | cons c rest ih =>
    have tail : chars (rest.map .char) = rest := ih
    simp [ofChars, tail]

@[simp] theorem chars_ofString (s : String) : chars (ofString s) = s.toList := chars_ofChars _

@[simp] theorem chars_replicate (n : Nat) (c : Char) :
    chars (List.replicate n (.char c)) = List.replicate n c := by
  induction n with
  | zero => rfl
  | succ n ih => rw [List.replicate_succ, chars_cons_char, ih, List.replicate_succ]

theorem chars_flatMap {α : Type} (f : α → Text) (xs : List α) :
    chars (xs.flatMap f) = xs.flatMap fun x => chars (f x) := by
  induction xs with
  | nil => rfl
  | cons x rest ih => simp [List.flatMap_cons, ih]

theorem mem_chars_iff {t : Text} {d : Char} : d ∈ t.chars ↔ .char d ∈ t := by
  rw [chars, List.mem_filterMap]
  constructor
  · rintro ⟨c, inside, read⟩
    cases c with
    | char e =>
      cases read
      exact inside
    | surrogate offset => cases read
  · exact fun inside => ⟨_, inside, rfl⟩

theorem isPlain_iff {t : Text} : IsPlain t ↔ ∀ offset, .surrogate offset ∉ t := by
  constructor
  · rintro plain offset member
    obtain ⟨d, same⟩ := plain _ member
    cases same
  · intro absent c member
    cases c with
    | char d => exact ⟨d, rfl⟩
    | surrogate offset => exact absurd member (absent offset)

theorem ofChars_chars {t : Text} (h : IsPlain t) : ofChars (chars t) = t := by
  induction t with
  | nil => rfl
  | cons c rest ih =>
    obtain ⟨d, rfl⟩ := h c (by simp)
    have tail := ih fun x member => h x (by simp [member])
    simp only [ofChars] at tail
    simp [ofChars, tail]

theorem isPlain_identifier {t : Text} (h : t.isIdentifier) : IsPlain t := by
  cases t with
  | nil => cases h
  | cons c rest =>
    simp only [isIdentifier, Bool.and_eq_true] at h
    intro d member
    rcases List.mem_cons.1 member with rfl | member
    · exact CodePoint.identifierStart_char h.1
    · exact CodePoint.identifierPart_char (List.all_eq_true.1 h.2 d member)

theorem chars?_ofChars (cs : List Char) : chars? (ofChars cs) = some cs := by
  induction cs with
  | nil => rfl
  | cons c rest ih =>
    simp only [chars?, ofChars] at ih
    simp [chars?, ofChars, CodePoint.char?, ih]

theorem chars?_eq_none {t : Text} (h : ¬ IsPlain t) : chars? t = none := by
  induction t with
  | nil => exact absurd (fun _ member => by simp at member) h
  | cons c rest ih =>
    cases c with
    | surrogate offset => rfl
    | char d =>
      have later : ¬ IsPlain rest := fun plain => h fun x member => by
        rcases List.mem_cons.mp member with rfl | inside
        · exact ⟨d, rfl⟩
        · exact plain x inside
      have none_there := ih later
      simp only [chars?] at none_there
      simp [chars?, none_there]

end Text

/-- A text without surrogates has octets, and its characters are read from them. -/
theorem Utf8.encodeText_plain {t : Text} (h : t.IsPlain) :
    Utf8.encodeText t = .ok (Utf8.encode t.chars) := by
  have none_found (position : Nat) : Utf8.findSurrogates position t = none := by
    induction t generalizing position with
    | nil => rfl
    | cons c rest ih =>
      obtain ⟨d, rfl⟩ := h c (by simp)
      exact ih (fun x member => h x (by simp [member])) (position + 1)
  simp [Utf8.encodeText, none_found, Text.chars]

end BodyDigest
