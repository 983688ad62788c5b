import Mathlib.Data.List.Basic
import BodyDigest.Indented.Render.Stmt
import BodyDigest.Proofs.Indented.Quoted
import BodyDigest.Proofs.Text.Apart

/-! Names, numbers and literals tell themselves apart, whatever text follows them. -/
namespace BodyDigest

open Indented

/-! ### Words -/

theorem identifierPart_not_blank {c : CodePoint} (h : c.isIdentifierPart) : c.isBlank = false := by
  rw [Bool.eq_false_iff]
  intro blank
  have outside : ∀ v ∈ blanks, ∀ d ∈ CodePoint.ofNat? v, d.isIdentifierPart = false := by
    decide +kernel
  have found := CodePoint.ofNat?_val c
  rw [outside c.val (blank_listed blank) c found] at h
  cases h

/-- A name, a keyword or a whole number. -/
def IsWord (t : Text) : Prop := t ≠ [] ∧ ∀ c ∈ t, c.isIdentifierPart = true

theorem IsWord.solid {t : Text} (h : IsWord t) : Solid t := by
  obtain ⟨some_text, parts⟩ := h
  exact .of_clear some_text fun c member => identifierPart_not_blank (parts c member)

/-- The longest beginning of which all satisfies `p`. -/
theorem beginning_unique {α : Type} {p : α → Bool} {a b r s : List α} (ha : ∀ c ∈ a, p c)
    (hb : ∀ c ∈ b, p c) (hr : ∀ c ∈ r.head?, p c = false) (hs : ∀ c ∈ s.head?, p c = false)
    (same : a ++ r = b ++ s) : a = b ∧ r = s := by
  have none_more (x : List α) (hx : ∀ c ∈ x.head?, p c = false) : x.takeWhile p = [] := by
    cases x with
    | nil => rfl
    | cons c rest => rw [List.takeWhile_cons_of_neg (by simp [hx c rfl])]
  have taken := congrArg (List.takeWhile p) same
  rw [List.takeWhile_append_of_pos ha, List.takeWhile_append_of_pos hb, none_more r hr,
    none_more s hs, List.append_nil, List.append_nil] at taken
  subst taken
  exact ⟨rfl, List.append_cancel_left same⟩

theorem IsWord.piece {t u : Text} (ht : IsWord t) (hu : IsWord u) : Piece (t = u) t u := by
  refine ⟨ht.solid, hu.solid, ?_⟩
  intro r s hr hs same
  have whole := (beginning_unique ht.2 hu.2 hr hs same).1
  exact ⟨whole, whole⟩

theorem isWord_digits (n : Nat) : IsWord (.ofChars (Nat.toDigits 10 n)) := by
  constructor
  · simp [Text.ofChars]
  · intro c member
    obtain ⟨d, digit, rfl⟩ := List.mem_map.mp member
    have small := Nat.isDigit_of_mem_toDigits (by decide) (by decide) digit
    simp only [Char.isDigit, Bool.and_eq_true, decide_eq_true_eq, UInt32.le_iff_toNat_le] at small
    have bounds : 48 ≤ d.toNat ∧ d.toNat ≤ 57 := small
    have ascii : d.toNat < 128 := by omega
    simp [CodePoint.isIdentifierPart, CodePoint.val, ascii, bounds]

theorem ofChars_injective : Function.Injective Text.ofChars :=
  List.map_injective_iff.mpr fun _ _ one => CodePoint.char.inj one

theorem digits_injective {m n : Nat}
    (same : Text.ofChars (Nat.toDigits 10 m) = .ofChars (Nat.toDigits 10 n)) : m = n := by
  have digits := ofChars_injective same
  rw [← @Nat.ofDigitChars_ten_toDigits m, digits, Nat.ofDigitChars_ten_toDigits]

/-! ### Quoted texts -/

/-- One beginning decides what was written, and none is the mark at the end. -/
theorem flatMap_unique {α : Type} {f : α → Text} {q : CodePoint}
    (opens : ∀ a, ∃ c rest, f a = c :: rest ∧ c ≠ q)
    (one : ∀ a b x y, f a ++ x = f b ++ y → a = b) {as bs : List α} {r s : Text}
    (same : as.flatMap f ++ q :: r = bs.flatMap f ++ q :: s) : as = bs ∧ r = s := by
  induction as generalizing bs with
  | nil =>
    cases bs with
    | nil => exact ⟨rfl, (List.cons.inj same).2⟩
    | cons b bs =>
      obtain ⟨c, rest, form, other⟩ := opens b
      rw [List.flatMap_cons, form] at same
      exact absurd (List.cons.inj same).1.symm other
  | cons a as ih =>
    cases bs with
    | nil =>
      obtain ⟨c, rest, form, other⟩ := opens a
      rw [List.flatMap_cons, form] at same
      exact absurd (List.cons.inj same).1 other
    | cons b bs =>
      rw [List.flatMap_cons, List.flatMap_cons, List.append_assoc, List.append_assoc] at same
      obtain rfl := one a b _ _ same
      obtain ⟨rfl, later⟩ := ih (List.append_cancel_left same)
      exact ⟨rfl, later⟩

/-- What is read again from its own characters, whatever follows them, is decided by them. -/
theorem unique_of_read {α : Type} {f : α → Text} (read : List Char → Option (List α))
    (nothing : read [] = some [])
    (one : ∀ a, ∃ unit, f a = Text.ofChars unit ∧
      ∀ rest, read (unit ++ rest) = (read rest).map (a :: ·)) {a b : α} {x y : Text}
    (same : f a ++ x = f b ++ y) : a = b := by
  -- The shorter of both is the beginning of the other one, and its value the first value of that.
  have extends_one {c d : α} {z : Text} (longer : f d = f c ++ z) : c = d := by
    obtain ⟨short, hc, read_short⟩ := one c
    obtain ⟨long, hd, read_long⟩ := one d
    rw [hc, hd] at longer
    obtain ⟨front, back, rfl, fronts, _⟩ := List.map_eq_append_iff.mp longer
    obtain rfl := ofChars_injective fronts
    have value := read_long []
    rw [List.append_nil, read_short back, nothing] at value
    cases found : read back <;> simp [found] at value
    exact value.1
  rcases List.append_eq_append_iff.mp same with ⟨z, longer, _⟩ | ⟨z, longer, _⟩
  · exact extends_one longer
  · exact (extends_one longer).symm

theorem escaped_unique {q : Char} (quote : q = '\'' ∨ q = '"') {a b : CodePoint} {x y : Text}
    (same : Text.escaped (.char q) a ++ x = Text.escaped (.char q) b ++ y) : a = b := by
  refine unique_of_read (Escape.textFrom 0) rfl (fun c => ?_) same
  obtain ⟨unit, writes⟩ := writes_any quote c
  exact ⟨unit, writes.text, writes.value⟩

theorem escaped_opens {q : Char} (quote : q = '\'' ∨ q = '"') (c : CodePoint) :
    ∃ d rest, Text.escaped (.char q) c = d :: rest ∧ d ≠ .char q := by
  obtain ⟨unit, writes⟩ := writes_any quote c
  obtain ⟨d, rest, rfl, other⟩ := writes.opens
  exact ⟨.char d, rest.map .char, writes.text, fun same => other (CodePoint.char.inj same)⟩

theorem quoteFor_quote (t : Text) :
    ∃ q, Text.quoteFor t = .char q ∧ (q = '\'' ∨ q = '"') := by
  unfold Text.quoteFor
  split
  · exact ⟨'"', rfl, .inr rfl⟩
  · exact ⟨'\'', rfl, .inl rfl⟩

theorem quoted_solid (t : Text) : Solid (Text.quoted t) := by
  obtain ⟨q, chosen, quote⟩ := quoteFor_quote t
  have solid : (CodePoint.char q).isBlank = false := by
    rcases quote with rfl | rfl <;> decide
  rw [Text.quoted, chosen]
  exact ⟨⟨_, _, rfl, solid⟩, ⟨_, _, rfl, solid⟩⟩

theorem quoted_piece (t u : Text) : Piece (t = u) (Text.quoted t) (Text.quoted u) := by
  refine ⟨quoted_solid t, quoted_solid u, ?_⟩
  intro r s _ _ same
  obtain ⟨q, chosen, quote⟩ := quoteFor_quote t
  obtain ⟨q', chosen', _⟩ := quoteFor_quote u
  rw [Text.quoted, Text.quoted, chosen, chosen'] at same
  simp only [List.cons_append, List.append_assoc, List.nil_append] at same
  obtain ⟨opening, body⟩ := List.cons.inj same
  rw [← opening] at body
  have whole := (flatMap_unique (escaped_opens quote)
    (fun a b x y one => escaped_unique quote one) body).1
  exact ⟨whole, congrArg _ whole⟩

/-! ### Quoted octets -/

theorem bytesFrom_skip (ds rest : List Char) :
    Escape.bytesFrom ds.length (ds ++ rest) = Escape.bytesFrom 0 rest := by
  induction ds with
  | nil => rfl
  | cons d ds ih => exact ih

theorem bytesFrom_code {rest : List Char} {b : UInt8} {n : Nat}
    (found : Escape.find false rest = .code b.toNat n) :
    Escape.bytesFrom 0 ('\\' :: rest) = (Escape.bytesFrom n rest).map (b :: ·) := by
  rw [Escape.bytesFrom]
  simp only [if_true, found, UInt8.ofNat_toNat]

theorem octet_char (b : UInt8) : (Char.ofNat b.toNat).toNat = b.toNat := by
  have small := b.toNat_lt
  have valid : b.toNat.isValidChar := .inl (by omega)
  rw [Char.ofNat, dif_pos valid]
  rfl

theorem bytes_short {b : UInt8} {e : Char} (single : Escape.single? e = some (Char.ofNat b.toNat))
    (same_line : e ≠ '\n') (rest : List Char) :
    Escape.bytesFrom 0 (['\\', e] ++ rest) = (Escape.bytesFrom 0 rest).map (b :: ·) := by
  have found : Escape.find false (e :: rest) = .code b.toNat 1 := by
    simp [Escape.find, same_line, single, octet_char]
  exact bytesFrom_code found

theorem byteEscaped_read {q : Char} (quote : q = '\'' ∨ q = '"') (b : UInt8) :
    ∃ unit, Render.byteEscaped q b = Text.ofChars unit ∧
      ∀ rest, Escape.bytesFrom 0 (unit ++ rest) = (Escape.bytesFrom 0 rest).map (b :: ·) := by
  unfold Render.byteEscaped
  extract_lets c
  have value : c = Char.ofNat b.toNat := rfl
  split
  · rename_i special
    have own : Escape.single? c = some c ∧ c ≠ '\n' := by
      simp only [Bool.or_eq_true, decide_eq_true_eq] at special
      rcases special with same | same
      · rw [same]
        rcases quote with rfl | rfl <;> exact ⟨rfl, by decide⟩
      · rw [same]
        exact ⟨rfl, by decide⟩
    exact ⟨['\\', c], rfl, bytes_short own.1 own.2⟩
  rename_i ordinary
  split
  · rename_i tab
    exact ⟨['\\', 't'], rfl, bytes_short (by rw [← value, tab]; rfl) (by decide)⟩
  split
  · rename_i feed
    exact ⟨['\\', 'n'], rfl, bytes_short (by rw [← value, feed]; rfl) (by decide)⟩
  split
  · rename_i carriage
    exact ⟨['\\', 'r'], rfl, bytes_short (by rw [← value, carriage]; rfl) (by decide)⟩
  split
  · refine ⟨[c], rfl, ?_⟩
    intro rest
    have plain : c ≠ '\\' := by
      rintro same
      simp [same] at ordinary
    rw [value] at plain
    rw [List.singleton_append, Escape.bytesFrom]
    simp only [value, if_neg plain, octet_char, UInt8.ofNat_toNat]
  · obtain ⟨ds, form, length, digits⟩ := @hexadecimal_digits 2 b.toNat b.toNat_lt (by decide)
    refine ⟨'\\' :: 'x' :: ds, by rw [form]; rfl, ?_⟩
    intro rest
    have found : Escape.find false ('x' :: (ds ++ rest)) = .code b.toNat (ds.length + 1) := by
      have wide : Escape.find false ('x' :: (ds ++ rest)) = Escape.fixedWidth 2 (ds ++ rest) := rfl
      rw [wide, ← length, Escape.fixedWidth, if_neg (by simp), List.take_left, digits]
    have skipped := bytesFrom_skip ('x' :: ds) rest
    rw [List.cons_append, List.cons_append, bytesFrom_code found]
    exact congrArg _ skipped

theorem byteEscaped_opens {q : Char} (quote : q = '\'' ∨ q = '"') (b : UInt8) :
    ∃ d rest, Render.byteEscaped q b = d :: rest ∧ d ≠ .char q := by
  have slash : CodePoint.char '\\' ≠ .char q := by
    rcases quote with rfl | rfl <;> decide
  unfold Render.byteEscaped
  extract_lets c
  split
  · exact ⟨_, _, rfl, slash⟩
  rename_i ordinary
  split
  · exact ⟨_, _, rfl, slash⟩
  split
  · exact ⟨_, _, rfl, slash⟩
  split
  · exact ⟨_, _, rfl, slash⟩
  split
  · refine ⟨_, _, rfl, ?_⟩
    rintro same
    simp [CodePoint.char.inj same] at ordinary
  · exact ⟨_, _, rfl, slash⟩

namespace Indented.Render

/-- The quote around octets. -/
theorem bytesLiteral_form (octets : List UInt8) :
    ∃ q, (q = '\'' ∨ q = '"') ∧ bytesLiteral octets =
      .char 'b' :: .char q :: (octets.flatMap (byteEscaped q) ++ [.char q]) := by
  unfold bytesLiteral
  extract_lets quote
  refine ⟨quote, ?_, rfl⟩
  unfold quote
  split
  · exact .inr rfl
  · exact .inl rfl

theorem bytesLiteral_solid (octets : List UInt8) : Solid (bytesLiteral octets) := by
  obtain ⟨q, quote, form⟩ := bytesLiteral_form octets
  have clear : (CodePoint.char q).isBlank = false := by
    rcases quote with rfl | rfl <;> decide
  rw [form]
  exact ⟨⟨.char 'b', _, rfl, by decide⟩,
    ⟨.char 'b' :: .char q :: octets.flatMap (byteEscaped q), .char q, by simp, clear⟩⟩

theorem bytesLiteral_piece (as bs : List UInt8) :
    Piece (as = bs) (bytesLiteral as) (bytesLiteral bs) := by
  refine ⟨bytesLiteral_solid as, bytesLiteral_solid bs, ?_⟩
  intro r s _ _ same
  obtain ⟨q, quote, form⟩ := bytesLiteral_form as
  obtain ⟨q', _, form'⟩ := bytesLiteral_form bs
  rw [form, form'] at same
  simp only [List.cons_append, List.append_assoc, List.nil_append] at same
  obtain ⟨opening, body⟩ := List.cons.inj (List.cons.inj same).2
  obtain rfl := CodePoint.char.inj opening
  have unique (a b : UInt8) (x y : Text) (one : byteEscaped q a ++ x = byteEscaped q b ++ y) :
      a = b :=
    unique_of_read (Escape.bytesFrom 0) rfl (byteEscaped_read quote) one
  have whole := (flatMap_unique (byteEscaped_opens quote) unique body).1
  exact ⟨whole, congrArg _ whole⟩

end Indented.Render

/-! ### Numbers -/

namespace Binary64

/-- What numerals are written with. -/
def isNumeral (d : Char) : Bool := d.isDigit || d = '.' || d = 'e' || d = '+' || d = '-'

theorem numeral_of_digits {n : Nat} : ∀ d ∈ Nat.toDigits 10 n, isNumeral d := by
  intro d member
  simp [isNumeral, Nat.isDigit_of_mem_toDigits (by decide) (by decide) member]

theorem numeral_append {a b : List Char} (ha : ∀ d ∈ a, isNumeral d) (hb : ∀ d ∈ b, isNumeral d) :
    ∀ d ∈ a ++ b, isNumeral d :=
  List.forall_mem_append.mpr ⟨ha, hb⟩

theorem numeral_zeros (n : Nat) : ∀ d ∈ List.replicate n '0', isNumeral d := by
  intro d member
  obtain rfl := List.eq_of_mem_replicate member
  decide

theorem layout_numeral {whole : Whole} {ds : List Char} (digits : ∀ d ∈ ds, isNumeral d)
    (lead : Int) : ∀ d ∈ layout whole ds lead, isNumeral d := by
  have point : isNumeral '.' := by decide
  unfold layout
  split
  · refine numeral_append (numeral_append ?_ ?_) numeral_of_digits
    · split
      · simp only [List.forall_mem_cons] at digits ⊢
        exact ⟨digits.1, point, digits.2⟩
      · exact digits
    · have sign : isNumeral (if lead < 0 then '-' else '+') := by split <;> decide
      simp only [List.forall_mem_cons]
      exact ⟨by decide, sign, numeral_zeros _⟩
  · split
    · have start : ∀ d ∈ ['0', '.'], isNumeral d := List.all_eq_true.mp (by decide)
      exact numeral_append (numeral_append start (numeral_zeros _)) digits
    · simp only
      have all := numeral_append digits (numeral_zeros (lead.toNat + 1 - ds.length))
      split
      · cases whole with
        | withZero => exact numeral_append all (List.all_eq_true.mp (by decide))
        | plain => exact all
      · refine numeral_append (fun d member => digits d (List.mem_of_mem_take member)) ?_
        simp only [List.forall_mem_cons]
        exact ⟨point, fun d member => digits d (List.mem_of_mem_drop member)⟩

theorem layout_ne_nil (whole : Whole) (ds : List Char) (lead : Int) :
    layout whole ds lead ≠ [] := by
  unfold layout
  split
  · simp
  · split
    · simp
    · simp only
      split
      · cases whole with
        | withZero => simp
        | plain =>
          intro empty
          obtain ⟨rfl, zeros⟩ := List.append_eq_nil_iff.mp empty
          simp at zeros
      · simp

theorem render_solid (whole : Whole) (x : Binary64) :
    Solid (.ofChars (x.render whole Render.infinity)) := by
  have numeral : (∀ d ∈ x.render whole Render.infinity, isNumeral d) ∧
      x.render whole Render.infinity ≠ [] := by
    unfold render
    split
    · exact ⟨List.all_eq_true.mp (by decide), by decide⟩
    · exact ⟨layout_numeral (List.all_eq_true.mp (by decide)) 0, layout_ne_nil _ _ _⟩
    · refine ⟨layout_numeral ?_ _, layout_ne_nil _ _ _⟩
      intro d member
      have kept : d ∈ Nat.toDigits 10 _ :=
        List.mem_reverse.mp (List.dropWhile_sublist _ |>.mem (List.mem_reverse.mp member))
      exact numeral_of_digits d kept
  refine .of_clear (by simpa [Text.ofChars] using numeral.2) ?_
  intro c member
  obtain ⟨d, inside, rfl⟩ := List.mem_map.mp member
  have shown := numeral.1 d inside
  rw [Bool.eq_false_iff]
  intro blank
  have apart : ∀ v ∈ blanks, ∀ e ∈ CodePoint.ofNat? v, e.char?.all fun f => !isNumeral f := by
    decide
  have absent := apart _ (blank_listed blank) _ (CodePoint.ofNat?_val _)
  simp [CodePoint.char?, shown] at absent

end Binary64

/-! ### Literals between quotes -/

namespace Indented.Render

theorem literalBody_quotes {quotes : List Text} (solid : ∀ q ∈ quotes, Solid q)
    (escapeSpace : Bool) (t : Text) :
    (literalBody quotes escapeSpace t).quotes ≠ [] ∧
      ∀ q ∈ (literalBody quotes escapeSpace t).quotes, Solid q := by
  unfold literalBody
  extract_lets escaped possible fitting
  have fits : ∀ q ∈ fitting, Solid q := by
    intro q member
    have inside : q ∈ possible := (List.mem_filter.mp member).1
    apply solid q
    unfold possible at inside
    split at inside
    · exact (List.mem_filter.mp inside).1
    · exact inside
  split
  · refine ⟨by simp, ?_⟩
    intro q member
    have chosen : q = (quotes.find? fun q => contains [Text.quoteFor t] q).getD [Text.quoteFor t] :=
      List.mem_singleton.mp member
    rw [chosen]
    cases found : quotes.find? fun q => contains [Text.quoteFor t] q with
    | some other => exact solid other (List.mem_of_find?_eq_some found)
    | none =>
      obtain ⟨c, single, quote⟩ := quoteFor_quote t
      have clear : (CodePoint.char c).isBlank = false := by
        rcases quote with rfl | rfl <;> decide
      rw [single]
      exact .of_clear (by simp) (by simpa using clear)
  · rename_i some_quote
    exact ⟨some_quote, fits⟩
  · rename_i last _ some_quote
    have sorted : (preferOther last fitting).Perm fitting := by
      simpa [preferOther, bne] using
        List.filter_append_perm (fun q : Text => q.head? != some last) fitting
    refine ⟨?_, ?_⟩
    · intro empty
      exact some_quote (List.Perm.nil_eq (empty ▸ sorted)).symm
    · exact fun q member => fits q (sorted.mem_iff.mp member)

theorem enclose_solid {quotes : List Text} (some_quote : quotes ≠ [])
    (solid : ∀ q ∈ quotes, Solid q) (body : Text) : Solid (enclose quotes.head? body) := by
  obtain ⟨q, rest, rfl⟩ := List.exists_cons_of_ne_nil some_quote
  have first := solid q (by simp)
  exact first.append first body

theorem sparingLiteral_solid {quotes : List Text} (solid : ∀ q ∈ quotes, Solid q) (t : Text) :
    Solid (sparingLiteral quotes t) := by
  obtain ⟨some_quote, solid⟩ := literalBody_quotes solid false t
  exact enclose_solid some_quote solid _

theorem narrow_quotes {quotes : List Text} {parts : List (Text × Bool)} {texts left : List Text}
    (some_quote : quotes ≠ []) (solid : ∀ q ∈ quotes, Solid q)
    (h : narrow quotes parts = some (texts, left)) : left ≠ [] ∧ ∀ q ∈ left, Solid q := by
  induction parts generalizing quotes texts with
  | nil =>
    obtain ⟨_, rfl⟩ := Prod.mk.inj (Option.some.inj h)
    exact ⟨some_quote, solid⟩
  | cons part rest ih =>
    rw [narrow] at h
    split at h
    · obtain ⟨⟨later, narrowed⟩, found, same⟩ := Option.map_eq_some_iff.mp h
      obtain ⟨_, rfl⟩ := Prod.mk.inj same
      obtain ⟨some_quote, solid⟩ := literalBody_quotes solid part.2 part.1
      exact ih some_quote solid found
    · cases h

theorem allQuotes_solid : ∀ q ∈ allQuotes, Solid q := by
  simp only [solid_iff]
  decide

theorem formattedLiteral_solid (parts : List (Text × Bool)) : Solid (formattedLiteral parts) := by
  unfold formattedLiteral
  split
  · rename_i texts quotes found
    obtain ⟨some_quote, solid⟩ := narrow_quotes (by decide) allQuotes_solid found
    exact enclose_solid some_quote solid _
  · have long : ∀ q ∈ [("'''" : Text)], Solid q := by
      simpa using allQuotes_solid "'''" (by decide)
    exact enclose_solid (by simp) long _

theorem mark_solid {t : Text} (literal : Solid t) (marked : Bool) : Solid (mark marked ++ t) := by
  cases marked with
  | false => exact literal
  | true =>
    have first : starts (mark true) := by decide
    rw [solid_iff] at literal ⊢
    exact ⟨starts_append first _, stops_append literal.2 _⟩

theorem documentation_solid (t : Text) (marked : Bool) : Solid (documentation t marked) := by
  have long : ∀ q ∈ longQuotes, Solid q := fun q member =>
    allQuotes_solid q (List.mem_append_right _ member)
  exact mark_solid (sparingLiteral_solid long t) marked

end Indented.Render

end BodyDigest
