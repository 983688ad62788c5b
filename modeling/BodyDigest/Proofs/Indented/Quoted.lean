import Mathlib.Algebra.Group.Nat.Defs
import BodyDigest.Text.Quoted
import BodyDigest.Indented.Lexer
import BodyDigest.Indented.Escape
import BodyDigest.Proofs.Text.Plain

/-! A quoted text is a literal whose value is the text, whatever code points it has. -/
namespace BodyDigest.Indented

/-! ### Hexadecimal digits -/

theorem hexValue?_digitChar {d : Nat} (h : d < 16) : Escape.hexValue? d.digitChar = some d := by
  have all : ∀ d : Fin 16, Escape.hexValue? (Nat.digitChar d) = some d.val := by decide
  exact all ⟨d, h⟩

theorem hexNumber?_append (ds : List Char) (c : Char) :
    Escape.hexNumber? (ds ++ [c]) =
      (Escape.hexNumber? ds).bind fun n => (Escape.hexValue? c).map (n * 16 + ·) := by
  simp only [Escape.hexNumber?, List.foldlM_append, List.foldlM_cons, List.foldlM_nil]
  cases List.foldlM (fun n c => (Escape.hexValue? c).map (n * 16 + ·)) 0 ds with
  | none => rfl
  | some n => cases Escape.hexValue? c <;> simp

theorem hexNumber?_toDigits (n : Nat) : Escape.hexNumber? (Nat.toDigits 16 n) = some n := by
  induction n using Nat.strongRecOn with
  | ind n ih =>
    rw [Nat.toDigits_eq_if (by decide)]
    split
    · rename_i small
      simp [Escape.hexNumber?, hexValue?_digitChar small]
    · rename_i large
      rw [hexNumber?_append, ih (n / 16) (by omega), Option.bind_some,
        hexValue?_digitChar (Nat.mod_lt n (by decide))]
      simp only [Option.map_some, Option.some.injEq]
      omega

theorem hexNumber?_zeros (k : Nat) (ds : List Char) :
    Escape.hexNumber? (List.replicate k '0' ++ ds) = Escape.hexNumber? ds := by
  induction k with
  | zero => rfl
  | succ k ih => exact ih

theorem hexValue?_of_mem {ds : List Char} {n : Nat} (h : Escape.hexNumber? ds = some n) :
    ∀ d ∈ ds, ∃ v, Escape.hexValue? d = some v := by
  unfold Escape.hexNumber? at h
  generalize 0 = start at h
  induction ds generalizing start with
  | nil => simp
  | cons c rest ih =>
    rw [List.foldlM_cons] at h
    cases value : Escape.hexValue? c with
    | none => simp [value] at h
    | some v =>
      simp only [value, Option.map_some, Option.bind_eq_bind, Option.bind_some] at h
      intro d member
      rcases List.mem_cons.1 member with rfl | member
      · exact ⟨v, value⟩
      · exact ih _ h d member

theorem hexadecimal_digits {width n : Nat} (h : n < 16 ^ width) (some_digits : 0 < width) :
    ∃ ds, Text.hexadecimal width n = Text.ofChars ds ∧ ds.length = width ∧
      Escape.hexNumber? ds = some n := by
  have short : (Nat.toDigits 16 n).length ≤ width :=
    (Nat.length_toDigits_le_iff (by decide) some_digits).2 h
  refine ⟨List.replicate (width - (Nat.toDigits 16 n).length) '0' ++ Nat.toDigits 16 n, rfl, ?_, ?_⟩
  · rw [List.length_append, List.length_replicate]
    omega
  · rw [hexNumber?_zeros, hexNumber?_toDigits]

/-! ### One code point -/

/-- What a literal writes neither itself nor in an escape. -/
def IsClean (d : Char) : Prop := d ≠ '\n' ∧ d ≠ '\r' ∧ d ≠ '\x00'

theorem hexValue?_clean {d : Char} {v : Nat} (h : Escape.hexValue? d = some v) :
    IsClean d ∧ d ≠ '\\' ∧ d ≠ '\'' ∧ d ≠ '"' := by
  refine ⟨⟨?_, ?_, ?_⟩, ?_, ?_, ?_⟩ <;> rintro rfl <;> revert h <;> decide +revert

/-- The characters `unit` write the code point `c` between two quotes `q`. -/
structure Writes (q : Char) (c : CodePoint) (unit : List Char) : Prop where
  text : Text.escaped (.char q) c = Text.ofChars unit
  opens : ∃ first rest, unit = first :: rest ∧ first ≠ q
  body : ∀ rest, Lexer.shortBody q (unit ++ rest) =
    (Lexer.shortBody q rest).map fun (b, r) => (unit ++ b, r)
  value : ∀ rest, Escape.textFrom 0 (unit ++ rest) = (Escape.textFrom 0 rest).map (c :: ·)
  clean : ∀ d ∈ unit, IsClean d

theorem textFrom_skip (ds rest : List Char) :
    Escape.textFrom ds.length (ds ++ rest) = Escape.textFrom 0 rest := by
  induction ds with
  | nil => rfl
  | cons d ds ih => exact ih

theorem textFrom_code {rest : List Char} {c : CodePoint} {n : Nat}
    (found : Escape.find true rest = .code c.val n) :
    Escape.textFrom 0 ('\\' :: rest) = (Escape.textFrom n rest).map (c :: ·) := by
  have step : Escape.textFrom 0 ('\\' :: rest) = (do
      let p ← CodePoint.ofNat? c.val
      return p :: (← Escape.textFrom n rest)) := by
    rw [Escape.textFrom]
    simp only [if_true, found]
  rw [step, CodePoint.ofNat?_val]
  cases Escape.textFrom n rest <;> rfl

theorem shortBody_plain {q d : Char} (escape : d ≠ '\\') (other : d ≠ q) (inside : d ≠ '\n')
    (rest : List Char) : Lexer.shortBody q (d :: rest) =
      (Lexer.shortBody q rest).map fun (b, r) => (d :: b, r) := by
  rw [Lexer.shortBody]
  · simp [other, inside]
  · intro c tail same
    exact absurd same escape

theorem shortBody_run {q : Char} {ds : List Char}
    (plain : ∀ d ∈ ds, d ≠ '\\' ∧ d ≠ q ∧ d ≠ '\n') (rest : List Char) :
    Lexer.shortBody q (ds ++ rest) = (Lexer.shortBody q rest).map fun (b, r) => (ds ++ b, r) := by
  induction ds with
  | nil => simp
  | cons d ds ih =>
    obtain ⟨escape, other, inside⟩ := plain d (by simp)
    rw [List.cons_append, shortBody_plain escape other inside,
      ih fun x member => plain x (by simp [member])]
    cases Lexer.shortBody q rest <;> rfl

theorem writes_itself {q d : Char} (text : Text.escaped (.char q) (.char d) = [.char d])
    (escape : d ≠ '\\') (other : d ≠ q) (clean : IsClean d) : Writes q (.char d) [d] where
  text := text
  opens := ⟨d, [], rfl, other⟩
  body rest := shortBody_plain escape other clean.1 rest
  value rest := by simp [Escape.textFrom, escape]
  clean := by simpa using clean

/-- An escape of one character, whose value is known. -/
theorem writes_short {q e d : Char} (slash : q ≠ '\\')
    (text : Text.escaped (.char q) (.char d) = [.char '\\', .char e])
    (single : Escape.single? e = some d) (clean : IsClean e) : Writes q (.char d) ['\\', e] where
  text := text
  opens := ⟨'\\', [e], rfl, slash.symm⟩
  body rest := by simp [Lexer.shortBody]
  value rest := by
    have found : Escape.find true (e :: rest) = .code (CodePoint.char d).val 1 := by
      simp [Escape.find, clean.1, single, CodePoint.val]
    exact textFrom_code found
  clean := by
    have backslash : IsClean '\\' := by simp [IsClean]
    simp [backslash, clean]

/-- An escape by number, with as many digits as its mark asks for. -/
theorem writes_number {q mark : Char} {c : CodePoint} {ds : List Char} (slash : q ≠ '\\')
    (quote : q = '\'' ∨ q = '"')
    (text : Text.escaped (.char q) c = Text.ofChars ('\\' :: mark :: ds))
    (number : Escape.hexNumber? ds = some c.val) (clean : IsClean mark)
    (found : ∀ rest, Escape.find true (mark :: rest) = Escape.fixedWidth ds.length rest) :
    Writes q c ('\\' :: mark :: ds) where
  text := text
  opens := ⟨'\\', mark :: ds, rfl, slash.symm⟩
  body rest := by
    have digits : ∀ d ∈ ds, d ≠ '\\' ∧ d ≠ q ∧ d ≠ '\n' := by
      intro d member
      obtain ⟨v, value⟩ := hexValue?_of_mem number d member
      obtain ⟨clean, escape, single, double⟩ := hexValue?_clean value
      refine ⟨escape, ?_, clean.1⟩
      rcases quote with rfl | rfl
      · exact single
      · exact double
    rw [List.cons_append, List.cons_append, Lexer.shortBody, shortBody_run digits]
    cases Lexer.shortBody q rest <;> rfl
  value rest := by
    have code : Escape.find true (mark :: (ds ++ rest)) = .code c.val (ds.length + 1) := by
      rw [found, Escape.fixedWidth, if_neg (by simp), List.take_left, number]
    have skipped := textFrom_skip (mark :: ds) rest
    rw [List.cons_append, List.cons_append, textFrom_code code]
    exact congrArg _ skipped
  clean := by
    intro d member
    rcases List.mem_cons.1 member with rfl | member
    · simp [IsClean]
    · rcases List.mem_cons.1 member with rfl | member
      · exact clean
      · obtain ⟨v, value⟩ := hexValue?_of_mem number d member
        exact (hexValue?_clean value).1

theorem val_lt (c : CodePoint) : c.val < 0x110000 := by
  cases c with
  | char d =>
    have bounds := Utf8.char_bounds d
    simp only [CodePoint.val]
    omega
  | surrogate offset =>
    simp only [CodePoint.val]
    omega

theorem writes_numeric {q : Char} {c : CodePoint} (quote : q = '\'' ∨ q = '"')
    (text : Text.escaped (.char q) c = Text.numericEscape c) : ∃ unit, Writes q c unit := by
  have slash : q ≠ '\\' := by
    rcases quote with rfl | rfl <;> decide
  unfold Text.numericEscape at text
  split at text
  · rename_i small
    obtain ⟨ds, form, length, number⟩ := @hexadecimal_digits 2 c.val small (by decide)
    refine ⟨'\\' :: 'x' :: ds, writes_number slash quote (text.trans ?_) number ?_ ?_⟩
    · rw [form]
      rfl
    · simp [IsClean]
    · intro rest
      rw [length]
      rfl
  · split at text
    · rename_i medium
      obtain ⟨ds, form, length, number⟩ := @hexadecimal_digits 4 c.val medium (by decide)
      refine ⟨'\\' :: 'u' :: ds, writes_number slash quote (text.trans ?_) number ?_ ?_⟩
      · rw [form]
        rfl
      · simp [IsClean]
      · intro rest
        rw [length]
        rfl
    · have large : c.val < 16 ^ 8 := Nat.lt_trans (val_lt c) (by decide)
      obtain ⟨ds, form, length, number⟩ := hexadecimal_digits large (by decide)
      refine ⟨'\\' :: 'U' :: ds, writes_number slash quote (text.trans ?_) number ?_ ?_⟩
      · rw [form]
        rfl
      · simp [IsClean]
      · intro rest
        rw [length]
        rfl

theorem printable_clean {d : Char} (h : (CodePoint.char d).isPrintable) : IsClean d := by
  refine ⟨?_, ?_, ?_⟩ <;> rintro rfl <;> revert h <;> decide

/-- Every code point is written in one way or the other. -/
theorem writes_any {q : Char} (quote : q = '\'' ∨ q = '"') (c : CodePoint) :
    ∃ unit, Writes q c unit := by
  have slash : q ≠ '\\' := by
    rcases quote with rfl | rfl <;> decide
  by_cases own : c = .char q
  · subst own
    refine ⟨['\\', q], writes_short slash (by simp [Text.escaped]) ?_ ?_⟩
    · rcases quote with rfl | rfl <;> rfl
    · rcases quote with rfl | rfl <;> simp [IsClean]
  by_cases backslash : c = .char '\\'
  · subst backslash
    exact ⟨['\\', '\\'], writes_short slash (by simp [Text.escaped]) rfl (by simp [IsClean])⟩
  by_cases tab : c = .char '\t'
  · subst tab
    refine ⟨['\\', 't'], writes_short slash ?_ rfl (by simp [IsClean])⟩
    rcases quote with rfl | rfl <;> decide
  by_cases feed : c = .char '\n'
  · subst feed
    refine ⟨['\\', 'n'], writes_short slash ?_ rfl (by simp [IsClean])⟩
    rcases quote with rfl | rfl <;> decide
  by_cases carriage : c = .char '\r'
  · subst carriage
    refine ⟨['\\', 'r'], writes_short slash ?_ rfl (by simp [IsClean])⟩
    rcases quote with rfl | rfl <;> decide
  by_cases printable : c.isPrintable
  · have text : Text.escaped (.char q) c = [c] := by
      simp [Text.escaped, own, backslash, tab, feed, carriage, printable]
    obtain ⟨d, rfl⟩ := CodePoint.printable_char printable
    refine ⟨[d], writes_itself text ?_ ?_ (printable_clean printable)⟩
    · rintro rfl
      exact backslash rfl
    · rintro rfl
      exact own rfl
  · have text : Text.escaped (.char q) c = Text.numericEscape c := by
      simp [Text.escaped, own, backslash, tab, feed, carriage, printable]
    exact writes_numeric quote text

/-! ### The whole literal -/

/-- The characters between the quotes `q` of the literal for `t`. -/
structure Literal (t : Text) (q : Char) (body : List Char) : Prop where
  quote : q = '\'' ∨ q = '"'
  text : Text.quoted t = Text.ofChars (q :: (body ++ [q]))
  opens : body.head? ≠ some q
  ends : ∀ rest, Lexer.shortBody q (body ++ q :: rest) = some (body, rest)
  value : Escape.text body = some t
  clean : ∀ d ∈ body, IsClean d

theorem literal_body {q : Char} (quote : q = '\'' ∨ q = '"') (t : Text) :
    ∃ body, t.flatMap (Text.escaped (.char q)) = Text.ofChars body ∧ body.head? ≠ some q ∧
      (∀ rest, Lexer.shortBody q (body ++ q :: rest) = some (body, rest)) ∧
        Escape.text body = some t ∧ ∀ d ∈ body, IsClean d := by
  induction t with
  | nil =>
    refine ⟨[], rfl, by simp, ?_, rfl, by simp⟩
    intro rest
    have slash : q ≠ '\\' := by
      rcases quote with rfl | rfl <;> decide
    rw [List.nil_append, Lexer.shortBody]
    · simp
    · intro c tail same
      exact absurd same slash
  | cons c rest ih =>
    obtain ⟨body, form, _, ends, value, clean⟩ := ih
    obtain ⟨unit, writes⟩ := writes_any quote c
    refine ⟨unit ++ body, ?_, ?_, ?_, ?_, ?_⟩
    · rw [List.flatMap_cons, writes.text, form, Text.ofChars, Text.ofChars, Text.ofChars,
        List.map_append]
    · obtain ⟨first, more, rfl, other⟩ := writes.opens
      simpa using other
    · intro after
      rw [List.append_assoc, writes.body, ends after]
      rfl
    · have after := writes.value body
      rw [Escape.text] at value ⊢
      rw [after, value]
      rfl
    · intro d member
      rcases List.mem_append.1 member with member | member
      · exact writes.clean d member
      · exact clean d member

theorem quoted_literal (t : Text) : ∃ q body, Literal t q body := by
  have quote : ∃ q, Text.quoteFor t = .char q ∧ (q = '\'' ∨ q = '"') := by
    unfold Text.quoteFor
    split
    · exact ⟨'"', rfl, .inr rfl⟩
    · exact ⟨'\'', rfl, .inl rfl⟩
  obtain ⟨q, chosen, which⟩ := quote
  obtain ⟨body, form, opens, ends, value, clean⟩ := literal_body which t
  refine ⟨q, body, which, ?_, opens, ends, value, clean⟩
  simp only [Text.quoted, chosen, form]
  simp [Text.ofChars]

end BodyDigest.Indented
