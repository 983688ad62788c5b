import BodyDigest.Proofs.Indented.Names
import BodyDigest.Proofs.Indented.Quoted

/-!
Runs of the lexer, step by step. The places of tokens are left open: no reader depends on them.
-/
namespace BodyDigest.Indented.Lexer

/-- What a lexer has in front of it, without its place. -/
structure Config where
  lineStart : Bool
  blocks : List Width
  brackets : List Char
  rest : List Char

/-- An upper bound of the steps that are left. -/
def Config.load (c : Config) : Nat := 2 * c.rest.length + if c.lineStart then 1 else 0

theorem load_mk (lineStart : Bool) (blocks : List Width) (brackets rest : List Char) :
    (Config.mk lineStart blocks brackets rest).load = 2 * rest.length + lineStart.toNat := by
  cases lineStart <;> rfl

/-- An upper bound of the lexemes that are still to come: each block that is open may be closed. -/
def Config.size (c : Config) : Nat := c.load + c.blocks.length

def Config.state (c : Config) (pos : Pos) : State := ⟨c.rest, pos, c.blocks, c.brackets⟩

/-- From `c` the lexer comes to `d` and makes tokens of the lexemes `ls` on the way. -/
def Goes (c : Config) (ls : List Lexeme) (d : Config) : Prop :=
  ls.length + d.size ≤ c.size ∧ ∀ fuel pos done, c.load < fuel → ∃ fuel' pos', ∃ ts : List Token,
    d.load < fuel' ∧ ts.map Token.lexeme = ls ∧ run fuel c.lineStart (c.state pos) done =
      run fuel' d.lineStart (d.state pos') (ts.reverse ++ done)

theorem Goes.refl (c : Config) : Goes c [] c := by
  refine ⟨by simp, ?_⟩
  intro fuel pos done enough
  exact ⟨fuel, pos, [], enough, rfl, rfl⟩

theorem Goes.trans {c d e : Config} {ls ms : List Lexeme} (h : Goes c ls d) (h' : Goes d ms e) :
    Goes c (ls ++ ms) e := by
  obtain ⟨bound, h⟩ := h
  obtain ⟨bound', h'⟩ := h'
  refine ⟨by rw [List.length_append]; omega, ?_⟩
  intro fuel pos done enough
  obtain ⟨fuel₁, pos₁, ts, enough₁, lexemes, run₁⟩ := h fuel pos done enough
  obtain ⟨fuel₂, pos₂, us, enough₂, lexemes', run₂⟩ := h' fuel₁ pos₁ (ts.reverse ++ done) enough₁
  refine ⟨fuel₂, pos₂, ts ++ us, enough₂, ?_, ?_⟩
  · rw [List.map_append, lexemes, lexemes']
  · rw [run₁, run₂, List.reverse_append, List.append_assoc]

theorem Goes.cons {c d e : Config} {l : Lexeme} {ls : List Lexeme} (h : Goes c [l] d)
    (h' : Goes d ls e) : Goes c (l :: ls) e := h.trans h'

theorem Goes.skip {c d e : Config} {ls : List Lexeme} (h : Goes c [] d) (h' : Goes d ls e) :
    Goes c ls e := h.trans h'

/-- One step of the lexer that makes tokens of `ls`. -/
theorem goes_step {c d : Config} {ls : List Lexeme} (less : d.load < c.load)
    (bound : ls.length + d.size ≤ c.size)
    (step : ∀ fuel pos done, ∃ pos', ∃ ts : List Token, ts.map Token.lexeme = ls ∧
      run (fuel + 1) c.lineStart (c.state pos) done =
        run fuel d.lineStart (d.state pos') (ts.reverse ++ done)) : Goes c ls d := by
  refine ⟨bound, ?_⟩
  intro fuel pos done enough
  obtain ⟨n, rfl⟩ : ∃ n, fuel = n + 1 := ⟨fuel - 1, by omega⟩
  obtain ⟨pos', ts, lexemes, same⟩ := step n pos done
  exact ⟨n, pos', ts, by omega, lexemes, same⟩

variable {blocks : List Width} {brackets : List Char} {rest : List Char}

/-! ### Blanks and line ends -/

theorem goes_blank : Goes ⟨false, blocks, brackets, ' ' :: rest⟩ [] ⟨false, blocks, brackets, rest⟩ := by
  apply goes_step
  · simp only [load_mk, Bool.toNat_false, List.length_cons]
    omega
  · simp only [Config.size, load_mk, Bool.toNat_false, List.length_cons, List.length_nil]
    omega
  · intro fuel pos done
    refine ⟨pos.after ' ', [], rfl, ?_⟩
    rw [Config.state, run]
    simp [Config.state]

theorem goes_blanks (k : Nat) :
    Goes ⟨false, blocks, brackets, List.replicate k ' ' ++ rest⟩ []
      ⟨false, blocks, brackets, rest⟩ := by
  induction k with
  | zero => exact Goes.refl _
  | succ k ih => exact goes_blank.trans ih

theorem goes_feed_inside {top : Char} : Goes ⟨false, blocks, top :: brackets, '\n' :: rest⟩ []
    ⟨false, blocks, top :: brackets, rest⟩ := by
  apply goes_step
  · simp only [load_mk, Bool.toNat_false, List.length_cons]
    omega
  · simp only [Config.size, load_mk, Bool.toNat_false, List.length_cons, List.length_nil]
    omega
  · intro fuel pos done
    refine ⟨pos.after '\n', [], rfl, ?_⟩
    rw [Config.state, run]
    simp [Config.state]

theorem goes_feed : Goes ⟨false, blocks, [], '\n' :: rest⟩ [.newline] ⟨true, blocks, [], rest⟩ := by
  apply goes_step
  · simp only [load_mk, Bool.toNat_true, Bool.toNat_false, List.length_cons]
    omega
  · simp only [Config.size, load_mk, Bool.toNat_true, Bool.toNat_false, List.length_cons, List.length_nil]
    omega
  · intro fuel pos done
    refine ⟨pos.after '\n', [⟨.newline, ⟨pos, pos⟩⟩], rfl, ?_⟩
    rw [Config.state, run]
    simp [Config.state]

/-! ### Starts of lines -/

/-- A character that indentation ends at. -/
def EndsIndentation (c : Char) : Prop := c ≠ ' ' ∧ c ≠ '\t' ∧ c ≠ '\x0c' ∧ c ≠ '\\'

theorem indentation_spaces {c : Char} (h : EndsIndentation c) (k : Nat) (w : Width) (pos : Pos)
    (rest : List Char) : ∃ pos', indentation w ⟨0, 0⟩ pos (List.replicate k ' ' ++ c :: rest) =
      some (⟨w.wide + k, w.narrow + k⟩, pos', c :: rest) := by
  induction k generalizing w pos with
  | zero =>
    obtain ⟨space, tab, form, slash⟩ := h
    refine ⟨pos, ?_⟩
    rw [List.replicate_zero, List.nil_append, indentation]
    · simp
    · simp [space]
    · simp [tab]
    · simp [form]
    · simp [slash]
    · simp [slash]
  | succ k ih =>
    obtain ⟨pos', found⟩ := ih ⟨w.wide + 1, w.narrow + 1⟩ (pos.after ' ')
    refine ⟨pos', ?_⟩
    rw [List.replicate_succ, List.cons_append, indentation, found]
    simp only [Option.some.injEq, Prod.mk.injEq, Width.mk.injEq, and_true]
    omega

theorem goes_empty_line : Goes ⟨true, blocks, [], '\n' :: rest⟩ [] ⟨true, blocks, [], rest⟩ := by
  apply goes_step
  · simp only [load_mk, Bool.toNat_true, List.length_cons]
    omega
  · simp only [Config.size, load_mk, Bool.toNat_true, List.length_cons, List.length_nil]
    omega
  · intro fuel pos done
    refine ⟨⟨pos.line + 1, 0⟩, [], rfl, ?_⟩
    rw [Config.state, run]
    simp [Config.state, indentation]

theorem goes_comment_line {comment : List Char} (inside : '\n' ∉ comment) :
    Goes ⟨true, blocks, [], '#' :: (comment ++ '\n' :: rest)⟩ [] ⟨true, blocks, [], rest⟩ := by
  apply goes_step
  · simp only [load_mk, Bool.toNat_true, List.length_append, List.length_cons]
    omega
  · simp only [Config.size, load_mk, Bool.toNat_true, List.length_append, List.length_cons, List.length_nil]
    omega
  · intro fuel pos done
    have dropped : (comment ++ '\n' :: rest).dropWhile (fun c => !decide (c = '\n')) =
        '\n' :: rest := by
      rw [List.dropWhile_append_of_pos]
      · simp
      · intro c member
        simp only [Bool.not_eq_true', decide_eq_false_iff_not]
        rintro rfl
        exact inside member
    obtain ⟨pos', found⟩ := indentation_spaces (c := '#') (by simp [EndsIndentation]) 0 ⟨0, 0⟩ pos
      (comment ++ '\n' :: rest)
    rw [List.replicate_zero, List.nil_append] at found
    refine ⟨⟨pos'.line + 1, 0⟩, [], rfl, ?_⟩
    rw [Config.state, run]
    simp [Config.state, found, dropped]

theorem closeBlocks_length (w : Width) (blocks : List Width) :
    (closeBlocks w blocks).1 + (closeBlocks w blocks).2.length = blocks.length := by
  induction blocks with
  | nil => rfl
  | cons b outer ih =>
    rw [closeBlocks]
    split
    · simp only [List.length_cons]
      omega
    · simp

/-- A block is opened by at least one blank, and each mark that closes one takes it away. -/
theorem settle_bound {k : Nat} {marks : List Lexeme} {inner : List Width}
    (settled : settle ⟨k, k⟩ blocks = some (marks, inner)) :
    marks.length + inner.length ≤ blocks.length + 2 * k := by
  have closed := closeBlocks_length ⟨k, k⟩ blocks
  simp only [settle] at settled
  split at settled
  · split at settled
    · cases settled
      simp
    · cases settled
  · split at settled
    · split at settled
      · cases settled
        simp only [List.length_cons, List.length_nil]
        omega
      · cases settled
    · split at settled
      · cases settled
        simp only [List.length_replicate]
        omega
      · cases settled

/-- The first lexemes of a line are those that its indentation calls for. -/
theorem goes_indentation {c : Char} (h : EndsIndentation c) (comment : c ≠ '#') (feed : c ≠ '\n')
    {k : Nat} {marks : List Lexeme} {inner : List Width}
    (settled : settle ⟨k, k⟩ blocks = some (marks.reverse, inner)) :
    Goes ⟨true, blocks, [], List.replicate k ' ' ++ c :: rest⟩ marks
      ⟨false, inner, [], c :: rest⟩ := by
  apply goes_step
  · simp only [load_mk, Bool.toNat_true, Bool.toNat_false, List.length_append, List.length_cons]
    omega
  · have bound := settle_bound settled
    simp only [Config.size, load_mk, Bool.toNat_true, Bool.toNat_false, List.length_append, List.length_replicate, List.length_cons,
      List.length_reverse] at bound ⊢
    omega
  · intro fuel pos done
    obtain ⟨pos', found⟩ := indentation_spaces h k ⟨0, 0⟩ pos rest
    simp only [Nat.zero_add] at found
    refine ⟨pos', marks.map fun m => ⟨m, ⟨pos', pos'⟩⟩, ?_, ?_⟩
    · simp [Function.comp_def]
    · rw [Config.state, run]
      simp [Config.state, found, settled, comment, feed]

/-! ### Lexemes -/

instance (c : Char) : Decidable (EndsIndentation c) :=
  inferInstanceAs (Decidable (_ ∧ _ ∧ _ ∧ _))

/-- A character that is neither a blank nor the start of a comment or of a joined line. -/
def StartsLexeme (c : Char) : Prop := EndsIndentation c ∧ c ≠ '#' ∧ c ≠ '\n'

instance (c : Char) : Decidable (StartsLexeme c) := inferInstanceAs (Decidable (_ ∧ _ ∧ _))

theorem goes_lexeme {c : Char} {word text after : List Char} {l : Lexeme} {inner : List Char}
    (first : StartsLexeme c) (form : word = c :: text)
    (found : lexeme (word ++ after) = some (l, word, after))
    (opened : bracketsAfter brackets l = some inner) :
    Goes ⟨false, blocks, brackets, word ++ after⟩ [l] ⟨false, blocks, inner, after⟩ := by
  subst form
  obtain ⟨⟨space, tab, form_feed, slash⟩, comment, feed⟩ := first
  apply goes_step
  · simp only [load_mk, Bool.toNat_false, List.length_append, List.length_cons]
    omega
  · simp only [Config.size, load_mk, Bool.toNat_false, List.length_append, List.length_cons, List.length_nil]
    omega
  · intro fuel pos done
    rw [List.cons_append] at found
    refine ⟨pos.advance (c :: text), [⟨l, ⟨pos, pos.advance (c :: text)⟩⟩], rfl, ?_⟩
    rw [Config.state, List.cons_append, run]
    simp [Config.state, found, opened, space, tab, form_feed, slash, comment, feed]

/-- The lexeme of a quoted text. -/
def literalOf (t : Text) : Lexeme := .literal [] ((Text.quoted t).chars.tail.dropLast)

/-- The lexeme of an attribute. -/
def nameOf (t : Text) : Lexeme := (nameLexeme t.chars).getD .newline

theorem bracketsAfter_literal (t : Text) : bracketsAfter brackets (literalOf t) = some brackets := rfl

/-- A literal without marks is read as its quotes say. -/
theorem lexeme_unmarked {q : Char} {body quotes cs after : List Char} (quote : q = '"' ∨ q = '\'')
    (read : literal q (q :: cs) = some (body, quotes, after)) :
    lexeme (q :: cs) = some (.literal [] body, quotes ++ body ++ quotes, after) := by
  have other : isNameChar q = false ∧ (q = '"' || q = '\'') = true := by
    rcases quote with rfl | rfl <;> decide
  have marks : marksBeforeQuote.contains [] = true := by decide
  rw [lexeme]
  simp only [List.takeWhile_cons, List.dropWhile_cons, other.1, Bool.false_eq_true, if_false]
  rw [if_pos (by simp [isNameStart, other.1]; simpa [or_comm] using other.2)]
  simp only [List.map_nil, marks, Bool.and_true]
  rw [if_pos (by simpa using other.2), read]
  simp

/-- A body without quotes and escapes is read up to the quotes that close it. -/
theorem longBody_plain {q : Char} {body : List Char} (quote : q ≠ '\\')
    (plain : body.all fun c => c != q && c != '\\') (after : List Char) :
    longBody q (body ++ q :: q :: q :: after) = some (body, after) := by
  induction body with
  | nil =>
    rw [List.nil_append, longBody]
    · simp
    · exact fun c rest same => absurd same quote
  | cons c body ih =>
    simp only [List.all_cons, Bool.and_eq_true, bne_iff_ne, ne_eq] at plain
    obtain ⟨⟨inside, escape⟩, plain⟩ := plain
    rw [List.cons_append, longBody, if_neg (by simp [Ne.symm inside]), ih plain]
    · rfl
    · exact fun d rest same => absurd same escape

/-- A literal between three quotes whose body has neither quotes nor escapes. -/
theorem lexeme_long {q : Char} {body : List Char} (quote : q = '"' ∨ q = '\'')
    (plain : body.all fun c => c != q && c != '\\') (after : List Char) :
    lexeme ([q, q, q] ++ body ++ [q, q, q] ++ after) =
      some (.literal [] body, [q, q, q] ++ body ++ [q, q, q], after) := by
  have escape : q ≠ '\\' := by
    rcases quote with rfl | rfl <;> decide
  have read : literal q ([q, q, q] ++ body ++ [q, q, q] ++ after) =
      some (body, [q, q, q], after) := by
    have inside := longBody_plain escape plain after
    simp [literal, inside]
  exact lexeme_unmarked quote read

theorem lexeme_quoted (t : Text) {next : Char} (other : next ≠ '\'' ∧ next ≠ '"')
    (after : List Char) : lexeme ((Text.quoted t).chars ++ next :: after) =
      some (literalOf t, (Text.quoted t).chars, next :: after) := by
  obtain ⟨q, body, written⟩ := quoted_literal t
  have chars : (Text.quoted t).chars = q :: (body ++ [q]) := by
    rw [written.text, Text.chars_ofChars]
  have inner : (q :: (body ++ [q])).tail.dropLast = body := by simp
  have closes : [q, q, q].isPrefixOf (q :: (body ++ [q] ++ next :: after)) = false := by
    have next_other : next ≠ q := by
      rcases written.quote with rfl | rfl
      · exact other.1
      · exact other.2
    rw [Bool.eq_false_iff]
    intro front
    cases body with
    | nil => simp [next_other.symm] at front
    | cons d body =>
      have opens := written.opens
      simp only [List.head?_cons, ne_eq, Option.some.injEq] at opens
      simp [Ne.symm opens] at front
  have read : literal q (q :: (body ++ [q] ++ next :: after)) = some (body, [q], next :: after) := by
    have ends := written.ends (next :: after)
    rw [literal, closes]
    simp [ends]
  rw [literalOf, chars, inner, List.cons_append, lexeme_unmarked written.quote.symm read]
  simp

theorem goes_literal (t : Text) {next : Char} (other : next ≠ '\'' ∧ next ≠ '"') :
    Goes ⟨false, blocks, brackets, (Text.quoted t).chars ++ next :: rest⟩ [literalOf t]
      ⟨false, blocks, brackets, next :: rest⟩ := by
  obtain ⟨q, body, written⟩ := quoted_literal t
  have chars : (Text.quoted t).chars = q :: (body ++ [q]) := by
    rw [written.text, Text.chars_ofChars]
  have starts : StartsLexeme q := by
    rcases written.quote with rfl | rfl <;> simp [StartsLexeme, EndsIndentation]
  exact goes_lexeme starts chars (lexeme_quoted t other rest) (bracketsAfter_literal t)

theorem startsLexeme_of_name {c : Char} (h : isNameStart c) : StartsLexeme c := by
  refine ⟨⟨?_, ?_, ?_, ?_⟩, ?_, ?_⟩ <;> rintro rfl <;> revert h <;> decide

/-- A word up to a character that neither continues it nor makes it the marks of a literal. -/
theorem lexeme_word {word : List Char} {l : Lexeme} {next : Char}
    (start : word.head?.any isNameStart) (inside : word.all isNameChar)
    (meant : nameLexeme word = some l) (ends : isNameChar next = false)
    (other : next ≠ '\'' ∧ next ≠ '"') (after : List Char) :
    lexeme (word ++ next :: after) = some (l, word, next :: after) := by
  rw [List.all_eq_true] at inside
  have taken : (word ++ next :: after).takeWhile isNameChar = word := by
    rw [List.takeWhile_append_of_pos inside, List.takeWhile_cons_of_neg (by simp [ends]),
      List.append_nil]
  have left : (word ++ next :: after).dropWhile isNameChar = next :: after := by
    rw [List.dropWhile_append_of_pos inside, List.dropWhile_cons_of_neg (by simp [ends])]
  cases word with
  | nil => cases start
  | cons c tail =>
    have opens : isNameStart c := start
    rw [List.cons_append] at taken left ⊢
    rw [lexeme]
    simp only [taken, left]
    rw [if_pos (by simp [opens]), if_neg (by simp [other]), meant]
    rfl

/-- A word opens no bracket and closes none. -/
theorem bracketsAfter_word {word : List Char} {l : Lexeme} (meant : nameLexeme word = some l) :
    bracketsAfter brackets l = some brackets := by
  revert meant
  fun_cases nameLexeme word <;> rintro ⟨⟩ <;> rfl

theorem goes_word (word : List Char) {l : Lexeme} {next : Char}
    (start : word.head?.any isNameStart) (inside : word.all isNameChar)
    (meant : nameLexeme word = some l) (ends : isNameChar next = false)
    (other : next ≠ '\'' ∧ next ≠ '"') :
    Goes ⟨false, blocks, brackets, word ++ next :: rest⟩ [l]
      ⟨false, blocks, brackets, next :: rest⟩ := by
  have found := lexeme_word start inside meant ends other rest
  cases word with
  | nil => cases start
  | cons c tail => exact goes_lexeme (startsLexeme_of_name start) rfl found (bracketsAfter_word meant)

theorem goes_name {t : Text} (identifier : t.isIdentifier) (keyword : Emit.isKeyword t = false)
    {next : Char} (ends : isNameChar next = false) (other : next ≠ '\'' ∧ next ≠ '"') :
    Goes ⟨false, blocks, brackets, t.chars ++ next :: rest⟩ [nameOf t]
      ⟨false, blocks, brackets, next :: rest⟩ := by
  obtain ⟨c, tail, form, start, inside⟩ := identifier_chars identifier
  obtain ⟨l, found, _⟩ := nameLexeme_identifier identifier keyword
  have meant : nameLexeme t.chars = some (nameOf t) := by
    rw [nameOf, found, Option.getD_some]
  exact goes_word t.chars (by rw [form]; exact start) (List.all_eq_true.mpr inside) meant ends other

end BodyDigest.Indented.Lexer
