import BodyDigest.Proofs.Indented.Lexing
import BodyDigest.Proofs.Indented.Operands

/-! Reading texts, pairs, lists and mappings of them. -/
namespace BodyDigest.Indented.Grammar

open Lexer (literalOf)

variable {ls rest : List Lexeme} {l : Lexeme} {e : Expr} {n : Nat}

/-! ### Names and texts -/

theorem reads_name_atom (named : isName l) :
    Reads (atom (n + 1)) (l :: rest) (·.expr = .name (nameText l)) rest := by
  rw [atom]
  refine .from_here fun start => reads_peek.exactly ?_
  cases l with
  | name id =>
    refine reads_advance.exactly ?_
    exact reads_since _ _
  | soft id =>
    refine reads_advance.exactly ?_
    exact reads_since _ _
  | _ => cases named

theorem literalRun_one {body : List Char} {ts : List Token}
    (ahead : ts.map Token.lexeme = .literal [] body :: rest) (stops : Stops rest) :
    literalRun ts = [([], body)] := by
  match ts, ahead with
  | t :: ts, ahead =>
    obtain ⟨first, others⟩ : t.lexeme = .literal [] body ∧ ts.map Token.lexeme = rest := by
      simpa using ahead
    obtain ⟨lexeme, span⟩ := t
    obtain rfl : lexeme = .literal [] body := first
    have ended : literalRun ts = [] := by
      obtain ⟨l, tail, form, ends⟩ := stops.cases
      match ts, others with
      | [], others => rfl
      | u :: us, others =>
        obtain ⟨lexeme, span⟩ := u
        obtain ⟨rfl, _⟩ : lexeme = l ∧ us.map Token.lexeme = tail := by
          simpa [form] using others
        cases lexeme with
        | literal marks body => cases ends
        | _ => rfl
    rw [literalRun, ended]

theorem reads_literalParts {body : List Char} {t : Text} (value : Escape.text body = some t) :
    Reads (literalParts (n + 2) [([], body)]) ls (· = [.literal t]) ls := by
  have plain : plainText (marksOf []).raw body = some t := value
  rw [literalParts]
  simp only [plain]
  have none_left : Reads (literalParts (n + 1) []) ls (· = []) ls := by
    rw [literalParts]
    exact Reads.pure rfl
  refine none_left.exactly ?_
  exact Reads.pure rfl

theorem merged_literal (t : Text) (start : Pos) (marked : Bool) : Reads
    (match Field.mergeLiterals [.literal t] with
      | [.literal t] => since start (.constant (.text t marked))
      | _ => since start (.constant (.text [] marked))) ls
    (·.expr = .constant (.text t marked)) ls := by
  cases t with
  | nil => exact reads_since _ _
  | cons p t => exact reads_since _ _

theorem reads_text {body : List Char} {t : Text} (value : Escape.text body = some t)
    (stops : Stops rest) :
    Reads (atom (n + 4)) (.literal [] body :: rest) (·.expr = .constant (.text t false)) rest := by
  have run : Reads (literals (n + 3)) (.literal [] body :: rest)
      (·.expr = .constant (.text t false)) rest := by
    have skipped : Reads (skipTokens 1) (.literal [] body :: rest) (fun _ => True) rest :=
      reads_advance.bind fun _ _ => Reads.pure trivial
    rw [literals]
    refine .from_here fun start => reads_get.bind fun c ahead => ?_
    simp only [literalRun_one ahead stops]
    refine skipped.bind fun _ _ => ?_
    change Reads (literalParts (n + 2) [([], body)] >>= _) _ _ _
    refine (reads_literalParts value).exactly ?_
    exact merged_literal t start false
  rw [atom]
  refine .from_here fun start => reads_peek.exactly ?_
  exact run

/-! ### Written expressions -/

/-- `ls` are the lexemes of `e`, which is read on fuel in proportion to their number. -/
structure Writes (ls : List Lexeme) (e : Expr) : Prop where
  starts : Starts ls
  unnamed : ls.head?.any isName = false
  reads : ∀ {n : Nat} {rest : List Lexeme}, Stops rest → 32 * ls.length ≤ n + 16 →
    Reads (primary n) (ls ++ rest) (·.expr = e) rest

namespace Writes

theorem head (h : Writes ls e) (rest : List Lexeme) : (ls ++ rest).head? = ls.head? := by
  obtain ⟨l, tail, rfl, _⟩ := h.starts.cases
  rfl

theorem starts_with (h : Writes ls e) (rest : List Lexeme) : Starts (ls ++ rest) := by
  rw [Starts, h.head]
  exact h.starts

theorem unnamed_with (h : Writes ls e) (rest : List Lexeme) :
    (ls ++ rest).head?.any isName = false := by
  rw [h.head]
  exact h.unnamed

theorem expression_less (h : Writes ls e) (stops : Stops rest) (enough : 32 * ls.length ≤ n + 4) :
    Reads (expression n) (ls ++ rest) (·.expr = e) rest := by
  have some_lexeme := h.starts.nonempty
  obtain ⟨m, rfl⟩ : ∃ m, n = m + 9 := ⟨n - 9, by omega⟩
  exact reads_expression (h.reads stops (by omega)) (h.starts_with rest) stops

theorem expression (h : Writes ls e) (stops : Stops rest) (enough : 32 * ls.length ≤ n) :
    Reads (expression n) (ls ++ rest) (·.expr = e) rest :=
  h.expression_less stops (by omega)

theorem namedExpression (h : Writes ls e) (stops : Stops rest) (enough : 32 * ls.length ≤ n) :
    Reads (namedExpression n) (ls ++ rest) (·.expr = e) rest := by
  have some_lexeme := h.starts.nonempty
  obtain ⟨m, rfl⟩ : ∃ m, n = m + 2 := ⟨n - 2, by omega⟩
  exact reads_namedExpression (h.expression_less stops (by omega)) (h.unnamed_with rest)

theorem namedElement (h : Writes ls e) (stops : Stops rest) (enough : 32 * ls.length ≤ n) :
    Reads (namedElement n) (ls ++ rest) (·.expr = e) rest := by
  have some_lexeme := h.starts.nonempty
  obtain ⟨m, rfl⟩ : ∃ m, n = m + 3 := ⟨n - 3, by omega⟩
  exact reads_namedElement (h.expression_less stops (by omega)) (h.unnamed_with rest)
    (h.starts_with rest)

theorem elements (h : Writes ls e) (stops : Stops rest) (alone : rest.head? ≠ some (.op ","))
    (enough : 32 * ls.length ≤ n) : Reads (elements n) (ls ++ rest) (·.expr = e) rest := by
  have some_lexeme := h.starts.nonempty
  obtain ⟨m, rfl⟩ : ∃ m, n = m + 3 := ⟨n - 3, by omega⟩
  exact reads_elements (h.expression_less stops (by omega)) (h.starts_with rest) alone

/-- What an atom reads is an expression. -/
theorem of_atom (starts : Starts ls) (unnamed : ls.head?.any isName = false)
    (reads : ∀ {n : Nat} {rest : List Lexeme}, Stops rest → 32 * ls.length ≤ n + 18 →
      Reads (atom n) (ls ++ rest) (·.expr = e) rest) : Writes ls e := by
  refine ⟨starts, unnamed, ?_⟩
  intro n rest stops enough
  have some_lexeme := starts.nonempty
  obtain ⟨m, rfl⟩ : ∃ m, n = m + 2 := ⟨n - 2, by omega⟩
  exact reads_primary (reads stops (by omega)) stops

end Writes

theorem literalOf_value (t : Text) : ∃ body, literalOf t = .literal [] body ∧
    Escape.text body = some t := by
  obtain ⟨q, body, written⟩ := quoted_literal t
  refine ⟨body, ?_, written.value⟩
  have chars : (Text.quoted t).chars = q :: (body ++ [q]) := by
    rw [written.text, Text.chars_ofChars]
  simp [literalOf, chars]

/-- The expression of a text without marks. -/
def textExpr (t : Text) : Expr := .constant (.text t false)

theorem writes_literal {body : List Char} {t : Text} (value : Escape.text body = some t) :
    Writes [.literal [] body] (textExpr t) := by
  refine .of_atom rfl rfl ?_
  intro n rest stops enough
  simp only [List.length_cons, List.length_nil] at enough
  obtain ⟨m, rfl⟩ : ∃ m, n = m + 4 := ⟨n - 4, by omega⟩
  exact reads_text value stops

theorem writes_text (t : Text) : Writes [literalOf t] (textExpr t) := by
  obtain ⟨body, form, value⟩ := literalOf_value t
  rw [form]
  exact writes_literal value

/-! ### Pairs and lists -/

variable {ls₁ ls₂ : List Lexeme} {e₁ e₂ : Expr}

theorem reads_one_more (h : Writes ls e) (stops : Stops rest) (last : rest.head? ≠ some (.op ","))
    (enough : 32 * ls.length + 1 ≤ n) :
    Reads (moreNamedElements n) (.op "," :: (ls ++ rest)) (· = [e]) rest := by
  have some_lexeme := h.starts.nonempty
  obtain ⟨m, rfl⟩ : ∃ m, n = m + 2 := ⟨n - 2, by omega⟩
  have ended : Reads (moreNamedElements (m + 1)) rest (· = []) rest := by
    rw [moreNamedElements]
    exact .left last (Reads.pure rfl)
  rw [moreNamedElements]
  refine .taken (reads_seesElement.bind ?_)
  rintro _ rfl
  rw [(h.starts_with rest).expression, Bool.true_or]
  refine (h.namedElement stops (by omega)).bind fun x value => ended.exactly ?_
  exact Reads.pure (by rw [value])

/-- The reader of what stands behind an opening bracket. -/
theorem reads_opened {sign : String} {inner : Pos → Reader Located}
    (opens : sign = "(" ∧ inner = parenthesized n ∨ sign = "[" ∧ inner = bracketed n ∨
      sign = "\x7b" ∧ inner = braced n)
    (h : ∀ start, Reads (inner start) ls (·.expr = e) rest) :
    Reads (atom (n + 1)) (.op sign :: ls) (·.expr = e) rest := by
  rw [atom]
  refine .from_here fun start => reads_peek.exactly ?_
  refine reads_advance.exactly ?_
  rcases opens with ⟨rfl, rfl⟩ | ⟨rfl, rfl⟩ | ⟨rfl, rfl⟩ <;> exact h start

theorem writes_pair (first : Writes ls₁ e₁) (second : Writes ls₂ e₂) :
    Writes (.op "(" :: (ls₁ ++ .op "," :: (ls₂ ++ [.op ")"]))) (.tuple [e₁, e₂]) := by
  refine .of_atom rfl rfl ?_
  intro n rest stops enough
  simp only [List.length_cons, List.length_append, List.length_nil] at enough
  obtain ⟨m, rfl⟩ : ∃ m, n = m + 2 := ⟨n - 2, by omega⟩
  refine reads_opened (.inl ⟨rfl, rfl⟩) fun start => ?_
  change Reads _ (ls₁ ++ .op "," :: (ls₂ ++ [.op ")"]) ++ rest) _ _
  simp only [List.append_assoc, List.cons_append, List.nil_append]
  have starts := first.starts_with (.op "," :: (ls₂ ++ .op ")" :: rest))
  rw [parenthesized]
  refine .left (starts.other _ rfl) (.seen (not_seen (starts.other _ rfl)) ?_)
  refine .seen (not_seen (starts.other _ rfl)) ?_
  refine (first.namedElement stops_comma (by omega)).bind fun x value => .seen (b := true) rfl ?_
  refine (reads_one_more second stops_parenthesis (by simp) (by omega)).exactly ?_
  refine .expected ?_
  rw [value]
  exact reads_since _ _

theorem writes_list_pair (first : Writes ls₁ e₁) (second : Writes ls₂ e₂) :
    Writes (.op "[" :: (ls₁ ++ .op "," :: (ls₂ ++ [.op "]"]))) (.list [e₁, e₂]) := by
  refine .of_atom rfl rfl ?_
  intro n rest stops enough
  simp only [List.length_cons, List.length_append, List.length_nil] at enough
  obtain ⟨m, rfl⟩ : ∃ m, n = m + 2 := ⟨n - 2, by omega⟩
  refine reads_opened (.inr (.inl ⟨rfl, rfl⟩)) fun start => ?_
  change Reads _ (ls₁ ++ .op "," :: (ls₂ ++ [.op "]"]) ++ rest) _ _
  simp only [List.append_assoc, List.cons_append, List.nil_append]
  have starts := first.starts_with (.op "," :: (ls₂ ++ .op "]" :: rest))
  rw [bracketed]
  refine .left (starts.other _ rfl) (.seen (not_seen (starts.other _ rfl)) ?_)
  refine (first.namedElement stops_comma (by omega)).bind fun x value => ?_
  refine .seen (b := false) rfl (.seen (b := false) rfl ?_)
  refine (reads_one_more second stops_bracket (by simp) (by omega)).exactly ?_
  refine .expected ?_
  rw [value]
  exact reads_since _ _

/-! ### Mappings -/

/-- An entry of a mapping, with the comma behind it. -/
def entryLexemes (key : Text) (value : List Lexeme) : List Lexeme :=
  literalOf key :: .op ":" :: (value ++ [.op ","])

section

variable {α : Type} {xs : List α} {key : α → Text} {value : α → List Lexeme} {expr : α → Expr}

/-- One entry in front of a comma, and those that follow it. -/
theorem reads_entry {k : Text} {ls more : List Lexeme} {items : List Item} (h : Writes ls e)
    (enough : 32 * (ls.length + 1) ≤ n)
    (others : Reads (moreDictItems n) (.op "," :: more) (· = items) rest) :
    Reads (dictItems (n + 1)) (entryLexemes k ls ++ more) (· = .pair (textExpr k) e :: items)
      rest := by
  have form : entryLexemes k ls ++ more =
      [literalOf k] ++ .op ":" :: (ls ++ .op "," :: more) := by
    simp [entryLexemes]
  rw [form, dictItems]
  refine .left ((writes_text k).starts.other _ rfl) ?_
  refine ((writes_text k).expression stops_colon ?_).bind fun x named => .expected ?_
  · simp only [List.length_cons, List.length_nil]
    omega
  · refine (h.expression stops_comma (by omega)).bind fun y valued => others.exactly ?_
    exact Reads.pure (by rw [named, valued])

theorem reads_entries (written : ∀ x ∈ xs, Writes (value x) (expr x))
    (enough : 32 * (xs.flatMap fun x => entryLexemes (key x) (value x)).length + 1 ≤ n) :
    Reads (moreDictItems n)
      (.op "," :: ((xs.flatMap fun x => entryLexemes (key x) (value x)) ++ .op "\x7d" :: rest))
      (· = xs.map fun x => .pair (textExpr (key x)) (expr x)) (.op "\x7d" :: rest) := by
  induction xs generalizing n with
  | nil =>
    obtain ⟨m, rfl⟩ : ∃ m, n = m + 1 := ⟨n - 1, by omega⟩
    rw [moreDictItems]
    exact .taken (.seen (b := true) rfl (Reads.pure rfl))
  | cons x xs ih =>
    rw [List.flatMap_cons, List.length_append] at enough
    have size : (entryLexemes (key x) (value x)).length = (value x).length + 3 := by
      simp [entryLexemes]
    obtain ⟨m, rfl⟩ : ∃ m, n = m + 2 := ⟨n - 2, by omega⟩
    have others := ih (fun y member => written y (List.mem_cons_of_mem x member)) (n := m)
      (by omega)
    rw [List.flatMap_cons, List.append_assoc, List.map_cons, moreDictItems]
    refine .taken (.seen (b := false) rfl ?_)
    exact reads_entry (written x (by simp)) (by omega) others

theorem writes_dict (written : ∀ x ∈ xs, Writes (value x) (expr x)) :
    Writes (.op "\x7b" :: ((xs.flatMap fun x => entryLexemes (key x) (value x)) ++ [.op "\x7d"]))
      (.dict (xs.map fun x => .pair (textExpr (key x)) (expr x))) := by
  refine .of_atom rfl rfl ?_
  intro n rest stops enough
  rw [List.length_cons, List.length_append, List.length_singleton] at enough
  obtain ⟨m, rfl⟩ : ∃ m, n = m + 2 := ⟨n - 2, by omega⟩
  refine reads_opened (.inr (.inr ⟨rfl, rfl⟩)) fun start => ?_
  change Reads _ ((xs.flatMap fun x => entryLexemes (key x) (value x)) ++ [.op "\x7d"] ++ rest) _ _
  rw [braced]
  cases xs with
  | nil => exact .taken (reads_since _ _)
  | cons x xs =>
    rw [List.flatMap_cons, List.length_append] at enough
    have size : (entryLexemes (key x) (value x)).length = (value x).length + 3 := by
      simp [entryLexemes]
    have form : ((x :: xs).flatMap fun x => entryLexemes (key x) (value x)) ++ [.op "\x7d"] ++ rest =
        [literalOf (key x)] ++ .op ":" :: (value x ++ .op "," ::
          ((xs.flatMap fun x => entryLexemes (key x) (value x)) ++ .op "\x7d" :: rest)) := by
      simp [entryLexemes]
    have key_written := writes_text (key x)
    rw [form]
    refine .left (key_written.starts.other _ rfl) ?_
    refine .seen (not_seen (key_written.starts.other _ rfl)) ?_
    refine .seen (not_seen (key_written.starts.other _ rfl)) ?_
    refine (reads_seesNameBefore ":=").exactly ?_
    refine .seen (not_seen (key_written.starts.other _ rfl)) ?_
    refine (key_written.namedElement stops_colon ?_).bind fun a named => ?_
    · rw [List.length_singleton]
      omega
    refine .seen (b := true) rfl ?_
    change Reads (advance >>= _) _ _ _
    refine reads_advance.bind fun _ _ => ?_
    refine ((written x (by simp)).expression stops_comma (by omega)).bind fun b valued => ?_
    refine .seen (b := false) rfl (.seen (b := false) rfl ?_)
    refine (reads_entries (fun y member => written y (List.mem_cons_of_mem x member))
      (by omega)).exactly ?_
    refine .expected ?_
    rw [named, valued]
    exact reads_since _ _

end

/-! ### Calls -/

/-- A lone argument. -/
theorem reads_callArguments (h : Writes ls e)
    (enough : 32 * ls.length + 2 ≤ n) :
    Reads (callArguments n) (ls ++ .op ")" :: rest) (· = ([e], [])) rest := by
  obtain ⟨m, rfl⟩ : ∃ m, n = m + 2 := ⟨n - 2, by omega⟩
  have starts := h.starts_with (.op ")" :: rest)
  have positional : Reads (argument (m + 1) .positional) (ls ++ .op ")" :: rest)
      (· = ([e], [], .positional)) (.op ")" :: rest) := by
    rw [argument]
    refine .left (starts.other _ rfl) ((reads_seesNameBefore "=").exactly ?_)
    rw [h.unnamed_with, Bool.false_and]
    refine .left (starts.other _ rfl) ?_
    refine (h.namedExpression stops_parenthesis (by omega)).bind fun x value => ?_
    exact Reads.pure (by rw [value])
  rw [callArguments]
  refine .left (starts.other _ rfl) (positional.exactly ?_)
  refine .seen (b := false) rfl (.seen (b := false) rfl ?_)
  have alone : (Lexeme.op ")" :: rest).head? ≠ some (.op ",") := by simp
  -- a lone argument may become a generator, whatever kind of expression it is
  cases e <;>
  · refine .left alone (.given ?_)
    exact .expected (Reads.pure rfl)

/-- A call of an attribute of a name. -/
theorem reads_call {a b : Lexeme} (named : isName a ∧ isName b) (h : Writes ls e)
    (stops : Stops rest) (enough : 32 * ls.length + 6 ≤ n) :
    Reads (primary n) (a :: .op "." :: b :: .op "(" :: (ls ++ .op ")" :: rest))
      (·.expr = .call (.attribute (.name (nameText a)) (nameText b)) [e] []) rest := by
  obtain ⟨m, rfl⟩ : ∃ m, n = m + 4 := ⟨n - 4, by omega⟩
  rw [primary]
  refine .from_here fun start => (reads_name_atom named.1).bind fun x function => ?_
  rw [trailers]
  refine .taken (.named named.2 ((reads_since _ _).bind fun y part => ?_))
  rw [trailers]
  refine .left (by simp) (.taken ?_)
  refine (reads_callArguments h (by omega)).exactly ?_
  refine (reads_since _ _).bind fun z call => ?_
  rw [function] at part
  rw [part] at call
  rw [← call]
  exact reads_trailers_none stops start z
end BodyDigest.Indented.Grammar
