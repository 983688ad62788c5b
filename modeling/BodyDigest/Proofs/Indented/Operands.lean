import BodyDigest.Proofs.Indented.Reading

/-!
Reading expressions that no operator joins: an operand in front of a sign that ends an expression
is read the same way at every level of binding.
-/
namespace BodyDigest.Indented.Grammar

/-- Names, literals and brackets. -/
def startsOperand : Lexeme → Bool
  | .name _ | .soft _ | .literal _ _ => true
  | .op s => ["(", "[", "\x7b"].contains s
  | _ => false

/-- Signs behind which no expression goes on. -/
def endsExpression (l : Lexeme) : Bool :=
  [Lexeme.op ":", .op ",", .op ")", .op "]", .op "\x7d", .op "=", .newline].contains l

def Starts (ls : List Lexeme) : Prop := ls.head?.any startsOperand

def Stops (ls : List Lexeme) : Prop := ls.head?.any endsExpression

variable {ls rest tail : List Lexeme} {l : Lexeme} {e : Expr} {n : Nat}

theorem Starts.cases (h : Starts ls) : ∃ l tail, ls = l :: tail ∧ startsOperand l := by
  cases ls with
  | nil => cases h
  | cons l tail => exact ⟨l, tail, rfl, by simpa [Starts] using h⟩

theorem Starts.nonempty (h : Starts ls) : 0 < ls.length := by
  obtain ⟨l, tail, rfl, _⟩ := h.cases
  simp

theorem startsOperand_sign {s : String} (h : startsOperand (.op s)) :
    s = "(" ∨ s = "[" ∨ s = "\x7b" := by
  simpa [startsOperand] using h

theorem Starts.expression (h : Starts ls) : ls.head?.any startsExpression = true := by
  obtain ⟨l, tail, rfl, operand⟩ := h.cases
  cases l with
  | op s => rcases startsOperand_sign operand with rfl | rfl | rfl <;> rfl
  | keyword word => cases operand
  | newline => cases operand
  | indent => cases operand
  | dedent => cases operand
  | _ => rfl

theorem Starts.other (h : Starts ls) (l : Lexeme) (other : startsOperand l = false) :
    ls.head? ≠ some l := by
  intro head
  rw [Starts, head, Option.any_some, other] at h
  cases h

theorem Stops.other (h : Stops ls) (l : Lexeme) (other : endsExpression l = false) :
    ls.head? ≠ some l := by
  intro head
  rw [Stops, head, Option.any_some, other] at h
  cases h

theorem stops_comma : Stops (.op "," :: ls) := rfl

theorem stops_colon : Stops (.op ":" :: ls) := rfl

theorem stops_parenthesis : Stops (.op ")" :: ls) := rfl

theorem stops_bracket : Stops (.op "]" :: ls) := rfl

theorem stops_equals : Stops (.op "=" :: ls) := rfl

theorem stops_newline : Stops (.newline :: ls) := rfl

theorem Stops.cases (h : Stops ls) : ∃ l tail, ls = l :: tail ∧ endsExpression l := by
  cases ls with
  | nil => cases h
  | cons l tail => exact ⟨l, tail, rfl, by simpa [Stops] using h⟩

theorem not_seen (other : ls.head? ≠ some l) : (ls.head? == some l) = false :=
  beq_eq_false_iff_ne.mpr other

/-! ### What does not follow -/

theorem reads_compareOp_none (stops : Stops rest) :
    Reads compareOp? rest (· = none) rest := by
  obtain ⟨l, tail, rfl, ends⟩ := stops.cases
  refine reads_peek.exactly ?_
  simp only [endsExpression, List.contains_eq_mem, List.mem_cons, List.not_mem_nil, or_false,
    decide_eq_true_eq] at ends
  rcases ends with rfl | rfl | rfl | rfl | rfl | rfl | rfl <;> exact Reads.pure rfl

theorem reads_binaryOp_none (stops : Stops rest) (level : Level) :
    Reads (binaryOp? level) rest (· = none) rest := by
  obtain ⟨l, tail, rfl, ends⟩ := stops.cases
  refine reads_peek.exactly ?_
  simp only [endsExpression, List.contains_eq_mem, List.mem_cons, List.not_mem_nil, or_false,
    decide_eq_true_eq] at ends
  rcases ends with rfl | rfl | rfl | rfl | rfl | rfl | rfl <;> exact Reads.pure rfl

theorem reads_trailers_none (stops : Stops rest) (start : Pos) (x : Located) :
    Reads (trailers (n + 1) start x) rest (·.expr = x.expr) rest := by
  rw [trailers]
  refine .left (stops.other _ rfl) (.left (stops.other _ rfl) (.left (stops.other _ rfl) ?_))
  exact Reads.pure rfl

theorem reads_moreBinary_none (stops : Stops rest) (level : Level) (start : Pos) (x : Located) :
    Reads (moreBinary (n + 1) level start x) rest (·.expr = x.expr) rest := by
  rw [moreBinary]
  refine (reads_binaryOp_none stops level).exactly ?_
  exact Reads.pure rfl

theorem reads_moreComparisons_none (stops : Stops rest) :
    Reads (moreComparisons (n + 1)) rest (· = []) rest := by
  rw [moreComparisons]
  refine (reads_compareOp_none stops).exactly ?_
  exact Reads.pure rfl

theorem reads_moreOperands_none (stops : Stops rest) (op : BoolOp) :
    Reads (moreOperands op (n + 1)) rest (· = []) rest := by
  cases op with
  | or =>
    rw [moreOperands]
    exact .left (stops.other _ rfl) (Reads.pure rfl)
  | and =>
    rw [moreOperands]
    exact .left (stops.other _ rfl) (Reads.pure rfl)

/-! ### The levels of binding -/

theorem reads_primary (h : Reads (atom (n + 1)) ls (·.expr = e) rest) (stops : Stops rest) :
    Reads (primary (n + 2)) ls (·.expr = e) rest := by
  rw [primary]
  refine .from_here fun start => h.located fun a value => ?_
  rw [← value]
  exact reads_trailers_none stops start a

theorem reads_awaited (h : Reads (primary (n + 1)) ls (·.expr = e) rest) (starts : Starts ls) :
    Reads (awaited (n + 2)) ls (·.expr = e) rest := by
  rw [awaited]
  exact .from_here fun _ => .left (starts.other _ rfl) h

theorem unaryOp_none (starts : Starts ls) : ls.head?.bind unaryOp? = none := by
  obtain ⟨l, tail, rfl, operand⟩ := starts.cases
  cases l with
  | op s => rcases startsOperand_sign operand with rfl | rfl | rfl <;> rfl
  | _ => rfl

theorem reads_factor (h : Reads (awaited (n + 1)) ls (·.expr = e) rest) (starts : Starts ls)
    (stops : Stops rest) : Reads (factor (n + 2)) ls (·.expr = e) rest := by
  rw [factor]
  refine .from_here fun _ => reads_peek.exactly ?_
  rw [unaryOp_none starts]
  exact h.located fun _ value => .left (stops.other _ rfl) (Reads.pure value)

theorem reads_binary (h : Reads (factor (n + 1)) ls (·.expr = e) rest) (stops : Stops rest)
    (level : Level) : Reads (binary (n + 2) level) ls (·.expr = e) rest := by
  rw [binary]
  refine .from_here fun start => h.located fun a value => ?_
  rw [← value]
  exact reads_moreBinary_none stops level start a

theorem reads_comparison (h : Reads (binary (n + 1) .bitOr) ls (·.expr = e) rest)
    (stops : Stops rest) : Reads (comparison (n + 2)) ls (·.expr = e) rest := by
  rw [comparison]
  refine .from_here fun _ => h.located fun _ value => (reads_moreComparisons_none stops).exactly ?_
  exact Reads.pure value

theorem reads_inversion (h : Reads (comparison (n + 1)) ls (·.expr = e) rest)
    (starts : Starts ls) : Reads (inversion (n + 2)) ls (·.expr = e) rest := by
  rw [inversion]
  exact .from_here fun _ => .left (starts.other _ rfl) h

theorem reads_conjunction (h : Reads (inversion (n + 1)) ls (·.expr = e) rest)
    (stops : Stops rest) : Reads (conjunction (n + 2)) ls (·.expr = e) rest := by
  rw [conjunction]
  refine .from_here fun _ => h.located fun _ value => (reads_moreOperands_none stops .and).exactly ?_
  exact Reads.pure value

theorem reads_disjunction (h : Reads (conjunction (n + 1)) ls (·.expr = e) rest)
    (stops : Stops rest) : Reads (disjunction (n + 2)) ls (·.expr = e) rest := by
  rw [disjunction]
  refine .from_here fun _ => h.located fun _ value => (reads_moreOperands_none stops .or).exactly ?_
  exact Reads.pure value

/-- A primary expression that no operator follows. -/
theorem reads_expression (h : Reads (primary (n + 1)) ls (·.expr = e) rest) (starts : Starts ls)
    (stops : Stops rest) : Reads (expression (n + 9)) ls (·.expr = e) rest := by
  have operand := reads_factor (reads_awaited h starts) starts stops
  have compared := reads_comparison (reads_binary operand stops .bitOr) stops
  have joined := reads_conjunction (reads_inversion compared starts) stops
  rw [expression]
  refine .from_here fun _ => .left (starts.other _ rfl) ?_
  exact (reads_disjunction joined stops).located fun _ value =>
    .left (stops.other _ rfl) (Reads.pure value)

/-- Without a name in front nothing is given one. -/
theorem reads_namedExpression (h : Reads (expression (n + 1)) ls (·.expr = e) rest)
    (unnamed : ls.head?.any isName = false) :
    Reads (namedExpression (n + 2)) ls (·.expr = e) rest := by
  rw [namedExpression]
  refine .from_here fun _ => (reads_seesNameBefore ":=").exactly ?_
  rw [unnamed, Bool.false_and]
  exact h

theorem reads_namedElement (h : Reads (expression (n + 1)) ls (·.expr = e) rest)
    (unnamed : ls.head?.any isName = false) (starts : Starts ls) :
    Reads (namedElement (n + 3)) ls (·.expr = e) rest := by
  rw [namedElement]
  exact .seen (not_seen (starts.other _ rfl)) (reads_namedExpression h unnamed)

theorem reads_element (h : Reads (expression (n + 1)) ls (·.expr = e) rest) (starts : Starts ls) :
    Reads (element (n + 2)) ls (·.expr = e) rest := by
  rw [element]
  exact .from_here fun _ => .left (starts.other _ rfl) h

/-- One expression that no comma follows. -/
theorem reads_elements (h : Reads (expression (n + 1)) ls (·.expr = e) rest) (starts : Starts ls)
    (alone : rest.head? ≠ some (.op ",")) : Reads (elements (n + 3)) ls (·.expr = e) rest := by
  rw [elements]
  exact .from_here fun _ => (reads_element h starts).located fun _ value =>
    .seen (not_seen alone) (Reads.pure value)

end BodyDigest.Indented.Grammar
