import BodyDigest.Proofs.Indented.Displays
import BodyDigest.Proofs.Indented.Shapes

/-! Reading assignments, documenting texts and classes that hold nothing else. -/
namespace BodyDigest.Indented.Grammar

variable {ls rest value : List Lexeme} {l : Lexeme} {e : Expr} {n : Nat}

/-! ### Lines that start no other statement -/

/-- With `ls` ahead the reader goes no further. -/
def Fails {α : Type} (r : Reader α) (ls : List Lexeme) : Prop :=
  ∀ c : Cursor, c.ahead.map Token.lexeme = ls → r c = none

section

variable {α β : Type} {r : Reader α} {f : α → Reader β} {p : α → Prop} {mid : List Lexeme}

theorem Fails.bind (h : Fails r ls) : Fails (r >>= f) ls := by
  intro c ahead
  change (r c).bind (fun x => f x.1 x.2) = none
  rw [h c ahead]
  rfl

theorem Reads.fails (h : Reads r ls p mid) (h' : ∀ a, p a → Fails (f a) mid) :
    Fails (r >>= f) ls := by
  intro c ahead
  obtain ⟨a, d, first, holds, between⟩ := h c ahead
  change (r c).bind (fun x => f x.1 x.2) = none
  rw [first]
  exact h' a holds d between

theorem fails_failure : Fails (failure : Reader α) ls := fun _ _ => rfl

end

/-- No operand starts with the sign of an assignment. -/
theorem fails_factor (n : Nat) : Fails (factor n) (.op "=" :: ls) := by
  have atom_fails (k : Nat) : Fails (atom k) (.op "=" :: ls) := by
    cases k with
    | zero => exact fails_failure
    | succ k =>
      rw [atom]
      refine reads_here.fails fun _ _ => reads_peek.fails ?_
      intro a head
      subst head
      refine reads_advance.fails ?_
      intro a head
      subst head
      exact fails_failure
  have primary_fails (k : Nat) : Fails (primary k) (.op "=" :: ls) := by
    cases k with
    | zero => exact fails_failure
    | succ k =>
      rw [primary]
      exact reads_here.fails fun _ _ => (atom_fails k).bind
  have awaited_fails (k : Nat) : Fails (awaited k) (.op "=" :: ls) := by
    cases k with
    | zero => exact fails_failure
    | succ k =>
      rw [awaited]
      refine reads_here.fails fun _ _ => (reads_takes_other (by simp)).fails ?_
      intro a missed
      subst missed
      exact primary_fails k
  cases n with
  | zero => exact fails_failure
  | succ k =>
    rw [factor]
    refine reads_here.fails fun _ _ => reads_peek.fails ?_
    intro a head
    subst head
    exact (awaited_fails k).bind

theorem fails_comparison (n : Nat) : Fails (comparison n) (.op "=" :: ls) := by
  have binary_fails (k : Nat) : Fails (binary k .bitOr) (.op "=" :: ls) := by
    cases k with
    | zero => exact fails_failure
    | succ k =>
      rw [binary]
      exact reads_here.fails fun _ _ => (fails_factor k).bind
  cases n with
  | zero => exact fails_failure
  | succ k =>
    rw [comparison]
    exact reads_here.fails fun _ _ => (binary_fails k).bind

theorem fails_disjunction (n : Nat) : Fails (disjunction n) (.op "=" :: ls) := by
  have inversion_fails (k : Nat) : Fails (inversion k) (.op "=" :: ls) := by
    cases k with
    | zero => exact fails_failure
    | succ k =>
      rw [inversion]
      refine reads_here.fails fun _ _ => (reads_takes_other (by simp)).fails ?_
      intro a missed
      subst missed
      exact fails_comparison k
  have conjunction_fails (k : Nat) : Fails (conjunction k) (.op "=" :: ls) := by
    cases k with
    | zero => exact fails_failure
    | succ k =>
      rw [conjunction]
      exact reads_here.fails fun _ _ => (inversion_fails k).bind
  cases n with
  | zero => exact fails_failure
  | succ k =>
    rw [disjunction]
    exact reads_here.fails fun _ _ => (conjunction_fails k).bind

theorem fails_namedElement (n : Nat) : Fails (namedElement n) (.op "=" :: ls) := by
  have expression_fails (k : Nat) : Fails (expression k) (.op "=" :: ls) := by
    cases k with
    | zero => exact fails_failure
    | succ k =>
      rw [expression]
      refine reads_here.fails fun _ _ => (reads_takes_other (by simp)).fails ?_
      intro a missed
      subst missed
      exact (fails_disjunction k).bind
  have named_fails (k : Nat) : Fails (namedExpression k) (.op "=" :: ls) := by
    cases k with
    | zero => exact fails_failure
    | succ k =>
      rw [namedExpression]
      refine reads_here.fails fun _ _ => (reads_seesNameBefore ":=").fails ?_
      intro a missed
      subst missed
      exact expression_fails k
  cases n with
  | zero => exact fails_failure
  | succ k =>
    rw [namedElement]
    refine (reads_sees _).fails ?_
    intro a missed
    subst missed
    exact named_fails k

/-- A name that other statements start with is an ordinary one in front of an equals sign. -/
theorem fails_matchHead (n : Nat) : Fails (matchHead n) (.soft "match" :: .op "=" :: ls) := by
  rw [matchHead]
  refine reads_expect.fails fun _ _ => reads_here.fails fun _ _ => (reads_sees _).fails ?_
  intro a missed
  subst missed
  exact (fails_namedElement n).bind

/-! ### Lines -/

/-- The lexemes of statements that are read on fuel in proportion to their number. -/
structure Says (ls : List Lexeme) (p : List (Stmt Place) → Prop) : Prop where
  visible : 0 < ls.length
  opens : ls.head? ≠ some .dedent
  reads : ∀ {n : Nat} {rest : List Lexeme}, 32 * ls.length ≤ n →
    Reads (statement n) (ls ++ rest) p rest

theorem Says.imp {p q : List (Stmt Place) → Prop} (h : Says ls p) (weaker : ∀ a, p a → q a) :
    Says ls q := ⟨h.visible, h.opens, fun enough => (h.reads enough).imp weaker⟩

/-- A statement of one line is that line, unless it starts as another statement does. -/
theorem reads_line {q : List (Stmt Place) → Prop} (h : Reads (simpleLine n) (l :: ls) q rest)
    (operand : startsOperand l ∨ l = .keyword "from")
    (ordinary : l ≠ .soft "match" ∨ ls.head? = some (.op "=")) :
    Reads (statement (n + 1)) (l :: ls) q rest := by
  rw [statement]
  refine .from_here fun start => reads_peek.exactly ?_
  rcases operand with operand | rfl
  · cases l with
    | name id => exact h
    | literal marks body => exact h
    | op s => rcases startsOperand_sign operand with rfl | rfl | rfl <;> exact h
    | soft word =>
      by_cases matching : word = "match"
      · subst matching
        obtain ⟨tail, rfl⟩ : ∃ tail, ls = .op "=" :: tail := by
          rcases ordinary with other | sign
          · exact absurd rfl other
          · cases ls with
            | nil => cases sign
            | cons m tail => exact ⟨tail, by simpa using sign⟩
        change Reads (get >>= _) _ _ _
        refine reads_get.bind fun c ahead => ?_
        rw [fails_matchHead n c ahead]
        exact h
      · simp only [List.head?_cons]
        split
        all_goals first | exact h | simp_all
    | _ => cases operand
  · exact h

theorem reads_simpleLine {form : Simple}
    (h : Reads (simple n) ls (·.1 = form) (.newline :: rest)) :
    Reads (simpleLine (n + 1)) ls (fun ss => ∃ place, ss = [.simple place form]) rest := by
  rw [simpleLine]
  refine .from_here fun start => h.bind fun a same => (reads_spanSince start).bind fun span _ => ?_
  obtain ⟨found, body⟩ := a
  obtain rfl : found = form := same
  exact .left (by simp) (.expected (Reads.pure ⟨_, rfl⟩))

/-- No word of another statement stands in front. -/
theorem reads_simple {p : Simple × Option Span → Prop}
    (h : Reads (expressionStatement n) ls p rest) (starts : Starts ls) :
    Reads (simple n) ls p rest := by
  have other (word : String) : ls.head? ≠ some (.keyword word) := starts.other _ rfl
  rw [simple]
  refine .left (other _) (.left (other _) (.left (other _) (.left (other _) ?_)))
  refine .left (other _) (.left (other _) (.left (other _) (.left (other _) ?_)))
  exact .left (other _) (.left (other _) (.left (other _) h))

theorem starts_of_name (named : isName l) : Starts (l :: ls) := by
  cases l with
  | name id => rfl
  | soft id => rfl
  | _ => cases named

theorem reads_target (named : isName l) (enough : 16 ≤ n) :
    Reads (elements n) (l :: .op "=" :: ls) (·.expr = .name (nameText l)) (.op "=" :: ls) := by
  obtain ⟨m, rfl⟩ : ∃ m, n = m + 12 := ⟨n - 12, by omega⟩
  have primary_read : Reads (primary (m + 2)) (l :: .op "=" :: ls)
      (·.expr = .name (nameText l)) (.op "=" :: ls) :=
    reads_primary (reads_name_atom named) stops_equals
  exact reads_elements (reads_expression primary_read (starts_of_name named) stops_equals)
    (starts_of_name named) (by simp)

/-- The right side of an assignment up to the end of its line. -/
structure Assigns (value : List Lexeme) (e : Expr) : Prop where
  starts : Starts value
  reads : ∀ {n : Nat} {rest : List Lexeme}, 32 * value.length ≤ n →
    Reads (elements n) (value ++ .newline :: rest) (·.expr = e) (.newline :: rest)

theorem Writes.assigns (h : Writes value e) : Assigns value e :=
  ⟨h.starts, fun enough => h.elements stops_newline (by simp) enough⟩

theorem assigns_call {a b : Lexeme} (named : isName a ∧ isName b) (h : Writes ls e) :
    Assigns (a :: .op "." :: b :: .op "(" :: (ls ++ [.op ")"]))
      (.call (.attribute (.name (nameText a)) (nameText b)) [e] []) := by
  refine ⟨starts_of_name named.1, ?_⟩
  intro n rest enough
  simp only [List.length_cons, List.length_append, List.length_nil] at enough
  obtain ⟨m, rfl⟩ : ∃ m, n = m + 11 := ⟨n - 11, by omega⟩
  have form : a :: .op "." :: b :: .op "(" :: (ls ++ [.op ")"]) ++ .newline :: rest =
      a :: .op "." :: b :: .op "(" :: (ls ++ .op ")" :: .newline :: rest) := by
    simp
  have starts : Starts (a :: .op "." :: b :: .op "(" :: (ls ++ .op ")" :: .newline :: rest)) :=
    starts_of_name named.1
  have called := @reads_call _ (.newline :: rest) _ (m + 1) _ _ named h stops_newline (by omega)
  rw [form]
  exact reads_elements (reads_expression called starts stops_newline) starts (by simp)

theorem Starts.append (h : Starts ls) (more : List Lexeme) : Starts (ls ++ more) := by
  obtain ⟨l, tail, rfl, operand⟩ := h.cases
  exact operand

theorem says_assignment (named : isName l) (h : Assigns value e) :
    Says (l :: .op "=" :: (value ++ [.newline]))
      (fun ss => ∃ place, ss = [.simple place (.assign [.name (nameText l)] e)]) := by
  refine ⟨by simp, ?_, ?_⟩
  · intro head
    obtain rfl : l = .dedent := by simpa using head
    cases named
  · intro n rest enough
    simp only [List.length_cons, List.length_append, List.length_nil] at enough
    obtain ⟨m, rfl⟩ : ∃ m, n = m + 3 := ⟨n - 3, by omega⟩
    have form : l :: .op "=" :: (value ++ [.newline]) ++ rest =
        l :: .op "=" :: (value ++ .newline :: rest) := by simp
    have starts : Starts (l :: .op "=" :: (value ++ .newline :: rest)) := starts_of_name named
    have given : Reads (assignment (m + 1) [.name (nameText l)]) (value ++ .newline :: rest)
        (·.1 = .assign [.name (nameText l)] e) (.newline :: rest) := by
      rw [assignment]
      have assigned_read : Reads (assigned m) (value ++ .newline :: rest) (·.expr = e)
          (.newline :: rest) :=
        .seen (not_seen ((h.starts.append _).other _ rfl)) (h.reads (by omega))
      refine assigned_read.bind fun x valued => .left (by simp) (Reads.pure ?_)
      rw [valued]
    have whole : Reads (expressionStatement (m + 1)) (l :: .op "=" :: (value ++ .newline :: rest))
        (·.1 = .assign [.name (nameText l)] e) (.newline :: rest) := by
      rw [expressionStatement]
      refine .seen (not_seen (starts.other _ rfl)) ?_
      refine (reads_sees _).bind fun enclosed _ => ?_
      refine (reads_target named (by omega)).bind fun x target => ?_
      refine .left (by simp) (.taken ?_)
      rw [target]
      exact given
    rw [form]
    refine reads_line (reads_simpleLine (reads_simple whole starts)) (.inl ?_) (.inr rfl)
    simpa [Starts] using starts

/-- A line that is an expression. -/
theorem says_expression (h : Writes ls e) :
    Says (ls ++ [.newline]) (fun ss => ∃ place, ss = [.simple place (.expression e)]) := by
  have unnamed := h.unnamed
  obtain ⟨l, tail, rfl, operand⟩ := h.starts.cases
  refine ⟨by simp, ?_, ?_⟩
  · intro head
    obtain rfl : l = .dedent := by simpa using head
    cases operand
  · intro n rest enough
    simp only [List.length_cons, List.length_append, List.length_nil] at enough
    obtain ⟨m, rfl⟩ : ∃ m, n = m + 2 := ⟨n - 2, by omega⟩
    have form : l :: tail ++ [.newline] ++ rest = l :: tail ++ .newline :: rest := by simp
    have starts : Starts (l :: tail ++ .newline :: rest) := operand
    have whole : Reads (expressionStatement m) (l :: tail ++ .newline :: rest)
        (·.1 = .expression e) (.newline :: rest) := by
      rw [expressionStatement]
      refine .seen (not_seen (starts.other _ rfl)) ?_
      refine (reads_sees _).bind fun enclosed _ => ?_
      refine (h.elements stops_newline (by simp) ?_).bind fun x valued => ?_
      · rw [List.length_cons]
        omega
      · refine .left (by simp) (.left (by simp) (reads_peek.exactly ?_))
        exact Reads.pure (by rw [valued])
    rw [form]
    refine reads_line (reads_simpleLine (reads_simple whole starts)) (.inl operand) (.inl ?_)
    rintro rfl
    cases unnamed

/-! ### Imports -/

theorem reads_dottedName {a b : Lexeme} (named : isName a ∧ isName b)
    (ends : ls.head? ≠ some (.op ".")) :
    Reads (dottedName (n + 2)) (a :: .op "." :: b :: ls) (· = nameText a ++ "." ++ nameText b)
      ls := by
  have last : Reads (dottedName (n + 1)) (b :: ls) (· = nameText b) ls := by
    rw [dottedName]
    exact .named named.2 (.left ends (Reads.pure rfl))
  rw [dottedName]
  exact .named named.1 (.taken (last.exactly (Reads.pure rfl)))

theorem name_not_op (named : isName l) (symbol : String) :
    (l :: ls).head? ≠ some (.op symbol) := by
  intro same
  obtain rfl : l = .op symbol := by simpa using same
  cases named

theorem name_not_keyword (named : isName l) (word : String) :
    (l :: ls).head? ≠ some (.keyword word) := (starts_of_name named).other _ rfl

theorem reads_importFrom {a b c : Lexeme} (named : isName a ∧ isName b ∧ isName c) :
    Reads (importFrom (n + 2)) (a :: .op "." :: b :: .keyword "import" :: c :: .newline :: ls)
      (· = .importsFrom 0 (some (nameText a ++ "." ++ nameText b)) [⟨nameText c, none⟩])
      (.newline :: ls) := by
  have no_dots : Reads (leadingDots (n + 2))
      (a :: .op "." :: b :: .keyword "import" :: c :: .newline :: ls) (· = 0)
      (a :: .op "." :: b :: .keyword "import" :: c :: .newline :: ls) := by
    rw [leadingDots]
    exact .left (name_not_op named.1 _) (.left (name_not_op named.1 _) (Reads.pure rfl))
  have one_name : Reads (nameAliases (n + 2) false) (c :: .newline :: ls)
      (· = [⟨nameText c, none⟩]) (.newline :: ls) := by
    have not_renamed : Reads otherName (.newline :: ls) (· = none) (.newline :: ls) :=
      .left (by simp) (Reads.pure rfl)
    rw [nameAliases]
    refine .named named.2.2 (not_renamed.exactly (.left (by simp) (Reads.pure rfl)))
  rw [importFrom]
  refine no_dots.exactly ?_
  refine .seen (not_seen (name_not_keyword named.1 _)) ?_
  change Reads (dottedName (n + 2) >>= _) _ _ _
  refine (reads_dottedName ⟨named.1, named.2.1⟩ (by simp)).exactly ?_
  refine .given (.expected ?_)
  refine .left (name_not_op named.2.2 _) (.left (name_not_op named.2.2 _) ?_)
  exact one_name.exactly (Reads.pure rfl)

theorem says_import {a b c : Lexeme} (named : isName a ∧ isName b ∧ isName c) :
    Says [.keyword "from", a, .op ".", b, .keyword "import", c, .newline]
      (fun ss => ∃ place, ss = [.simple place (.importsFrom 0
        (some (nameText a ++ "." ++ nameText b)) [⟨nameText c, none⟩])]) := by
  refine ⟨by simp, by simp, ?_⟩
  intro n rest enough
  simp only [List.length_cons, List.length_nil] at enough
  obtain ⟨m, rfl⟩ : ∃ m, n = m + 4 := ⟨n - 4, by omega⟩
  refine reads_line (reads_simpleLine ?_) (.inr rfl) (.inl (by simp))
  have other (word : String) (different : word ≠ "from") :
      (Lexeme.keyword "from" :: a :: .op "." :: b :: .keyword "import" :: c :: .newline :: rest).head? ≠
        some (.keyword word) := by
    simp [different.symm]
  rw [simple]
  refine .left (other _ (by decide)) (.left (other _ (by decide)) (.left (other _ (by decide)) ?_))
  refine .left (other _ (by decide)) (.left (other _ (by decide)) (.left (other _ (by decide)) ?_))
  refine .left (other _ (by decide)) (.left (other _ (by decide)) (.left (other _ (by decide)) ?_))
  refine .left (other _ (by decide)) (.taken ?_)
  exact (reads_importFrom named).bind fun x same => Reads.pure same

/-! ### Blocks -/

variable {α : Type} {xs : List α} {lexemes : α → List Lexeme} {shape : α → Stmt Unit}

theorem reads_moreStatements (said : ∀ x ∈ xs, Says (lexemes x) fun ss => shapes ss = [shape x])
    (enough : 32 * (xs.flatMap lexemes).length + 1 ≤ n) :
    Reads (moreStatements n) (xs.flatMap lexemes ++ .dedent :: rest)
      (fun ss => shapes ss = xs.map shape) rest := by
  induction xs generalizing n with
  | nil =>
    obtain ⟨m, rfl⟩ : ∃ m, n = m + 1 := ⟨n - 1, by omega⟩
    rw [moreStatements]
    exact .taken (Reads.pure rfl)
  | cons x xs ih =>
    have this_one := said x (by simp)
    have visible := this_one.visible
    rw [List.flatMap_cons, List.length_append] at enough
    obtain ⟨m, rfl⟩ : ∃ m, n = m + 1 := ⟨n - 1, by omega⟩
    have others := ih (fun other member => said other (List.mem_cons_of_mem x member))
      (n := m) (by omega)
    have not_closed : (lexemes x ++ (xs.flatMap lexemes ++ .dedent :: rest)).head? ≠
        some .dedent := by
      have opens := this_one.opens
      cases form : lexemes x with
      | nil => simp [form] at visible
      | cons l tail => simpa [form] using opens
    rw [List.flatMap_cons, List.append_assoc, moreStatements]
    refine .left not_closed ((this_one.reads (by omega)).bind fun first said_first => ?_)
    refine others.bind fun more said_more => Reads.pure ?_
    rw [shapes_append, said_first, said_more, List.map_cons, List.singleton_append]

/-- A class without bases that holds one statement for each `x`. -/
theorem says_class (named : isName l) (inhabited : xs ≠ [])
    (said : ∀ x ∈ xs, Says (lexemes x) fun ss => shapes ss = [shape x]) :
    Says ([.keyword "class", l, .op ":", .newline, .indent] ++ (xs.flatMap lexemes ++ [.dedent]))
      (fun ss => shapes ss = [.class () ⟨nameText l, [], [], []⟩ (xs.map shape)]) := by
  refine ⟨by simp, by simp, ?_⟩
  intro n rest enough
  cases xs with
  | nil => exact absurd rfl inhabited
  | cons x xs =>
    have this_one := said x (by simp)
    simp only [List.flatMap_cons, List.length_append, List.length_cons, List.length_nil] at enough
    obtain ⟨m, rfl⟩ : ∃ m, n = m + 3 := ⟨n - 3, by omega⟩
    have others : Reads (moreStatements m) (xs.flatMap lexemes ++ .dedent :: rest)
        (fun ss => shapes ss = xs.map shape) rest :=
      reads_moreStatements (fun other member => said other (List.mem_cons_of_mem x member))
        (by omega)
    have body : Reads (block (m + 1))
        (.newline :: .indent :: (lexemes x ++ (xs.flatMap lexemes ++ .dedent :: rest)))
        (fun ss => shapes ss = (x :: xs).map shape) rest := by
      rw [block]
      refine .taken (.expected ((this_one.reads (by omega)).bind fun first said_first => ?_))
      refine others.bind fun more said_more => Reads.pure ?_
      rw [shapes_append, said_first, said_more, List.map_cons, List.singleton_append]
    have form : [.keyword "class", l, .op ":", .newline, .indent] ++
        ((x :: xs).flatMap lexemes ++ [.dedent]) ++ rest =
          .keyword "class" :: l :: .op ":" :: .newline :: .indent ::
            (lexemes x ++ (xs.flatMap lexemes ++ .dedent :: rest)) := by
      simp
    rw [form, statement]
    refine .from_here fun _ => reads_peek.exactly ?_
    change Reads (definition (m + 2) [] >>= _) _ _ _
    refine Reads.bind (p := fun s => s.shape = .class () ⟨nameText l, [], [], []⟩
      ((x :: xs).map shape)) ?_ fun s same => Reads.pure (by rw [shapes_eq_map, List.map_singleton, same])
    rw [definition]
    refine .from_here fun start => .taken (.named named (.left (by simp) (.given ?_)))
    refine .expected (body.bind fun inner held => ?_)
    refine (reads_spanSince start).bind fun _ _ => Reads.pure ?_
    rw [Stmt.shape, held]
    rfl

/-! ### Modules -/

theorem reads_module_end : Reads (module (n + 1)) [] (· = []) [] := by
  rw [module]
  exact reads_peek.exactly (Reads.pure rfl)

theorem Says.then {p q : List (Stmt Place) → Prop} (h : Says ls p)
    (enough : 32 * ls.length ≤ n) (others : Reads (module n) rest q []) :
    Reads (module (n + 1)) (ls ++ rest)
      (fun ss => ∃ first more, ss = first ++ more ∧ p first ∧ q more) [] := by
  have visible := h.visible
  have some_left : ((ls ++ rest).head?).isNone = false := by
    cases ls with
    | nil => cases visible
    | cons l tail => rfl
  rw [module]
  refine reads_peek.exactly ?_
  rw [some_left]
  refine (h.reads enough).bind fun first said => others.bind fun more read => ?_
  exact Reads.pure ⟨first, more, rfl, said, read⟩

end BodyDigest.Indented.Grammar
