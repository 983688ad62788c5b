import BodyDigest.Proofs.Indented.Moving

/-!
Where expressions are said to stand. A reader of expressions makes up no places: it gives those where a
token that it gets past starts or ends.
-/
namespace BodyDigest.Indented.Grammar

/-- A place that a cursor comes upon on its way: the end of the last token or the start of the next. -/
def Passed (c d : Cursor) (p : Pos) : Prop :=
  ∃ m, Moves c m ∧ Moves m d ∧ (p = m.last ∨ ∃ t ∈ m.ahead.head?, p = t.span.start)

/-- An expression all of whose places have a property. -/
structure Located.Holds (P : Pos → Prop) (e : Located) : Prop where
  start : P e.span.start
  stop : P e.span.stop
  body : ∀ s ∈ e.body, P s.start ∧ P s.stop

/-- Where `given` holds, a value of the reader has a property if all places on the way have `P`. -/
structure Keeps {α : Type} (P : Pos → Prop) (given : Prop) (good : α → Prop) (r : Reader α) : Prop where
  advances : Advances r
  value : given → ∀ {c d : Cursor} {a : α}, r c = some (a, d) → (∀ p, Passed c d p → P p) → good a

namespace Keeps

variable {P : Pos → Prop} {given : Prop} {α β : Type} {r : Reader α} {f : α → Reader β}
variable {good : α → Prop} {good' : β → Prop}

theorem bind (h : Keeps P given good r) (later : ∀ a, Keeps P (given ∧ good a) good' (f a)) :
    Keeps P given good' (r >>= f) where
  advances := by
    have := h.advances
    have := fun a => (later a).advances
    infer_instance
  value known c d b read inside := by
    obtain ⟨a, m, first, second⟩ := bind_eq_some_iff.mp read
    have before := h.advances.moves first
    have behind := (later a).advances.moves second
    have here : good a := h.value known first fun p ⟨m', from_c, to_m, at_m'⟩ =>
      inside p ⟨m', from_c, to_m.trans behind, at_m'⟩
    exact (later a).value ⟨known, here⟩ second fun p ⟨m', from_m, to_d, at_m'⟩ =>
      inside p ⟨m', before.trans from_m, to_d, at_m'⟩

theorem weaken {given' : Prop} (h : Keeps P given' good r) (known : given → given') : Keeps P given good r :=
  ⟨h.advances, fun holds => h.value (known holds)⟩

theorem next (h : Keeps P True good r) (later : ∀ a, Keeps P (given ∧ good a) good' (f a)) :
    Keeps P given good' (r >>= f) := (h.weaken fun _ => trivial).bind later

theorem skip [Advances r] (later : ∀ a, Keeps P given good' (f a)) : Keeps P given good' (r >>= f) := by
  have anything : Keeps P True (fun _ => True) r := ⟨inferInstance, fun _ _ _ _ _ _ => trivial⟩
  exact anything.next fun a => (later a).weaken And.left

theorem pure {a : α} (h : given → good a) : Keeps P given good (Pure.pure a) where
  advances := inferInstance
  value known := by
    rintro c d b ⟨⟩ -
    exact h known

theorem failure : Keeps P given good (failure : Reader α) where
  advances := inferInstance
  value known := by rintro c d a ⟨⟩

theorem here : Keeps P True P here where
  advances := inferInstance
  value _ := by
    rintro ⟨ahead, last⟩ d p read inside
    cases read
    refine inside _ ⟨_, .refl _, .refl _, ?_⟩
    cases ahead with
    | nil => exact .inl rfl
    | cons t rest => exact .inr ⟨t, rfl, rfl⟩

theorem from_here {f : Pos → Reader β} (later : ∀ start, Keeps P (given ∧ P start) good' (f start)) :
    Keeps P given good' (Grammar.here >>= f) := here.next later

theorem behind : Keeps P True P behind where
  advances := inferInstance
  value _ := by
    rintro c _ _ ⟨⟩ inside
    exact inside _ ⟨_, .refl _, .refl _, .inl rfl⟩

theorem since {start : Pos} {e : Expr} (h : given → P start) :
    Keeps P given (Located.Holds P) (since start e) :=
  behind.next fun stop => .pure fun known => ⟨h known.1, known.2, by rintro s ⟨⟩⟩

end Keeps

variable {P : Pos → Prop}

/-- The places of all that the readers of expressions give on so much fuel. -/
structure Placing (P : Pos → Prop) (n : Nat) : Prop where
  elements : Keeps P True (Located.Holds P) (elements n)
  element : Keeps P True (Located.Holds P) (element n)
  namedElement : Keeps P True (Located.Holds P) (namedElement n)
  namedExpression : Keeps P True (Located.Holds P) (namedExpression n)
  expression : Keeps P True (Located.Holds P) (expression n)
  yieldExpression : Keeps P True (Located.Holds P) (yieldExpression n)
  disjunction : Keeps P True (Located.Holds P) (disjunction n)
  conjunction : Keeps P True (Located.Holds P) (conjunction n)
  inversion : Keeps P True (Located.Holds P) (inversion n)
  comparison : Keeps P True (Located.Holds P) (comparison n)
  binary (level : Level) : Keeps P True (Located.Holds P) (binary n level)
  moreBinary (level : Level) (start : Pos) (left : Located) :
    Keeps P (P start ∧ left.Holds P) (Located.Holds P) (moreBinary n level start left)
  factor : Keeps P True (Located.Holds P) (factor n)
  awaited : Keeps P True (Located.Holds P) (awaited n)
  primary : Keeps P True (Located.Holds P) (primary n)
  trailers (start : Pos) (e : Located) :
    Keeps P (P start ∧ e.Holds P) (Located.Holds P) (trailers n start e)
  atom : Keeps P True (Located.Holds P) (atom n)
  parenthesized (start : Pos) : Keeps P (P start) (Located.Holds P) (parenthesized n start)
  bracketed (start : Pos) : Keeps P (P start) (Located.Holds P) (bracketed n start)
  braced (start : Pos) : Keeps P (P start) (Located.Holds P) (braced n start)
  literals : Keeps P True (Located.Holds P) (literals n)

section

/-! One lemma for each reader, from those on less fuel. -/

variable {n : Nat}

theorem placed_elements (ih : Placing P n) : Keeps P True (Located.Holds P) (elements (n + 1)) := by
  rw [elements]
  refine .from_here fun start => .next ih.element fun first => .skip fun comma => ?_
  split
  · exact .skip fun rest => .since fun known => known.1.2
  · exact .pure fun known => known.2

theorem placed_element (ih : Placing P n) : Keeps P True (Located.Holds P) (element (n + 1)) := by
  rw [element]
  refine .from_here fun start => .skip fun star => ?_
  split
  · exact .skip fun e => .since fun known => known.2
  · exact ih.expression.weaken fun _ => trivial

theorem placed_namedElement (ih : Placing P n) :
    Keeps P True (Located.Holds P) (namedElement (n + 1)) := by
  rw [namedElement]
  refine .skip fun star => ?_
  split
  · exact ih.element
  · exact ih.namedExpression

theorem placed_namedExpression (ih : Placing P n) :
    Keeps P True (Located.Holds P) (namedExpression (n + 1)) := by
  rw [namedExpression]
  refine .from_here fun start => .skip fun named => ?_
  split
  · exact .skip fun id => .skip fun _ => .skip fun e => .since fun known => known.2
  · exact ih.expression.weaken fun _ => trivial

theorem placed_expression (ih : Placing P n) :
    Keeps P True (Located.Holds P) (expression (n + 1)) := by
  rw [expression]
  refine .from_here fun start => .skip fun lambda => ?_
  split
  · refine .skip fun ps => .skip fun _ => .next ih.expression fun body => ?_
    refine .bind (.since fun known => known.1.2) fun whole => .pure fun known => ?_
    refine ⟨known.2.start, known.2.stop, ?_⟩
    rintro s ⟨⟩
    exact ⟨known.1.2.start, known.1.2.stop⟩
  · refine .next ih.disjunction fun body => .skip fun conditional => ?_
    split
    · exact .skip fun test => .skip fun _ => .skip fun otherwise => .since fun known => known.1.2
    · exact .pure fun known => known.2

theorem placed_yieldExpression : Keeps P True (Located.Holds P) (yieldExpression (n + 1)) := by
  rw [yieldExpression]
  refine .from_here fun start => .skip fun _ => .skip fun delegates => ?_
  split
  · exact .skip fun e => .since fun known => known.2
  · refine .skip fun valued => ?_
    split
    · exact .skip fun e => .since fun known => known.2
    · exact .since fun known => known.2

theorem placed_disjunction (ih : Placing P n) :
    Keeps P True (Located.Holds P) (disjunction (n + 1)) := by
  rw [disjunction]
  refine .from_here fun start => .next ih.conjunction fun first => .skip fun more => ?_
  split
  · exact .pure fun known => known.2
  · exact .since fun known => known.1.2

theorem placed_conjunction (ih : Placing P n) :
    Keeps P True (Located.Holds P) (conjunction (n + 1)) := by
  rw [conjunction]
  refine .from_here fun start => .next ih.inversion fun first => .skip fun more => ?_
  split
  · exact .pure fun known => known.2
  · exact .since fun known => known.1.2

theorem placed_inversion (ih : Placing P n) :
    Keeps P True (Located.Holds P) (inversion (n + 1)) := by
  rw [inversion]
  refine .from_here fun start => .skip fun negated => ?_
  split
  · exact .skip fun e => .since fun known => known.2
  · exact ih.comparison.weaken fun _ => trivial

theorem placed_comparison (ih : Placing P n) :
    Keeps P True (Located.Holds P) (comparison (n + 1)) := by
  rw [comparison]
  refine .from_here fun start => .next (ih.binary _) fun left => .skip fun more => ?_
  split
  · exact .pure fun known => known.2
  · exact .since fun known => known.1.2

theorem placed_binary (ih : Placing P n) (level : Level) :
    Keeps P True (Located.Holds P) (binary (n + 1) level) := by
  rw [binary]
  refine .from_here fun start => .next ih.factor fun left => ?_
  exact (ih.moreBinary level start left).weaken fun known => ⟨known.1.2, known.2⟩

theorem placed_moreBinary (ih : Placing P n) (level : Level) (start : Pos) (left : Located) :
    Keeps P (P start ∧ left.Holds P) (Located.Holds P) (moreBinary (n + 1) level start left) := by
  rw [moreBinary]
  refine .skip fun op => ?_
  split
  · exact .pure fun known => known.2
  · refine .skip fun _ => .skip fun right => .bind (.since fun known => known.1) fun whole => ?_
    exact (ih.moreBinary level start whole).weaken fun known => ⟨known.1.1, known.2⟩

theorem placed_factor (ih : Placing P n) : Keeps P True (Located.Holds P) (factor (n + 1)) := by
  rw [factor]
  refine .from_here fun start => .skip fun next => ?_
  split
  · exact .skip fun _ => .skip fun e => .since fun known => known.2
  · refine .next ih.awaited fun base => .skip fun power => ?_
    split
    · exact .skip fun e => .since fun known => known.1.2
    · exact .pure fun known => known.2

theorem placed_awaited (ih : Placing P n) : Keeps P True (Located.Holds P) (awaited (n + 1)) := by
  rw [awaited]
  refine .from_here fun start => .skip fun waits => ?_
  split
  · exact .skip fun e => .since fun known => known.2
  · exact ih.primary.weaken fun _ => trivial

theorem placed_primary (ih : Placing P n) : Keeps P True (Located.Holds P) (primary (n + 1)) := by
  rw [primary]
  refine .from_here fun start => .next ih.atom fun a => ?_
  exact (ih.trailers start a).weaken fun known => ⟨known.1.2, known.2⟩

theorem placed_trailers (ih : Placing P n) (start : Pos) (e : Located) :
    Keeps P (P start ∧ e.Holds P) (Located.Holds P) (trailers (n + 1) start e) := by
  rw [trailers]
  have more (e' : Located) : Keeps P ((P start ∧ e.Holds P) ∧ e'.Holds P) (Located.Holds P)
      (trailers n start e') :=
    (ih.trailers start e').weaken fun known => ⟨known.1.1, known.2⟩
  refine .skip fun point => ?_
  split
  · exact .skip fun id => .bind (.since fun known => known.1) more
  · refine .skip fun call => ?_
    split
    · exact .skip fun arguments => .bind (.since fun known => known.1) more
    · refine .skip fun subscript => ?_
      split
      · exact .skip fun index => .skip fun _ => .bind (.since fun known => known.1) more
      · exact .pure fun known => known.2

theorem placed_atom (ih : Placing P n) : Keeps P True (Located.Holds P) (atom (n + 1)) := by
  rw [atom]
  refine .from_here fun start => .skip fun next => ?_
  split
  · exact ih.literals.weaken fun _ => trivial
  · refine .skip fun l => ?_
    split
    case h_10 => exact (ih.parenthesized start).weaken fun known => known.2
    case h_11 => exact (ih.bracketed start).weaken fun known => known.2
    case h_12 => exact (ih.braced start).weaken fun known => known.2
    case h_13 => exact .failure
    all_goals exact .since fun known => known.2

theorem placed_parenthesized (ih : Placing P n) (start : Pos) :
    Keeps P (P start) (Located.Holds P) (parenthesized (n + 1) start) := by
  rw [parenthesized]
  refine .skip fun empty => ?_
  split
  · exact .since id
  · refine .skip fun yields => ?_
    split
    · exact .next ih.yieldExpression fun e => .skip fun _ => .pure fun known => known.2
    · refine .skip fun starred => .next ih.namedElement fun first => .skip fun comma => ?_
      split
      · exact .skip fun rest => .skip fun _ => .since fun known => known.1
      · split
        · exact .failure
        · refine .skip fun loop => .skip fun async => ?_
          split
          · exact .skip fun cs => .skip fun _ => .since fun known => known.1
          · exact .skip fun _ => .pure fun known => known.2

theorem placed_bracketed (start : Pos) :
    Keeps P (P start) (Located.Holds P) (bracketed (n + 1) start) := by
  rw [bracketed]
  refine .skip fun empty => ?_
  split
  · exact .since id
  · refine .skip fun starred => .skip fun first => .skip fun loop => .skip fun async => ?_
    split
    · exact .skip fun cs => .skip fun _ => .since id
    · exact .skip fun rest => .skip fun _ => .since id

theorem placed_braced (start : Pos) :
    Keeps P (P start) (Located.Holds P) (braced (n + 1) start) := by
  rw [braced]
  refine .skip fun empty => ?_
  split
  · exact .since id
  · refine .skip fun unpacks => ?_
    split
    · exact .skip fun all => .skip fun _ => .since id
    · refine .skip fun star => .skip fun named => .skip fun starred => .skip fun first =>
        .skip fun colon => ?_
      split
      · refine .skip fun _ => .skip fun value => .skip fun loop => .skip fun async => ?_
        split
        · exact .skip fun cs => .skip fun _ => .since id
        · exact .skip fun rest => .skip fun _ => .since id
      · refine .skip fun loop => .skip fun async => ?_
        split
        · exact .skip fun cs => .skip fun _ => .since id
        · exact .skip fun rest => .skip fun _ => .since id

theorem placed_literals : Keeps P True (Located.Holds P) (literals (n + 1)) := by
  rw [literals]
  refine .from_here fun start => .skip fun c => .skip fun _ => ?_
  dsimp only
  split
  · split
    · exact .since fun known => known.2
    · exact .failure
  · split
    · exact .failure
    · refine .skip fun parts => ?_
      split
      · exact .since fun known => known.2
      · split <;> exact .since fun known => known.2

end

theorem placing (P : Pos → Prop) (n : Nat) : Placing P n := by
  induction n with
  | zero => constructor <;> intros <;> exact .failure
  | succ n ih =>
    exact {
      elements := placed_elements ih
      element := placed_element ih
      namedElement := placed_namedElement ih
      namedExpression := placed_namedExpression ih
      expression := placed_expression ih
      yieldExpression := placed_yieldExpression
      disjunction := placed_disjunction ih
      conjunction := placed_conjunction ih
      inversion := placed_inversion ih
      comparison := placed_comparison ih
      binary := placed_binary ih
      moreBinary := placed_moreBinary ih
      factor := placed_factor ih
      awaited := placed_awaited ih
      primary := placed_primary ih
      trailers := placed_trailers ih
      atom := placed_atom ih
      parenthesized := placed_parenthesized ih
      bracketed := placed_bracketed
      braced := placed_braced
      literals := placed_literals }

end BodyDigest.Indented.Grammar
