import BodyDigest.Indented.Source

/-!
What the readers of the grammar take from the lexemes ahead. The places of tokens are left open.
-/
namespace BodyDigest.Indented.Grammar

/-- With the lexemes `ls` ahead the reader has a value with `p`, and leaves `rest` ahead. -/
def Reads {α : Type} (r : Reader α) (ls : List Lexeme) (p : α → Prop) (rest : List Lexeme) : Prop :=
  ∀ c : Cursor, c.ahead.map Token.lexeme = ls →
    ∃ a d, r c = some (a, d) ∧ p a ∧ d.ahead.map Token.lexeme = rest

section

variable {α β : Type} {r : Reader α} {f : α → Reader β} {p : α → Prop} {q : β → Prop}
variable {ls mid rest : List Lexeme} {l : Lexeme}

theorem Reads.bind (h : Reads r ls p mid) (h' : ∀ a, p a → Reads (f a) mid q rest) :
    Reads (r >>= f) ls q rest := by
  intro c ahead
  obtain ⟨a, d, first, value, between⟩ := h c ahead
  obtain ⟨b, e, second, value', after⟩ := h' a value d between
  refine ⟨b, e, ?_, value', after⟩
  change (r c).bind (fun x => f x.1 x.2) = some (b, e)
  rw [first]
  exact second

theorem Reads.exactly {a : α} (h : Reads r ls (· = a) mid) (h' : Reads (f a) mid q rest) :
    Reads (r >>= f) ls q rest := by
  refine h.bind ?_
  intro b same
  rw [same]
  exact h'

theorem Reads.pure {a : α} (h : p a) : Reads (Pure.pure a) ls p ls := by
  intro c ahead
  exact ⟨a, c, rfl, h, ahead⟩

theorem Reads.given {a : α} (h : Reads (f a) ls q rest) :
    Reads (Pure.pure a >>= f) ls q rest := Reads.exactly (Reads.pure rfl) h

theorem Reads.imp {p' : α → Prop} (h : Reads r ls p rest) (weaker : ∀ a, p a → p' a) :
    Reads r ls p' rest := by
  intro c ahead
  obtain ⟨a, d, result, value, after⟩ := h c ahead
  exact ⟨a, d, result, weaker a value, after⟩

theorem reads_get : Reads get ls (fun c => c.ahead.map Token.lexeme = ls) ls := by
  intro c ahead
  exact ⟨c, c, rfl, ahead, ahead⟩

theorem reads_here : Reads here ls (fun _ => True) ls := by
  intro c ahead
  exact ⟨_, c, rfl, trivial, ahead⟩

theorem reads_behind : Reads behind ls (fun _ => True) ls := by
  intro c ahead
  exact ⟨_, c, rfl, trivial, ahead⟩

theorem reads_peek : Reads peek ls (· = ls.head?) ls := by
  intro c ahead
  refine ⟨_, c, rfl, ?_, ahead⟩
  rw [← ahead, List.head?_map]

theorem reads_peekSecond : Reads peekSecond ls (· = (ls.drop 1).head?) ls := by
  intro c ahead
  refine ⟨_, c, rfl, ?_, ahead⟩
  rw [← ahead, ← List.map_drop, List.head?_map]

theorem reads_advance : Reads advance (l :: ls) (· = l) ls := by
  intro c ahead
  obtain ⟨tokens, last⟩ := c
  cases tokens with
  | nil => simp at ahead
  | cons t ts =>
    obtain ⟨rfl, rfl⟩ : t.lexeme = l ∧ ts.map Token.lexeme = ls := by simpa using ahead
    exact ⟨_, _, rfl, rfl, rfl⟩

theorem reads_sees (l : Lexeme) : Reads (sees l) ls (· = (ls.head? == some l)) ls := by
  refine reads_peek.bind ?_
  intro a head
  exact Reads.pure (by rw [head])

theorem reads_takes : Reads (takes l) (l :: ls) (· = true) ls := by
  refine (reads_sees l).bind ?_
  intro a seen
  have found : a = true := by simpa using seen
  rw [if_pos found]
  exact reads_advance.bind fun _ _ => Reads.pure rfl

theorem reads_takes_other (other : ls.head? ≠ some l) : Reads (takes l) ls (· = false) ls := by
  refine (reads_sees l).bind ?_
  intro a seen
  have missed : a = false := by rw [seen, beq_eq_false_iff_ne]; exact other
  rw [if_neg (by simp [missed])]
  exact Reads.pure rfl

theorem reads_expect : Reads (expect l) (l :: ls) (fun _ => True) ls := by
  refine reads_takes.exactly ?_
  exact Reads.pure trivial

/-- The text of a name. -/
def nameText : Lexeme → Text
  | .name id | .soft id => Text.ofString id
  | _ => []

theorem reads_name (named : isName l) : Reads name (l :: ls) (· = nameText l) ls := by
  refine reads_advance.bind ?_
  intro a taken
  subst taken
  cases a with
  | name id => exact Reads.pure rfl
  | soft id => exact Reads.pure rfl
  | _ => cases named

theorem reads_seesNameBefore (symbol : String) : Reads (seesNameBefore symbol) ls
    (· = (ls.head?.any isName && (ls.drop 1).head? == some (.op symbol))) ls := by
  refine reads_peek.exactly ?_
  refine reads_peekSecond.exactly ?_
  exact Reads.pure rfl

theorem reads_seesExpression :
    Reads seesExpression ls (· = ls.head?.any startsExpression) ls := by
  refine reads_peek.exactly ?_
  exact Reads.pure rfl

theorem reads_seesElement : Reads seesElement ls
    (· = (ls.head?.any startsExpression || ls.head? == some (.op "*"))) ls := by
  refine reads_seesExpression.exactly ?_
  refine (reads_sees _).exactly ?_
  exact Reads.pure rfl

theorem reads_since (start : Pos) (e : Expr) : Reads (since start e) ls (·.expr = e) ls :=
  reads_behind.bind fun _ _ => Reads.pure rfl

theorem reads_spanSince (start : Pos) : Reads (spanSince start) ls (fun _ => True) ls :=
  reads_behind.bind fun _ _ => Reads.pure trivial

/-! ### What comes next in a reader -/

theorem Reads.from_here {f : Pos → Reader β} (h : ∀ start, Reads (f start) ls q rest) :
    Reads (here >>= f) ls q rest := reads_here.bind fun start _ => h start

theorem Reads.seen {f : Bool → Reader β} {b : Bool} (head : (ls.head? == some l) = b)
    (h : Reads (f b) ls q rest) : Reads (sees l >>= f) ls q rest := by
  refine (reads_sees l).exactly ?_
  rwa [head]

theorem Reads.taken {f : Bool → Reader β} (h : Reads (f true) ls q rest) :
    Reads (takes l >>= f) (l :: ls) q rest := by
  refine reads_takes.exactly ?_
  exact h

theorem Reads.left {f : Bool → Reader β} (other : ls.head? ≠ some l)
    (h : Reads (f false) ls q rest) : Reads (takes l >>= f) ls q rest := by
  refine (reads_takes_other other).exactly ?_
  exact h

theorem Reads.expected {f : Unit → Reader β} (h : Reads (f ()) ls q rest) :
    Reads (expect l >>= f) (l :: ls) q rest := reads_expect.bind fun _ _ => h

theorem Reads.named {f : Text → Reader β} (name_next : isName l)
    (h : Reads (f (nameText l)) ls q rest) : Reads (name >>= f) (l :: ls) q rest := by
  refine (reads_name name_next).exactly ?_
  exact h

/-- What reads one expression and goes on with it. -/
theorem Reads.located {g : Reader Located} {f : Located → Reader β} {e : Expr}
    (h : Reads g ls (·.expr = e) mid) (h' : ∀ x : Located, x.expr = e → Reads (f x) mid q rest) :
    Reads (g >>= f) ls q rest := h.bind h'

end

end BodyDigest.Indented.Grammar
