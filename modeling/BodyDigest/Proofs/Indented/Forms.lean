import BodyDigest.Proofs.Results
import BodyDigest.Proofs.Indented.Leaves

/-!
Expressions of one form: they differ at most in names, in the values of literals, and in operators
of one strength. Their canonical texts tell them apart.
-/
namespace BodyDigest.Indented

/-! ### Forms -/

/-- Constants of one kind. -/
inductive ConstantForm : Constant → Constant → Prop
  | same (c : Constant) : ConstantForm c c
  | text (t u : Text) (marked marked' : Bool) : ConstantForm (.text t marked) (.text u marked')
  | bytes (as bs : List UInt8) : ConstantForm (.bytes as) (.bytes bs)
  | integer (m n : Nat) : ConstantForm (.integer m) (.integer n)
  | bool (a b : Bool) : ConstantForm (.bool a) (.bool b)

/-- Comparisons that may stand for each other. The text of `is` is the beginning of that of
`is not`, so that what follows would have to tell them apart. -/
def CompareOp.Kin (a b : CompareOp) : Prop := a = b ∨ a ≠ .is ∧ b ≠ .is

section
variable (R : Expr → Expr → Prop)

/-- Items of one form, whose expressions are related. -/
inductive ItemForm : Item → Item → Prop
  | pair {k k' v v' : Expr} (key : R k k') (value : R v v') : ItemForm (.pair k v) (.pair k' v')
  | unpack {v v' : Expr} (value : R v v') : ItemForm (.unpack v) (.unpack v')

inductive ClauseForm : Clause → Clause → Prop
  | mk (async : Bool) {t t' i i' : Expr} {cs cs' : List Expr} (target : R t t')
    (iterable : R i i') (conditions : List.Forall₂ R cs cs') :
    ClauseForm (.mk async t i cs) (.mk async t' i' cs')

inductive ComparisonForm : Comparison → Comparison → Prop
  | mk {op op' : CompareOp} {r r' : Expr} (kin : op.Kin op') (right : R r r') :
    ComparisonForm (.mk op r) (.mk op' r')

inductive KeywordForm : Keyword → Keyword → Prop
  | named {a b : Text} {v v' : Expr} (ha : IsWord a) (hb : IsWord b) (value : R v v') :
    KeywordForm (.mk (some a) v) (.mk (some b) v')
  | unpacked {v v' : Expr} (value : R v v') : KeywordForm (.mk none v) (.mk none v')

inductive ParamForm : Param → Param → Prop
  | mk {a b : Text} {h h' d d' : Option Expr} (ha : IsWord a) (hb : IsWord b)
    (hint : Option.Rel R h h') (default : Option.Rel R d d') : ParamForm (.mk a h d) (.mk b h' d')

inductive ParamsForm : Params → Params → Prop
  | mk {p p' r r' k k' : List Param} {v v' d d' : Option Param}
    (positional : List.Forall₂ (ParamForm R) p p') (regular : List.Forall₂ (ParamForm R) r r')
    (rest : Option.Rel (ParamForm R) v v') (keywordOnly : List.Forall₂ (ParamForm R) k k')
    (keywords : Option.Rel (ParamForm R) d d') : ParamsForm (.mk p r v k d) (.mk p' r' v' k' d')

end

/-- Expressions of one form. Formatted literals are the same in both. -/
inductive ExprForm : Expr → Expr → Prop
  | constant {c d : Constant} (value : ConstantForm c d) : ExprForm (.constant c) (.constant d)
  | name {a b : Text} (ha : IsWord a) (hb : IsWord b) : ExprForm (.name a) (.name b)
  | named {t t' v v' : Expr} (target : ExprForm t t') (value : ExprForm v v') :
    ExprForm (.named t v) (.named t' v')
  | boolean (op : BoolOp) {e e' : Expr} {es es' : List Expr} (first : ExprForm e e')
    (later : List.Forall₂ ExprForm es es') :
    ExprForm (.boolean op (e :: es)) (.boolean op (e' :: es'))
  | binary {l l' r r' : Expr} {op op' : BinaryOp} (left : ExprForm l l')
    (level : op.level = op'.level) (right : ExprForm r r') :
    ExprForm (.binary l op r) (.binary l' op' r')
  | unary {op op' : UnaryOp} {e e' : Expr} (level : op.level = op'.level)
    (operand : ExprForm e e') : ExprForm (.unary op e) (.unary op' e')
  | lambda {ps ps' : Params} {b b' : Expr} (params : ParamsForm ExprForm ps ps')
    (body : ExprForm b b') : ExprForm (.lambda ps b) (.lambda ps' b')
  | conditional {t t' b b' o o' : Expr} (test : ExprForm t t') (body : ExprForm b b')
    (otherwise : ExprForm o o') : ExprForm (.conditional t b o) (.conditional t' b' o')
  | dict {is is' : List Item} (items : List.Forall₂ (ItemForm ExprForm) is is') :
    ExprForm (.dict is) (.dict is')
  | set {es es' : List Expr} (elements : List.Forall₂ ExprForm es es') :
    ExprForm (.set es) (.set es')
  | list {es es' : List Expr} (elements : List.Forall₂ ExprForm es es') :
    ExprForm (.list es) (.list es')
  | tuple {es es' : List Expr} (elements : List.Forall₂ ExprForm es es') :
    ExprForm (.tuple es) (.tuple es')
  | comprehension (enclosure : Enclosure) {e e' : Expr} {cs cs' : List Clause}
    (element : ExprForm e e') (clauses : List.Forall₂ (ClauseForm ExprForm) cs cs') :
    ExprForm (.comprehension enclosure e cs) (.comprehension enclosure e' cs')
  | dictComprehension {k k' v v' : Expr} {cs cs' : List Clause} (key : ExprForm k k')
    (value : ExprForm v v') (clauses : List.Forall₂ (ClauseForm ExprForm) cs cs') :
    ExprForm (.dictComprehension k v cs) (.dictComprehension k' v' cs')
  | await {v v' : Expr} (value : ExprForm v v') : ExprForm (.await v) (.await v')
  | yield {v v' : Option Expr} (value : Option.Rel ExprForm v v') :
    ExprForm (.yield v) (.yield v')
  | yieldFrom {v v' : Expr} (value : ExprForm v v') : ExprForm (.yieldFrom v) (.yieldFrom v')
  | compare {l l' : Expr} {cs cs' : List Comparison} (left : ExprForm l l')
    (rest : List.Forall₂ (ComparisonForm ExprForm) cs cs') :
    ExprForm (.compare l cs) (.compare l' cs')
  | call {f f' : Expr} {es es' : List Expr} {ks ks' : List Keyword} (function : ExprForm f f')
    (arguments : List.Forall₂ ExprForm es es')
    (keywords : List.Forall₂ (KeywordForm ExprForm) ks ks') :
    ExprForm (.call f es ks) (.call f' es' ks')
  | joined (parts : List Part) : ExprForm (.joined parts) (.joined parts)
  | attribute {v v' : Expr} {a b : Text} (value : ExprForm v v') (ha : IsWord a) (hb : IsWord b) :
    ExprForm (.attribute v a) (.attribute v' b)
  | subscript {v v' i i' : Expr} (value : ExprForm v v') (index : ExprForm i i') :
    ExprForm (.subscript v i) (.subscript v' i')
  | slice {l l' u u' s s' : Option Expr} (lower : Option.Rel ExprForm l l')
    (upper : Option.Rel ExprForm u u') (step : Option.Rel ExprForm s s') :
    ExprForm (.slice l u s) (.slice l' u' s')
  | starred {v v' : Expr} (value : ExprForm v v') : ExprForm (.starred v) (.starred v')

/-! ### Operators and constants -/

theorem BinaryOp.sides_of_level {a b : BinaryOp} (level : a.level = b.level) :
    a.leftLevel = b.leftLevel ∧ a.rightLevel = b.rightLevel := by
  cases a <;> cases b <;> first | exact ⟨rfl, rfl⟩ | exact absurd level (by decide)

theorem BinaryOp.symbol_injective {a b : BinaryOp} (same : a.symbol = b.symbol) : a = b := by
  cases a <;> cases b <;> first | rfl | exact absurd same (by decide)

/-- No symbol holds a blank or the sign of an assignment. -/
def closesSymbol (c : CodePoint) : Bool := c = .char ' ' || c = .char '='

theorem BinaryOp.symbol_clear (a : BinaryOp) : ∀ c ∈ a.symbol, !closesSymbol c := by
  cases a <;> decide

variable {P Q : Prop} {t u : Text}

theorem operator_tail {a b : BinaryOp} (h : Piece P t u) {k : Text}
    (closing : k.head?.any closesSymbol) :
    Tail (a = b ∧ P) (" " ++ a.symbol ++ k ++ t) (" " ++ b.symbol ++ k ++ u) := by
  obtain ⟨c, rest, rfl⟩ : ∃ c rest, k = c :: rest := by
    cases k with
    | nil => cases closing
    | cons c rest => exact ⟨c, rest, rfl⟩
  have closes : closesSymbol c = true := by simpa using closing
  have blank : breaks " " := by decide
  refine ⟨?_, ?_, ?_⟩
  · have last := stops_append (solid_iff.mp h.left).2 (" " ++ a.symbol ++ c :: rest)
    exact .inr ⟨by simpa only [List.append_assoc] using breaks_append blank _, last⟩
  · have last := stops_append (solid_iff.mp h.right).2 (" " ++ b.symbol ++ c :: rest)
    exact .inr ⟨by simpa only [List.append_assoc] using breaks_append blank _, last⟩
  · intro r s hr hs same
    simp only [List.append_assoc] at same
    have after := List.append_cancel_left same
    obtain ⟨symbol, later⟩ := beginning_unique a.symbol_clear b.symbol_clear
      (by simp [closes]) (by simp [closes]) after
    obtain ⟨p, rfl⟩ := h.apart r s hr hs (@List.append_cancel_left _ (c :: rest) _ _ later)
    exact ⟨⟨BinaryOp.symbol_injective symbol, p⟩, by rw [symbol]⟩

theorem UnaryOp.symbol_unique {a b : UnaryOp} {x y : Text}
    (same : a.symbol ++ x = b.symbol ++ y) : a = b := by
  have first (op : UnaryOp) (z : Text) : (op.symbol ++ z).take 1 = op.symbol.take 1 := by
    cases op <;> rfl
  have firsts := congrArg (List.take 1) same
  rw [first, first] at firsts
  cases a <;> cases b <;> first | rfl | exact absurd firsts (by decide)

theorem unary_piece {a b : UnaryOp} (h : Piece P t u) :
    Piece (a = b ∧ P) (a.symbol ++ t) (b.symbol ++ u) := by
  have first (op : UnaryOp) : starts op.symbol := by cases op <;> decide
  refine ⟨(h.lead (first a)).left, (h.lead (first b)).right, ?_⟩
  intro r s hr hs same
  rw [List.append_assoc, List.append_assoc] at same
  obtain rfl := UnaryOp.symbol_unique same
  obtain ⟨p, whole⟩ := h.apart r s hr hs (List.append_cancel_left same)
  exact ⟨⟨rfl, p⟩, congrArg _ whole⟩

theorem CompareOp.symbol_unique {a b : CompareOp} (kin : a.Kin b) {x y : Text}
    (same : a.symbol ++ x = b.symbol ++ y) : a = b := by
  have first (op : CompareOp) (z : Text) : (op.symbol ++ z).take 3 = op.symbol.take 3 := by
    cases op <;> rfl
  have firsts := congrArg (List.take 3) same
  rw [first, first] at firsts
  cases a <;> cases b <;>
    first | rfl | exact absurd firsts (by decide) | simp [CompareOp.Kin] at kin

theorem comparison_tail {a b : CompareOp} (kin : a.Kin b) (h : Piece P t u) :
    Tail (a = b ∧ P) (a.symbol ++ t) (b.symbol ++ u) := by
  have first (op : CompareOp) : breaks op.symbol := by cases op <;> decide
  refine ⟨(h.after (first a)).left, (h.after (first b)).right, ?_⟩
  intro r s hr hs same
  rw [List.append_assoc, List.append_assoc] at same
  obtain rfl := CompareOp.symbol_unique kin same
  obtain ⟨p, whole⟩ := h.apart r s hr hs (List.append_cancel_left same)
  exact ⟨⟨rfl, p⟩, congrArg _ whole⟩

namespace Render

/-- No quote is a mark. -/
theorem marked_unique {a b r s : Text}
    (same : mark true ++ Text.quoted a ++ r = mark false ++ Text.quoted b ++ s) : False := by
  obtain ⟨q, chosen, quote⟩ := quoteFor_quote b
  have first : some (CodePoint.char 'u') = some (Text.quoteFor b) := congrArg List.head? same
  rw [chosen] at first
  rcases quote with rfl | rfl <;> exact absurd first (by decide)

theorem marked_piece (a b : Text) (m n : Bool) :
    Piece (m = n ∧ a = b) (mark m ++ Text.quoted a) (mark n ++ Text.quoted b) := by
  refine ⟨mark_solid (quoted_solid a) m, mark_solid (quoted_solid b) n, ?_⟩
  intro r s hr hs same
  cases m <;> cases n
  · exact ((quoted_piece a b).apart.lead (mark false)).imp (fun p => ⟨rfl, p⟩) r s hr hs same
  · exact (marked_unique same.symm).elim
  · exact (marked_unique same).elim
  · exact ((quoted_piece a b).apart.lead (mark true)).imp (fun p => ⟨rfl, p⟩) r s hr hs same

theorem bool_word {b : Bool} {t : Text} (h : constant false (.bool b) = .ok t) : IsWord t := by
  cases b with
  | false | true =>
    cases h
    exact ⟨by decide, by decide⟩

theorem constant_solid {c : Constant} {t : Text} (h : constant false c = .ok t) : Solid t := by
  cases c with
  | null | ellipsis =>
    cases h
    rw [solid_iff]
    decide
  | bool b => exact (bool_word h).solid
  | integer n =>
    simp only [constant] at h
    split at h
    · cases h
    · cases h
      exact (isWord_digits n).solid
  | real x =>
    cases h
    exact x.render_solid _
  | imaginary x =>
    cases h
    have suffix : Solid "j" := solid_iff.mpr (by decide)
    simpa using (x.render_solid .plain).append suffix []
  | text a marked =>
    cases h
    exact (marked_piece a a marked marked).left
  | bytes octets =>
    cases h
    exact bytesLiteral_solid octets

theorem constant_piece {c d : Constant} (form : ConstantForm c d) :
    Both (Piece (c = d)) (constant false c) (constant false d) := by
  intro a b left right
  cases form with
  | same =>
    obtain rfl := Except.ok.inj (left.symm.trans right)
    exact .same rfl (constant_solid left)
  | text t u marked marked' =>
    cases left
    cases right
    exact (marked_piece t u marked marked').imp fun ⟨m, n⟩ => by rw [m, n]
  | bytes as bs =>
    cases left
    cases right
    exact (bytesLiteral_piece as bs).imp (by rintro rfl; rfl)
  | integer m n =>
    simp only [constant] at left right
    split at left
    · cases left
    · split at right
      · cases right
      · cases left
        cases right
        exact ((isWord_digits m).piece (isWord_digits n)).imp fun same => by
          rw [digits_injective same]
  | bool x y =>
    refine ((bool_word left).piece (bool_word right)).imp ?_
    rintro rfl
    cases x <;> cases y <;> first | rfl | exact absurd (left.trans right.symm) (by decide)

end Render

end BodyDigest.Indented
