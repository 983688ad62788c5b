import BodyDigest.Proofs.Indented.Forms

/-!
The canonical texts of expressions of one form tell them apart: what is written for each part is
known from the part alone, and what stands between parts is the same in both.
-/
namespace BodyDigest.Indented.Render

variable {P Q R : Prop} {t u v w : Text} {ts us vs ws : List Text}

/-! ### Layout -/

theorem parenthesized_piece (h : Apart P t u) : Piece P (parenthesized t) (parenthesized u) :=
  h.enclosed (k := [.char ')']) (o := [.char '(']) rfl rfl rfl

theorem bracketed_piece (h : Apart P t u) : Piece P (bracketed t) (bracketed u) :=
  h.enclosed (k := [.char ']']) (o := [.char '[']) rfl rfl rfl

theorem braced_piece (h : Apart P t u) : Piece P (braced t) (braced u) :=
  h.enclosed (k := [.char '\x7d']) (o := [.char '\x7b']) rfl rfl rfl

theorem around_piece (enclosure : Enclosure) (h : Apart P t u) :
    Piece P (around enclosure t) (around enclosure u) := by
  cases enclosure with
  | list => exact bracketed_piece h
  | set => exact braced_piece h
  | generator => exact parenthesized_piece h

theorem parenthesizedIf_piece (condition : Bool) (h : Piece P t u) :
    Piece P (parenthesizedIf condition t) (parenthesizedIf condition u) := by
  cases condition with
  | false => exact h
  | true => exact parenthesized_piece h.apart

theorem commaSeparated_apart (h : Pieces P ts us) :
    Apart P (commaSeparated ts) (commaSeparated us) :=
  h.join rfl

theorem tupleElements_piece (first : Piece P t u) (later : Pieces Q ts us) :
    Piece (P ∧ Q) (tupleElements (t :: ts)) (tupleElements (u :: us)) := by
  cases later with
  | nil q =>
    have comma : Tail True "," "," := .same True.intro rfl rfl
    exact (first.append comma).imp fun both => ⟨both.1, q⟩
  | cons second rest whole =>
    exact Pieces.join_cons first (.cons second rest whole) rfl

/-- A text that may be left out. -/
inductive Maybe : Prop → Option Text → Option Text → Prop
  | none {P : Prop} (p : P) : Maybe P none none
  | some {P : Prop} {t u : Text} (h : Piece P t u) : Maybe P (some t) (some u)

variable {a b : Option Text}

theorem prefixed_tail (h : Maybe P a b) {k : Text} (first : breaks k) :
    Tail P (prefixed k a) (prefixed k b) := by
  cases h with
  | none p => exact .nil p
  | some one => exact one.after first

theorem colon_tail (h : Maybe P a b) : Tail P (":" ++ a.getD []) (":" ++ b.getD []) := by
  have first : breaks ":" := rfl
  cases h with
  | none p => exact .same p first rfl
  | some one => exact one.after first

/-- A text that may be left out, before one that may not. -/
theorem default_piece (h : Maybe P a b) (later : Tail Q v w) (left : starts v)
    (right : starts w) : Piece (P ∧ Q) (a.getD [] ++ v) (b.getD [] ++ w) := by
  have solid {x : Text} (first : starts x) (tail : IsTail x) : Solid x := by
    rcases tail with rfl | ⟨_, last⟩
    · cases first
    · exact solid_iff.mpr ⟨first, last⟩
  cases h with
  | none p =>
    have alone : Piece Q v w := ⟨solid left later.left, solid right later.right, later.apart⟩
    exact alone.imp fun q => ⟨p, q⟩
  | some one => exact one.append later

theorem isEmpty_pieces (h : Pieces P ts us) : ts.isEmpty = us.isEmpty := by
  cases h <;> rfl

theorem join_isEmpty (h : Pieces P ts us) (k : Text) :
    (Text.join k ts).isEmpty = (Text.join k us).isEmpty := by
  cases h with
  | nil => rfl
  | cons first later whole =>
    have left := first.left.ne_nil
    have right := first.right.ne_nil
    rw [join_cons, join_cons, Bool.eq_iff_iff]
    simp [left, right]

theorem mark_pieces {k : Text} (solid : Solid k) (absent : Bool) :
    Pieces True (if absent then [] else [k]) (if absent then [] else [k]) := by
  cases absent with
  | false => exact .single (.same True.intro solid)
  | true => exact .nil True.intro

/-- A parameter behind `k`, or what stands in its place. -/
theorem optional_pieces {k : Text} (first : starts k) (instead : Pieces True ts us) :
    Maybe P a b → Pieces P (match a with | some r => [k ++ r] | none => ts)
      (match b with | some r => [k ++ r] | none => us) := by
  intro h
  cases h with
  | none p => exact instead.imp fun _ => p
  | some one => exact .single (one.lead first)

theorem parameters_apart {p p' r r' k k' : List Text} {v v' d d' : Option Text}
    {P Q R S T : Prop} (positional : Pieces P p p') (regular : Pieces Q r r') (rest : Maybe R v v')
    (keywordOnly : Pieces S k k') (keywords : Maybe T d d') :
    Apart (P ∧ Q ∧ R ∧ S ∧ T) (parameters p r v k d) (parameters p' r' v' k' d') ∧
      (parameters p r v k d).isEmpty = (parameters p' r' v' k' d').isEmpty := by
  have solid_slash : Solid "/" := solid_iff.mpr ⟨rfl, rfl⟩
  have solid_star : Solid "*" := solid_iff.mpr ⟨rfl, rfl⟩
  have slash := mark_pieces solid_slash p.isEmpty
  have lone := mark_pieces solid_star k.isEmpty
  have star := optional_pieces (k := [.char '*']) rfl lone rest
  have double := optional_pieces (k := "**") rfl (.nil True.intro) keywords
  have all := ((((positional.append slash).append regular).append star).append keywordOnly).append
    double
  have whole : Pieces (P ∧ Q ∧ R ∧ S ∧ T) _ _ := all.imp (by
    rintro ⟨⟨⟨⟨⟨p, _⟩, q⟩, r⟩, s⟩, t⟩
    exact ⟨p, q, r, s, t⟩)
  unfold parameters
  rw [← isEmpty_pieces positional, ← isEmpty_pieces keywordOnly]
  exact ⟨commaSeparated_apart whole, join_isEmpty whole _⟩

/-! ### Expressions that their texts tell apart -/

/-- Text of an index, where a tuple stands without parentheses. -/
def indexed : Expr → Except RenderError Text
  | .tuple (e :: es) => do
    let first ← expr false Level.test e
    let others ← exprs false Level.test es
    return tupleElements (first :: others)
  | e => expr false Level.test e

theorem expr_subscript (level : Level) (value index : Expr) :
    expr false level (.subscript value index) = (do
      let v ← expr false Level.atom value
      return v ++ bracketed (← indexed index)) := by
  unfold indexed
  split
  · simp only [expr, bind_assoc, pure_bind]
  · rename_i other
    rw [expr]
    exact fun e es same => other e es same

/-- The texts of two expressions tell them apart. -/
structure Told (e e' : Expr) : Prop where
  text (level : Level) : Both (Piece (e = e')) (expr false level e) (expr false level e')
  index : Both (Apart (e = e')) (indexed e) (indexed e')

theorem Told.of_text {e e' : Expr} (left : indexed e = expr false Level.test e)
    (right : indexed e' = expr false Level.test e')
    (text : ∀ level, Both (Piece (e = e')) (expr false level e) (expr false level e')) :
    Told e e' := by
  refine ⟨text, ?_⟩
  rw [left, right]
  exact (text Level.test).imp fun _ _ h => h.apart

variable {e e' f f' g g' : Expr} {es es' : List Expr} {o o' : Option Expr}

theorem optional_maybe (h : Option.Rel Told o o') :
    Both (Maybe (o = o')) (optional false o) (optional false o') := by
  cases h with
  | none => exact .ok (.none rfl)
  | some one =>
    simp only [optional]
    refine (one.text _).bind fun _ _ one => .pure (.some ?_)
    exact one.imp fun p => by rw [p]

theorem exprs_pieces (level : Level) (h : List.Forall₂ Told es es') :
    Both (Pieces (es = es')) (exprs false level es) (exprs false level es') := by
  induction h with
  | nil => exact .ok (.nil rfl)
  | cons first _ ih =>
    simp only [exprs]
    refine (first.text _).bind fun _ _ one => ih.bind fun _ _ others => .pure (.cons one others ?_)
    exact fun p q => by rw [p, q]

theorem rising_pieces (level : Level) (h : List.Forall₂ Told es es') :
    Both (Pieces (es = es')) (rising false level es) (rising false level es') := by
  induction h generalizing level with
  | nil => exact .ok (.nil rfl)
  | cons first _ ih =>
    simp only [rising]
    refine (first.text _).bind fun _ _ one => (ih _).bind fun _ _ others =>
      .pure (.cons one others ?_)
    exact fun p q => by rw [p, q]

theorem items_pieces {is is' : List Item} (h : List.Forall₂ (ItemForm Told) is is') :
    Both (Pieces (is = is')) (items false is) (items false is') := by
  induction h with
  | nil => exact .ok (.nil rfl)
  | cons first _ ih =>
    cases first with
    | pair key value =>
      simp only [items]
      refine (key.text _).bind fun _ _ one => (value.text _).bind fun _ _ two => ih.bind
        fun _ _ others => .pure ?_
      have pair := one.append (two.after (k := ": ") rfl)
      simp only [List.append_assoc]
      exact .cons pair others (by rintro ⟨p, q⟩ r; rw [p, q, r])
    | unpack value =>
      simp only [items]
      refine (value.text _).bind fun _ _ one => ih.bind fun _ _ others => .pure ?_
      exact .cons (one.lead rfl) others fun p q => by rw [p, q]

theorem clauses_tail {cs cs' : List Clause} (h : List.Forall₂ (ClauseForm Told) cs cs') :
    Both (Tail (cs = cs')) (clauses false cs) (clauses false cs') := by
  induction h with
  | nil => exact .ok (.nil rfl)
  | cons first _ ih =>
    obtain ⟨async, target, iterable, conditions⟩ := first
    simp only [clauses]
    refine (target.text _).bind fun _ _ one => (iterable.text _).bind fun _ _ two =>
      (exprs_pieces _ conditions).bind fun _ _ three => ih.bind fun _ _ others => .pure ?_
    have lead : breaks (if async then " async for " else " for ") := by
      cases async <;> rfl
    have whole := (one.after lead).append ((two.after (k := " in ") rfl).append
      ((three.after (k := " if ") rfl).append others))
    simpa only [List.append_assoc] using whole.imp (by rintro ⟨p, q, r, s⟩; rw [p, q, r, s])

theorem comparisons_tail {cs cs' : List Comparison}
    (h : List.Forall₂ (ComparisonForm Told) cs cs') :
    Both (Tail (cs = cs')) (comparisons false cs) (comparisons false cs') := by
  induction h with
  | nil => exact .ok (.nil rfl)
  | cons first _ ih =>
    obtain ⟨kin, right⟩ := first
    simp only [comparisons]
    refine (right.text _).bind fun _ _ one => ih.bind fun _ _ others => .pure ?_
    exact ((comparison_tail kin one).append others).imp (by rintro ⟨⟨p, q⟩, r⟩; rw [p, q, r])

theorem keywords_pieces {ks ks' : List Keyword} (h : List.Forall₂ (KeywordForm Told) ks ks') :
    Both (Pieces (ks = ks')) (keywords false ks) (keywords false ks') := by
  induction h with
  | nil => exact .ok (.nil rfl)
  | cons first _ ih =>
    cases first with
    | named ha hb value =>
      simp only [keywords]
      refine (value.text _).bind fun _ _ one => ih.bind fun _ _ others => .pure ?_
      have named := (ha.piece hb).append (one.after (k := "=") rfl)
      simp only [List.append_assoc]
      exact .cons named others (by rintro ⟨p, q⟩ r; rw [p, q, r])
    | unpacked value =>
      simp only [keywords]
      refine (value.text _).bind fun _ _ one => ih.bind fun _ _ others => .pure ?_
      exact .cons (one.lead rfl) others fun p q => by rw [p, q]

theorem param_piece {p p' : Param} (h : ParamForm Told p p') :
    Both (Piece (p = p')) (param false p) (param false p') := by
  obtain @⟨m, n, h, h', d, d', hm, hn, hint, default⟩ := h
  simp only [param]
  refine (optional_maybe hint).bind fun _ _ first => (optional_maybe default).bind
    fun _ _ second => .pure ?_
  have colon : breaks ": " := rfl
  have equal : breaks "=" := rfl
  have whole := ((hm.piece hn).append (prefixed_tail first colon)).append
    (prefixed_tail second equal)
  have shown : Piece (Param.mk m h d = .mk n h' d') _ _ :=
    whole.imp (by rintro ⟨⟨p, q⟩, r⟩; rw [p, q, r])
  cases first <;> cases second <;>
    simpa only [prefixed, defaulted, List.append_nil, List.append_assoc] using shown

theorem paramList_pieces {ps ps' : List Param} (h : List.Forall₂ (ParamForm Told) ps ps') :
    Both (Pieces (ps = ps')) (paramList false ps) (paramList false ps') := by
  induction h with
  | nil => exact .ok (.nil rfl)
  | cons first _ ih =>
    simp only [paramList]
    refine (param_piece first).bind fun _ _ one => ih.bind fun _ _ others =>
      .pure (.cons one others ?_)
    exact fun p q => by rw [p, q]

theorem paramOption_maybe {p p' : Option Param} (h : Option.Rel (ParamForm Told) p p') :
    Both (Maybe (p = p')) (paramOption false p) (paramOption false p') := by
  cases h with
  | none => exact .ok (.none rfl)
  | some one =>
    simp only [paramOption]
    refine (param_piece one).bind fun _ _ one => .pure (.some ?_)
    exact one.imp fun p => by rw [p]

theorem params_apart {ps ps' : Params} (h : ParamsForm Told ps ps') :
    Both (fun t u => Apart (ps = ps') t u ∧ t.isEmpty = u.isEmpty) (params false ps)
      (params false ps') := by
  obtain ⟨positional, regular, rest, keywordOnly, double⟩ := h
  simp only [params]
  refine (paramList_pieces positional).bind fun _ _ one =>
    (paramList_pieces regular).bind fun _ _ two =>
      (paramOption_maybe rest).bind fun _ _ three =>
        (paramList_pieces keywordOnly).bind fun _ _ four =>
          (paramOption_maybe double).bind fun _ _ five => .pure ?_
  obtain ⟨apart, empty⟩ := parameters_apart one two three four five
  exact ⟨apart.imp (by rintro ⟨p, q, r, s, t⟩; rw [p, q, r, s, t]), empty⟩

/-! One lemma for each form of expressions. -/

namespace Told

theorem constant {c d : Constant} (h : ConstantForm c d) : Told (.constant c) (.constant d) :=
  .of_text rfl rfl fun level => by
    simp only [expr]
    exact (constant_piece h).imp fun _ _ one => one.imp fun same => by rw [same]

theorem name {a b : Text} (ha : IsWord a) (hb : IsWord b) : Told (.name a) (.name b) :=
  .of_text rfl rfl fun level => by
    simp only [expr]
    exact .ok ((ha.piece hb).imp fun same => by rw [same])

theorem named (target : Told e e') (value : Told f f') : Told (.named e f) (.named e' f') :=
  .of_text rfl rfl fun level => by
    simp only [expr]
    refine (target.text _).bind fun _ _ one => (value.text _).bind
      fun _ _ two => .pure (parenthesizedIf_piece _ ?_)
    simp only [List.append_assoc]
    exact (one.append (two.after rfl)).imp (by rintro ⟨p, q⟩; rw [p, q])

theorem boolean (op : BoolOp) (first : Told e e') (later : List.Forall₂ Told es es') :
    Told (.boolean op (e :: es)) (.boolean op (e' :: es')) :=
  .of_text rfl rfl fun level => by
    simp only [expr, rising, bind_assoc, pure_bind]
    refine (first.text _).bind fun _ _ one => (rising_pieces _ later).bind
      fun _ _ others => .pure (parenthesizedIf_piece _ ?_)
    have separator : breaks op.symbol := by cases op <;> rfl
    exact (Pieces.join_cons one others separator).imp (by rintro ⟨p, q⟩; rw [p, q])

theorem binary {op op' : BinaryOp} (left : Told e e') (level : op.level = op'.level)
    (right : Told f f') : Told (.binary e op f) (.binary e' op' f') :=
  .of_text rfl rfl fun outer => by
    obtain ⟨same_left, same_right⟩ := BinaryOp.sides_of_level level
    simp only [expr, ← same_left, ← same_right, ← level]
    refine (left.text _).bind fun _ _ one => (right.text _).bind
      fun _ _ two => .pure (parenthesizedIf_piece _ ?_)
    have operator := operator_tail (a := op) (b := op') two (k := " ") rfl
    simpa only [List.append_assoc] using
      (one.append operator).imp (by rintro ⟨p, q, r⟩; rw [p, q, r])

theorem unary {op op' : UnaryOp} (level : op.level = op'.level) (operand : Told e e') :
    Told (.unary op e) (.unary op' e') :=
  .of_text rfl rfl fun outer => by
    simp only [expr, ← level]
    refine (operand.text _).bind fun _ _ one => .pure (parenthesizedIf_piece _ ?_)
    exact (unary_piece one).imp (by rintro ⟨p, q⟩; rw [p, q])

theorem lambda {ps ps' : Params} (params : ParamsForm Told ps ps') (body : Told e e') :
    Told (.lambda ps e) (.lambda ps' e') :=
  .of_text rfl rfl fun level => by
    simp only [expr]
    refine (params_apart params).bind fun shown _ one => (body.text _).bind
      fun _ _ two => .pure (parenthesizedIf_piece _ ?_)
    obtain ⟨apart, empty⟩ := one
    rw [← empty]
    let lead : Text := ("lambda" : Text) ++ if shown.isEmpty then [] else " "
    have opens : starts lead := starts_append rfl _
    have list := apart.enclosed (k := ":") rfl rfl opens
    have whole : Piece (Expr.lambda ps e = .lambda ps' e') _ _ :=
      (list.append (two.after (k := " ") rfl)).imp (by rintro ⟨p, q⟩; rw [p, q])
    have colon : (": " : Text) = ":" ++ " " := rfl
    simpa only [lead, colon, List.append_assoc] using whole

theorem conditional (test : Told e e') (body : Told f f') (otherwise : Told g g') :
    Told (.conditional e f g) (.conditional e' f' g') :=
  .of_text rfl rfl fun level => by
    simp only [expr]
    refine (body.text _).bind fun _ _ one => (test.text _).bind fun _ _ two =>
      (otherwise.text _).bind fun _ _ three => .pure (parenthesizedIf_piece _ ?_)
    have tail := (two.after (k := " if ") rfl).append
      (three.after (k := " else ") rfl)
    simpa only [List.append_assoc] using (one.append tail).imp (by rintro ⟨p, q, r⟩; rw [p, q, r])

theorem dict {is is' : List Item} (h : List.Forall₂ (ItemForm Told) is is') :
    Told (.dict is) (.dict is') :=
  .of_text rfl rfl fun level => by
    simp only [expr]
    refine (items_pieces h).bind fun _ _ all => .pure ?_
    exact (braced_piece (commaSeparated_apart all)).imp fun p => by rw [p]

theorem set (h : List.Forall₂ Told es es') : Told (.set es) (.set es') :=
  .of_text rfl rfl fun level => by
    cases h with
    | nil =>
      simp only [expr]
      exact .pure (braced_piece (.same True.intro _))
    | cons first later =>
      simp only [expr]
      refine (exprs_pieces _ (.cons first later)).bind fun _ _ all => .pure ?_
      exact (braced_piece (commaSeparated_apart all)).imp fun p => by rw [p]

theorem list (h : List.Forall₂ Told es es') : Told (.list es) (.list es') :=
  .of_text rfl rfl fun level => by
    simp only [expr]
    refine (exprs_pieces _ h).bind fun _ _ all => .pure ?_
    exact (bracketed_piece (commaSeparated_apart all)).imp fun p => by rw [p]

theorem tuple (h : List.Forall₂ Told es es') : Told (.tuple es) (.tuple es') := by
  cases h with
  | nil =>
    refine .of_text rfl rfl fun level => ?_
    simp only [expr, exprs]
    exact .pure (parenthesized_piece (.same True.intro _))
  | @cons e e' es es' first later =>
    have elements (t u : Text) (ts us : List Text) (one : Piece (e = e') t u)
        (others : Pieces (es = es') ts us) :
        Piece (Expr.tuple (e :: es) = .tuple (e' :: es')) (tupleElements (t :: ts))
          (tupleElements (u :: us)) :=
      (tupleElements_piece one others).imp (by rintro ⟨p, q⟩; rw [p, q])
    constructor
    · intro level
      simp only [expr, exprs, bind_assoc, pure_bind]
      refine (first.text _).bind fun _ _ one => (exprs_pieces _ later).bind
        fun _ _ others => .pure (parenthesizedIf_piece _ (elements _ _ _ _ one others))
    · simp only [indexed]
      exact (first.text _).bind fun _ _ one => (exprs_pieces _ later).bind
        fun _ _ others => .pure (elements _ _ _ _ one others).apart

theorem comprehension (enclosure : Enclosure) {cs cs' : List Clause} (element : Told e e')
    (h : List.Forall₂ (ClauseForm Told) cs cs') :
    Told (.comprehension enclosure e cs) (.comprehension enclosure e' cs') :=
  .of_text rfl rfl fun level => by
    simp only [expr]
    refine (element.text _).bind fun _ _ one => (clauses_tail h).bind
      fun _ _ others => .pure (around_piece _ ?_)
    exact (one.append others).apart.imp (by rintro ⟨p, q⟩; rw [p, q])

theorem dictComprehension {cs cs' : List Clause} (key : Told e e') (value : Told f f')
    (h : List.Forall₂ (ClauseForm Told) cs cs') :
    Told (.dictComprehension e f cs) (.dictComprehension e' f' cs') :=
  .of_text rfl rfl fun level => by
    simp only [expr]
    refine (key.text _).bind fun _ _ one => (value.text _).bind fun _ _ two =>
      (clauses_tail h).bind fun _ _ others => .pure (braced_piece ?_)
    have whole := one.append ((two.after (k := ": ") rfl).append others)
    simpa only [List.append_assoc] using whole.apart.imp (by rintro ⟨p, q, r⟩; rw [p, q, r])

theorem await (value : Told e e') : Told (.await e) (.await e') :=
  .of_text rfl rfl fun level => by
    simp only [expr]
    refine (value.text _).bind fun _ _ one => .pure (parenthesizedIf_piece _ ?_)
    exact (one.lead rfl).imp fun p => by rw [p]

theorem yield (h : Option.Rel Told o o') : Told (.yield o) (.yield o') := by
  cases h with
  | none =>
    refine .of_text rfl rfl fun level => ?_
    simp only [expr]
    exact .pure (parenthesizedIf_piece _ (.same True.intro (solid_iff.mpr ⟨rfl, rfl⟩)))
  | some value =>
    refine .of_text rfl rfl fun level => ?_
    simp only [expr]
    refine (value.text _).bind fun _ _ one => .pure (parenthesizedIf_piece _ ?_)
    exact (one.lead rfl).imp fun p => by rw [p]

theorem yieldFrom (value : Told e e') : Told (.yieldFrom e) (.yieldFrom e') :=
  .of_text rfl rfl fun level => by
    simp only [expr]
    refine (value.text _).bind fun _ _ one => .pure (parenthesizedIf_piece _ ?_)
    exact (one.lead rfl).imp fun p => by rw [p]

theorem compare {cs cs' : List Comparison} (left : Told e e')
    (h : List.Forall₂ (ComparisonForm Told) cs cs') : Told (.compare e cs) (.compare e' cs') :=
  .of_text rfl rfl fun level => by
    simp only [expr]
    refine (left.text _).bind fun _ _ one => (comparisons_tail h).bind
      fun _ _ others => .pure (parenthesizedIf_piece _ ?_)
    exact (one.append others).imp (by rintro ⟨p, q⟩; rw [p, q])

theorem call {ks ks' : List Keyword} (function : Told e e') (arguments : List.Forall₂ Told es es')
    (h : List.Forall₂ (KeywordForm Told) ks ks') : Told (.call e es ks) (.call e' es' ks') :=
  .of_text rfl rfl fun level => by
    simp only [expr]
    refine (function.text _).bind fun _ _ one => (exprs_pieces _ arguments).bind
      fun _ _ two => (keywords_pieces h).bind fun _ _ three => .pure ?_
    have list := parenthesized_piece (commaSeparated_apart (two.append three))
    exact (one.append (list.tail rfl rfl)).imp (by rintro ⟨p, q, r⟩; rw [p, q, r])

theorem joined (ps : List Part) : Told (.joined ps) (.joined ps) :=
  .of_text rfl rfl fun level => by
    intro t u left right
    obtain rfl := Except.ok.inj (left.symm.trans right)
    simp only [expr] at left
    obtain ⟨texts, _, shown⟩ := except_bind_ok_iff.mp left
    cases shown
    have literal := formattedLiteral_solid texts
    rw [solid_iff] at literal
    exact .same rfl (solid_iff.mpr ⟨rfl, stops_append literal.2 [.char 'f']⟩)

theorem memberOf {a b : Text} (value : Told e e') (kind : isIntegral e = isIntegral e')
    (ha : IsWord a) (hb : IsWord b) : Told (.attribute e a) (.attribute e' b) :=
  .of_text rfl rfl fun level => by
    simp only [expr, ← kind]
    refine (value.text _).bind fun _ _ one => .pure ?_
    have point : breaks (Text.ofString (if isIntegral e then " ." else ".")) := by
      cases isIntegral e <;> rfl
    have whole : Piece (Expr.attribute e a = .attribute e' b) _ _ :=
      (one.append ((ha.piece hb).after point)).imp (by rintro ⟨p, q⟩; rw [p, q])
    simpa only [List.append_assoc] using whole

theorem subscript (value : Told e e') (index : Told f f') :
    Told (.subscript e f) (.subscript e' f') :=
  .of_text rfl rfl fun level => by
    rw [expr_subscript, expr_subscript]
    refine (value.text _).bind fun _ _ one => index.index.bind fun _ _ two => .pure ?_
    exact (one.append ((bracketed_piece two).tail rfl rfl)).imp (by rintro ⟨p, q⟩; rw [p, q])

theorem slice {l l' u u' s s' : Option Expr} (lower : Option.Rel Told l l')
    (upper : Option.Rel Told u u') (step : Option.Rel Told s s') :
    Told (.slice l u s) (.slice l' u' s') :=
  .of_text rfl rfl fun level => by
    simp only [expr]
    refine (optional_maybe lower).bind fun _ _ one => (optional_maybe upper).bind fun _ _ two =>
      (optional_maybe step).bind fun _ _ three => .pure ?_
    have behind := (colon_tail two).append (prefixed_tail three (k := [.char ':']) rfl)
    have whole : Piece (Expr.slice l u s = .slice l' u' s') _ _ :=
      (default_piece one behind rfl rfl).imp (by rintro ⟨p, q, r⟩; rw [p, q, r])
    cases three <;>
      simpa only [prefixed, List.append_assoc, List.singleton_append, List.append_nil] using whole

theorem starred (value : Told e e') : Told (.starred e) (.starred e') :=
  .of_text rfl rfl fun level => by
    simp only [expr]
    refine (value.text _).bind fun _ _ one => .pure ?_
    exact (one.lead (k := [.char '*']) rfl).imp fun p => by rw [p]

end Told

theorem isIntegral_form (h : ExprForm e e') : isIntegral e = isIntegral e' := by
  cases h with
  | constant value => cases value <;> rfl
  | _ => rfl

mutual

/-- The texts of expressions of one form tell them apart, by recursion on the first of them. -/
theorem told : (e : Expr) → {e' : Expr} → ExprForm e e' → Told e e'
  | .constant _, _, .constant value => .constant value
  | .name _, _, .name ha hb => .name ha hb
  | .named t v, _, .named target value => .named (told t target) (told v value)
  | .boolean _ (e :: es), _, .boolean op first later =>
    .boolean op (told e first) (tolds es later)
  | .binary l _ r, _, .binary left level right => .binary (told l left) level (told r right)
  | .unary _ e, _, .unary level operand => .unary level (told e operand)
  | .lambda ps b, _, .lambda params body => .lambda (toldParams ps params) (told b body)
  | .conditional t b o, _, .conditional test body otherwise =>
    .conditional (told t test) (told b body) (told o otherwise)
  | .dict is, _, .dict items => .dict (toldItems is items)
  | .set es, _, .set elements => .set (tolds es elements)
  | .list es, _, .list elements => .list (tolds es elements)
  | .tuple es, _, .tuple elements => .tuple (tolds es elements)
  | .comprehension enclosure e cs, _, .comprehension _ element clauses =>
    .comprehension enclosure (told e element) (toldClauses cs clauses)
  | .dictComprehension k v cs, _, .dictComprehension key value clauses =>
    .dictComprehension (told k key) (told v value) (toldClauses cs clauses)
  | .await v, _, .await value => .await (told v value)
  | .yield v, _, .yield value => .yield (toldOption v value)
  | .yieldFrom v, _, .yieldFrom value => .yieldFrom (told v value)
  | .compare l cs, _, .compare left rest => .compare (told l left) (toldComparisons cs rest)
  | .call f es ks, _, .call function arguments keywords =>
    .call (told f function) (tolds es arguments) (toldKeywords ks keywords)
  | .joined ps, _, .joined _ => .joined ps
  | .attribute v _, _, .attribute value ha hb =>
    .memberOf (told v value) (isIntegral_form value) ha hb
  | .subscript v i, _, .subscript value index => .subscript (told v value) (told i index)
  | .slice l u s, _, .slice lower upper step =>
    .slice (toldOption l lower) (toldOption u upper) (toldOption s step)
  | .starred v, _, .starred value => .starred (told v value)
termination_by structural e => e

theorem tolds : (es : List Expr) → {es' : List Expr} → List.Forall₂ ExprForm es es' →
    List.Forall₂ Told es es'
  | [], _, .nil => .nil
  | e :: es, _, .cons first later => .cons (told e first) (tolds es later)
termination_by structural e => e

theorem toldOption : (o : Option Expr) → {o' : Option Expr} → Option.Rel ExprForm o o' →
    Option.Rel Told o o'
  | none, _, .none => .none
  | some e, _, .some form => .some (told e form)
termination_by structural e => e

theorem toldItems : (is : List Item) → {is' : List Item} →
    List.Forall₂ (ItemForm ExprForm) is is' → List.Forall₂ (ItemForm Told) is is'
  | [], _, .nil => .nil
  | .pair k v :: is, _, .cons (.pair key value) later =>
    .cons (.pair (told k key) (told v value)) (toldItems is later)
  | .unpack v :: is, _, .cons (.unpack value) later =>
    .cons (.unpack (told v value)) (toldItems is later)
termination_by structural e => e

theorem toldClauses : (cs : List Clause) → {cs' : List Clause} →
    List.Forall₂ (ClauseForm ExprForm) cs cs' → List.Forall₂ (ClauseForm Told) cs cs'
  | [], _, .nil => .nil
  | .mk async t i es :: cs, _, .cons (.mk _ target iterable conditions) later =>
    .cons (.mk async (told t target) (told i iterable) (tolds es conditions))
      (toldClauses cs later)
termination_by structural e => e

theorem toldComparisons : (cs : List Comparison) → {cs' : List Comparison} →
    List.Forall₂ (ComparisonForm ExprForm) cs cs' → List.Forall₂ (ComparisonForm Told) cs cs'
  | [], _, .nil => .nil
  | .mk _ r :: cs, _, .cons (.mk kin right) later =>
    .cons (.mk kin (told r right)) (toldComparisons cs later)
termination_by structural e => e

theorem toldKeywords : (ks : List Keyword) → {ks' : List Keyword} →
    List.Forall₂ (KeywordForm ExprForm) ks ks' → List.Forall₂ (KeywordForm Told) ks ks'
  | [], _, .nil => .nil
  | .mk _ v :: ks, _, .cons (.named ha hb value) later =>
    .cons (.named ha hb (told v value)) (toldKeywords ks later)
  | .mk _ v :: ks, _, .cons (.unpacked value) later =>
    .cons (.unpacked (told v value)) (toldKeywords ks later)
termination_by structural e => e

theorem toldParam : (p : Param) → {p' : Param} → ParamForm ExprForm p p' → ParamForm Told p p'
  | .mk _ h d, _, .mk ha hb hint default =>
    .mk ha hb (toldOption h hint) (toldOption d default)
termination_by structural e => e

theorem toldParamList : (ps : List Param) → {ps' : List Param} →
    List.Forall₂ (ParamForm ExprForm) ps ps' → List.Forall₂ (ParamForm Told) ps ps'
  | [], _, .nil => .nil
  | p :: ps, _, .cons first later => .cons (toldParam p first) (toldParamList ps later)
termination_by structural e => e

theorem toldParamOption : (o : Option Param) → {o' : Option Param} →
    Option.Rel (ParamForm ExprForm) o o' → Option.Rel (ParamForm Told) o o'
  | none, _, .none => .none
  | some p, _, .some form => .some (toldParam p form)
termination_by structural e => e

theorem toldParams : (ps : Params) → {ps' : Params} → ParamsForm ExprForm ps ps' →
    ParamsForm Told ps ps'
  | .mk p r v k d, _, .mk positional regular rest keywordOnly keywords =>
    .mk (toldParamList p positional) (toldParamList r regular) (toldParamOption v rest)
      (toldParamList k keywordOnly) (toldParamOption d keywords)
termination_by structural e => e

end

end BodyDigest.Indented.Render
