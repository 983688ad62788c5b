import BodyDigest.Proofs.Indented.Shapes
import BodyDigest.Proofs.Indented.Telling.Simple

/-!
Statements of one form: they differ at most in names, in the values of literals, and in operators
of one strength. Their canonical texts tell them apart. A statement is some lines, and its text is
read from the first of them on, where the lines below follow as other parts of a line do.
-/
namespace BodyDigest.Indented

/-! ### Forms -/

inductive FunctionHeadForm : FunctionHead → FunctionHead → Prop
  | mk (async : Bool) {a b : Text} {ps ps' : Params} {r r' : Option Expr} {ds ds' : List Expr}
    (name : Words a b) (params : ParamsForm ExprForm ps ps') (returns : Option.Rel ExprForm r r')
    (decorators : List.Forall₂ ExprForm ds ds') :
    FunctionHeadForm ⟨async, a, ps, r, ds⟩ ⟨async, b, ps', r', ds'⟩

inductive ClassHeadForm : ClassHead → ClassHead → Prop
  | mk {a b : Text} {bs bs' : List Expr} {ks ks' : List Keyword} {ds ds' : List Expr}
    (name : Words a b) (bases : List.Forall₂ ExprForm bs bs')
    (keywords : List.Forall₂ (KeywordForm ExprForm) ks ks')
    (decorators : List.Forall₂ ExprForm ds ds') : ClassHeadForm ⟨a, bs, ks, ds⟩ ⟨b, bs', ks', ds'⟩

section
variable (R : Stmt Unit → Stmt Unit → Prop)

inductive HandlerForm : Handler Unit → Handler Unit → Prop
  | mk {t t' : Option Expr} {a b : Option Text} {body body' : List (Stmt Unit)}
    (type : Option.Rel ExprForm t t') (name : Option.Rel Words a b)
    (inner : List.Forall₂ R body body') : HandlerForm (.mk t a body) (.mk t' b body')

inductive CaseForm : Case Unit → Case Unit → Prop
  | mk {p p' : Pattern} {g g' : Option Expr} {body body' : List (Stmt Unit)}
    (pattern : PatternForm p p') (guard : Option.Rel ExprForm g g')
    (inner : List.Forall₂ R body body') : CaseForm (.mk p g body) (.mk p' g' body')

end

/-- Statements of one form. -/
inductive StmtForm : Stmt Unit → Stmt Unit → Prop
  | simple {f f' : Simple} (form : SimpleForm f f') : StmtForm (.simple () f) (.simple () f')
  | function {h h' : FunctionHead} {body body' : List (Stmt Unit)} (head : FunctionHeadForm h h')
    (inner : List.Forall₂ StmtForm body body') :
    StmtForm (.function () h body) (.function () h' body')
  | class {h h' : ClassHead} {body body' : List (Stmt Unit)} (head : ClassHeadForm h h')
    (inner : List.Forall₂ StmtForm body body') : StmtForm (.class () h body) (.class () h' body')
  | if {t t' : Expr} {body body' other other' : List (Stmt Unit)} (test : ExprForm t t')
    (inner : List.Forall₂ StmtForm body body') (otherwise : List.Forall₂ StmtForm other other') :
    StmtForm (.if () t body other) (.if () t' body' other')
  | while {t t' : Expr} {body body' other other' : List (Stmt Unit)} (test : ExprForm t t')
    (inner : List.Forall₂ StmtForm body body') (otherwise : List.Forall₂ StmtForm other other') :
    StmtForm (.while () t body other) (.while () t' body' other')
  | for (async : Bool) {t t' i i' : Expr} {body body' other other' : List (Stmt Unit)}
    (target : ExprForm t t') (iterable : ExprForm i i') (inner : List.Forall₂ StmtForm body body')
    (otherwise : List.Forall₂ StmtForm other other') :
    StmtForm (.for () async t i body other) (.for () async t' i' body' other')
  | with (async : Bool) {ws ws' : List WithItem} {body body' : List (Stmt Unit)}
    (items : List.Forall₂ WithItemForm ws ws') (inner : List.Forall₂ StmtForm body body') :
    StmtForm (.with () async ws body) (.with () async ws' body')
  | try (star : Bool) {body body' other other' final final' : List (Stmt Unit)}
    {hs hs' : List (Handler Unit)} (inner : List.Forall₂ StmtForm body body')
    (handlers : List.Forall₂ (HandlerForm StmtForm) hs hs')
    (otherwise : List.Forall₂ StmtForm other other')
    (last : List.Forall₂ StmtForm final final') :
    StmtForm (.try () star body hs other final) (.try () star body' hs' other' final')
  | match {e e' : Expr} {cs cs' : List (Case Unit)} (subject : ExprForm e e')
    (cases : List.Forall₂ (CaseForm StmtForm) cs cs') :
    StmtForm (.match () e cs) (.match () e' cs')

namespace Render

variable {P Q R : Prop} {t u v w : Text} {ts us vs ws : List Text}

/-! ### Lines -/

/-- The text of lines below another one. -/
def below (ls : List Text) : Text := ls.flatMap (("\n" : Text) ++ ·)

theorem below_append (ls ms : List Text) : below (ls ++ ms) = below ls ++ below ms :=
  List.flatMap_append

theorem below_cons (l : Text) (ls : List Text) : below (l :: ls) = ("\n" : Text) ++ l ++ below ls :=
  List.flatMap_cons

variable {ls ms ls' ms' : List Text} {l m : Text} {depth : Nat}

/-- Lines that may stand below others. -/
def Lines (P : Prop) (ls ms : List Text) : Prop := Tail P (below ls) (below ms)

namespace Lines

theorem nil (p : P) : Lines P [] [] := Tail.nil p

theorem imp (h : Lines P ls ms) (whole : P → Q) : Lines Q ls ms := Tail.imp h whole

theorem append (h : Lines P ls ms) (h' : Lines Q ls' ms') :
    Lines (P ∧ Q) (ls ++ ls') (ms ++ ms') := by
  rw [Lines, below_append, below_append]
  exact Tail.append h h'

theorem cons (h : Lines P [l] [m]) (h' : Lines Q ls ms) : Lines (P ∧ Q) (l :: ls) (m :: ms) :=
  append h h'

theorem line (h : Piece P t u) (k : Text) : Lines P [k ++ t] [k ++ u] := by
  have whole := h.after (k := ("\n" : Text) ++ k) rfl
  simpa only [Lines, below, List.flatMap_cons, List.flatMap_nil, List.append_nil,
    List.append_assoc] using whole

theorem same (p : P) (solid : Solid t) (k : Text) : Lines P [k ++ t] [k ++ t] :=
  line (.same p solid) k

theorem each (h : Pieces P ts us) (k : Text) : Lines P (ts.map (k ++ ·)) (us.map (k ++ ·)) := by
  induction h with
  | nil p => exact nil p
  | cons first _ whole ih =>
    exact (cons (line first k) ih).imp fun both => whole both.1 both.2

end Lines

/-- The lines of a statement, the first one at its depth, or the second one below an empty line. -/
inductive Block (depth : Nat) : Prop → List Text → List Text → Prop
  | plain {P : Prop} {l m : Text} {ls ms : List Text} (first : starts l) (first' : starts m)
    (lines : Lines P ((indentation depth ++ l) :: ls) ((indentation depth ++ m) :: ms)) :
    Block depth P ((indentation depth ++ l) :: ls) ((indentation depth ++ m) :: ms)
  | gap {P : Prop} {l m : Text} {ls ms : List Text} (first : starts l) (first' : starts m)
    (lines : Lines P ((indentation depth ++ l) :: ls) ((indentation depth ++ m) :: ms)) :
    Block depth P ([] :: (indentation depth ++ l) :: ls) ([] :: (indentation depth ++ m) :: ms)

theorem Block.imp (h : Block depth P ls ms) (whole : P → Q) : Block depth Q ls ms := by
  cases h with
  | plain first first' lines => exact .plain first first' (lines.imp whole)
  | gap first first' lines => exact .gap first first' (lines.imp whole)

/-- An empty line above. -/
theorem Lines.gap (h : Lines P (l :: ls) (m :: ms)) : Lines P ([] :: l :: ls) ([] :: m :: ms) := by
  have tail (x : Text) (xs : List Text) (inner : IsTail (below (x :: xs))) :
      IsTail (below ([] :: x :: xs)) := by
    rcases inner with empty | ⟨_, last⟩
    · simp [below_cons, Text.ofString, Text.ofChars] at empty
    · rw [below_cons]
      exact .inr ⟨rfl, stops_append last _⟩
  refine ⟨tail l ls h.left, tail m ms h.right, ?_⟩
  rw [below_cons [], below_cons []]
  exact h.apart.lead _

theorem Block.lines (h : Block depth P ls ms) : Lines P ls ms := by
  cases h with
  | plain _ _ lines => exact lines
  | gap _ _ lines => exact lines.gap

/-- The text of the lines from the first one that is not empty. -/
theorem Block.piece (h : Block 0 P ls ms) : Piece P (joinLines ls) (joinLines ms) := by
  have joined {l : Text} {ls : List Text} (first : starts l) :
      joinLines ((indentation 0 ++ l) :: ls) = l ++ below ls ∧
        joinLines ([] :: (indentation 0 ++ l) :: ls) = l ++ below ls ∧
          below ((indentation 0 ++ l) :: ls) = ("\n" : Text) ++ (l ++ below ls) := by
    cases l with
    | nil => cases first
    | cons c rest =>
      refine ⟨join_cons _ _ _, join_cons _ _ _, ?_⟩
      rw [below_cons, List.append_assoc]
      rfl
  have whole {l m : Text} {ls ms : List Text} (first : starts l) (first' : starts m)
      (lines : Lines P ((indentation 0 ++ l) :: ls) ((indentation 0 ++ m) :: ms)) :
      Piece P (l ++ below ls) (m ++ below ms) := by
    rw [Lines, (joined first).2.2, (joined first').2.2] at lines
    exact lines.behind (starts_append first _) (starts_append first' _)
  cases h with
  | plain first first' lines =>
    rw [(joined first).1, (joined first').1]
    exact whole first first' lines
  | gap first first' lines =>
    rw [(joined first).2.1, (joined first').2.1]
    exact whole first first' lines

theorem Block.append (h : Block depth P ls ms) (later : Lines Q ls' ms') :
    Block depth (P ∧ Q) (ls ++ ls') (ms ++ ms') := by
  cases h with
  | plain first first' lines => exact .plain first first' (lines.append later)
  | gap first first' lines => exact .gap first first' (lines.append later)

/-- A line that opens a block, and the lines inside. -/
theorem Block.header (depth : Nat) (h : Apart P t u) {k : Text} (first : starts k)
    (inner : Lines Q ls ms) :
    Block depth (P ∧ Q) ((indentation depth ++ k ++ t ++ ":") :: ls)
      ((indentation depth ++ k ++ u ++ ":") :: ms) := by
  have one := h.enclosed (k := ":") rfl rfl first
  have lines := (Lines.line one (indentation depth)).cons inner
  have whole := Block.plain (solid_iff.mp one.left).1 (solid_iff.mp one.right).1 lines
  simpa only [List.append_assoc] using whole

/-- A fixed line that opens a block. -/
theorem Lines.keyword {k : Text} (solid : Solid k) (depth : Nat) (inner : Lines Q ls ms) :
    Lines Q ((indentation depth ++ k) :: ls) ((indentation depth ++ k) :: ms) :=
  ((Lines.same True.intro solid _).cons inner).imp And.right

/-! ### Heads -/

/-- Decorators and the line of a definition, below an empty line. -/
theorem headed {l m : Text} (decorators : Pieces P ts us) (header : Piece Q l m) :
    Block depth (P ∧ Q)
      ([] :: ts.map (fun d => indentation depth ++ ("@" : Text) ++ d) ++ [indentation depth ++ l])
      ([] :: us.map (fun d => indentation depth ++ ("@" : Text) ++ d)
        ++ [indentation depth ++ m]) := by
  have last := Lines.line header (indentation depth)
  cases decorators with
  | nil p =>
    refine (Block.gap (solid_iff.mp header.left).1 (solid_iff.mp header.right).1 last).imp ?_
    exact fun q => ⟨p, q⟩
  | cons first later whole =>
    have one := first.lead (k := "@") rfl
    have lines := (Lines.line one (indentation depth)).cons
      ((Lines.each later (indentation depth ++ "@")).append last)
    have block : Block depth (P ∧ Q) _ _ :=
      (Block.gap (solid_iff.mp one.left).1 (solid_iff.mp one.right).1 lines).imp
        (by rintro ⟨p, q, r⟩; exact ⟨whole p q, r⟩)
    simpa only [List.map_cons, List.cons_append, List.append_assoc] using block

theorem functionHead_block {h h' : FunctionHead} (form : FunctionHeadForm h h') (depth : Nat) :
    Both (Block depth (h = h')) (functionHead depth h) (functionHead depth h') := by
  obtain @⟨async, a, b, ps, ps', r, r', ds, ds', name, same_params, returns, decorators⟩ := form
  simp only [functionHead, decoratorLines, bind_assoc, pure_bind]
  refine (exprs_pieces _ (tolds ds decorators)).bind fun _ _ one =>
    (params_apart (toldParams ps same_params)).bind fun _ _ two =>
      (optional_form returns).bind fun _ _ three => .pure ?_
  have lead : starts (if async then ("async def " : Text) else "def ") := by
    cases async <;> rfl
  have ending := (prefixed_tail three (k := " -> ") rfl).append
    (Tail.same True.intro (t := ":") rfl rfl)
  have line := (((words_piece name).lead lead).append
    ((parenthesized_piece two.1).tail rfl rfl)).append ending
  have whole : Block depth (FunctionHead.mk async a ps r ds = ⟨async, b, ps', r', ds'⟩) _ _ :=
    (headed one line).imp (by rintro ⟨rfl, ⟨rfl, rfl⟩, rfl, _⟩; rfl)
  cases async <;> simpa only [List.append_assoc] using whole

theorem arguments_tail (h : Pieces P ts us) :
    Tail P (if ts.isEmpty then [] else parenthesized (commaSeparated ts))
      (if us.isEmpty then [] else parenthesized (commaSeparated us)) := by
  have list := (parenthesized_piece (commaSeparated_apart h)).tail rfl rfl
  cases h with
  | nil p => exact .nil p
  | cons => exact list

theorem classHead_block {h h' : ClassHead} (form : ClassHeadForm h h') (depth : Nat) :
    Both (Block depth (h = h')) (classHead depth h) (classHead depth h') := by
  obtain @⟨a, b, bs, bs', ks, ks', ds, ds', name, bases, same, decorators⟩ := form
  simp only [classHead, decoratorLines, bind_assoc, pure_bind]
  refine (exprs_pieces _ (tolds ds decorators)).bind fun _ _ one =>
    (exprs_pieces _ (tolds bs bases)).bind fun _ _ two =>
      (keywords_pieces (toldKeywords ks same)).bind fun _ _ three => .pure ?_
  have line := ((words_piece name).lead (k := "class ") rfl).append
    ((arguments_tail (two.append three)).append (Tail.same True.intro (t := ":") rfl rfl))
  have whole : Block depth (ClassHead.mk a bs ks ds = ⟨b, bs', ks', ds'⟩) _ _ :=
    (headed one line).imp (by rintro ⟨rfl, rfl, ⟨rfl, rfl⟩, _⟩; rfl)
  simpa only [List.append_assoc] using whole

theorem withItems_pieces {ws ws' : List WithItem} (h : List.Forall₂ WithItemForm ws ws') :
    Both (Pieces (ws = ws')) (withItems ws) (withItems ws') := by
  induction h with
  | nil => exact .ok (.nil rfl)
  | cons first _ ih =>
    obtain @⟨e, e', _, _, context, target⟩ := first
    simp only [withItems]
    refine ((told e context).text _).bind fun _ _ one => (optional_form target).bind
      fun _ _ two => ih.bind fun _ _ others => .pure ?_
    refine .cons (one.append (prefixed_tail two (k := " as ") rfl)) others ?_
    rintro ⟨rfl, rfl⟩ rfl
    rfl

/-! ### Statements that their texts tell apart -/

/-- A statement at the start of a suite, where a text documents it. -/
def opening (depth : Nat) (s : Stmt Unit) : Except RenderError (List Text) :=
  match documentation? s with
  | some (t, marked) => pure [indentation depth ++ documentation t marked]
  | none => stmt depth s

/-- The texts of two statements tell them apart, wherever they stand. -/
structure StmtTold (s s' : Stmt Unit) : Prop where
  block (depth : Nat) : Both (Block depth (s = s')) (stmt depth s) (stmt depth s')
  opening (depth : Nat) : Both (Lines (s = s')) (opening depth s) (opening depth s')
  chain (depth : Nat) : Both (Lines (s = s')) (alternative depth [s]) (alternative depth [s'])

variable {s s' : Stmt Unit} {ss ss' other other' final final' : List (Stmt Unit)}

theorem else_lines (other : isIf s = false) (other' : isIf s' = false)
    (block : ∀ depth, Both (Block depth (s = s')) (stmt depth s) (stmt depth s')) (depth : Nat) :
    Both (Lines (s = s')) (alternative depth [s]) (alternative depth [s']) := by
  rw [alternative_block (by simp [other]), alternative_block (by simp [other'])]
  simp only [stmts]
  refine (block _).bind fun _ _ one => .pure ?_
  have word : Solid "else:" := solid_iff.mpr ⟨rfl, rfl⟩
  simpa using Lines.keyword word depth one.lines

theorem StmtTold.of_block (plain : documentation? s = none) (plain' : documentation? s' = none)
    (other : isIf s = false) (other' : isIf s' = false)
    (block : ∀ depth, Both (Block depth (s = s')) (stmt depth s) (stmt depth s')) :
    StmtTold s s' := by
  refine ⟨block, ?_, else_lines other other' block⟩
  intro depth
  simp only [Render.opening, plain, plain']
  exact (block depth).imp fun _ _ one => one.lines

theorem stmts_lines (h : List.Forall₂ StmtTold ss ss') (depth : Nat) :
    Both (Lines (ss = ss')) (stmts depth ss) (stmts depth ss') := by
  induction h with
  | nil => exact .ok (.nil rfl)
  | cons first _ ih =>
    simp only [stmts]
    refine (first.block _).bind fun _ _ one => ih.bind fun _ _ others => .pure ?_
    exact (one.lines.append others).imp (by rintro ⟨rfl, rfl⟩; rfl)

theorem suite_cons (depth : Nat) (s : Stmt Unit) (rest : List (Stmt Unit)) :
    suite depth (s :: rest) = (do
      let first ← opening depth s
      return first ++ (← stmts depth rest)) := by
  rw [suite]
  unfold opening
  cases documentation? s <;> rfl

theorem suite_lines (h : List.Forall₂ StmtTold ss ss') (depth : Nat) :
    Both (Lines (ss = ss')) (suite depth ss) (suite depth ss') := by
  cases h with
  | nil => exact .ok (.nil rfl)
  | cons first later =>
    rw [suite_cons, suite_cons]
    refine (first.opening _).bind fun _ _ one => (stmts_lines later _).bind
      fun _ _ others => .pure ?_
    exact (one.append others).imp (by rintro ⟨rfl, rfl⟩; rfl)

theorem block_lines (h : List.Forall₂ StmtTold ss ss') (keyword : Text)
    (solid : Solid (keyword ++ ":")) (depth : Nat) :
    Both (Lines (ss = ss')) (block depth keyword ss) (block depth keyword ss') := by
  cases h with
  | nil => exact .ok (.nil rfl)
  | @cons s s' ss ss' first later =>
    simp only [block]
    refine (first.block _).bind fun _ _ one => (stmts_lines later _).bind
      fun _ _ others => .pure ?_
    have inner : Lines (s :: ss = s' :: ss') _ _ :=
      (one.lines.append others).imp (by rintro ⟨rfl, rfl⟩; rfl)
    simpa only [List.append_assoc, List.cons_append] using Lines.keyword solid depth inner

theorem alternative_lines (h : List.Forall₂ StmtTold ss ss') (depth : Nat) :
    Both (Lines (ss = ss')) (alternative depth ss) (alternative depth ss') := by
  cases h with
  | nil => exact .ok (.nil rfl)
  | @cons s s' ss ss' first later =>
    cases later with
    | nil => exact (first.chain depth).imp fun _ _ one => one.imp (by rintro rfl; rfl)
    | cons second rest =>
      rw [alternative_block (by simp), alternative_block (by simp)]
      refine (first.block _).bind fun _ _ one => (stmts_lines (.cons second rest) _).bind
        fun _ _ others => .pure ?_
      have word : Solid "else:" := solid_iff.mpr ⟨rfl, rfl⟩
      refine Lines.keyword word depth ((one.lines.append others).imp ?_)
      rintro ⟨rfl, same⟩
      rw [same]

theorem handlers_lines {hs hs' : List (Handler Unit)} (star : Bool)
    (h : List.Forall₂ (HandlerForm StmtTold) hs hs') (depth : Nat) :
    Both (Lines (hs = hs')) (handlers depth star hs) (handlers depth star hs') := by
  induction h with
  | nil => exact .ok (.nil rfl)
  | @cons x y xs ys first _ ih =>
    obtain @⟨t, t', a, b, body, body', type, name, inner⟩ := first
    simp only [handlers]
    refine (optional_form type).bind fun _ _ one => (stmts_lines inner _).bind
      fun _ _ two => ih.bind fun _ _ others => .pure ?_
    have lead : starts (if star then ("except*" : Text) else "except") := by cases star <;> rfl
    have clause := (prefixed_tail one (k := " ") rfl).append
      (prefixed_tail (words_maybe name) (k := " as ") rfl)
    have whole : Lines (Handler.mk t a body :: xs = .mk t' b body' :: ys) _ _ :=
      (Block.header depth clause.apart lead (two.append others)).lines.imp
        (by rintro ⟨⟨rfl, rfl⟩, rfl, rfl⟩; rfl)
    cases star <;> simpa only [List.append_assoc, List.cons_append] using whole

theorem cases_lines {cs cs' : List (Case Unit)} (h : List.Forall₂ (CaseForm StmtTold) cs cs')
    (depth : Nat) : Both (Lines (cs = cs')) (cases depth cs) (cases depth cs') := by
  induction h with
  | nil => exact .ok (.nil rfl)
  | @cons x y xs ys first _ ih =>
    obtain @⟨p, p', g, g', body, body', same, guard, inner⟩ := first
    simp only [cases]
    refine (told_pattern p same _).bind fun _ _ one => (optional_form guard).bind
      fun _ _ two => (stmts_lines inner _).bind fun _ _ three => ih.bind fun _ _ others => .pure ?_
    have clause := one.append (prefixed_tail two (k := " if ") rfl)
    have whole : Lines (Case.mk p g body :: xs = .mk p' g' body' :: ys) _ _ :=
      (Block.header depth clause.apart (k := "case ") rfl
        (three.append others)).lines.imp (by rintro ⟨⟨rfl, rfl⟩, rfl, rfl⟩; rfl)
    simpa only [List.append_assoc, List.cons_append] using whole

/-! One lemma for each form of statements. -/

namespace StmtTold

theorem simple_block {f f' : Simple} (form : SimpleForm f f') (depth : Nat) :
    Both (Block depth ((Stmt.simple () f : Stmt Unit) = .simple () f')) (stmt depth (.simple () f))
      (stmt depth (.simple () f')) := by
  simp only [stmt]
  refine (simple_piece form).bind fun _ _ one => .pure ?_
  exact (Block.plain (solid_iff.mp one.left).1 (solid_iff.mp one.right).1
    (Lines.line one (indentation depth))).imp (by rintro rfl; rfl)

theorem isText_form {e e' : Expr} (h : ExprForm e e') : isText e = isText e' := by
  cases h with
  | constant value => cases value <;> rfl
  | _ => rfl

theorem documentation?_expression {e : Expr} (other : isText e = false) :
    documentation? (.simple () (.expression e) : Stmt Unit) = none := by
  cases e with
  | constant c => cases c <;> first | rfl | cases other
  | _ => rfl

theorem simple {f f' : Simple} (form : SimpleForm f f') :
    StmtTold (.simple () f) (.simple () f') := by
  have block := simple_block form
  cases form with
  | note t marked =>
    refine ⟨block, ?_, else_lines rfl rfl block⟩
    intro depth
    exact .pure (Lines.same rfl (documentation_solid t marked) _)
  | expression form other =>
    exact .of_block (documentation?_expression other)
      (documentation?_expression (isText_form form ▸ other)) rfl rfl block
  | _ => exact .of_block rfl rfl rfl rfl block

theorem function {h h' : FunctionHead} (head : FunctionHeadForm h h')
    (inner : List.Forall₂ StmtTold ss ss') : StmtTold (.function () h ss) (.function () h' ss') :=
  .of_block rfl rfl rfl rfl fun depth => by
    simp only [stmt]
    refine (functionHead_block head depth).bind fun _ _ one => (suite_lines inner _).bind
      fun _ _ two => .pure ?_
    exact (one.append two).imp (by rintro ⟨rfl, rfl⟩; rfl)

theorem classOf {h h' : ClassHead} (head : ClassHeadForm h h')
    (inner : List.Forall₂ StmtTold ss ss') : StmtTold (.class () h ss) (.class () h' ss') :=
  .of_block rfl rfl rfl rfl fun depth => by
    simp only [stmt]
    refine (classHead_block head depth).bind fun _ _ one => (suite_lines inner _).bind
      fun _ _ two => .pure ?_
    exact (one.append two).imp (by rintro ⟨rfl, rfl⟩; rfl)

theorem ifOf {t t' : Expr} (test : ExprForm t t') (inner : List.Forall₂ StmtTold ss ss')
    (otherwise : List.Forall₂ StmtTold other other') :
    StmtTold (.if () t ss other) (.if () t' ss' other') := by
  have block (lead : Text) (first : starts lead) (depth : Nat) :
      Both (Block depth ((Stmt.if () t ss other : Stmt Unit) = .if () t' ss' other'))
        (do
          let a ← expr false Level.test t
          let b ← stmts (depth + 1) ss
          return (indentation depth ++ lead ++ a ++ ":") :: b ++ (← alternative depth other))
        (do
          let a ← expr false Level.test t'
          let b ← stmts (depth + 1) ss'
          return (indentation depth ++ lead ++ a ++ ":") :: b ++ (← alternative depth other')) := by
    refine ((told t test).text _).bind fun _ _ one => (stmts_lines inner _).bind fun _ _ two =>
      (alternative_lines otherwise _).bind fun _ _ three => .pure ?_
    exact (Block.header depth one.apart first (two.append three)).imp
      (by rintro ⟨rfl, rfl, rfl⟩; rfl)
  have shown (depth : Nat) := block "if " rfl depth
  refine ⟨fun depth => ?_, fun depth => ?_, fun depth => ?_⟩
  · simp only [stmt]
    exact shown depth
  · simp only [Render.opening, documentation?, stmt]
    exact (shown depth).imp fun _ _ one => one.lines
  · simp only [alternative]
    exact (block "elif " rfl depth).imp fun _ _ one => one.lines

theorem whileOf {t t' : Expr} (test : ExprForm t t') (inner : List.Forall₂ StmtTold ss ss')
    (otherwise : List.Forall₂ StmtTold other other') :
    StmtTold (.while () t ss other) (.while () t' ss' other') :=
  .of_block rfl rfl rfl rfl fun depth => by
    simp only [stmt]
    refine ((told t test).text _).bind fun _ _ one => (stmts_lines inner _).bind fun _ _ two =>
      (block_lines otherwise "else" (solid_iff.mpr ⟨rfl, rfl⟩) _).bind
        fun _ _ three => .pure ?_
    exact (Block.header depth one.apart (k := "while ") rfl (two.append three)).imp
      (by rintro ⟨rfl, rfl, rfl⟩; rfl)

theorem forOf (async : Bool) {t t' i i' : Expr} (target : ExprForm t t') (iterable : ExprForm i i')
    (inner : List.Forall₂ StmtTold ss ss') (otherwise : List.Forall₂ StmtTold other other') :
    StmtTold (.for () async t i ss other) (.for () async t' i' ss' other') :=
  .of_block rfl rfl rfl rfl fun depth => by
    simp only [stmt]
    refine ((told t target).text _).bind fun _ _ one => ((told i iterable).text _).bind
      fun _ _ two => (stmts_lines inner _).bind fun _ _ three =>
        (block_lines otherwise "else" (solid_iff.mpr ⟨rfl, rfl⟩) _).bind
          fun _ _ four => .pure ?_
    have lead : starts (if async then ("async for " : Text) else "for ") := by cases async <;> rfl
    have range := one.append (two.after (k := " in ") rfl)
    have whole : Block depth
        ((Stmt.for () async t i ss other : Stmt Unit) = .for () async t' i' ss' other') _ _ :=
      (Block.header depth range.apart lead (three.append four)).imp
        (by rintro ⟨⟨rfl, rfl⟩, rfl, rfl⟩; rfl)
    cases async <;> simpa only [List.append_assoc, List.cons_append] using whole

theorem withOf (async : Bool) {ws ws' : List WithItem} (items : List.Forall₂ WithItemForm ws ws')
    (inner : List.Forall₂ StmtTold ss ss') :
    StmtTold (.with () async ws ss) (.with () async ws' ss') :=
  .of_block rfl rfl rfl rfl fun depth => by
    simp only [stmt]
    refine (withItems_pieces items).bind fun _ _ one => (stmts_lines inner _).bind
      fun _ _ two => .pure ?_
    have lead : starts (if async then ("async with " : Text) else "with ") := by
      cases async <;> rfl
    have whole :
        Block depth ((Stmt.with () async ws ss : Stmt Unit) = .with () async ws' ss') _ _ :=
      (Block.header depth (commaSeparated_apart one) lead two).imp (by rintro ⟨rfl, rfl⟩; rfl)
    cases async <;> exact whole

theorem tryOf (star : Bool) {hs hs' : List (Handler Unit)} (inner : List.Forall₂ StmtTold ss ss')
    (h : List.Forall₂ (HandlerForm StmtTold) hs hs')
    (otherwise : List.Forall₂ StmtTold other other') (last : List.Forall₂ StmtTold final final') :
    StmtTold (.try () star ss hs other final) (.try () star ss' hs' other' final') :=
  .of_block rfl rfl rfl rfl fun depth => by
    simp only [stmt]
    refine (stmts_lines inner _).bind fun _ _ one => (handlers_lines star h _).bind
      fun _ _ two => (block_lines otherwise "else" (solid_iff.mpr ⟨rfl, rfl⟩) _).bind
        fun _ _ three =>
          (block_lines last "finally" (solid_iff.mpr ⟨rfl, rfl⟩) _).bind
            fun _ _ four => .pure ?_
    have word : Solid "try:" := solid_iff.mpr ⟨rfl, rfl⟩
    have lines := Lines.keyword word depth (((one.append two).append three).append four)
    exact (Block.plain rfl rfl lines).imp (by rintro ⟨⟨⟨rfl, rfl⟩, rfl⟩, rfl⟩; rfl)

theorem matchOf {e e' : Expr} {cs cs' : List (Case Unit)} (subject : ExprForm e e')
    (h : List.Forall₂ (CaseForm StmtTold) cs cs') :
    StmtTold (.match () e cs) (.match () e' cs') :=
  .of_block rfl rfl rfl rfl fun depth => by
    simp only [stmt]
    refine ((told e subject).text _).bind fun _ _ one => (cases_lines h _).bind
      fun _ _ two => .pure ?_
    exact (Block.header depth one.apart (k := "match ") rfl two).imp (by rintro ⟨rfl, rfl⟩; rfl)

end StmtTold

mutual

/-- The texts of statements of one form tell them apart, by recursion on the first of them. -/
theorem told_stmt : (s : Stmt Unit) → {s' : Stmt Unit} → StmtForm s s' → StmtTold s s'
  | .simple _ _, _, .simple form => .simple form
  | .function _ _ body, _, .function head inner => .function head (told_stmts body inner)
  | .class _ _ body, _, .class head inner => .classOf head (told_stmts body inner)
  | .if _ _ body other, _, .if test inner otherwise =>
    .ifOf test (told_stmts body inner) (told_stmts other otherwise)
  | .while _ _ body other, _, .while test inner otherwise =>
    .whileOf test (told_stmts body inner) (told_stmts other otherwise)
  | .for _ async _ _ body other, _, .for _ target iterable inner otherwise =>
    .forOf async target iterable (told_stmts body inner) (told_stmts other otherwise)
  | .with _ async _ body, _, .with _ items inner =>
    .withOf async items (told_stmts body inner)
  | .try _ star body hs other final, _, .try _ inner handlers otherwise last =>
    .tryOf star (told_stmts body inner) (told_handlers hs handlers) (told_stmts other otherwise)
      (told_stmts final last)
  | .match _ _ cs, _, .match subject cases => .matchOf subject (told_cases cs cases)
termination_by structural s => s

theorem told_stmts : (ss : List (Stmt Unit)) → {ss' : List (Stmt Unit)} →
    List.Forall₂ StmtForm ss ss' → List.Forall₂ StmtTold ss ss'
  | [], _, .nil => .nil
  | s :: ss, _, .cons first later => .cons (told_stmt s first) (told_stmts ss later)
termination_by structural s => s

theorem told_handlers : (hs : List (Handler Unit)) → {hs' : List (Handler Unit)} →
    List.Forall₂ (HandlerForm StmtForm) hs hs' → List.Forall₂ (HandlerForm StmtTold) hs hs'
  | [], _, .nil => .nil
  | .mk _ _ body :: hs, _, .cons (.mk type name inner) later =>
    .cons (.mk type name (told_stmts body inner)) (told_handlers hs later)
termination_by structural s => s

theorem told_cases : (cs : List (Case Unit)) → {cs' : List (Case Unit)} →
    List.Forall₂ (CaseForm StmtForm) cs cs' → List.Forall₂ (CaseForm StmtTold) cs cs'
  | [], _, .nil => .nil
  | .mk _ _ body :: cs, _, .cons (.mk same guard inner) later =>
    .cons (.mk same guard (told_stmts body inner)) (told_cases cs later)
termination_by structural s => s

end

/-- Statements of one form are written differently, unless they are the same. -/
theorem statement_piece {s s' : Stmt Unit} (form : StmtForm s s') :
    Both (Piece (s = s')) (statement s) (statement s') := by
  simp only [statement]
  exact ((told_stmt s form).block 0).bind fun _ _ one => .pure one.piece

end Render

end BodyDigest.Indented
