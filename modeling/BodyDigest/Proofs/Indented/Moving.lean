import Mathlib.Data.List.Basic
import BodyDigest.Indented.Source

/-!
The readers of the grammar only move forwards: each takes tokens off the front of those ahead.
-/
namespace BodyDigest.Indented.Grammar

/-! ### Moves -/

/-- The cursor gets past some of the tokens ahead. -/
inductive Moves : Cursor → Cursor → Prop where
  | refl (c : Cursor) : Moves c c
  | past {t : Token} {rest : List Token} {last : Pos} {d : Cursor}
    (later : Moves ⟨rest, if Lexeme.isLayout t.lexeme then last else t.span.stop⟩ d) :
    Moves ⟨t :: rest, last⟩ d

theorem Moves.trans {c d e : Cursor} (h : Moves c d) (h' : Moves d e) : Moves c e := by
  induction h with
  | refl c => exact h'
  | past later ih => exact .past (ih h')

/-- A reader that moves forwards where it has a value. -/
class Advances {α : Type} (r : Reader α) : Prop where
  moves : ∀ {c d : Cursor} {a : α}, r c = some (a, d) → Moves c d

section

variable {α β : Type} {r s : Reader α} {f : α → Reader β}

theorem bind_eq_some_iff {c d : Cursor} {b : β} :
    (r >>= f) c = some (b, d) ↔ ∃ a m, r c = some (a, m) ∧ f a m = some (b, d) := by
  change (r c).bind (fun x => f x.1 x.2) = some (b, d) ↔ _
  rw [Option.bind_eq_some_iff, Prod.exists]

instance Advances.bind [Advances r] [∀ a, Advances (f a)] : Advances (r >>= f) where
  moves read := by
    obtain ⟨a, m, first, second⟩ := bind_eq_some_iff.mp read
    exact (Advances.moves first).trans (Advances.moves second)

theorem Advances.next [Advances r] (later : ∀ a, Advances (f a)) : Advances (r >>= f) := inferInstance

instance Advances.pure (a : α) : Advances (Pure.pure a : Reader α) where
  moves := by
    rintro c d b ⟨⟩
    exact .refl c

instance Advances.failure : Advances (failure : Reader α) where
  moves := by rintro c d a ⟨⟩

instance Advances.ite (p : Prop) [Decidable p] [Advances r] [Advances s] :
    Advances (if p then r else s) := by
  split <;> infer_instance

end

instance : Advances (get : Reader Cursor) where
  moves := by
    rintro c d a ⟨⟩
    exact .refl c

instance : Advances advance where
  moves := by
    rintro ⟨ahead, last⟩ d l read
    cases ahead with
    | nil => cases read
    | cons t rest =>
      cases read
      exact .past (.refl _)

instance : Advances peek := by unfold peek; infer_instance

instance : Advances peekSecond := by unfold peekSecond; infer_instance

instance : Advances here := by unfold here; infer_instance

instance : Advances behind := by unfold behind; infer_instance

instance (l : Lexeme) : Advances (sees l) := by unfold sees; infer_instance

instance (l : Lexeme) : Advances (takes l) := by unfold takes; infer_instance

instance (l : Lexeme) : Advances (expect l) := by unfold expect; infer_instance

instance : Advances name := by
  unfold name
  refine @Advances.bind _ _ _ _ _ fun l => ?_
  split <;> infer_instance

instance : Advances seesName := by unfold seesName; infer_instance

instance (symbol : String) : Advances (seesNameBefore symbol) := by
  unfold seesNameBefore
  infer_instance

instance : Advances seesExpression := by unfold seesExpression; infer_instance

instance : Advances seesElement := by unfold seesElement; infer_instance

instance (start : Pos) (e : Expr) : Advances (since start e) := by unfold since; infer_instance

instance : Advances compareOp? := by
  unfold compareOp?
  repeat' first | infer_instance | refine Advances.next fun _ => ?_ | split

instance (level : Level) : Advances (binaryOp? level) := by
  unfold binaryOp?
  repeat' first | infer_instance | refine Advances.next fun _ => ?_ | split

instance (n : Nat) : Advances (skipTokens n) := by
  induction n with
  | zero => exact Advances.pure ()
  | succ n ih =>
    rw [skipTokens]
    infer_instance

/-! ### Expressions -/

/-- All readers of expressions move forwards on so much fuel. -/
class Advancing (n : Nat) : Prop where
  elements : Advances (elements n)
  moreElements : Advances (moreElements n)
  element : Advances (element n)
  namedElement : Advances (namedElement n)
  moreNamedElements : Advances (moreNamedElements n)
  namedExpression : Advances (namedExpression n)
  expression : Advances (expression n)
  yieldExpression : Advances (yieldExpression n)
  moreOperands (op : BoolOp) : Advances (moreOperands op n)
  disjunction : Advances (disjunction n)
  conjunction : Advances (conjunction n)
  inversion : Advances (inversion n)
  comparison : Advances (comparison n)
  moreComparisons : Advances (moreComparisons n)
  binary (level : Level) : Advances (binary n level)
  moreBinary (level : Level) (start : Pos) (left : Located) : Advances (moreBinary n level start left)
  factor : Advances (factor n)
  awaited : Advances (awaited n)
  primary : Advances (primary n)
  trailers (start : Pos) (e : Located) : Advances (trailers n start e)
  callArguments : Advances (callArguments n)
  arguments (stage : Stage) : Advances (arguments n stage)
  argument (stage : Stage) : Advances (argument n stage)
  slices : Advances (slices n)
  moreSlices : Advances (moreSlices n)
  slice : Advances (slice n)
  sliceEnd : Advances (sliceEnd n)
  optionalExpression : Advances (optionalExpression n)
  atom : Advances (atom n)
  parenthesized (start : Pos) : Advances (parenthesized n start)
  bracketed (start : Pos) : Advances (bracketed n start)
  braced (start : Pos) : Advances (braced n start)
  dictItems : Advances (dictItems n)
  moreDictItems : Advances (moreDictItems n)
  clauses : Advances (clauses n)
  conditions : Advances (conditions n)
  targets : Advances (targets n)
  moreTargets : Advances (moreTargets n)
  target : Advances (target n)
  parameters (annotated : Bool) (s : ParamState) : Advances (parameters n annotated s)
  moreParameters (annotated : Bool) (s : ParamState) : Advances (moreParameters n annotated s)
  parameter (annotated starred : Bool) : Advances (parameter n annotated starred)
  literals : Advances (literals n)
  literalParts (run : List (List Char × List Char)) : Advances (literalParts n run)

attribute [instance] Advancing.elements Advancing.moreElements Advancing.element Advancing.namedElement
  Advancing.moreNamedElements Advancing.namedExpression Advancing.expression Advancing.yieldExpression
  Advancing.moreOperands Advancing.disjunction Advancing.conjunction Advancing.inversion
  Advancing.comparison Advancing.moreComparisons Advancing.binary Advancing.moreBinary Advancing.factor
  Advancing.awaited Advancing.primary Advancing.trailers Advancing.callArguments Advancing.arguments
  Advancing.argument Advancing.slices Advancing.moreSlices Advancing.slice Advancing.sliceEnd
  Advancing.optionalExpression Advancing.atom Advancing.parenthesized Advancing.bracketed
  Advancing.braced Advancing.dictItems Advancing.moreDictItems Advancing.clauses Advancing.conditions
  Advancing.targets Advancing.moreTargets Advancing.target Advancing.parameters Advancing.moreParameters
  Advancing.parameter Advancing.literals Advancing.literalParts

instance advancing (n : Nat) : Advancing n := by
  induction n with
  | zero => constructor <;> intros <;> exact Advances.failure
  | succ n ih =>
    constructor
    case' elements => rw [elements]
    case' moreElements => rw [moreElements]
    case' element => rw [element]
    case' namedElement => rw [namedElement]
    case' moreNamedElements => rw [moreNamedElements]
    case' namedExpression => rw [namedExpression]
    case' expression => rw [expression]
    case' yieldExpression => rw [yieldExpression]
    case' moreOperands => intro op; cases op <;> rw [moreOperands]
    case' disjunction => rw [disjunction]
    case' conjunction => rw [conjunction]
    case' inversion => rw [inversion]
    case' comparison => rw [comparison]
    case' moreComparisons => rw [moreComparisons]
    case' binary => intro level; rw [binary]
    case' moreBinary => intro level start left; rw [moreBinary]
    case' factor => rw [factor]
    case' awaited => rw [awaited]
    case' primary => rw [primary]
    case' trailers => intro start e; rw [trailers]
    case' callArguments => rw [callArguments]
    case' arguments => intro stage; rw [arguments]
    case' argument => intro stage; rw [argument]
    case' slices => rw [slices]
    case' moreSlices => rw [moreSlices]
    case' slice => rw [slice]
    case' sliceEnd => rw [sliceEnd]
    case' optionalExpression => rw [optionalExpression]
    case' atom => rw [atom]
    case' parenthesized => intro start; rw [parenthesized]
    case' bracketed => intro start; rw [bracketed]
    case' braced => intro start; rw [braced]
    case' dictItems => rw [dictItems]
    case' moreDictItems => rw [moreDictItems]
    case' clauses => rw [clauses]
    case' conditions => rw [conditions]
    case' targets => rw [targets]
    case' moreTargets => rw [moreTargets]
    case' target => rw [target]
    case' parameters => intro annotated s; rw [parameters]
    case' moreParameters => intro annotated s; rw [moreParameters]
    case' parameter => intro annotated starred; rw [parameter]
    case' literals => rw [literals]
    case' literalParts => intro run; cases run <;> rw [literalParts]
    all_goals repeat' first | infer_instance | refine Advances.next fun _ => ?_ | split | dsimp only

/-! ### Patterns -/

instance : Advances signedNumber := by
  unfold signedNumber
  repeat' first | infer_instance | refine Advances.next fun _ => ?_ | split

instance : Advances numberPattern := by
  unfold numberPattern
  repeat' first | infer_instance | refine Advances.next fun _ => ?_ | split

instance : Advances seesNumber := by
  unfold seesNumber
  repeat' first | infer_instance | refine Advances.next fun _ => ?_ | split

instance : Advances seesLiteral := by
  unfold seesLiteral
  repeat' first | infer_instance | refine Advances.next fun _ => ?_ | split

instance : Advances captureName := by
  unfold captureName captureName.continues
  repeat' first | infer_instance | refine Advances.next fun _ => ?_ | split

instance : Advances starName := by unfold starName; infer_instance

instance (n : Nat) (e : Expr) : Advances (attributes n e) := by
  induction n generalizing e with
  | zero => exact Advances.failure
  | succ n ih =>
    rw [attributes]
    infer_instance

/-- All readers of patterns move forwards on so much fuel. -/
class AdvancingPatterns (n : Nat) : Prop where
  patterns : Advances (patterns n)
  morePatterns : Advances (morePatterns n)
  starOrPattern : Advances (starOrPattern n)
  pattern : Advances (pattern n)
  alternatives : Advances (alternatives n)
  moreAlternatives : Advances (moreAlternatives n)
  closedPattern : Advances (closedPattern n)
  mappingPattern (keys : List Expr) (values : List Pattern) : Advances (mappingPattern n keys values)
  mappingKey : Advances (mappingKey n)
  classPattern (type : Expr) (positional : List Pattern) (names : List Text) (named : List Pattern) :
    Advances (classPattern n type positional names named)

attribute [instance] AdvancingPatterns.patterns AdvancingPatterns.morePatterns
  AdvancingPatterns.starOrPattern AdvancingPatterns.pattern AdvancingPatterns.alternatives
  AdvancingPatterns.moreAlternatives AdvancingPatterns.closedPattern AdvancingPatterns.mappingPattern
  AdvancingPatterns.mappingKey AdvancingPatterns.classPattern

instance advancingPatterns (n : Nat) : AdvancingPatterns n := by
  induction n with
  | zero => constructor <;> intros <;> exact Advances.failure
  | succ n ih =>
    constructor
    case' patterns => rw [patterns]
    case' morePatterns => rw [morePatterns]
    case' starOrPattern => rw [starOrPattern]
    case' pattern => rw [pattern]
    case' alternatives => rw [alternatives]
    case' moreAlternatives => rw [moreAlternatives]
    case' closedPattern => rw [closedPattern]
    case' mappingPattern => intro keys values; rw [mappingPattern]
    case' mappingKey => rw [mappingKey]
    case' classPattern => intro type positional names named; rw [classPattern]
    all_goals repeat' first | infer_instance | refine Advances.next fun _ => ?_ | split

/-! ### Statements -/

instance (n : Nat) : Advances (dottedName n) := by
  induction n with
  | zero => exact Advances.failure
  | succ n ih =>
    rw [dottedName]
    infer_instance

instance : Advances otherName := by unfold otherName; infer_instance

instance (n : Nat) : Advances (moduleAliases n) := by
  induction n with
  | zero => exact Advances.failure
  | succ n ih =>
    rw [moduleAliases]
    infer_instance

instance (n : Nat) (enclosed : Bool) : Advances (nameAliases n enclosed) := by
  induction n with
  | zero => exact Advances.failure
  | succ n ih =>
    rw [nameAliases]
    infer_instance

instance (n : Nat) : Advances (leadingDots n) := by
  induction n with
  | zero => exact Advances.failure
  | succ n ih =>
    rw [leadingDots]
    infer_instance

instance (n : Nat) : Advances (importFrom n) := by
  unfold importFrom
  repeat' first | infer_instance | refine Advances.next fun _ => ?_ | split

instance (n : Nat) : Advances (nameList n) := by
  induction n with
  | zero => exact Advances.failure
  | succ n ih =>
    rw [nameList]
    infer_instance

instance (n : Nat) : Advances (deleteTargets n) := by
  induction n with
  | zero => exact Advances.failure
  | succ n ih =>
    rw [deleteTargets]
    infer_instance

instance (n : Nat) : Advances (assigned n) := by unfold assigned; infer_instance

instance (n : Nat) (targets : List Expr) : Advances (assignment n targets) := by
  induction n generalizing targets with
  | zero => exact Advances.failure
  | succ n ih =>
    rw [assignment]
    infer_instance

instance (n : Nat) : Advances (expressionStatement n) := by
  unfold expressionStatement
  repeat' first | infer_instance | refine Advances.next fun _ => ?_ | split

instance (n : Nat) : Advances (simple n) := by
  unfold simple
  repeat' first | infer_instance | refine Advances.next fun _ => ?_ | refine @Advances.ite _ _ _ _ _ ?_ ?_

instance (start : Pos) : Advances (spanSince start) := by unfold spanSince; infer_instance

instance (n : Nat) : Advances (simpleLine n) := by
  induction n with
  | zero => exact Advances.failure
  | succ n ih =>
    rw [simpleLine]
    infer_instance

instance (n : Nat) : Advances (withItem n) := by unfold withItem; infer_instance

instance (n : Nat) (enclosed : Bool) : Advances (withItems n enclosed) := by
  induction n with
  | zero => exact Advances.failure
  | succ n ih =>
    rw [withItems]
    infer_instance

instance (n : Nat) : Advances (withHead n) where
  moves := by
    intro c d items read
    unfold withHead at read
    simp only at read
    split at read
    · cases read
      rename_i enclosed
      exact Advances.moves enclosed
    · exact Advances.moves read

instance (n : Nat) : Advances (matchHead n) := by
  unfold matchHead
  repeat' first | infer_instance | refine Advances.next fun _ => ?_ | split

instance (n : Nat) : Advances (decorators n) := by
  induction n with
  | zero => exact Advances.failure
  | succ n ih =>
    rw [decorators]
    infer_instance

/-- All readers of statements move forwards on so much fuel. -/
class AdvancingStatements (n : Nat) : Prop where
  block : Advances (block n)
  moreStatements : Advances (moreStatements n)
  statement : Advances (statement n)
  definition (ds : List Located) : Advances (definition n ds)
  forStatement (start : Pos) (async : Bool) : Advances (forStatement n start async)
  withStatement (start : Pos) (async : Bool) : Advances (withStatement n start async)
  ifStatement : Advances (ifStatement n)
  elseBlock : Advances (elseBlock n)
  tryStatement : Advances (tryStatement n)
  handlers (star : Bool) : Advances (handlers n star)
  cases : Advances (cases n)

attribute [instance] AdvancingStatements.block AdvancingStatements.moreStatements
  AdvancingStatements.statement AdvancingStatements.definition AdvancingStatements.forStatement
  AdvancingStatements.withStatement AdvancingStatements.ifStatement AdvancingStatements.elseBlock
  AdvancingStatements.tryStatement AdvancingStatements.handlers AdvancingStatements.cases

instance advancingStatements (n : Nat) : AdvancingStatements n := by
  induction n with
  | zero => constructor <;> intros <;> exact Advances.failure
  | succ n ih =>
    constructor
    case' block => rw [block]
    case' moreStatements => rw [moreStatements]
    case' statement =>
      rw [statement]
      refine Advances.next fun start => Advances.next fun next => ?_
      split
      -- A head of `match` is tried on the cursor, which is only then set behind it.
      case h_10 =>
        refine ⟨fun {c d ss} read => ?_⟩
        obtain ⟨_, _, got, read⟩ := bind_eq_some_iff.mp read
        cases got
        cases tried : matchHead n c with
        | none =>
          simp only [tried] at read
          exact Advances.moves read
        | some head =>
          simp only [tried] at read
          obtain ⟨_, _, moved, read⟩ := bind_eq_some_iff.mp read
          cases moved
          exact (Advances.moves tried).trans (Advances.moves read)
    case' definition => intro ds; rw [definition]
    case' forStatement => intro start async; rw [forStatement]
    case' withStatement => intro start async; rw [withStatement]
    case' ifStatement => rw [ifStatement]
    case' elseBlock => rw [elseBlock]
    case' tryStatement => rw [tryStatement]
    case' handlers => intro star; rw [handlers]
    case' cases => rw [cases]
    all_goals repeat' first | infer_instance | refine Advances.next fun _ => ?_ | split

instance (n : Nat) : Advances (module n) := by
  induction n with
  | zero => exact Advances.failure
  | succ n ih =>
    rw [module]
    infer_instance

end BodyDigest.Indented.Grammar
