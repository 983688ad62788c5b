import BodyDigest.Proofs.Indented.Placing
import BodyDigest.Proofs.Indented.Positions
import BodyDigest.Proofs.Indented.Reported

/-!
Every statement of a module can be cut out of its source: the places that the grammar gives are those of
tokens, which stand between characters.
-/
namespace BodyDigest.Indented

/-- The places of a statement and of all statements in its blocks have a property. -/
inductive Stmt.Holds {P : Type} (Q : P → Prop) : Stmt P → Prop where
  | mk {s : Stmt P} (here : Q s.place)
    (inside : ∀ block inner, s.block? block = some inner → ∀ t ∈ inner, Stmt.Holds Q t) : Stmt.Holds Q s

namespace Grammar

variable {lines : List (List UInt8)}

/-! ### Cursors -/

/-- A cursor whose tokens stand between characters, one behind another. -/
structure Cursor.Sound (lines : List (List UInt8)) (c : Cursor) : Prop where
  last : At lines c.last
  stands : ∀ t ∈ c.ahead, t.Stands lines
  below : ∀ t ∈ c.ahead, c.last.line ≤ t.span.start.line
  rising : c.ahead.Pairwise fun t u => t.Until u.span.start

theorem Moves.suffix {c d : Cursor} (h : Moves c d) : d.ahead <:+ c.ahead := by
  induction h with
  | refl c => exact List.suffix_rfl
  | past later ih => exact ih.trans (List.suffix_cons ..)

theorem Moves.sound {c d : Cursor} (h : Moves c d) (sound : c.Sound lines) : d.Sound lines := by
  induction h with
  | refl c => exact sound
  | past later ih =>
    rename_i t rest last d
    obtain ⟨stands, others⟩ := List.forall_mem_cons.mp sound.stands
    obtain ⟨until_later, rising⟩ := List.pairwise_cons.mp sound.rising
    refine ih ⟨?_, others, fun u member => ?_, rising⟩
    · split
      · exact sound.last
      · exact stands.stop
    · dsimp only
      split
      · exact sound.below u (List.mem_cons_of_mem _ member)
      · exact (until_later u member).stop

/-- A place on the way of a cursor is not below the tokens that are left. -/
theorem Passed.sound {c d : Cursor} {p : Pos} (h : Passed c d p) (sound : c.Sound lines) :
    At lines p ∧ ∀ t ∈ d.ahead, p.line ≤ t.span.start.line := by
  obtain ⟨m, before, behind, here⟩ := h
  have reached := before.sound sound
  have left : ∀ t ∈ d.ahead, t ∈ m.ahead := fun t member => behind.suffix.subset member
  rcases here with rfl | ⟨t, next, rfl⟩
  · exact ⟨reached.last, fun u member => reached.below u (left u member)⟩
  · have first := List.mem_of_head? next
    refine ⟨(reached.stands t first).start, fun u member => ?_⟩
    obtain ⟨rest, split⟩ := List.head?_eq_some_iff.mp next
    have rising := reached.rising
    have later := left u member
    rw [split] at rising later
    rcases List.mem_cons.mp later with rfl | later
    · exact Nat.le_refl _
    · exact ((List.pairwise_cons.mp rising).1 u later).start

/-! ### Readers -/

/-- What a reader gives from a sound cursor. -/
structure Gives {α : Type} (lines : List (List UInt8)) (good : α → Prop) (r : Reader α) : Prop where
  value : ∀ {c d : Cursor} {a : α}, c.Sound lines → r c = some (a, d) → good a

namespace Gives

variable {α β : Type} {r : Reader α} {f : α → Reader β} {good : α → Prop} {good' : β → Prop}

theorem bind [Advances r] (h : Gives lines good r) (later : ∀ a, good a → Gives lines good' (f a)) :
    Gives lines good' (r >>= f) where
  value sound read := by
    obtain ⟨a, m, first, second⟩ := bind_eq_some_iff.mp read
    exact (later a (h.value sound first)).value ((Advances.moves first).sound sound) second

theorem skip [Advances r] (later : ∀ a, Gives lines good' (f a)) : Gives lines good' (r >>= f) :=
  have anything : Gives lines (fun _ => True) r := ⟨fun _ _ => trivial⟩
  anything.bind fun a _ => later a

theorem pure {a : α} (h : good a) : Gives lines good (Pure.pure a : Reader α) where
  value := by
    rintro c d b - ⟨⟩
    exact h

theorem failure : Gives lines good (failure : Reader α) where
  value := by rintro c d a - ⟨⟩

theorem ite {p : Prop} [Decidable p] {s : Reader α} (h : Gives lines good r) (h' : Gives lines good s) :
    Gives lines good (if p then r else s) := by
  split
  · exact h
  · exact h'

theorem of_keeps (h : Keeps (At lines) True good r) : Gives lines good r where
  value sound read := h.value trivial read fun _ passed => (passed.sound sound).1

theorem from_here {f : Pos → Reader β} (later : ∀ start, At lines start → Gives lines good' (f start)) :
    Gives lines good' (here >>= f) := (of_keeps .here).bind later

end Gives

/-! ### Statements without blocks -/

/-- Both ends of a span are places of the source. -/
structure Spans (lines : List (List UInt8)) (s : Span) : Prop where
  start : At lines s.start
  stop : At lines s.stop

theorem gives_spanSince {start : Pos} (h : At lines start) : Gives lines (Spans lines) (spanSince start) :=
  (Gives.of_keeps .behind).bind fun _ stop => .pure ⟨h, stop⟩

/-- The body of a lambda, where there is one, is cut out of the source. -/
abbrev BodySpans (lines : List (List UInt8)) (r : Simple × Option Span) : Prop := ∀ s ∈ r.2, Spans lines s

theorem bodySpans_none (form : Simple) : BodySpans lines (form, none) := by rintro s ⟨⟩

theorem bodySpans_of_holds {e : Located} (h : e.Holds (At lines)) (form : Simple) :
    BodySpans lines (form, e.body) := fun s member => ⟨(h.body s member).1, (h.body s member).2⟩

theorem gives_assigned (n : Nat) : Gives lines (Located.Holds (At lines)) (assigned n) := by
  unfold assigned
  refine .skip fun yields => ?_
  split
  · exact .of_keeps (placing _ n).yieldExpression
  · exact .of_keeps (placing _ n).elements

theorem gives_assignment (n : Nat) (targets : List Expr) :
    Gives lines (BodySpans lines) (assignment n targets) := by
  induction n generalizing targets with
  | zero => exact .failure
  | succ n ih =>
    rw [assignment]
    refine (gives_assigned n).bind fun e placed => .skip fun again => ?_
    split
    · split
      · exact ih _
      · exact .failure
    · exact .pure (bodySpans_of_holds placed _)

theorem gives_expressionStatement (n : Nat) : Gives lines (BodySpans lines) (expressionStatement n) := by
  unfold expressionStatement
  refine .skip fun yields => ?_
  split
  · exact .skip fun e => .pure (bodySpans_none _)
  · refine .skip fun enclosed => .skip fun e => .skip fun colon => ?_
    split
    · split
      · exact .failure
      · refine .skip fun hint => .skip fun valued => ?_
        split
        · exact (gives_assigned n).bind fun v placed => .pure (bodySpans_of_holds placed _)
        · exact .pure (bodySpans_none _)
    · refine .skip fun assigns => ?_
      split
      · split
        · exact gives_assignment n _
        · exact .failure
      · refine .skip fun next => ?_
        split
        · refine .skip fun _ => ?_
          split
          · exact .failure
          · exact .skip fun v => .pure (bodySpans_none _)
        · exact .pure (bodySpans_none _)

/-- Only a statement that starts with an expression assigns a lambda. -/
theorem gives_simple (n : Nat) : Gives lines (BodySpans lines) (simple n) := by
  unfold simple
  repeat' first
    | exact .pure (bodySpans_none _)
    | exact gives_expressionStatement n
    | refine .skip fun _ => ?_
    | refine .ite ?_ ?_

/-! ### Statements -/

/-- Statements that can be cut out of the source, with all that stand in their blocks. -/
abbrev Fit (lines : List (List UInt8)) (ss : List (Stmt Place)) : Prop :=
  ∀ s ∈ ss, s.Holds (Slice.Fits lines)

theorem fit_nil : Fit lines [] := fun _ member => absurd member List.not_mem_nil

theorem fit_append {ss ts : List (Stmt Place)} (h : Fit lines ss) (h' : Fit lines ts) :
    Fit lines (ss ++ ts) :=
  List.forall_mem_append.mpr ⟨h, h'⟩

theorem fit_single {s : Stmt Place} (h : s.Holds (Slice.Fits lines)) : Fit lines [s] :=
  List.forall_mem_singleton.mpr h

/-- A place without a decorator. -/
theorem fits_span {span : Span} (h : Spans lines span) : Slice.Fits lines { span := span } :=
  ⟨h.start, h.stop, by rintro p ⟨⟩, by rintro s ⟨⟩⟩

theorem gives_simpleLine (n : Nat) : Gives lines (Fit lines) (simpleLine n) := by
  induction n with
  | zero => exact .failure
  | succ n ih =>
    rw [simpleLine]
    refine .from_here fun start at_start => (gives_simple n).bind fun read body => ?_
    obtain ⟨form, bodySpan⟩ := read
    refine (gives_spanSince at_start).bind fun span spans => ?_
    have fit : Stmt.Holds (Slice.Fits lines)
        (.simple { span := span, lambdaBody := bodySpan } form : Stmt Place) :=
      .mk ⟨spans.start, spans.stop, by rintro p ⟨⟩,
        fun s member => ⟨(body s member).start, (body s member).stop⟩⟩
        (by rintro (_ | _ | _ | _ | _) inner ⟨⟩)
    dsimp only
    refine .skip fun semicolon => ?_
    split
    · refine .skip fun feed => ?_
      split
      · exact .pure (fit_single fit)
      · exact ih.bind fun rest later => .pure (List.forall_mem_cons.mpr ⟨fit, later⟩)
    · exact .skip fun _ => .pure (fit_single fit)

theorem takes_eq_some {l : Lexeme} {c d : Cursor} {b : Bool} (h : takes l c = some (b, d)) :
    (b = true ∧ ∃ t, c.ahead = t :: d.ahead ∧ t.lexeme = l) ∨ (b = false ∧ d = c) := by
  obtain ⟨seen, m, at_head, h⟩ := bind_eq_some_iff.mp h
  cases at_head
  split at h
  · rename_i same
    obtain ⟨_, m, moved, h⟩ := bind_eq_some_iff.mp h
    cases h
    refine .inl ⟨rfl, ?_⟩
    obtain ⟨ahead, last⟩ := c
    cases ahead with
    | nil => cases moved
    | cons t rest =>
      cases moved
      exact ⟨t, rfl, by simpa using same⟩
  · cases h
    exact .inr ⟨rfl, rfl⟩

theorem expect_eq_some {l : Lexeme} {c d : Cursor} {u : Unit} (h : expect l c = some (u, d)) :
    ∃ t, c.ahead = t :: d.ahead ∧ t.lexeme = l := by
  obtain ⟨taken, m, took, h⟩ := bind_eq_some_iff.mp h
  rcases takes_eq_some took with ⟨rfl, found⟩ | ⟨rfl, -⟩
  · cases h
    exact found
  · cases h

/-- Decorators stand above what follows them. -/
theorem decorators_above {n : Nat} {c d : Cursor} {ds : List Located} (sound : c.Sound lines)
    (read : decorators n c = some (ds, d)) :
    ∀ e ∈ ds, At lines e.span.start ∧ ∀ t ∈ d.ahead, e.span.start.line < t.span.start.line := by
  induction n generalizing c ds with
  | zero => cases read
  | succ n ih =>
    rw [decorators] at read
    obtain ⟨sign, behind_sign, taken, read⟩ := bind_eq_some_iff.mp read
    have at_sign := (Advances.moves taken).sound sound
    split at read
    · obtain ⟨e, m, first, read⟩ := bind_eq_some_iff.mp read
      obtain ⟨_, below, feed, read⟩ := bind_eq_some_iff.mp read
      obtain ⟨rest, _, later, read⟩ := bind_eq_some_iff.mp read
      cases read
      have at_feed := (Advances.moves first).sound at_sign
      obtain ⟨place, above⟩ := ((placing _ n).namedExpression.value trivial first fun p passed =>
        passed.sound at_sign).start
      obtain ⟨nl, split, newline⟩ := expect_eq_some feed
      have rising := at_feed.rising
      rw [split] at rising above
      refine List.forall_mem_cons.mpr
        ⟨⟨place, fun t member => ?_⟩, ih ((Advances.moves feed).sound at_feed) later⟩
      have left := (Advances.moves later).suffix.subset member
      exact Nat.lt_of_le_of_lt (above nl (List.mem_cons_self ..))
        (((List.pairwise_cons.mp rising).1 t left).newline newline)
    · cases read
      exact fun _ member => absurd member List.not_mem_nil

/-- A definition starts with a keyword. -/
theorem definition_ahead {n : Nat} {c d : Cursor} {ds : List Located} {s : Stmt Place}
    (read : definition n ds c = some (s, d)) : ∃ t ∈ c.ahead, t.lexeme ≠ .dedent := by
  have head {l : Lexeme} {m : Cursor} (other : l ≠ .dedent)
      (found : ∃ t, c.ahead = t :: m.ahead ∧ t.lexeme = l) : ∃ t ∈ c.ahead, t.lexeme ≠ .dedent := by
    obtain ⟨t, split, same⟩ := found
    exact ⟨t, by simp [split], same ▸ other⟩
  cases n with
  | zero => cases read
  | succ n =>
    rw [definition] at read
    obtain ⟨_, _, started, read⟩ := bind_eq_some_iff.mp read
    cases started
    obtain ⟨is_class, m, took, read⟩ := bind_eq_some_iff.mp read
    rcases takes_eq_some took with ⟨-, found⟩ | ⟨rfl, rfl⟩
    · exact head (by simp) found
    · obtain ⟨async, m, took, read⟩ := bind_eq_some_iff.mp read
      rcases takes_eq_some took with ⟨-, found⟩ | ⟨-, rfl⟩
      · exact head (by simp) found
      · obtain ⟨_, m, took, -⟩ := bind_eq_some_iff.mp read
        exact head (by simp) (expect_eq_some took)

/-- The line of a decorator is not the last one, as a definition follows it. -/
theorem gives_decorated {n : Nat} (each : ∀ ds : List Located,
      (∀ e ∈ ds.head?, At lines e.span.start ∧ e.span.start.line < lines.length) →
        Gives lines (Stmt.Holds (Slice.Fits lines)) (definition n ds)) :
    Gives lines (Fit lines) (do
      let ds ← decorators n
      return [← definition n ds]) where
  value {c d ss} sound read := by
    obtain ⟨ds, m, first, read⟩ := bind_eq_some_iff.mp read
    obtain ⟨s, _, second, read⟩ := bind_eq_some_iff.mp read
    cases read
    have behind := (Advances.moves first).sound sound
    obtain ⟨t, ahead, inside⟩ := definition_ahead second
    refine fit_single ((each ds fun e head => ?_).value behind second)
    obtain ⟨place, above⟩ := decorators_above sound first e (List.mem_of_head? head)
    exact ⟨place, Nat.lt_of_lt_of_le (above t ahead) ((behind.stands t ahead).inside inside)⟩

/-- Statements, handlers and cases that can be cut out of the source, on so much fuel. -/
structure Cutting (lines : List (List UInt8)) (n : Nat) : Prop where
  block : Gives lines (Fit lines) (block n)
  moreStatements : Gives lines (Fit lines) (moreStatements n)
  statement : Gives lines (Fit lines) (statement n)
  definition (ds : List Located)
    (decorated : ∀ e ∈ ds.head?, At lines e.span.start ∧ e.span.start.line < lines.length) :
    Gives lines (Stmt.Holds (Slice.Fits lines)) (definition n ds)
  forStatement (start : Pos) (async : Bool) (placed : At lines start) :
    Gives lines (Stmt.Holds (Slice.Fits lines)) (forStatement n start async)
  withStatement (start : Pos) (async : Bool) (placed : At lines start) :
    Gives lines (Stmt.Holds (Slice.Fits lines)) (withStatement n start async)
  ifStatement : Gives lines (Stmt.Holds (Slice.Fits lines)) (ifStatement n)
  elseBlock : Gives lines (Fit lines) (elseBlock n)
  tryStatement : Gives lines (Stmt.Holds (Slice.Fits lines)) (tryStatement n)
  handlers (star : Bool) : Gives lines (fun hs => ∀ h ∈ hs, Fit lines h.body) (handlers n star)
  cases : Gives lines (fun cs => ∀ c ∈ cs, Fit lines c.body) (cases n)

/-- A statement behind its last token, whose blocks can be cut out of the source. -/
theorem gives_placed {start : Pos} (placed : At lines start) {made : Span → Stmt Place}
    (fits : ∀ span, Spans lines span → Slice.Fits lines (made span).place)
    (inside : ∀ span block inner, (made span).block? block = some inner → Fit lines inner) :
    Gives lines (Stmt.Holds (Slice.Fits lines)) (do return made (← spanSince start)) :=
  (gives_spanSince placed).bind fun span spans => .pure (.mk (fits span spans) (inside span))

section

/-! One lemma for each reader, from those on less fuel. -/

variable {n : Nat}

theorem gives_block (ih : Cutting lines n) : Gives lines (Fit lines) (block (n + 1)) := by
  rw [block]
  refine .skip fun feed => ?_
  split
  · exact .skip fun _ => ih.statement.bind fun first fit => ih.moreStatements.bind fun rest later =>
      .pure (fit_append fit later)
  · exact gives_simpleLine n

theorem gives_moreStatements (ih : Cutting lines n) :
    Gives lines (Fit lines) (moreStatements (n + 1)) := by
  rw [moreStatements]
  refine .skip fun ends => ?_
  split
  · exact .pure fit_nil
  · exact ih.statement.bind fun first fit => ih.moreStatements.bind fun rest later =>
      .pure (fit_append fit later)

/-- A `match` with its cases, or a line where the word is a name. -/
theorem gives_match (ih : Cutting lines n) {start : Pos} (placed : At lines start) :
    Gives lines (Fit lines) (do
      let c ← get
      match matchHead n c with
      | some (subject, c) =>
        set c
        let cs ← cases n
        return [.match { span := ← spanSince start } subject cs]
      | none => simpleLine n) where
  value {c d ss} sound read := by
    obtain ⟨_, _, got, read⟩ := bind_eq_some_iff.mp read
    cases got
    cases tried : matchHead n c with
    | none =>
      simp only [tried] at read
      exact (gives_simpleLine n).value sound read
    | some head =>
      simp only [tried] at read
      obtain ⟨_, _, moved, read⟩ := bind_eq_some_iff.mp read
      cases moved
      have rest : Gives lines (Fit lines) (do
          let cs ← cases n
          return [.match { span := ← spanSince start } head.1 cs]) := by
        refine ih.cases.bind fun cs fit => (gives_spanSince placed).bind fun span spans => ?_
        refine .pure (fit_single (.mk (fits_span spans) ?_))
        rintro (_ | _ | _ | _ | i) inner opened
        case case =>
          obtain ⟨case_i, found, rfl⟩ := Option.map_eq_some_iff.mp opened
          exact fit case_i (List.mem_of_getElem? found)
        all_goals cases opened
      exact rest.value ((Advances.moves tried).sound sound) read

theorem gives_statement (ih : Cutting lines n) : Gives lines (Fit lines) (statement (n + 1)) := by
  have single {r : Reader (Stmt Place)} [Advances r]
      (h : Gives lines (Stmt.Holds (Slice.Fits lines)) r) :
      Gives lines (Fit lines) (do return [← r]) := h.bind fun s fit => .pure (fit_single fit)
  have defined : Gives lines (Fit lines) (do return [← definition n []]) :=
    single (ih.definition [] (by simp))
  rw [statement]
  refine .from_here fun start placed => .skip fun next => ?_
  split
  case h_1 => exact gives_decorated ih.definition
  case h_2 => exact defined
  case h_3 => exact defined
  case h_4 =>
    refine .skip fun second => ?_
    split
    · exact defined
    · exact .skip fun _ => single (ih.forStatement start true placed)
    · exact .skip fun _ => single (ih.withStatement start true placed)
    · exact .failure
  case h_5 => exact single (ih.forStatement start false placed)
  case h_6 => exact single (ih.withStatement start false placed)
  case h_7 => exact single ih.ifStatement
  case h_8 =>
    refine .skip fun _ => .skip fun test => .skip fun _ => ih.block.bind fun body fit => ?_
    refine ih.elseBlock.bind fun otherwise later => (gives_spanSince placed).bind fun span spans => ?_
    refine .pure (fit_single (.mk (fits_span spans) ?_))
    rintro (_ | _ | _ | _ | _) inner ⟨⟩
    · exact fit
    · exact later
  case h_9 => exact single ih.tryStatement
  case h_10 => exact gives_match ih placed
  case h_11 => exact gives_simpleLine n

theorem gives_definition (ih : Cutting lines n) {ds : List Located}
    (decorated : ∀ e ∈ ds.head?, At lines e.span.start ∧ e.span.start.line < lines.length) :
    Gives lines (Stmt.Holds (Slice.Fits lines)) (definition (n + 1) ds) := by
  have fits (span : Span) (spans : Spans lines span) : Slice.Fits lines
      { span := span, decorator := ds.head?.map (·.span.start) } := by
    refine ⟨spans.start, spans.stop, fun p member => ?_, by rintro s ⟨⟩⟩
    obtain ⟨e, first, rfl⟩ := Option.map_eq_some_iff.mp member
    exact decorated e first
  rw [definition]
  refine .from_here fun start placed => ?_
  dsimp only
  refine .skip fun is_class => ?_
  split
  · refine .skip fun id => .skip fun bracket => ?_
    have whole (bases : List Expr) (named : List Keyword) :
        Gives lines (Stmt.Holds (Slice.Fits lines)) (do
          expect (.op ":")
          let body ← block n
          return .class { span := ← spanSince start, decorator := ds.head?.map (·.span.start) }
            ⟨id, bases, named, ds.map (·.expr)⟩ body) := by
      refine .skip fun _ => ih.block.bind fun body fit => gives_placed placed fits fun span => ?_
      rintro (_ | _ | _ | _ | _) inner ⟨⟩
      exact fit
    split
    · exact .skip fun given => .skip fun _ => .skip fun r => whole r.1 r.2
    · exact .skip fun r => whole r.1 r.2
  · refine .skip fun async => .skip fun _ => .skip fun id => .skip fun _ => .skip fun ps =>
      .skip fun _ => ?_
    have whole (returns : Option Expr) : Gives lines (Stmt.Holds (Slice.Fits lines)) (do
        expect (.op ":")
        let body ← block n
        return .function { span := ← spanSince start, decorator := ds.head?.map (·.span.start) }
          ⟨async, id, ps, returns, ds.map (·.expr)⟩ body) := by
      refine .skip fun _ => ih.block.bind fun body fit => gives_placed placed fits fun span => ?_
      rintro (_ | _ | _ | _ | _) inner ⟨⟩
      exact fit
    refine .skip fun arrow => ?_
    split
    · exact .skip fun e => .skip fun returns => whole returns
    · exact .skip fun returns => whole returns

theorem gives_forStatement (ih : Cutting lines n) {start : Pos} (async : Bool)
    (placed : At lines start) :
    Gives lines (Stmt.Holds (Slice.Fits lines)) (forStatement (n + 1) start async) := by
  rw [forStatement]
  refine .skip fun _ => .skip fun t => .skip fun _ => .skip fun iterable => .skip fun _ => ?_
  refine ih.block.bind fun body fit => ih.elseBlock.bind fun otherwise later => ?_
  refine gives_placed placed (fun _ => fits_span) fun span => ?_
  rintro (_ | _ | _ | _ | _) inner ⟨⟩
  · exact fit
  · exact later

theorem gives_withStatement (ih : Cutting lines n) {start : Pos} (async : Bool)
    (placed : At lines start) :
    Gives lines (Stmt.Holds (Slice.Fits lines)) (withStatement (n + 1) start async) := by
  rw [withStatement]
  refine .skip fun _ => .skip fun items => ih.block.bind fun body fit => ?_
  refine gives_placed placed (fun _ => fits_span) fun span => ?_
  rintro (_ | _ | _ | _ | _) inner ⟨⟩
  exact fit

theorem gives_ifStatement (ih : Cutting lines n) :
    Gives lines (Stmt.Holds (Slice.Fits lines)) (ifStatement (n + 1)) := by
  rw [ifStatement]
  refine .from_here fun start placed => .skip fun _ => .skip fun test => .skip fun _ => ?_
  refine ih.block.bind fun body fit => .skip fun elif => ?_
  have whole (otherwise : List (Stmt Place)) (later : Fit lines otherwise) :
      Gives lines (Stmt.Holds (Slice.Fits lines)) (do
        let span ← spanSince start
        return .if { span := span } test.expr body otherwise) := by
    refine gives_placed placed (fun _ => fits_span) fun span => ?_
    rintro (_ | _ | _ | _ | _) inner ⟨⟩
    · exact fit
    · exact later
  split
  · exact ih.ifStatement.bind fun s inner => whole [s] (fit_single inner)
  · exact ih.elseBlock.bind whole

theorem gives_elseBlock (ih : Cutting lines n) : Gives lines (Fit lines) (elseBlock (n + 1)) := by
  rw [elseBlock]
  refine .skip fun takes_else => ?_
  split
  · exact .skip fun _ => ih.block
  · exact .pure fit_nil

theorem gives_tryStatement (ih : Cutting lines n) :
    Gives lines (Stmt.Holds (Slice.Fits lines)) (tryStatement (n + 1)) := by
  rw [tryStatement]
  refine .from_here fun start placed => .skip fun _ => .skip fun _ => ih.block.bind fun body fit => ?_
  refine .skip fun second => (ih.handlers _).bind fun hs handled => ?_
  have whole (otherwise final : List (Stmt Place)) (later : Fit lines otherwise)
      (last : Fit lines final) (star : Bool) : Gives lines (Stmt.Holds (Slice.Fits lines))
        (if hs.isEmpty && final.isEmpty then failure
          else do
            let span ← spanSince start
            return .try { span := span } star body hs otherwise final) := by
    refine .ite .failure (gives_placed placed (fun _ => fits_span) fun span => ?_)
    rintro (_ | _ | _ | i | _) inner opened
    · cases opened
      exact fit
    · cases opened
      exact later
    · cases opened
      exact last
    · obtain ⟨h, found, rfl⟩ := Option.map_eq_some_iff.mp opened
      exact handled h (List.mem_of_getElem? found)
    · cases opened
  have ends (otherwise : List (Stmt Place)) (later : Fit lines otherwise) (star : Bool) :
      Gives lines (Stmt.Holds (Slice.Fits lines)) (do
        let final ←
          if ← takes (.keyword "finally") then
            expect (.op ":")
            block n
          else pure []
        if hs.isEmpty && final.isEmpty then failure
        else return .try { span := ← spanSince start } star body hs otherwise final) := by
    refine .skip fun cleanup => ?_
    split
    · exact .skip fun _ => ih.block.bind fun final last => whole otherwise final later last star
    · exact (Gives.pure fit_nil).bind fun final last => whole otherwise final later last star
  split
  · exact (Gives.pure fit_nil).bind fun otherwise later => ends otherwise later _
  · exact ih.elseBlock.bind fun otherwise later => ends otherwise later _

theorem gives_handlers (ih : Cutting lines n) (star : Bool) :
    Gives lines (fun hs => ∀ h ∈ hs, Fit lines h.body) (handlers (n + 1) star) := by
  rw [handlers]
  refine .skip fun handles => ?_
  split
  · refine .skip fun starred => ?_
    have whole (type : Option Expr) (id : Option Text) :
        Gives lines (fun hs => ∀ h ∈ hs, Fit lines h.body) (do
          expect (.op ":")
          let body ← block n
          return .mk type id body :: (← handlers n star)) :=
      .skip fun _ => ih.block.bind fun body fit => (ih.handlers star).bind fun hs later =>
        .pure (List.forall_mem_cons.mpr ⟨fit, later⟩)
    split
    · exact .failure
    · refine .skip fun bare => ?_
      split
      · exact .skip fun named => whole named.1 named.2
      · refine .skip fun e => .skip fun renamed => ?_
        split
        · exact .skip fun word => .skip fun id => .skip fun named => whole named.1 named.2
        · exact .skip fun id => .skip fun named => whole named.1 named.2
  · exact .pure fun _ member => absurd member List.not_mem_nil

theorem gives_cases (ih : Cutting lines n) :
    Gives lines (fun cs => ∀ c ∈ cs, Fit lines c.body) (cases (n + 1)) := by
  rw [cases]
  refine .skip fun ends => ?_
  split
  · exact .pure fun _ member => absurd member List.not_mem_nil
  · refine .skip fun _ => .skip fun p => .skip fun guarded => ?_
    have whole (guard : Option Expr) : Gives lines (fun cs => ∀ c ∈ cs, Fit lines c.body) (do
        expect (.op ":")
        let body ← block n
        return .mk p guard body :: (← cases n)) :=
      .skip fun _ => ih.block.bind fun body fit => ih.cases.bind fun cs later =>
        .pure (List.forall_mem_cons.mpr ⟨fit, later⟩)
    split
    · exact .skip fun e => whole _
    · exact whole _

end

theorem cutting (lines : List (List UInt8)) (n : Nat) : Cutting lines n := by
  induction n with
  | zero => constructor <;> intros <;> exact .failure
  | succ n ih =>
    exact {
      block := gives_block ih
      moreStatements := gives_moreStatements ih
      statement := gives_statement ih
      definition := fun _ decorated => gives_definition ih decorated
      forStatement := fun _ async placed => gives_forStatement ih async placed
      withStatement := fun _ async placed => gives_withStatement ih async placed
      ifStatement := gives_ifStatement ih
      elseBlock := gives_elseBlock ih
      tryStatement := gives_tryStatement ih
      handlers := gives_handlers ih
      cases := gives_cases ih }

/-! ### Modules -/

theorem gives_module (n : Nat) : Gives lines (Fit lines) (module n) := by
  induction n with
  | zero => exact .failure
  | succ n ih =>
    rw [module]
    refine .skip fun next => ?_
    split
    · exact .pure fit_nil
    · exact (cutting lines n).statement.bind fun first fit => ih.bind fun rest later =>
        .pure (fit_append fit later)

end Grammar

/-- Every statement of a module can be cut out of its source. -/
theorem module_fits {cs : List Char} {body : List (Stmt Place)} (h : moduleOf cs = .ok body) :
    ∀ s ∈ body, s.Holds (Slice.Fits (Lines.ofOctets (Utf8.encode cs))) := by
  unfold moduleOf readAll at h
  split at h
  · cases h
  · rename_i ts read
    obtain ⟨stands, rising⟩ := Lexer.tokens_sound read
    split at h
    · rename_i ss c made
      split at h
      · cases h
        refine (Grammar.gives_module _).value ⟨Faces.at ⟨[], rfl, rfl⟩ (lined cs), stands, ?_, rising⟩ made
        exact fun t member => (stands t member).start.counted
      · cases h
    · cases h

end BodyDigest.Indented
