import BodyDigest.Indented.Render.Stmt

/-!
Shapes: syntax trees without places. Canonical text is the text of a shape, so that trees which
differ only in where they stand have the same text.
-/
namespace BodyDigest.Indented

variable {P : Type}

mutual

/-- A statement without its places. -/
def Stmt.shape : Stmt P → Stmt Unit
  | .simple _ form => .simple () form
  | .function _ head body => .function () head (shapes body)
  | .class _ head body => .class () head (shapes body)
  | .if _ test body otherwise => .if () test (shapes body) (shapes otherwise)
  | .while _ test body otherwise => .while () test (shapes body) (shapes otherwise)
  | .for _ async target iterable body otherwise =>
    .for () async target iterable (shapes body) (shapes otherwise)
  | .with _ async items body => .with () async items (shapes body)
  | .try _ star body handlers otherwise final =>
    .try () star (shapes body) (handlerShapes handlers) (shapes otherwise) (shapes final)
  | .match _ subject cases => .match () subject (caseShapes cases)

def shapes : List (Stmt P) → List (Stmt Unit)
  | [] => []
  | s :: rest => s.shape :: shapes rest

def handlerShapes : List (Handler P) → List (Handler Unit)
  | [] => []
  | .mk type name body :: rest => .mk type name (shapes body) :: handlerShapes rest

def caseShapes : List (Case P) → List (Case Unit)
  | [] => []
  | .mk pattern guard body :: rest => .mk pattern guard (shapes body) :: caseShapes rest

end

theorem shapes_eq_map (ss : List (Stmt P)) : shapes ss = ss.map Stmt.shape := by
  induction ss with
  | nil => rfl
  | cons s rest ih => rw [shapes, ih, List.map_cons]

theorem shapes_append (ss ts : List (Stmt P)) : shapes (ss ++ ts) = shapes ss ++ shapes ts := by
  simp only [shapes_eq_map, List.map_append]

namespace Render

theorem documentation?_shape (s : Stmt P) : documentation? s.shape = documentation? s := by
  cases s with
  | simple place form =>
    cases form with
    | expression value =>
      cases value with
      | constant c => cases c <;> rfl
      | _ => rfl
    | _ => rfl
  | _ => rfl

def isIf : Stmt P → Bool
  | .if _ _ _ _ => true
  | _ => false

theorem isIf_shape (s : Stmt P) : isIf s.shape = isIf s := by
  cases s <;> rfl

/-- A lone `if` continues a chain; anything else opens a block. -/
theorem alternative_block {depth : Nat} {s : Stmt P} {rest : List (Stmt P)}
    (other : ¬ (rest = [] ∧ isIf s)) : alternative depth (s :: rest) = (do
      let first ← stmt (depth + 1) s
      return (indentation depth ++ "else:") :: first ++ (← stmts (depth + 1) rest)) := by
  rw [alternative]
  rintro place test body otherwise rfl rfl
  exact other ⟨rfl, rfl⟩

/-! One lemma for each function that writes statements, by recursion on the tree. -/

mutual

theorem stmt_shape (depth : Nat) : (s : Stmt P) → stmt depth s.shape = stmt depth s
  | .simple _ _ => rfl
  | .function _ _ body => by rw [Stmt.shape, stmt, stmt, suite_shape _ body]
  | .class _ _ body => by rw [Stmt.shape, stmt, stmt, suite_shape _ body]
  | .if _ _ body otherwise => by
    rw [Stmt.shape, stmt, stmt, stmts_shape _ body, alternative_shape _ otherwise]
  | .while _ _ body otherwise => by
    rw [Stmt.shape, stmt, stmt, stmts_shape _ body, block_shape _ _ otherwise]
  | .for _ _ _ _ body otherwise => by
    rw [Stmt.shape, stmt, stmt, stmts_shape _ body, block_shape _ _ otherwise]
  | .with _ _ _ body => by rw [Stmt.shape, stmt, stmt, stmts_shape _ body]
  | .try _ _ body hs otherwise final => by
    rw [Stmt.shape, stmt, stmt, stmts_shape _ body, handlers_shape _ _ hs,
      block_shape _ _ otherwise, block_shape _ _ final]
  | .match _ _ cs => by rw [Stmt.shape, stmt, stmt, cases_shape _ cs]

theorem stmts_shape (depth : Nat) : (ss : List (Stmt P)) → stmts depth (shapes ss) = stmts depth ss
  | [] => rfl
  | s :: rest => by rw [shapes, stmts, stmts, stmt_shape _ s, stmts_shape _ rest]

theorem suite_shape (depth : Nat) : (ss : List (Stmt P)) → suite depth (shapes ss) = suite depth ss
  | [] => rfl
  | s :: rest => by
    rw [shapes, suite, suite, documentation?_shape, stmt_shape _ s, stmts_shape _ rest]

theorem block_shape (depth : Nat) (keyword : Text) :
    (ss : List (Stmt P)) → block depth keyword (shapes ss) = block depth keyword ss
  | [] => rfl
  | s :: rest => by rw [shapes, block, block, stmt_shape _ s, stmts_shape _ rest]

theorem alternative_shape (depth : Nat) :
    (ss : List (Stmt P)) → alternative depth (shapes ss) = alternative depth ss
  | [] => rfl
  | s :: rest => by
    by_cases lone : rest = [] ∧ isIf s
    · obtain ⟨rfl, chained⟩ := lone
      cases s with
      | «if» _ _ body otherwise =>
        simp only [shapes, Stmt.shape, alternative, stmts_shape _ body,
          alternative_shape _ otherwise]
      | _ => simp [isIf] at chained
    · have lone' : ¬ (shapes rest = [] ∧ isIf s.shape) := by
        rw [isIf_shape, shapes_eq_map, List.map_eq_nil_iff]
        exact lone
      rw [shapes, alternative_block lone', alternative_block lone, stmt_shape _ s,
        stmts_shape _ rest]

theorem handlers_shape (depth : Nat) (star : Bool) :
    (hs : List (Handler P)) → handlers depth star (handlerShapes hs) = handlers depth star hs
  | [] => rfl
  | .mk _ _ body :: rest => by
    rw [handlerShapes, handlers, handlers, stmts_shape _ body, handlers_shape _ _ rest]

theorem cases_shape (depth : Nat) :
    (cs : List (Case P)) → cases depth (caseShapes cs) = cases depth cs
  | [] => rfl
  | .mk _ _ body :: rest => by rw [caseShapes, cases, cases, stmts_shape _ body, cases_shape _ rest]

end

end Render

end BodyDigest.Indented
