import Mathlib.Data.List.TakeDrop
import BodyDigest.Proofs.Braced.Outlines

/-! The outlines of a C# file, which are found in its tokens as its declarations are. -/
namespace BodyDigest.Braced.CSharp

open BodyDigest.Braced.Tree

/-! ### Parameters -/

/-- The type that is shown for a parameter, behind its modifiers. Of what has no name, the value shows. -/
def parameterType (rest : List Tree) : ShownType :=
  match afterType? rest with
  | some (name :: value) =>
    .single (tokensOf (if name.isName then before rest (name :: value) else name :: value))
  | _ => .unknown

/-- Behind `params`, no type is shown. -/
def shownParameter (ts : List Tree) : List ShownType :=
  if (ts.takeWhile beforeParameter).any (·.isWord "params") then []
  else [parameterType (ts.dropWhile beforeParameter)]

/-- The nodes of a parameter behind its modifiers. -/
def typeNodes (rest : List Tree) : List Node :=
  match afterType? rest with
  | some (name :: value) =>
    if name.isName then
      [Node.ofTrees .other (some .type) (before rest (name :: value)) [], nameNode [name]]
        ++ defaultNodes value
    else nameNode (before rest (name :: value)) :: defaultNodes (name :: value)
  | _ => [nameNode rest]

theorem parameter_eq (ts : List Tree) : parameter ts =
    .ofTrees (if (ts.takeWhile beforeParameter).any (·.isWord "params") then .other else .parameter) none ts
      (modifierNodes (ts.takeWhile beforeParameter) ++ typeNodes (ts.dropWhile beforeParameter)) := by
  rw [parameter, List.span_eq_takeWhile_dropWhile]
  rfl

theorem modifierNodes_beside (ts : List Tree) {n : Node} (h : n ∈ modifierNodes ts) :
    n.kind.isBesideType ∧ n.label.role ≠ some .type := by
  obtain ⟨t, -, rfl⟩ := List.mem_map.mp h
  simp [NodeKind.isBesideType]

section Spacing

variable (m : Spacing)

theorem typeNodes_shown (ts rest : List Tree) :
    (Node.ofTrees .parameter none ts (typeNodes (m.trees rest))).shownType = (parameterType rest).text m := by
  have unknown (name : List Tree) :
      (Node.ofTrees .parameter none ts [nameNode name]).shownType = ShownType.unknown.text m := by
    simp [nameNode, Node.shownType, Node.inRole, Node.namedChildren, NodeKind.isBesideType, ShownType.text]
  simp only [typeNodes, parameterType, afterType?_trees]
  rcases afterType? rest with _ | _ | ⟨name, value⟩
  · exact unknown _
  · exact unknown _
  · by_cases isName : name.isName
    · have type := m.textOf_trees (before rest (name :: value))
      rw [← m.before_trees, Spacing.trees_cons] at type
      simp [isName, Node.shownType, Node.inRole, ShownType.text, type]
    · have text := m.textOf_trees (name :: value)
      rw [Spacing.trees_cons] at text
      simp [isName, nameNode, defaultNodes, Node.shownType, Node.inRole, Node.namedChildren,
        NodeKind.isBesideType, ShownType.text, text]

theorem parameter_shown (ts : List Tree) :
    shownTypes [parameter (m.trees ts)] = (shownParameter ts).map (·.text m) := by
  simp only [parameter_eq, shownParameter, Spacing.takeWhile_trees, Spacing.dropWhile_trees,
    Spacing.any_trees, Spacing.isWord_tree, beforeParameter_tree, implies_true]
  by_cases several : (ts.takeWhile beforeParameter).any (·.isWord "params")
  · simp [several, shownTypes, NodeKind.isParameter]
  · have one := shownType_modified (fun _ => modifierNodes_beside (m.trees (ts.takeWhile beforeParameter)))
      .parameter (m.trees ts)
    rw [if_neg several, if_neg several, List.map_singleton, ← typeNodes_shown m (m.trees ts), ← one]
    simp [shownTypes, NodeKind.isParameter]

theorem parameterNodes_shown (n : Nat) (ts : List Tree) : shownTypes (parameterNodes n (m.trees ts)) =
    (shownParameters shownParameter parameterRest n ts).map (·.text m) :=
  shownTypes_parameters (fun ts => by simp [parameterNodes]) (fun n => by cases n <;> rfl)
    (fun n ts some_tree => by rw [parameterNodes]; exact some_tree) m (parameterRest_trees m)
    (parameter_shown m) n ts

end Spacing

/-! ### Methods -/

/-- The name of the method that `ts` starts with, its parameters, and what follows them. -/
def heading? (ts : List Tree) : Option (Tree × Tree × List Tree) := do
  let named ← afterType? (ts.dropWhile beforeMember)
  methodName? named.length named

theorem method?_eq (ts : List Tree) : method? ts = (heading? ts).map fun h =>
    (.ofTrees .method none (before ts (methodBody h.2.2).2)
      (nameNode [h.1] :: parameterList h.2.1 :: (methodBody h.2.2).1), (methodBody h.2.2).2) := by
  rw [method?, heading?]
  cases afterType? (ts.dropWhile beforeMember) with
  | none => rfl
  | some named => cases found : methodName? named.length named <;> simp [found]

theorem heading?_trees (m : Spacing) (ts : List Tree) : heading? (m.trees ts) =
    (heading? ts).map fun h => (m.tree h.1, m.tree h.2.1, m.trees h.2.2) := by
  simp only [heading?, Spacing.dropWhile_trees, beforeMember_tree, afterType?_trees, implies_true]
  cases afterType? (ts.dropWhile beforeMember) <;> simp

theorem isName_of_methodName? {n : Nat} {ts : List Tree} {named : Tree × Tree × List Tree}
    (h : methodName? n ts = some named) : named.1.isName := by
  fun_induction methodName? n ts <;> grind

theorem heading?_ok {ts behind : List Tree} {name params : Tree}
    (h : heading? ts = some (name, params, behind)) : name.isName ∧ behind <:+ ts.tail := by
  obtain ⟨named, typed, heads⟩ := Option.bind_eq_some_iff.mp h
  have lead := tail_suffix_tail (List.dropWhile_suffix beforeMember (l := ts))
  have later := (List.tail_suffix named).trans ((afterType?_suffix typed).trans lead)
  exact ⟨isName_of_methodName? heads, (methodName?_suffix heads).trans later⟩

/-! ### Declarations with a block -/

section BlockNode

variable {kind : NodeKind} {ts name body rest : List Tree} {t : Tree} {inner : List Node}

/-- What follows a declaration whose block is the first of `body`, if it has one. -/
def behindBlock (body : List Tree) : List Tree :=
  if body.head?.any isBlock then withoutSemicolon body.tail else body.tail

theorem blockNode_kind : (blockNode kind ts name body inner).1.kind = kind := by
  fun_cases blockNode <;> rfl

theorem blockNode_name : (blockNode kind ts name body inner).1.name = textOf name := by
  fun_cases blockNode <;> exact name_of_nodes ..

/-- What a declaration holds, in front of what closes its block. -/
theorem blockNode_body (block : t.isBlock) : ∃ b,
    (blockNode kind ts name (t :: rest) inner).1.inRole .body = some b ∧
      b.children = inner ++ Node.closing t := by
  refine ⟨.ofGroup .container (some .body) t inner, ?_, Node.children_ofGroup ..⟩
  simp [blockNode, block, Node.inRole, nameNode, Node.ofGroup]

theorem blockNode_bare (bare : body.head?.any isBlock = false) :
    (blockNode kind ts name body inner).1.children = [nameNode name] := by
  cases body with
  | nil => rfl
  | cons t rest =>
    have other : t.isBlock = false := bare
    simp [blockNode, other]

theorem blockNode_behind : (blockNode kind ts name body inner).2 = behindBlock body := by
  fun_cases blockNode <;> simp_all [behindBlock]

theorem behindBlock_trees (m : Spacing) (body : List Tree) :
    behindBlock (m.trees body) = m.trees (behindBlock body) := by
  cases body with
  | nil => rfl
  | cons t rest =>
    cases block : t.isBlock <;> simp [behindBlock, block]

theorem behindBlock_suffix (body : List Tree) : behindBlock body <:+ body.tail :=
  ite_suffix (withoutSemicolon_suffix _) (List.suffix_refl _)

end BlockNode

/-- What a type declares: nothing without a block. -/
def declaredType (name : Tree) (body : List Tree) : Declared :=
  if body.head?.any isBlock then .type name.tokens else .nothing

/-- What a namespace declares: without a block it is one for the file. -/
def declaredSpace (name body : List Tree) : Declared :=
  if body.head?.any isBlock then .space (tokensOf name) else .fileSpace (tokensOf name)

/-- What a method declares, by its name and parameters. -/
def declaredMethod (name params : Tree) : Declared :=
  .method (name.word?.getD [])
    (shownParameters shownParameter parameterRest params.inside.length params.inside)

section Declares

variable {r : Reading} (ts : List Tree) {name body : List Tree}

theorem method_declares {name params : Tree} (behind : List Tree) (isName : name.isName) :
    Declares r (declaredMethod name params) fun m _ =>
      [.ofTrees .method none (before (m.trees ts) (m.trees (methodBody behind).2))
        (nameNode [m.tree name] :: parameterList (m.tree params) :: (methodBody (m.trees behind)).1)] := by
  refine .one fun _ _ _ => .ofHeading isName (fun m => ?_) params _ _
  rw [Spacing.inside_tree, Spacing.trees_length]
  exact parameterNodes_shown m params.inside.length params.inside

theorem type_declares {name : Tree} (some_name : ∀ m : Spacing, m.text name.tokens ≠ []) :
    Declares r (declaredType name body) fun m inside =>
      [(blockNode .type (m.trees ts) [m.tree name] (m.trees body) inside).1] := by
  refine .one fun inside inner outlined => ?_
  have kind (m : Spacing) :
      (blockNode .type (m.trees ts) [m.tree name] (m.trees body) (inside m)).1.kind = .type := blockNode_kind
  cases block : body.head?.any isBlock with
  | false =>
    rw [declaredType, block]
    refine .emptyType kind fun m => ?_
    rw [Node.inRole, blockNode_bare (by simpa using block)]
    simp [nameNode]
  | true =>
    rw [declaredType, block]
    rcases body with _ | ⟨t, rest⟩
    · cases block
    · refine .type kind (fun m => ?_) some_name (fun m => ?_)
        (outlined.quiet (fun m => Node.closing (m.tree t)) fun m n => quiet_of_closing)
      · rw [blockNode_name, ← Spacing.trees_nil, ← Spacing.trees_cons, Spacing.textOf_trees]
        simp [tokensOf]
      · exact blockNode_body (by simpa using block)

theorem namespace_declares : Declares r (declaredSpace name body) fun m inside =>
    [(blockNode (kindOfNamespace body) (m.trees ts) (m.trees name) (m.trees body) inside).1] := by
  refine .one fun inside inner outlined => ?_
  have named (m : Spacing) : (blockNode (kindOfNamespace body) (m.trees ts) (m.trees name) (m.trees body)
      (inside m)).1.name = m.text (tokensOf name) := by
    rw [blockNode_name, Spacing.textOf_trees]
  cases block : body.head?.any isBlock with
  | false =>
    rw [declaredSpace, block]
    have line : kindOfNamespace body = .namespaceLine := by simp [kindOfNamespace, block]
    refine .namespaceLine (fun m => ?_) named fun m n member => ?_
    · rw [blockNode_kind, line]
    · rw [blockNode_bare (by simpa using block), List.mem_singleton] at member
      rw [member]
      rfl
  | true =>
    rw [declaredSpace, block]
    have whole : kindOfNamespace body = .namespaceBlock := by simp [kindOfNamespace, block]
    rcases body with _ | ⟨t, rest⟩
    · cases block
    · refine .namespaceBlock (fun m => ?_) named (fun m => ?_)
        (outlined.quiet (fun m => Node.closing (m.tree t)) fun m n => quiet_of_closing)
      · rw [blockNode_kind, whole]
      · exact blockNode_body (by simpa using block)

end Declares

/-! ### Steps -/

def insideOf (body : List Tree) : List Tree := (body.head?.map Tree.inside).getD []

/-- The declaration that `ts` starts with. An enumeration is not looked into. -/
def step (top : Bool) (ts : List Tree) : Step :=
  let rest := ts.dropWhile beforeMember
  let body := fromBody rest
  match typeName? rest, rest with
  | some name, w :: _ =>
    ⟨declaredType name body, if w.isWord "enum" then [] else insideOf body, behindBlock body⟩
  | none, w :: path =>
    if w.isWord "namespace" then ⟨declaredSpace (before path body) body, insideOf body, behindBlock body⟩
    else if top then ⟨.nothing, [], afterStatement ts.length ts⟩
    else
      match heading? ts with
      | some (name, params, behind) => ⟨declaredMethod name params, [], (methodBody behind).2⟩
      | none => ⟨.nothing, [], afterMember false ts⟩
  | _, [] => ⟨.nothing, [], []⟩

theorem insideOf_trees (m : Spacing) (body : List Tree) :
    ((m.trees body).head?.map Tree.inside).getD [] = m.trees (insideOf body) := by
  cases body <;> simp [insideOf]

theorem insideOf_within {ts body : List Tree} (some_tree : ts ≠ []) (ends : body <:+ ts) :
    ∃ t ∈ ts, insideOf body <:+ t.inside := by
  cases body with
  | nil => exact nothing_within some_tree
  | cons t rest => exact ⟨t, ends.subset (List.mem_cons_self ..), List.suffix_refl _⟩

theorem step_within {top : Bool} {ts : List Tree} (some_tree : ts ≠ []) :
    (∃ t ∈ ts, (step top ts).inner <:+ t.inside) ∧ (step top ts).more <:+ ts.tail := by
  have none_within := nothing_within some_tree
  have body : fromBody (ts.dropWhile beforeMember) <:+ ts :=
    (List.dropWhile_suffix _).trans (List.dropWhile_suffix _)
  have within := insideOf_within some_tree body
  have behind := (behindBlock_suffix _).trans (tail_suffix_tail body)
  simp only [step]
  split
  · refine ⟨?_, behind⟩
    split
    · exact none_within
    · exact within
  · split
    · exact ⟨within, behind⟩
    · split
      · exact ⟨none_within, afterStatement_suffix ..⟩
      · split
        · rename_i found
          exact ⟨none_within, (methodBody_suffix _).trans (heading?_ok found).2⟩
        · exact ⟨none_within, afterMember_suffix ..⟩
  · exact ⟨none_within, List.nil_suffix⟩

theorem readsSteps (r : Reading) : ReadsSteps r declarations step where
  zero top ts := by simp [declarations]
  nil top n := by cases n <;> rfl
  within top ts some_tree := step_within some_tree
  step top ts some_tree filled := by
    have unfolds (m : Spacing) (n : Nat) :=
      declarations.eq_3 top (m.trees ts) n (by simpa [Spacing.trees_eq_map] using some_tree)
    simp only [Spacing.dropWhile_trees, beforeMember_tree, typeName?_trees, fromBody_trees, insideOf_trees,
      kindOfNamespace_trees, afterStatement_trees, afterMember_trees, Spacing.trees_length, blockNode_behind,
      behindBlock_trees, implies_true] at unfolds
    have kept : ts.dropWhile beforeMember <:+ ts := List.dropWhile_suffix _
    have ends (n : Nat) : declarations false n [] = [] := by cases n <;> rfl
    simp only [step]
    generalize ts.dropWhile beforeMember = rest at kept unfolds
    generalize fromBody rest = body at unfolds
    cases named : typeName? rest with
    | some name =>
      have some_name := filled.text_ne_nil (kept.subset (typeName?_mem named))
      rcases rest with _ | ⟨w, path⟩
      · cases named
      · refine ⟨_, type_declares ts some_name, fun m n => ?_⟩
        cases enumeration : w.isWord "enum" <;> simp [unfolds, named, enumeration, ends]
    | none =>
      rcases rest with _ | ⟨w, path⟩
      · refine ⟨_, .nothing, fun m n => ?_⟩
        rw [unfolds, named]
        cases n <;> rfl
      · cases space : w.isWord "namespace" with
        | true =>
          simp only [space, if_true]
          refine ⟨_, namespace_declares ts, fun m n => ?_⟩
          simp [unfolds, named, space]
        | false =>
          simp only [space, Bool.false_eq_true, if_false]
          cases top with
          | true =>
            refine ⟨_, .nothing, fun m n => ?_⟩
            simp [unfolds, named, space]
          | false =>
            cases found : heading? ts with
            | none =>
              refine ⟨_, .nothing, fun m n => ?_⟩
              simp [unfolds, named, space, method?_eq, heading?_trees, found]
            | some heading =>
              obtain ⟨name, params, behind⟩ := heading
              refine ⟨_, method_declares ts behind (heading?_ok found).1, fun m n => ?_⟩
              simp [unfolds, named, space, method?_eq, heading?_trees, found, methodBody_trees]

end BodyDigest.Braced.CSharp
