import BodyDigest.Proofs.Braced.Outlines

/-! The outlines of a Java file, which are found in its tokens as its declarations are. -/
namespace BodyDigest.Braced.Java

open BodyDigest.Braced.Tree

/-! ### Parameters -/

/-- The type that is shown for a parameter, if it is one; a receiver is none. -/
def shownParameter (ts : List Tree) : List ShownType :=
  let rest := withoutModifiers ts
  match afterType? rest with
  | some (t :: name) =>
    if t.isSign "..." then [.spread (!(before ts rest).isEmpty) (tokensOf (before rest (t :: name)))]
    else if t.isWord "this" || name.any (·.isWord "this") then []
    else [.single (tokensOf (before rest (t :: name)))]
  | _ => []

/-- What stands before a type that follows modifiers shows when it is a comment. -/
theorem head?_leadOf (m : Spacing) (ts : List Tree) :
    (Node.leadOf (m.trees ts)).head?.map Node.text = (tokensOf ts).head?.bind m.remark? := by
  rcases ts with _ | ⟨t | ⟨opening, inside, closing⟩, rest⟩ <;> rfl

theorem modifierNodes_beside (ts rest : List Tree) {n : Node} (h : n ∈ modifierNodes ts rest) :
    n.kind.isBesideType ∧ n.label.role ≠ some .type := by
  unfold modifierNodes at h
  split at h
  · cases h
  · rw [List.mem_singleton.mp h]
    simp [NodeKind.isBesideType]

/-- The nodes of several parameters in one, behind their modifiers. -/
def spreadNodes (modified : Bool) (type : List Tree) (dots : Tree) (name : List Tree) : List Node :=
  (if modified then Node.leadOf type else []) ++ .ofTrees .other none type []
    :: Node.leadOf [dots] ++ Node.leadOf name ++ [.ofTrees .declarator none name []]

theorem untyped_lead (ts : List Tree) {n : Node} (h : n ∈ Node.leadOf ts) :
    n.label.named ∧ ¬ n.kind.isBesideType ∧ n.label.role = none := by
  cases ts with
  | nil => cases h
  | cons t rest =>
    have lead := quiet_of_lead h
    exact ⟨lead.2.2.2.2, lead.2.2.1, lead.2.2.2.1⟩

theorem spreadNodes_shown (m : Spacing) (modified : Bool) (ts type : List Tree) (dots : Tree)
    (name : List Tree) :
    (Node.ofTrees .spreadParameter none ts
        (spreadNodes modified (m.trees type) (m.tree dots) (m.trees name))).shownType =
      (ShownType.spread modified (tokensOf type)).text m := by
  have untyped : (spreadNodes modified (m.trees type) (m.tree dots) (m.trees name)).find?
      (·.label.role = some .type) = none := by
    rw [List.find?_eq_none]
    intro n member
    have leads : n ∈ Node.leadOf (m.trees type) ∨ n ∈ Node.leadOf [m.tree dots] ∨
        n ∈ Node.leadOf (m.trees name) ∨
        n = .ofTrees .other none (m.trees type) [] ∨ n = .ofTrees .declarator none (m.trees name) [] := by
      unfold spreadNodes at member
      split at member <;> simp at member <;> tauto
    rcases leads with lead | lead | lead | rfl | rfl
    · simp [untyped_lead _ lead]
    · simp [untyped_lead _ lead]
    · simp [untyped_lead _ lead]
    · simp
    · simp
  have first : (spreadNodes modified (m.trees type) (m.tree dots) (m.trees name)).find?
      (fun n => decide (n.label.named = true ∧ (!n.kind.isBesideType) = true)) =
        some (((if modified then Node.leadOf (m.trees type) else []).head?).getD
          (.ofTrees .other none (m.trees type) [])) := by
    unfold spreadNodes
    rcases all : (if modified then Node.leadOf (m.trees type) else []) with _ | ⟨n, ns⟩
    · simp [NodeKind.isBesideType]
    · have lead : n ∈ Node.leadOf (m.trees type) := by
        split at all
        · simp [all]
        · cases all
      simp [untyped_lead _ lead]
  simp only [Node.shownType, Node.inRole, Node.namedChildren, Node.children_ofTrees, List.find?_filter,
    untyped, first, Option.none_or, Node.kind_ofTrees, if_true, ShownType.text]
  cases modified with
  | false => simp [Spacing.textOf_trees]
  | true =>
    rw [← head?_leadOf, ← Spacing.textOf_trees]
    cases lead : (Node.leadOf (m.trees type)).head? <;> simp [lead]

theorem parameter_shown (m : Spacing) (ts : List Tree) :
    shownTypes [parameter (m.trees ts)] = (shownParameter ts).map (·.text m) := by
  simp only [parameter, shownParameter, withoutModifiers_trees, Spacing.before_trees, parameterParts,
    afterType?_trees]
  generalize withoutModifiers ts = rest
  have modified := shownType_modified fun _ => modifierNodes_beside (m.trees ts) (m.trees rest)
  rcases afterType? rest with _ | _ | ⟨t, name⟩
  · simp [shownTypes, NodeKind.isParameter]
  · simp [shownTypes, NodeKind.isParameter]
  · have type : before (m.trees rest) (m.tree t :: m.trees name) = m.trees (before rest (t :: name)) :=
      m.before_trees rest (t :: name)
    have receiver : (m.trees name).any (·.isWord "this") = name.any (·.isWord "this") := by simp
    simp only [Option.map_some, Spacing.trees_cons, type, receiver, Spacing.isSign_tree, Spacing.isWord_tree,
      Spacing.trees_isEmpty]
    cases t.isSign "..." with
    | true =>
      have shown := spreadNodes_shown m (!(before ts rest).isEmpty) (m.trees ts)
        (before rest (t :: name)) t name
      rw [if_pos rfl, if_pos rfl, List.map_singleton, ← shown, ← modified]
      simp [spreadNodes, shownTypes, NodeKind.isParameter]
    | false =>
      cases t.isWord "this" || name.any (·.isWord "this") with
      | true => simp [shownTypes, NodeKind.isParameter]
      | false =>
        have shown : (Node.ofTrees .parameter none (m.trees ts)
            [.ofTrees .other (some .type) (m.trees (before rest (t :: name))) [],
              nameNode [m.tree t]]).shownType =
              (ShownType.single (tokensOf (before rest (t :: name)))).text m := by
          simp [Node.shownType, Node.inRole, ShownType.text, Spacing.textOf_trees]
        simp only [Bool.false_eq_true, if_false]
        rw [List.map_singleton, ← shown, ← modified]
        simp [shownTypes, NodeKind.isParameter]

theorem parameterNodes_shown (m : Spacing) (n : Nat) (ts : List Tree) :
    shownTypes (parameterNodes n (m.trees ts)) =
      (shownParameters shownParameter parameterRest n ts).map (·.text m) :=
  shownTypes_parameters (fun ts => by simp [parameterNodes]) (fun n => by cases n <;> rfl)
    (fun n ts some_tree => by rw [parameterNodes]; exact some_tree) m (parameterRest_trees m)
    (parameter_shown m) n ts

/-! ### Methods -/

/-- The name of the method that `ts` starts with, its parameters, and what follows them. -/
def heading? (ts : List Tree) : Option (Tree × Tree × List Tree) := do
  match ← afterType? (withoutModifiers (afterTypeParameters (withoutModifiers ts))) with
  | name :: params :: behind => if name.isName && params.isParens then some (name, params, behind) else none
  | _ => none

/-- The body of a method and what follows it. -/
def methodBody (ts : List Tree) : List Node × List Tree :=
  match ts.dropWhile fun t => !(t.isBlock || t.isSign ";") with
  | t :: rest => (if t.isBlock then [block t] else [], rest)
  | [] => ([], [])

theorem method?_eq (ts : List Tree) : method? ts = (heading? ts).map fun h =>
    (.ofTrees .method none (before ts (methodBody h.2.2).2)
      (nameNode [h.1] :: parameterList h.2.1 :: (methodBody h.2.2).1), (methodBody h.2.2).2) := by
  have all : before ts [] = ts := by simp [before]
  rw [method?, heading?]
  rcases afterType? (withoutModifiers (afterTypeParameters (withoutModifiers ts))) with
    _ | _ | ⟨name, _ | ⟨params, behind⟩⟩
  · rfl
  · rfl
  · rfl
  · cases ok : name.isName && params.isParens with
    | false =>
      simp only [ok, Option.bind_eq_bind, Option.bind_some, Bool.false_eq_true, if_false]
      rfl
    | true =>
      simp only [ok, Option.bind_eq_bind, Option.bind_some, if_true, Option.map_some, methodBody]
      cases behind.dropWhile (fun t => !(t.isBlock || t.isSign ";")) <;> simp [all]

theorem heading?_trees (m : Spacing) (ts : List Tree) : heading? (m.trees ts) =
    (heading? ts).map fun h => (m.tree h.1, m.tree h.2.1, m.trees h.2.2) := by
  simp only [heading?, withoutModifiers_trees, afterTypeParameters_trees, afterType?_trees]
  rcases afterType? (withoutModifiers (afterTypeParameters (withoutModifiers ts))) with
    _ | _ | ⟨name, _ | ⟨params, behind⟩⟩
  · rfl
  · rfl
  · rfl
  · simp only [Option.map_some, Spacing.trees_cons, Option.bind_eq_bind, Option.bind_some,
      Spacing.isName_tree, Spacing.isParens_tree]
    split_ifs <;> rfl

theorem methodBody_trees (m : Spacing) (ts : List Tree) :
    (methodBody (m.trees ts)).2 = m.trees (methodBody ts).2 := by
  simp only [methodBody, Spacing.dropWhile_trees, Spacing.isBlock_tree, Spacing.isSign_tree, implies_true]
  cases ts.dropWhile fun t => !(t.isBlock || t.isSign ";") <;> rfl

theorem methodBody_suffix (ts : List Tree) : (methodBody ts).2 <:+ ts := by
  fun_cases methodBody ts <;> grind

theorem heading?_ok {ts behind : List Tree} {name params : Tree}
    (h : heading? ts = some (name, params, behind)) :
    name.isName ∧ behind <:+ ts.tail := by
  obtain ⟨named, typed, heads⟩ := Option.bind_eq_some_iff.mp h
  rcases named with _ | ⟨name', _ | ⟨params', behind'⟩⟩
  · cases heads
  · cases heads
  · simp only [Option.ite_none_right_eq_some, Bool.and_eq_true, Option.some.injEq, Prod.mk.injEq] at heads
    obtain ⟨⟨isName, -⟩, rfl, rfl, rfl⟩ := heads
    refine ⟨isName, (afterType?_suffix typed).trans (tail_suffix_tail ?_)⟩
    exact (withoutModifiers_suffix _).trans
      ((afterTypeParameters_suffix _).trans (withoutModifiers_suffix ts))

/-! ### Steps -/

/-- What a method declares, by its name and parameters. -/
def declaredMethod (name params : Tree) : Declared :=
  .method (name.word?.getD [])
    (shownParameters shownParameter parameterRest params.inside.length params.inside)

/-- The node of a type whose body is `t`. The declarations of an enumeration are one level further down. -/
def typeNode (enumeration : Bool) (whole : List Tree) (name t : Tree) (inner : List Node) : Node :=
  .ofTrees .type none whole [nameNode [name], .ofGroup .other (some .body) t
    (if enumeration then [.ofTrees .container none (enumMembers t.inside) inner] else inner)]

/-- The node of a package declaration. -/
def packageNode (qualified : Bool) (whole name : List Tree) : Node :=
  .ofTrees .package none whole [.ofTrees (if qualified then .qualifiedName else .identifier) none name []]

section Declares

variable {r : Reading} (ts : List Tree)

theorem method_declares {name params : Tree} (behind : List Tree) (isName : name.isName) :
    Declares r (declaredMethod name params) fun m _ =>
      [.ofTrees .method none (before (m.trees ts) (m.trees (methodBody behind).2))
        (nameNode [m.tree name] :: parameterList (m.tree params) :: (methodBody (m.trees behind)).1)] := by
  refine .one fun _ _ _ => .ofHeading isName (fun m => ?_) params _ _
  rw [Spacing.inside_tree, Spacing.trees_length]
  exact parameterNodes_shown m params.inside.length params.inside

theorem type_declares (enumeration : Bool) {name : Tree} (t : Tree) (more : List Tree)
    (some_name : ∀ m : Spacing, m.text name.tokens ≠ []) : Declares r (.type name.tokens) fun m inside =>
      [typeNode enumeration (before (m.trees ts) (m.trees more)) (m.tree name) (m.tree t) inside] := by
  refine .one fun inside inner outlined => ?_
  have members : Outlined r (fun m => if enumeration then
      [.ofTrees .container none (enumMembers (m.tree t).inside) (inside m)] else inside m) inner := by
    cases enumeration with
    | true => exact .container (fun m => rfl) (fun m => rfl) outlined
    | false => exact outlined
  refine .type (fun m => rfl) (fun m => ?_) some_name (fun m => ?_)
    (members.quiet (fun m => Node.closing (m.tree t)) fun m n => quiet_of_closing)
  · rw [typeNode, nameNode, name_of_nodes, ← Spacing.trees_nil, ← Spacing.trees_cons, Spacing.textOf_trees]
    simp [tokensOf]
  · refine ⟨.ofGroup .other (some .body) (m.tree t) _, ?_, Node.children_ofGroup ..⟩
    simp [typeNode, nameNode, Node.inRole, Node.ofGroup]

theorem package_declares (qualified : Bool) (name more : List Tree) :
    Declares r (.package (tokensOf name)) fun m _ =>
      [packageNode qualified (before (m.trees ts) (m.trees more)) (m.trees name)] := by
  refine .one fun _ _ _ => .package (fun m => rfl) fun m => ?_
  rw [← Spacing.textOf_trees]
  cases qualified <;> simp [packageNode, Node.packageName?, Node.namedChildren]

end Declares

/-- The declaration that `ts` starts with. -/
def step (top : Bool) (ts : List Tree) : Step :=
  let rest := withoutModifiers ts
  match typeName? rest, rest with
  | some name, w :: _ =>
    match rest.dropWhile fun t => !(t.isBlock || t.isSign ";") with
    | t :: more => ⟨.type name.tokens, if w.isWord "enum" then enumMembers t.inside else t.inside, more⟩
    | [] => ⟨.nothing, [], []⟩
  | none, w :: path =>
    if annotationType rest then ⟨.nothing, [], behind Tree.isBlock rest⟩
    else if w.isWord "package" && top then
      let more := path.dropWhile fun t => !t.isSign ";"
      ⟨.package (tokensOf (before path more)), [], more.drop 1⟩
    else
      match heading? ts with
      | some (name, params, behind) => ⟨declaredMethod name params, [], (methodBody behind).2⟩
      | none => ⟨.nothing, [], if top then afterStatement ts.length ts else afterMember false ts⟩
  | _, [] => ⟨.nothing, [], []⟩

theorem step_within {top : Bool} {ts : List Tree} (some_tree : ts ≠ []) :
    (∃ t ∈ ts, (step top ts).inner <:+ t.inside) ∧ (step top ts).more <:+ ts.tail := by
  have none_within := nothing_within some_tree
  have kept := withoutModifiers_suffix ts
  have body := (List.dropWhile_suffix fun t => !(isBlock t || isSign ";" t)).trans kept
  simp only [step]
  split
  · split
    · rename_i t more first
      rw [first] at body
      have enumeration : enumMembers t.inside <:+ t.inside := List.dropWhile_suffix _
      exact ⟨⟨t, body.subset (List.mem_cons_self ..), ite_suffix enumeration (List.suffix_refl _)⟩,
        suffix_tail body⟩
    · exact ⟨none_within, List.nil_suffix⟩
  · rename_i w path _ first
    split
    · exact ⟨none_within, (behind_suffix_tail _ _).trans (tail_suffix_tail kept)⟩
    · split
      · rw [first] at kept
        have ends := (List.drop_suffix 1 _).trans (List.dropWhile_suffix (fun t => !isSign ";" t) (l := path))
        exact ⟨none_within, ends.trans (suffix_tail kept)⟩
      · split
        · rename_i found
          exact ⟨none_within, (methodBody_suffix _).trans (heading?_ok found).2⟩
        · exact ⟨none_within, ite_suffix (afterStatement_suffix ..) (afterMember_suffix ..)⟩
  · exact ⟨none_within, List.nil_suffix⟩

theorem readsSteps (r : Reading) : ReadsSteps r declarations step where
  zero top ts := by simp [declarations]
  nil top n := by cases n <;> rfl
  within top ts some_tree := step_within some_tree
  step top ts some_tree filled := by
    have unfolds (m : Spacing) (n : Nat) :=
      declarations.eq_3 top (m.trees ts) n (by simpa [Spacing.trees_eq_map] using some_tree)
    simp only [withoutModifiers_trees, typeName?_trees, annotationType_trees, Spacing.dropWhile_trees,
      Spacing.isBlock_tree, Spacing.isSign_tree, Spacing.behind_trees, afterStatement_trees,
      afterMember_trees, Spacing.trees_length, implies_true] at unfolds
    have kept := withoutModifiers_suffix ts
    have ends (n : Nat) : declarations top n [] = [] := by cases n <;> rfl
    simp only [step]
    generalize withoutModifiers ts = rest at kept unfolds
    generalize (rest.dropWhile fun t => !(t.isBlock || t.isSign ";")) = body at unfolds
    cases named : typeName? rest with
    | some name =>
      have some_name := filled.text_ne_nil (kept.subset (typeName?_mem named))
      rcases rest with _ | ⟨w, path⟩
      · cases named
      · rcases body with _ | ⟨t, more⟩
        · refine ⟨_, .nothing, fun m n => ?_⟩
          simp [unfolds, named, ends]
        · refine ⟨_, type_declares ts (w.isWord "enum") t more some_name, fun m n => ?_⟩
          cases enumeration : w.isWord "enum" <;> simp [unfolds, named, enumeration, typeNode]
    | none =>
      rcases rest with _ | ⟨w, path⟩
      · refine ⟨_, .nothing, fun m n => ?_⟩
        simp [unfolds, named, ends]
      · cases annotation : annotationType (w :: path) with
        | true =>
          simp only [if_true]
          refine ⟨_, .nothing, fun m n => ?_⟩
          simp [unfolds, named, annotation]
        | false =>
          cases package : w.isWord "package" && top with
          | true =>
            simp only [package, Bool.false_eq_true, if_false, if_true]
            refine ⟨_, package_declares ts (path.tail.head?.any (·.isSign ".")) _
              (path.dropWhile fun t => !t.isSign ";"), fun m n => ?_⟩
            simp only [unfolds, named, annotation]
            simp only [Bool.and_eq_true] at package
            simp [package, packageNode]
          | false =>
            simp only [package, Bool.false_eq_true, if_false]
            cases found : heading? ts with
            | none =>
              refine ⟨_, .nothing, fun m n => ?_⟩
              simp only [unfolds, named, annotation, method?_eq, heading?_trees, found]
              cases top <;> simp_all
            | some heading =>
              obtain ⟨name, params, behind⟩ := heading
              refine ⟨_, method_declares ts behind (heading?_ok found).1, fun m n => ?_⟩
              simp only [unfolds, named, annotation, method?_eq, heading?_trees, found]
              cases top <;> simp_all [methodBody_trees]

end BodyDigest.Braced.Java
