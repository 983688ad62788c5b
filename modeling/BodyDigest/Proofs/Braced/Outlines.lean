import Mathlib.Data.List.Forall2
import BodyDigest.Proofs.Braced.CSharpReading
import BodyDigest.Proofs.Braced.JavaReading
import BodyDigest.Proofs.Braced.Reached

/-!
Outlines of the members of a file: what their names and signatures are made of, told by tokens alone. The
same outlines serve for every spacing of the tokens, which shows only inside the names of namespaces and
types and inside the types of parameters.
-/
namespace BodyDigest.Braced

/-! ### Outlines -/

/-- The first comment or directive before a token. -/
def Spacing.remark? (m : Spacing) (t : Token) : Option Text := (Node.ofLead (m.token t)).head?.map Node.text

/-- The type that is shown for a parameter, by its tokens; of one that stands for several parameters,
whether modifiers stand before it. -/
inductive ShownType where
  | unknown
  | single (tokens : List Token)
  | spread (modified : Bool) (tokens : List Token)

/-- How a type is shown in a source. Behind modifiers, what is shown of several parameters is a comment
that stands before the type, if there is one. -/
def ShownType.text (m : Spacing) : ShownType → Text
  | .unknown => "?"
  | .single ts => collapsed (m.text ts)
  | .spread modified ts =>
    collapsed ((if modified then ts.head?.bind m.remark? else none).getD (m.text ts)) ++ "..."

/-- What a member is told by: the names of its namespaces, its type, its own name, and the types of its
parameters. -/
structure Outline where
  spaces : List (List Token)
  type : Option (List Token)
  member : Text
  params : List ShownType

/-- A descriptor has the names and the signature of an outline, as they are written in a source. -/
structure Outline.IsWritten (r : Reading) (m : Spacing) (o : Outline) (d : Descriptor) : Prop where
  scope : d.scope = some (if (spaceText (o.spaces.map m.text)).isEmpty then r.defaultScope
    else spaceText (o.spaces.map m.text))
  type : d.type = o.type.map m.text
  member : d.member = o.member
  signature : d.signature = o.member ++ "(" ++ Text.join ", " (o.params.map (·.text m)) ++ ")"

/-! ### Nodes -/

namespace Node

variable {kind : NodeKind} {role : Option Role} {ts : List Tree} {children : List Node}

@[simp] theorem kind_ofTrees : (ofTrees kind role ts children).kind = kind := rfl

@[simp] theorem role_ofTrees : (ofTrees kind role ts children).label.role = role := rfl

@[simp] theorem named_ofTrees : (ofTrees kind role ts children).label.named = true := rfl

@[simp] theorem text_ofTrees : (ofTrees kind role ts children).text = Tree.textOf ts := rfl

@[simp] theorem children_ofTrees : (ofTrees kind role ts children).children = children := rfl

end Node

/-- Kinds of nodes that neither are methods nor contain any, and put no namespace in force. -/
def NodeKind.isQuiet : NodeKind → Bool
  | .namespaceBlock | .namespaceLine | .package | .type | .container | .method => false
  | _ => true

theorem quiet_of_lead {t : Token} {n : Node} (h : n ∈ Node.ofLead t) :
    n.kind.isQuiet ∧ ¬ n.kind.isParameter ∧ ¬ n.kind.isBesideType ∧ n.label.role = none ∧ n.label.named := by
  obtain ⟨x, -, shown⟩ := List.mem_filterMap.mp h
  cases x with
  | blank b => cases shown
  | comment c =>
    cases shown
    simp [Node.kind, Node.label, NodeKind.isQuiet, NodeKind.isParameter, NodeKind.isBesideType]
  | directive b c e =>
    cases shown
    simp [Node.kind, Node.label, NodeKind.isQuiet, NodeKind.isParameter, NodeKind.isBesideType]

theorem methods_quiet {n : Node} (quiet : n.kind.isQuiet) (r : Reading) (s : Scope) : methods r s n = [] := by
  obtain ⟨label, children⟩ := n
  rw [Node.kind, Node.label] at quiet
  rw [methods]
  split <;> simp_all [NodeKind.isQuiet]

theorem methodsIn_quiet {ns : List Node} (quiet : ∀ n ∈ ns, n.kind.isQuiet) (r : Reading) (s : Scope) :
    methodsIn r s ns = [] := by
  induction ns generalizing s with
  | nil => rfl
  | cons n rest ih =>
    obtain ⟨first, later⟩ := List.forall_mem_cons.mp quiet
    rw [methodsIn, methods_quiet first, ih later, List.nil_append]

theorem methodsIn_append_quiet {ms : List Node} (quiet : ∀ n ∈ ms, n.kind.isQuiet) (r : Reading) (s : Scope)
    (ns : List Node) : methodsIn r s (ns ++ ms) = methodsIn r s ns := by
  induction ns generalizing s with
  | nil => exact methodsIn_quiet quiet r s
  | cons n rest ih => rw [List.cons_append, methodsIn, methodsIn, ih]

namespace Node

/-- The comments and directives before the end of a group. -/
def closing : Tree → List Node
  | .leaf _ => []
  | .group _ _ closing => ofLead closing

theorem children_ofGroup (kind : NodeKind) (role : Option Role) (t : Tree) (each : List Node) :
    (ofGroup kind role t each).children = each ++ closing t := by
  cases t <;> rfl

end Node

theorem quiet_of_closing {t : Tree} {n : Node} (h : n ∈ Node.closing t) : n.kind.isQuiet := by
  cases t with
  | leaf t => cases h
  | group opening inside closing => exact (quiet_of_lead h).1

/-! ### Declarations -/

/-- What stands first among declarations. A namespace of the file and a package hold for what follows them. -/
inductive Declared where
  | nothing
  | method (name : Text) (params : List ShownType)
  | type (name : List Token)
  | space (name : List Token)
  | fileSpace (name : List Token)
  | package (name : List Token)

/-- The outlines of members where these names of namespaces and of types, the innermost first, are in
force. -/
abbrev Outlines := List (List Token) → List (List Token) → List Outline

/-- The outlines of what is declared, with those of what stands inside of it. -/
def Declared.outlines (inner : Outlines) : Declared → Outlines
  | .nothing, _, _ | .fileSpace _, _, _ | .package _, _, _ => []
  | .method name params, spaces, types => [⟨spaces, types.head?, name, params⟩]
  | .type name, spaces, types => inner spaces (name :: types)
  | .space name, spaces, types => inner (spaces ++ [name]) types

/-- The names that are in force behind a declaration. -/
def Declared.spacesBehind (spaces : List (List Token)) : Declared → List (List Token)
  | .fileSpace name => spaces ++ [name]
  | .package name => [name]
  | _ => spaces

/-- A declaration, what stands inside of it, and what follows it. -/
structure Step where
  declared : Declared
  inner : List Tree := []
  more : List Tree

/-- The outlines of declarations that are read step by step; at the top of a file, statements may stand among
them. -/
def outlinesOf (step : Bool → List Tree → Step) (top : Bool) : Nat → List Tree → Outlines
  | 0, _, _, _ | _, [], _, _ => []
  | n + 1, ts, spaces, types =>
    let s := step top ts
    s.declared.outlines (outlinesOf step false n s.inner) spaces types ++
      outlinesOf step top n s.more (s.declared.spacesBehind spaces) types

/-! ### Nodes that have outlines -/

/-- The outlines are those of the members among the nodes, in every spacing. -/
def Outlined (r : Reading) (nodes : Spacing → List Node) (os : Outlines) : Prop :=
  ∀ spaces types m s, Tells s (spaces.map (Spacing.text m)) (types.map (Spacing.text m)) →
    List.Forall₂ (Outline.IsWritten r m) (os spaces types) (methodsIn r s (nodes m))

/-- A node is that of a declaration, in every spacing. -/
def OneOutlined (r : Reading) (node : Spacing → Node) (declared : Declared) (inner : Outlines) : Prop :=
  ∀ spaces types m s, Tells s (spaces.map (Spacing.text m)) (types.map (Spacing.text m)) →
    List.Forall₂ (Outline.IsWritten r m) (declared.outlines inner spaces types) (methods r s (node m)) ∧
      namesBehind (spaces.map m.text) (node m) = (declared.spacesBehind spaces).map m.text

variable {r : Reading} {nodes : Spacing → List Node} {node : Spacing → Node} {inner : Outlines}

theorem Outlined.nil : Outlined r (fun _ => []) fun _ _ => [] := fun _ _ _ _ _ => .nil

theorem Outlined.cons {declared : Declared} {later : Outlines} (first : OneOutlined r node declared inner)
    (others : Outlined r nodes later) : Outlined r (fun m => node m :: nodes m) fun spaces types =>
      declared.outlines inner spaces types ++ later (declared.spacesBehind spaces) types := by
  intro spaces types m s told
  obtain ⟨written, names⟩ := first spaces types m s told
  have told_behind := told.behind (node m)
  rw [names] at told_behind
  rw [methodsIn]
  exact List.rel_append written (others _ types m _ told_behind)

theorem Outlined.quiet (h : Outlined r nodes inner) (more : Spacing → List Node)
    (quiet : ∀ m, ∀ n ∈ more m, n.kind.isQuiet) : Outlined r (fun m => nodes m ++ more m) inner := by
  intro spaces types m s told
  rw [methodsIn_append_quiet (quiet m)]
  exact h spaces types m s told

theorem namesBehind_other {n : Node} (package : n.kind ≠ .package) (line : n.kind ≠ .namespaceLine)
    (spaces : List Text) : namesBehind spaces n = spaces := by
  rw [namesBehind, Node.packageName?, if_neg package]
  exact if_neg line

/-- A node that contains no method. -/
theorem OneOutlined.closed (empty : ∀ m s, methods r s (node m) = [])
    (package : ∀ m, (node m).kind ≠ .package) (line : ∀ m, (node m).kind ≠ .namespaceLine) :
    OneOutlined r node .nothing inner := by
  intro spaces types m s _
  rw [empty, namesBehind_other (package m) (line m)]
  exact ⟨.nil, rfl⟩

/-- A method whose name and shown types are the same in every spacing. -/
theorem OneOutlined.method {name : Text} {params : List ShownType} (kind : ∀ m, (node m).kind = .method)
    (named : ∀ m, (node m).name = name)
    (signed : ∀ m, (node m).signature =
      name ++ "(" ++ Text.join ", " (params.map (·.text m)) ++ ")") :
    OneOutlined r node (.method name params) inner := by
  intro spaces types m s told
  refine ⟨?_, namesBehind_other (by simp [kind]) (by simp [kind]) _⟩
  rw [methods_of_method (kind m), describe_eq told r [] (node m)]
  exact .cons ⟨rfl, List.head?_map, named m, signed m⟩ .nil

/-- A node that opens a level. -/
theorem OneOutlined.level {declared : Declared} (moreSpaces moreTypes : List (List Token))
    (opened : ∀ m before behind types, (node m).level? before behind types =
      some ⟨nodes m, before ++ moreSpaces.map m.text, moreTypes.map m.text ++ types⟩)
    (package : ∀ m, (node m).kind ≠ .package) (line : ∀ m, (node m).kind ≠ .namespaceLine)
    (inside : Outlined r nodes inner)
    (shown : ∀ spaces types,
      declared.outlines inner spaces types = inner (spaces ++ moreSpaces) (moreTypes ++ types))
    (kept : ∀ spaces, declared.spacesBehind spaces = spaces) : OneOutlined r node declared inner := by
  intro spaces types m s told
  rw [shown, kept]
  refine ⟨?_, namesBehind_other (package m) (line m) _⟩
  obtain ⟨s', told_inside, walked⟩ := methods_of_level told (opened m _ _ _) r
  rw [walked]
  exact inside _ _ m s' (by simpa using told_inside)

/-- A type with a body. -/
theorem OneOutlined.type {name : List Token} (kind : ∀ m, (node m).kind = .type)
    (named : ∀ m, (node m).name = m.text name) (some_name : ∀ m : Spacing, m.text name ≠ [])
    (body : ∀ m, ∃ b, (node m).inRole .body = some b ∧ b.children = nodes m)
    (inside : Outlined r nodes inner) :
    OneOutlined r node (.type name) inner := by
  refine .level [] [name] ?_ (by simp [kind]) (by simp [kind]) inside (fun _ _ => ?_) fun _ => rfl
  · intro m before behind types
    obtain ⟨b, found, content⟩ := body m
    simp [Node.level?, kind, named, some_name, found, content]
  · rw [List.append_nil]
    rfl

/-- A type without a body. -/
theorem OneOutlined.emptyType (kind : ∀ m, (node m).kind = .type)
    (empty : ∀ m, (node m).inRole .body = none) : OneOutlined r node .nothing inner := by
  refine .closed (fun m s => ?_) (by simp [kind]) (by simp [kind])
  have closed : (node m).level? [] [] [] = none := by simp [Node.level?, kind, empty]
  exact methods_of_no_level closed (by simp [kind]) r s

/-- A container is looked into like the level that it is on. -/
theorem Outlined.container (kind : ∀ m, (node m).kind = .container)
    (content : ∀ m, (node m).children = nodes m)
    (inside : Outlined r nodes inner) : Outlined r (fun m => [node m]) inner := by
  intro spaces types m s told
  have opened : (node m).level? (spaces.map m.text) (namesBehind (spaces.map m.text) (node m))
      (types.map m.text) = some ⟨nodes m, spaces.map m.text, types.map m.text⟩ := by
    simp [Node.level?, kind, content]
  obtain ⟨s', told_inside, walked⟩ := methods_of_level told opened r
  rw [methodsIn, methodsIn, walked, List.append_nil]
  exact inside spaces types m s' told_inside

/-- A namespace with a block. -/
theorem OneOutlined.namespaceBlock {name : List Token} (kind : ∀ m, (node m).kind = .namespaceBlock)
    (named : ∀ m, (node m).name = m.text name)
    (body : ∀ m, ∃ b, (node m).inRole .body = some b ∧ b.children = nodes m)
    (inside : Outlined r nodes inner) :
    OneOutlined r node (.space name) inner := by
  refine .level [name] [] ?_ (by simp [kind]) (by simp [kind]) inside (fun _ _ => rfl) fun _ => rfl
  intro m before behind types
  obtain ⟨b, found, content⟩ := body m
  simp [Node.level?, kind, named, found, content]

/-- A namespace of the file. -/
theorem OneOutlined.namespaceLine {name : List Token} (kind : ∀ m, (node m).kind = .namespaceLine)
    (named : ∀ m, (node m).name = m.text name)
    (quiet : ∀ m, ∀ n ∈ (node m).children, n.kind.isQuiet) : OneOutlined r node (.fileSpace name) inner := by
  intro spaces types m s told
  have names : namesBehind (spaces.map m.text) (node m) = spaces.map m.text ++ [m.text name] := by
    rw [namesBehind, Node.packageName?, if_neg (by simp [kind])]
    simp [kind, named]
  have opened : (node m).level? (spaces.map m.text) (namesBehind (spaces.map m.text) (node m))
      (types.map m.text) =
        some ⟨(node m).children, namesBehind (spaces.map m.text) (node m), types.map m.text⟩ := by
    simp [Node.level?, kind]
  obtain ⟨s', -, walked⟩ := methods_of_level told opened r
  rw [walked, methodsIn_quiet (quiet m), names]
  exact ⟨.nil, by simp [Declared.spacesBehind]⟩

/-- A package declaration. -/
theorem OneOutlined.package {name : List Token} (kind : ∀ m, (node m).kind = .package)
    (named : ∀ m, (node m).packageName? = some (m.text name)) : OneOutlined r node (.package name) inner := by
  intro spaces types m s told
  have closed : (node m).level? [] [] [] = none := by simp [Node.level?, kind]
  have empty : methods r s (node m) = [] := methods_of_no_level closed (by simp [kind]) r s
  rw [empty, namesBehind, named]
  exact ⟨.nil, rfl⟩

/-! ### Readers of declarations -/

/-- No token is empty. -/
def Filled (ts : List Tree) : Prop := ∀ t ∈ Tree.tokensOf ts, t.text ≠ []

theorem Filled.suffix {ts us : List Tree} (h : Filled ts) (ends : us <:+ ts) : Filled us :=
  fun t member => h t ((Tree.tokensOf_suffix ends).subset member)

theorem Filled.inside {ts : List Tree} {t : Tree} (h : Filled ts) (member : t ∈ ts) : Filled t.inside :=
  fun u found => h u ((Tree.inside_infix member).subset found)

theorem Filled.text_ne_nil {ts : List Tree} {t : Tree} (h : Filled ts) (member : t ∈ ts) (m : Spacing) :
    m.text t.tokens ≠ [] := by
  obtain ⟨front, behind, rfl⟩ := List.append_of_mem member
  have first : t.first.text ≠ [] :=
    h t.first (by simp [Tree.tokensOf_append, Tree.tokensOf, Tree.first_mem_tokens])
  cases t with
  | leaf t => exact List.append_ne_nil_of_left_ne_nil first _
  | group opening inside closing => exact List.append_ne_nil_of_left_ne_nil first _

/-- The nodes of a declaration, put together from those inside of it. -/
def Declares (r : Reading) (declared : Declared) (head : Spacing → List Node → List Node) : Prop :=
  ∀ inside others inner later, Outlined r inside inner → Outlined r others later →
    Outlined r (fun m => head m (inside m) ++ others m) fun spaces types =>
      declared.outlines inner spaces types ++ later (declared.spacesBehind spaces) types

theorem Declares.nothing : Declares r .nothing fun _ _ => [] := fun _ _ _ _ _ others => others

theorem Declares.one {declared : Declared} {node : Spacing → List Node → Node}
    (outlined : ∀ inside inner, Outlined r inside inner →
      OneOutlined r (fun m => node m (inside m)) declared inner) :
    Declares r declared fun m inside => [node m inside] :=
  fun _ _ _ _ inside others => .cons (outlined _ _ inside) others

/-- Nodes are those of declarations that are read step by step: a step goes into a group of the trees, and on
to their end, and does not see the spacing. -/
structure ReadsSteps (r : Reading) (declarations : Bool → Nat → List Tree → List Node)
    (step : Bool → List Tree → Step) : Prop where
  zero : ∀ top ts, declarations top 0 ts = []
  nil : ∀ top n, declarations top n [] = []
  within : ∀ top ts, ts ≠ [] →
    (∃ t ∈ ts, (step top ts).inner <:+ t.inside) ∧ (step top ts).more <:+ ts.tail
  step : ∀ top ts, ts ≠ [] → Filled ts → ∃ head, Declares r (step top ts).declared head ∧
    ∀ m n, declarations top (n + 1) (Spacing.trees m ts) =
      head m (declarations false n (m.trees (step top ts).inner)) ++
        declarations top n (m.trees (step top ts).more)

namespace ReadsSteps

variable {declarations : Bool → Nat → List Tree → List Node} {step : Bool → List Tree → Step}
  {ts : List Tree}

/-- What is declared has the outlines, however far the reader gets. -/
theorem outlined (reads : ReadsSteps r declarations step) (top : Bool) (n : Nat) (filled : Filled ts) :
    Outlined r (fun m => declarations top n (m.trees ts)) (outlinesOf step top n ts) := by
  induction n generalizing top ts with
  | zero =>
    simp only [reads.zero]
    exact .nil
  | succ n ih =>
    cases ts with
    | nil =>
      simp only [Spacing.trees_nil, reads.nil]
      exact .nil
    | cons t rest =>
      obtain ⟨head, declares, unfolds⟩ := reads.step top (t :: rest) (by simp) filled
      obtain ⟨⟨u, member, within⟩, more⟩ := reads.within top (t :: rest) (by simp)
      simp only [unfolds]
      exact declares _ _ _ _ (ih false ((filled.inside member).suffix within))
        (ih top (filled.suffix (more.trans (List.suffix_cons t rest))))

/-- A reader that may take as many steps as there are tokens gets to the end. -/
theorem enough (reads : ReadsSteps r declarations step) (m : Spacing) {n k : Nat} (top : Bool)
    (filled : Filled ts) (first : Tree.weight ts ≤ n) (second : Tree.weight ts ≤ k) :
    declarations top n (m.trees ts) = declarations top k (m.trees ts) := by
  induction n generalizing top ts k with
  | zero =>
    have none_left : ts = [] := by
      by_contra some_tree
      have lighter := Tree.weight_of_tail some_tree List.nil_suffix
      omega
    rw [none_left, Spacing.trees_nil, reads.nil, reads.nil]
  | succ n ih =>
    by_cases some_tree : ts = []
    · rw [some_tree, Spacing.trees_nil, reads.nil, reads.nil]
    · obtain ⟨head, -, unfolds⟩ := reads.step top ts some_tree filled
      obtain ⟨⟨t, member, within⟩, more⟩ := reads.within top ts some_tree
      have inside := Tree.weight_inside member
      have below := Tree.weight_of_suffix within
      have later := Tree.weight_of_tail some_tree more
      obtain ⟨k, rfl⟩ : ∃ j, k = j + 1 := Nat.exists_eq_succ_of_ne_zero (by omega)
      rw [unfolds, unfolds,
        ih false ((filled.inside member).suffix within) (by omega) (k := k) (by omega),
        ih top (filled.suffix (more.trans (List.tail_suffix ts))) (by omega) (k := k) (by omega)]

end ReadsSteps

/-! ### Names and parameters -/

/-- The name that a tree is, which no spacing changes. -/
theorem textOf_name {t : Tree} (h : t.isName) (m : Spacing) : Tree.textOf [m.tree t] = t.word?.getD [] := by
  cases t with
  | group opening inside closing => cases h
  | leaf t =>
    rw [Tree.isName, Tree.word?] at h
    split at h
    · rename_i word
      simp [Tree.textOf, Tree.tokensOf, Tree.tokens, Spacing.tree, Token.textOf, Tree.word?, word]
    · cases h

/-- The types that are shown for the parameters among the nodes. -/
def shownTypes (ns : List Node) : List Text :=
  ((ns.filter (·.label.named)).filter (·.kind.isParameter)).map Node.shownType

theorem shownTypes_append (ns ms : List Node) : shownTypes (ns ++ ms) = shownTypes ns ++ shownTypes ms := by
  simp [shownTypes]

theorem shownTypes_cons (n : Node) (ns : List Node) :
    shownTypes (n :: ns) = shownTypes [n] ++ shownTypes ns :=
  shownTypes_append [n] ns

theorem shownTypes_ofLead (t : Token) : shownTypes (Node.ofLead t) = [] := by
  rw [shownTypes, List.filter_filter, List.filter_eq_nil_iff.mpr, List.map_nil]
  intro n member
  have lead := quiet_of_lead member
  simp [lead]

theorem shownTypes_leadOf (ts : List Tree) : shownTypes (Node.leadOf ts) = [] := by
  cases ts with
  | nil => rfl
  | cons t rest => exact shownTypes_ofLead t.first

/-- Modifiers do not show. -/
theorem shownType_modified {lead : List Node}
    (modifiers : ∀ n ∈ lead, n.kind.isBesideType ∧ n.label.role ≠ some .type) (kind : NodeKind)
    (ts : List Tree)
    (children : List Node) : (Node.ofTrees kind none ts (lead ++ children)).shownType =
      (Node.ofTrees kind none ts children).shownType := by
  have passed (p : Node → Bool) (blind : ∀ n ∈ lead, ¬ p n) :
      (lead ++ children).find? p = children.find? p := by
    rw [List.find?_append, List.find?_eq_none.mpr blind, Option.none_or]
  have typed := passed (·.label.role = some .type) fun n member => by simp [modifiers n member]
  have other := passed (fun n => decide (n.label.named = true ∧ (!n.kind.isBesideType) = true))
    fun n member => by simp [modifiers n member]
  simp only [Node.shownType, Node.inRole, Node.namedChildren, Node.children_ofTrees, List.find?_filter,
    typed, other, Node.kind_ofTrees]
  rfl

/-- The signature of a method that starts with its name and its parameters. -/
theorem signature_of_nodes (ts : List Tree) (name params : Tree) (each more : List Node) :
    (Node.ofTrees .method none ts (.ofTrees .identifier (some .name) [name] [] ::
        .ofGroup .other (some .parameters) params each :: more)).signature =
      Tree.textOf [name] ++ "(" ++ Text.join ", " (shownTypes each) ++ ")" := by
  have shown : shownTypes (Node.ofGroup .other (some .parameters) params each).children =
      shownTypes each := by
    rw [Node.children_ofGroup, shownTypes_append]
    cases params with
    | leaf t => exact List.append_nil _
    | group opening inside closing => rw [Node.closing, shownTypes_ofLead, List.append_nil]
  rw [← shown]
  simp [Node.signature, Node.inRole, Node.name, Node.ofGroup, Node.namedChildren, shownTypes]

/-- The types that are shown for parameters that are read one after the other. -/
def shownParameters (shown : List Tree → List ShownType) (parameterRest : List Tree → List Tree) :
    Nat → List Tree → List ShownType
  | 0, _ | _, [] => []
  | n + 1, ts => shown (Tree.before ts (parameterRest ts)) ++
    shownParameters shown parameterRest n ((parameterRest ts).drop 1)

theorem shownTypes_parameters {shown : List Tree → List ShownType} {parameterRest : List Tree → List Tree}
    {parameterNodes : Nat → List Tree → List Node} {parameter : List Tree → Node}
    (zero : ∀ ts, parameterNodes 0 ts = []) (nil : ∀ n, parameterNodes n [] = [])
    (cons : ∀ n ts, ts ≠ [] → parameterNodes (n + 1) ts =
      Node.leadOf ts ++ parameter (Tree.before ts (parameterRest ts)) :: Node.leadOf (parameterRest ts) ++
        parameterNodes n ((parameterRest ts).drop 1))
    (m : Spacing) (rest_trees : ∀ ts, parameterRest (m.trees ts) = m.trees (parameterRest ts))
    (one : ∀ ts, shownTypes [parameter (m.trees ts)] = (shown ts).map (·.text m)) (n : Nat) (ts : List Tree) :
    shownTypes (parameterNodes n (m.trees ts)) =
      (shownParameters shown parameterRest n ts).map (·.text m) := by
  induction n generalizing ts with
  | zero =>
    rw [zero]
    rfl
  | succ n ih =>
    cases ts with
    | nil =>
      rw [Spacing.trees_nil, nil]
      rfl
    | cons t rest =>
      rw [cons n _ (by simp), rest_trees, Spacing.before_trees, Spacing.trees_drop, shownTypes_append,
        shownTypes_append, shownTypes_leadOf, shownTypes_cons, one, shownTypes_leadOf, ih, shownParameters,
        List.map_append, List.nil_append, List.append_nil]
      simp

theorem name_of_nodes (kind : NodeKind) (ts name : List Tree) (more : List Node) :
    (Node.ofTrees kind none ts (.ofTrees .identifier (some .name) name [] :: more)).name =
      Tree.textOf name := by
  simp [Node.name, Node.inRole]

/-- A method that starts with its name and its parameters has an outline. -/
theorem OneOutlined.ofHeading {name : Tree} (isName : name.isName) {shown : List ShownType}
    {each : Spacing → List Node} (parameters : ∀ m, shownTypes (each m) = shown.map (·.text m))
    (params : Tree)
    (whole : Spacing → List Tree) (body : Spacing → List Node) :
    OneOutlined r (fun m => .ofTrees .method none (whole m)
      (.ofTrees .identifier (some .name) [m.tree name] [] ::
        .ofGroup .other (some .parameters) (m.tree params) (each m) :: body m))
        (.method (name.word?.getD []) shown) inner := by
  refine .method (fun m => rfl) (fun m => ?_) fun m => ?_
  · rw [name_of_nodes, textOf_name isName]
  · rw [signature_of_nodes, textOf_name isName, parameters]

end BodyDigest.Braced
