import BodyDigest.Braced.Members
import BodyDigest.Proofs.Listing
import BodyDigest.Proofs.Text.Apart

/-!
Which methods of a syntax tree are reported, and in which namespace and type: told by the places of nodes
and by what stands before them on each level, without the walk. On a level, a package replaces the
namespaces in force and a namespace of the file is added to them, for what follows on that level; what
happens inside of a node is not seen behind it.
-/
namespace BodyDigest.Braced

variable {n : Node} {entered spaces types : List Text} {before : List Node} {name : Text}

/-! ### Names in force -/

/-- The name that a package declaration gives, which is its last part that is a name. -/
def Node.packageName? (n : Node) : Option Text :=
  if n.kind = .package then
    ((n.namedChildren.filter fun c => c.kind = .identifier || c.kind = .qualifiedName).getLast?).map
      Node.text
  else none

/-- The names of the namespaces of the file among the nodes. -/
def lineNames (ns : List Node) : List Text := (ns.filter (·.kind = .namespaceLine)).map Node.name

/-- The names in force behind `before`, on a level that was entered with the names `entered`: those of
the file's namespaces follow the entered ones, or the last package. -/
inductive InForce (entered : List Text) : List Node → List Text → Prop where
  | entered {before : List Node} (none_named : ∀ n ∈ before, n.packageName? = none) :
    InForce entered before (entered ++ lineNames before)
  | package {front behind : List Node} {p : Node} {name : Text} (named : p.packageName? = some name)
    (none_named : ∀ n ∈ behind, n.packageName? = none) :
    InForce entered (front ++ p :: behind) (name :: lineNames behind)

/-- The names that a node leaves in force. -/
def namesBehind (spaces : List Text) (n : Node) : List Text :=
  match n.packageName? with
  | some name => [name]
  | none => if n.kind = .namespaceLine then spaces ++ [n.name] else spaces

theorem foldl_namesBehind (none_named : ∀ n ∈ before, n.packageName? = none) (spaces : List Text) :
    before.foldl namesBehind spaces = spaces ++ lineNames before := by
  induction before generalizing spaces with
  | nil => simp [lineNames]
  | cons n rest ih =>
    obtain ⟨unnamed, none_named⟩ := List.forall_mem_cons.mp none_named
    rw [List.foldl_cons, ih none_named, namesBehind, unnamed]
    by_cases line : n.kind = .namespaceLine
    · simp [line, lineNames]
    · simp [line, lineNames]

theorem inForce_iff : InForce entered before spaces ↔ before.foldl namesBehind entered = spaces := by
  constructor
  · rintro (none_named | ⟨named, none_named⟩)
    · exact foldl_namesBehind none_named entered
    · rw [List.foldl_append, List.foldl_cons, foldl_namesBehind none_named, namesBehind, named]
      rfl
  · rintro rfl
    by_cases some_named : ∃ n ∈ before.reverse, n.packageName?.isSome
    · -- The last package that gives a name.
      obtain ⟨n, member, named⟩ := some_named
      cases last : before.reverse.find? (·.packageName?.isSome) with
      | none => exact absurd named (List.find?_eq_none.mp last n member)
      | some p =>
        obtain ⟨named, behind, front, split, unnamed⟩ := List.find?_eq_some_iff_append.mp last
        rw [List.reverse_eq_iff, List.reverse_append, List.reverse_cons, List.append_assoc,
          List.singleton_append] at split
        obtain ⟨name, named⟩ := Option.isSome_iff_exists.mp named
        have none_named : ∀ n ∈ behind.reverse, n.packageName? = none := fun n member => by
          simpa using unnamed n (List.mem_reverse.mp member)
        rw [split, List.foldl_append, List.foldl_cons, foldl_namesBehind none_named, namesBehind, named]
        exact .package named none_named
    · have none_named : ∀ n ∈ before, n.packageName? = none := fun n member => by
        by_contra named
        exact some_named ⟨n, by simpa using member, Option.isSome_iff_ne_none.mpr named⟩
      rw [foldl_namesBehind none_named]
      exact .entered none_named

/-! ### Reached nodes -/

/-- Neighbouring nodes, with the names of the namespaces that were in force where their level was
entered, and of the types around it, the innermost first. -/
structure Level where
  nodes : List Node
  spaces : List Text := []
  types : List Text := []

/-- The level that a node opens, where `before` is in force in front of it and `behind` from it on. -/
def Node.level? (n : Node) (before behind types : List Text) : Option Level :=
  match n.kind with
  | .namespaceBlock =>
    some ⟨((n.inRole .body).map Node.children).getD n.children, before ++ [n.name], types⟩
  | .namespaceLine => some ⟨n.children, behind, types⟩
  | .container => some ⟨n.children, before, types⟩
  | .type =>
    if n.name.isEmpty then none
    else (n.inRole .body).map fun body => ⟨body.children, before, n.name :: types⟩
  | _ => none

/-- A node that was reached along a path, each step of which is the number of a node on its level. -/
structure Reached where
  path : List Nat
  node : Node
  spaces : List Text
  types : List Text

def Reached.below (i : Nat) (f : Reached) : Reached := { f with path := i :: f.path }

/-- The methods that are reached from a level. -/
inductive Reaches : Level → Reached → Prop where
  | method {l : Level} {i : Nat} {n : Node} {spaces : List Text} (here : l.nodes[i]? = some n)
    (isMethod : n.kind = .method) (inForce : InForce l.spaces (l.nodes.take i) spaces) :
    Reaches l ⟨[i], n, spaces, l.types⟩
  | inside {l inner : Level} {i : Nat} {n : Node} {before behind : List Text} {f : Reached}
    (here : l.nodes[i]? = some n) (inForce : InForce l.spaces (l.nodes.take i) before)
    (passed : InForce l.spaces (l.nodes.take (i + 1)) behind)
    (opened : n.level? before behind l.types = some inner) (reached : Reaches inner f) :
    Reaches l (f.below i)

/-- Names joined by points, empty ones left out. -/
def spaceText (names : List Text) : Text := Text.join "." (names.filter (!·.isEmpty))

/-- What is reported of a reached method: its namespace is that in force, or the default one where
none is. -/
def Reached.descriptor (r : Reading) (f : Reached) : Descriptor where
  scope := some (if (spaceText f.spaces).isEmpty then r.defaultScope else spaceText f.spaces)
  type := f.types.head?
  member := f.node.name
  signature := f.node.signature
  body := f.node.children.findSome? (bodyOf r.language.name)
  location := some ⟨r.path, f.node.label.line⟩

/-! ### Scopes and names -/

section Scopes

variable {s : Scope} {space : Option Text}

theorem spaceText_concat (spaces : List Text) (name : Text) :
    spaceText (spaces ++ [name]) = if name.isEmpty then spaceText spaces
      else if (spaceText spaces).isEmpty then name else spaceText spaces ++ "." ++ name := by
  cases given : name.isEmpty with
  | true => simp [spaceText, given]
  | false =>
    rw [spaceText, spaceText, List.filter_append, List.filter_cons_of_pos (by simp [given]),
      List.filter_nil]
    cases shown : spaces.filter (!·.isEmpty) with
    | nil => exact Text.join_singleton _ name
    | cons t rest =>
      have solid : t ≠ [] := by
        have kept : t ∈ spaces.filter (!·.isEmpty) := by simp [shown]
        simpa using (List.mem_filter.mp kept).2
      have some_text : (Text.join "." (t :: rest)).isEmpty = false := by
        simp [join_cons, solid]
      rw [some_text]
      simp [join_cons]

/-- A name more behind the names of namespaces. -/
theorem joined_eq (told : space.getD [] = spaceText spaces) (name : Text) :
    joined space name = spaceText (spaces ++ [name]) := by
  rw [spaceText_concat, ← told]
  cases space with
  | none => cases name <;> rfl
  | some t => cases t <;> cases name <;> rfl

/-- A scope with the names that are in force there. -/
structure Tells (s : Scope) (spaces types : List Text) : Prop where
  space : s.space.getD [] = spaceText spaces
  type : s.type = types.head?

theorem Tells.start : Tells {} [] [] := ⟨rfl, rfl⟩

theorem packageName_eq (isPackage : n.kind = .package) (space : Option Text) :
    packageName space n = n.packageName?.or space := by
  rw [packageName, Node.packageName?, if_pos isPackage]

theorem Tells.behind (told : Tells s spaces types) (n : Node) :
    Tells ⟨spaceBehind s.space n, s.type⟩ (namesBehind spaces n) types := by
  refine ⟨?_, told.type⟩
  by_cases isPackage : n.kind = .package
  · rw [spaceBehind, isPackage, namesBehind]
    simp only [packageName_eq isPackage]
    cases n.packageName? with
    | none => simpa [isPackage] using told.space
    | some name =>
      cases name with
      | nil => rfl
      | cons c rest => exact (Text.join_singleton _ _).symm
  · have unnamed : n.packageName? = none := if_neg isPackage
    by_cases line : n.kind = .namespaceLine
    · simp only [spaceBehind, namesBehind, unnamed, line, if_pos]
      exact joined_eq told.space n.name
    · have unchanged : spaceBehind s.space n = s.space := by
        rw [spaceBehind]
        split <;> simp_all
      simpa only [unchanged, namesBehind, unnamed, if_neg line] using told.space

theorem describe_eq (told : Tells s spaces types) (r : Reading) (path : List Nat) (n : Node) :
    describe r s n = Reached.descriptor r ⟨path, n, spaces, types⟩ := by
  have scope : s.spaceOr r.defaultScope =
      if (spaceText spaces).isEmpty then r.defaultScope else spaceText spaces := by
    rw [← told.space, Scope.spaceOr]
    cases s.space with
    | none => rfl
    | some t => cases t <;> rfl
  rw [describe, Reached.descriptor, scope, told.type]

end Scopes

/-! ### Places that are reached -/

variable {l : Level} {f g : Reached} {i : Nat}

/-- The names in force in front of a node of a level. -/
def Level.namesAt (l : Level) (i : Nat) : List Text := (l.nodes.take i).foldl namesBehind l.spaces

theorem namesAt_succ (here : l.nodes[i]? = some n) : l.namesAt (i + 1) = namesBehind (l.namesAt i) n := by
  rw [Level.namesAt, List.take_add_one, here, Option.toList_some, List.foldl_append]
  rfl

theorem children_smaller (n : Node) : sizeOf n.children < sizeOf n := by
  obtain ⟨label, children⟩ := n
  simp only [Node.mk.sizeOf_spec, Node.children]
  omega

theorem inRole_smaller {role : Role} {m : Node} (found : n.inRole role = some m) :
    sizeOf m.children < sizeOf n := by
  have child := List.sizeOf_lt_of_mem (List.mem_of_find?_eq_some found)
  have above := children_smaller n
  have below := children_smaller m
  omega

theorem level?_smaller {behind : List Text} {inner : Level}
    (opened : n.level? entered behind types = some inner) : sizeOf inner.nodes < sizeOf n := by
  rw [Node.level?] at opened
  split at opened
  · cases opened
    cases found : n.inRole .body with
    | none => exact children_smaller n
    | some body => exact inRole_smaller found
  · cases opened
    exact children_smaller n
  · cases opened
    exact children_smaller n
  · split at opened
    · cases opened
    · obtain ⟨body, found, rfl⟩ := Option.map_eq_some_iff.mp opened
      exact inRole_smaller found
  · cases opened

/-- What is reached through one node of a level. -/
theorem reaches_at_iff (here : l.nodes[i]? = some n) : Reaches l f ∧ f.path.head? = some i ↔
    n.kind = .method ∧ f = ⟨[i], n, l.namesAt i, l.types⟩ ∨
      ∃ inner g, n.level? (l.namesAt i) (l.namesAt (i + 1)) l.types = some inner ∧
        Reaches inner g ∧ f = g.below i := by
  constructor
  · rintro ⟨reached, first⟩
    cases reached with
    | method found isMethod inForce =>
      cases first
      cases found.symm.trans here
      cases inForce_iff.mp inForce
      exact .inl ⟨isMethod, rfl⟩
    | inside found inForce passed opened reached =>
      cases first
      cases found.symm.trans here
      cases inForce_iff.mp inForce
      cases inForce_iff.mp passed
      exact .inr ⟨_, _, opened, reached, rfl⟩
  · rintro (⟨isMethod, rfl⟩ | ⟨inner, g, opened, reached, rfl⟩)
    · exact ⟨.method here isMethod (inForce_iff.mpr rfl), rfl⟩
    · exact ⟨.inside here (inForce_iff.mpr rfl) (inForce_iff.mpr rfl) opened reached, rfl⟩

theorem reaches_first (reached : Reaches l f) : ∃ i < l.nodes.length, f.path.head? = some i := by
  cases reached with
  | method here => exact ⟨_, (List.getElem?_eq_some_iff.mp here).1, rfl⟩
  | inside here => exact ⟨_, (List.getElem?_eq_some_iff.mp here).1, rfl⟩

/-! ### What a walk lists -/

variable {r : Reading}

/-- The descriptors are those of all nodes with a property, in the order of their paths. -/
abbrev IsListed (r : Reading) : (Reached → Prop) → List Descriptor → Prop :=
  Lists (·.descriptor r) fun f g => f.path < g.path

theorem methodsInBody_eq (r : Reading) (s : Scope) (ns : List Node) : methodsInBody r s ns =
    (ns.find? (·.label.role = some .body)).map fun body => methodsIn r s body.children := by
  induction ns with
  | nil => rfl
  | cons n rest ih =>
    obtain ⟨label, children⟩ := n
    rw [methodsInBody, List.find?_cons]
    by_cases isBody : label.role = some .body <;> simp [isBody, ih, Node.label, Node.children]

section Step

variable {s : Scope} {behind : List Text}

/-- What the walk does at a node that opens a level. -/
theorem methods_of_level {inner : Level} (told : Tells s spaces types)
    (opened : n.level? spaces (namesBehind spaces n) types = some inner) (r : Reading) :
    ∃ s', Tells s' inner.spaces inner.types ∧ methods r s n = methodsIn r s' inner.nodes := by
  obtain ⟨label, children⟩ := n
  rw [Node.level?] at opened
  rw [methods]
  split at opened
  · rename_i kind
    replace kind : label.kind = .namespaceBlock := kind
    cases opened
    refine ⟨⟨some (joined s.space (Node.mk label children).name), s.type⟩,
      ⟨joined_eq told.space _, told.type⟩, ?_⟩
    simp only [kind, methodsInBody_eq, Node.inRole, Node.children]
    cases children.find? (·.label.role = some .body) <;> rfl
  · rename_i kind
    replace kind : label.kind = .namespaceLine := kind
    cases opened
    refine ⟨_, told.behind _, ?_⟩
    simp only [kind, spaceBehind, Node.kind, Node.label, Node.children]
  · rename_i kind
    replace kind : label.kind = .container := kind
    cases opened
    refine ⟨s, told, ?_⟩
    simp only [kind, Node.children]
  · rename_i kind
    replace kind : label.kind = .type := kind
    split at opened
    · cases opened
    · rename_i named
      obtain ⟨body, found, rfl⟩ := Option.map_eq_some_iff.mp opened
      refine ⟨⟨s.space, some (Node.mk label children).name⟩, ⟨told.space, rfl⟩, ?_⟩
      rw [Node.inRole, Node.children] at found
      simp only [kind, if_neg named, methodsInBody_eq, found]
      rfl
  · cases opened

theorem methods_of_no_level (closed : n.level? spaces behind types = none)
    (other : n.kind ≠ .method) (r : Reading) (s : Scope) : methods r s n = [] := by
  obtain ⟨label, children⟩ := n
  rw [Node.level?] at closed
  rw [methods]
  split at closed
  · cases closed
  · cases closed
  · cases closed
  · rename_i kind
    replace kind : label.kind = .type := kind
    simp only [kind, methodsInBody_eq]
    split at closed
    · rename_i unnamed
      rw [if_pos unnamed]
    · rename_i named
      rw [Option.map_eq_none_iff, Node.inRole, Node.children] at closed
      rw [if_neg named, closed]
      rfl
  · have kinds : label.kind ≠ .namespaceBlock ∧ label.kind ≠ .namespaceLine ∧
        label.kind ≠ .container ∧ label.kind ≠ .type ∧ label.kind ≠ .method := by
      refine ⟨?_, ?_, ?_, ?_, other⟩ <;> assumption
    split <;> simp_all

theorem methods_of_method (isMethod : n.kind = .method) (r : Reading) (s : Scope) :
    methods r s n = [describe r s n] := by
  obtain ⟨label, children⟩ := n
  rw [Node.kind, Node.label] at isMethod
  simp only [methods, isMethod]

end Step

/-- One node of a level, when all is known of the levels below. -/
theorem listed_at {s : Scope} (here : l.nodes[i]? = some n) (told : Tells s (l.namesAt i) l.types)
    (below : ∀ (inner : Level) (s' : Scope), sizeOf inner.nodes < sizeOf n →
      Tells s' inner.spaces inner.types → IsListed r (Reaches inner) (methodsIn r s' inner.nodes)) :
    IsListed r (fun f => Reaches l f ∧ f.path.head? = some i) (methods r s n) := by
  have behind := namesAt_succ here
  cases opened : n.level? (l.namesAt i) (l.namesAt (i + 1)) l.types with
  | some inner =>
    have other : n.kind ≠ .method := by
      intro isMethod
      simp [Node.level?, isMethod] at opened
    obtain ⟨s', told_inner, walked⟩ := methods_of_level told (behind ▸ opened) r
    have walk := below inner s' (level?_smaller opened) told_inner
    rw [walked]
    refine (walk.map (f := (·.below i)) (fun _ => rfl) ?_).imp fun f => ?_
    · exact fun f g smaller => List.cons_lt_cons_iff.mpr (.inr ⟨rfl, smaller⟩)
    · rw [reaches_at_iff here, opened]
      simp [other]
  | none =>
    by_cases isMethod : n.kind = .method
    · rw [methods_of_method isMethod, describe_eq told r [i] n]
      refine .single fun f => ?_
      rw [reaches_at_iff here, opened]
      simp [isMethod]
    · rw [methods_of_no_level opened isMethod]
      refine .nil fun f => ?_
      rw [reaches_at_iff here, opened]
      simp [isMethod]

/-- The nodes of a level from one on, when all is known of the levels below. -/
theorem listed_from {s : Scope} (ns : List Node) (split : l.nodes.drop i = ns)
    (told : Tells s (l.namesAt i) l.types)
    (below : ∀ (inner : Level) (s' : Scope), sizeOf inner.nodes < sizeOf l.nodes →
      Tells s' inner.spaces inner.types → IsListed r (Reaches inner) (methodsIn r s' inner.nodes)) :
    IsListed r (fun f => Reaches l f ∧ ∃ j ∈ f.path.head?, i ≤ j) (methodsIn r s ns) := by
  induction ns generalizing i s with
  | nil =>
    rw [methodsIn]
    refine .nil ?_
    rintro f ⟨reached, j, first, behind⟩
    obtain ⟨k, inside, same⟩ := reaches_first reached
    cases first.symm.trans same
    have all : l.nodes.length ≤ i := List.drop_eq_nil_iff.mp split
    omega
  | cons n rest ih =>
    have here : l.nodes[i]? = some n := by
      rw [← List.head?_drop, split, List.head?_cons]
    have later : l.nodes.drop (i + 1) = rest := by
      rw [← List.tail_drop, split, List.tail_cons]
    have smaller := List.sizeOf_lt_of_mem (List.mem_of_getElem? here)
    have told_behind := told.behind n
    rw [← namesAt_succ here] at told_behind
    have first := listed_at here told fun inner s' inside =>
      below inner s' (Nat.lt_trans inside smaller)
    rw [methodsIn]
    refine (first.append (ih later told_behind) ?_).imp fun f => ?_
    · rintro f g ⟨-, at_f⟩ ⟨-, j, at_g, behind⟩
      obtain ⟨p, hp⟩ := List.head?_eq_some_iff.mp at_f
      obtain ⟨q, hq⟩ := List.head?_eq_some_iff.mp at_g
      rw [hp, hq]
      exact List.cons_lt_cons_iff.mpr (.inl (by omega))
    · rw [← and_or_left]
      refine and_congr_right fun _ => ?_
      constructor
      · rintro (first | ⟨j, first, behind⟩)
        · exact ⟨i, first, Nat.le_refl i⟩
        · exact ⟨j, first, by omega⟩
      · rintro ⟨j, first, behind⟩
        rcases Nat.eq_or_lt_of_le behind with rfl | behind
        · exact .inl first
        · exact .inr ⟨j, first, behind⟩

/-- The walk lists exactly the methods that are reached, each once and in the order of their places. -/
theorem methods_are_listed (r : Reading) (l : Level) {s : Scope} (told : Tells s l.spaces l.types) :
    IsListed r (Reaches l) (methodsIn r s l.nodes) := by
  induction size : sizeOf l.nodes using Nat.strongRecOn generalizing l s with
  | ind k ih =>
    have all := listed_from (i := 0) l.nodes rfl told fun inner s' smaller told' =>
      ih _ (size ▸ smaller) inner told' rfl
    refine all.imp fun f => and_iff_left_of_imp fun reached => ?_
    obtain ⟨j, -, first⟩ := reaches_first reached
    exact ⟨j, first, Nat.zero_le j⟩

/-- For every tree, the methods that are reported are those reached from its root, in pre-order and
each once, with the namespaces in force and the innermost type where they stand. -/
theorem reported_methods_are_reached (r : Reading) (root : Node) :
    ∃ found : List Reached, methodsIn r {} root.children = found.map (·.descriptor r) ∧
      (∀ f, f ∈ found ↔ Reaches ⟨root.children, [], []⟩ f) ∧
      found.Pairwise fun f g => f.path < g.path :=
  methods_are_listed r ⟨root.children, [], []⟩ .start

end BodyDigest.Braced
