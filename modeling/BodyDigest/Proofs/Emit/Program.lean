import BodyDigest.Indented.Classes
import BodyDigest.Indented.Value
import BodyDigest.Proofs.Emit.Lexemes
import BodyDigest.Proofs.Indented.Statements

/-! The statements of an emitted module, as its lexemes are read. -/
namespace BodyDigest.Emit

open Indented Indented.Lexer Indented.Grammar

/-! ### The mapping -/

def stampExpr (m : MemberView) : Expr :=
  .tuple [textExpr m.stamp.digest, textExpr m.stamp.signature]

def typeExpr (t : TypeView) : Expr :=
  .dict (t.members.map fun m => .pair (textExpr m.key) (stampExpr m))

def containerExpr (c : ContainerView) : Expr :=
  .dict (c.types.map fun t => .pair (textExpr t.key) (typeExpr t))

def mappingExpr (cs : List ContainerView) : Expr :=
  .dict (cs.map fun c => .pair (textExpr c.key) (containerExpr c))

theorem stampLexemes_entry (m : MemberView) : stampLexemes m = entryLexemes m.key
    (.op "(" :: ([literalOf m.stamp.digest] ++ .op "," ::
      ([literalOf m.stamp.signature] ++ [.op ")"]))) := rfl

/-- The lexemes of the mapping of one type. -/
def typeMapping (t : TypeView) : List Lexeme :=
  .op "\x7b" :: (t.members.flatMap stampLexemes ++ [.op "\x7d"])

def containerMapping (c : ContainerView) : List Lexeme :=
  .op "\x7b" :: (c.types.flatMap typeStampLexemes ++ [.op "\x7d"])

theorem writes_type (t : TypeView) : Writes (typeMapping t) (typeExpr t) := by
  have entries : stampLexemes = fun m => entryLexemes m.key _ := funext stampLexemes_entry
  rw [typeMapping, entries]
  exact writes_dict fun m _ => writes_pair (writes_text _) (writes_text _)

theorem writes_container (c : ContainerView) : Writes (containerMapping c) (containerExpr c) := by
  have entries : typeStampLexemes = fun t => entryLexemes t.key (typeMapping t) := by
    funext t
    simp [typeStampLexemes, entryLexemes, typeMapping]
  rw [containerMapping, entries]
  exact writes_dict fun t _ => writes_type t

theorem writes_mapping (cs : List ContainerView) :
    Writes (.op "\x7b" :: (cs.flatMap containerStampLexemes ++ [.op "\x7d"])) (mappingExpr cs) := by
  have entries : containerStampLexemes = fun c => entryLexemes c.key (containerMapping c) := by
    funext c
    simp [containerStampLexemes, entryLexemes, containerMapping]
  rw [entries]
  exact writes_dict fun c _ => writes_container c

/-! ### The statements without their places -/

/-- What follows the name of a class without bases, and its own head. -/
def classShape (name : Text) (body : List (Stmt Unit)) : Stmt Unit :=
  .class () ⟨name.composed, [], [], []⟩ body

def constantShape (m : MemberView) : Stmt Unit :=
  .simple () (.assign [.name m.name.composed] (textExpr m.stamp.digest))

def typeShape (t : TypeView) : Stmt Unit := classShape t.name (t.members.map constantShape)

def containerShape (c : ContainerView) : Stmt Unit := classShape c.name (c.types.map typeShape)

def docShape : Stmt Unit :=
  .simple () (.expression (textExpr "Digest constants addressable without any lookup."))

def rootShape (root : Text) (cs : List ContainerView) : Stmt Unit :=
  classShape root (docShape :: cs.map containerShape)

def importShape : Stmt Unit :=
  .simple () (.importsFrom 0 (some "hashstamp.registry") [⟨"Registry", none⟩])

def registryShape (cs : List ContainerView) : Stmt Unit :=
  .simple () (.assign [.name "REGISTRY"]
    (.call (.attribute (.name "Registry") "from_mapping") [mappingExpr cs] []))

def exportShape (root : Text) : Stmt Unit :=
  .simple () (.assign [.name "__all__"] (.list [textExpr "REGISTRY", textExpr root]))

def moduleShape (root : Text) (cs : List ContainerView) : List (Stmt Unit) :=
  [importShape, registryShape cs, rootShape root cs, exportShape root]

/-! ### The first lines -/

theorem says_import_registry : Says importLexemes fun ss => shapes ss = [importShape] := by
  refine (says_import (a := .name "hashstamp") (b := .name "registry") (c := .name "Registry")
    ⟨rfl, rfl, rfl⟩).imp ?_
  rintro ss ⟨place, rfl⟩
  rfl

theorem says_registry (cs : List ContainerView) : Says (registryLexemes cs)
    fun ss => shapes ss = [registryShape cs] := by
  have call := assigns_call (a := .name "Registry") (b := .name "from_mapping") ⟨rfl, rfl⟩
    (writes_mapping cs)
  have said := says_assignment (l := .name "REGISTRY") rfl call
  have form : registryLexemes cs = .name "REGISTRY" :: .op "=" :: (.name "Registry" :: .op "." ::
      .name "from_mapping" :: .op "(" ::
        (.op "\x7b" :: (cs.flatMap containerStampLexemes ++ [.op "\x7d"]) ++ [.op ")"]) ++
          [.newline]) := by
    simp [registryLexemes]
  rw [form]
  refine said.imp ?_
  rintro ss ⟨place, rfl⟩
  rfl

/-! ### The classes -/

theorem isName_nameOf {t : Text} (named : IsName t) : isName (nameOf t) := by
  obtain ⟨l, found, name⟩ := nameLexeme_identifier named.1 named.2
  rw [nameOf, found]
  exact name

/-- A name is read in its composed form. -/
theorem nameText_nameOf {t : Text} (named : IsName t) : nameText (nameOf t) = t.composed := by
  have plain : Text.ofChars t.chars = t := Text.ofChars_chars (Text.isPlain_identifier named.1)
  obtain ⟨l, found, name⟩ := nameLexeme_identifier named.1 named.2
  rw [nameOf, found, Option.getD_some]
  simp only [nameLexeme] at found
  split at found
  · rename_i ascii
    have small : t.all (·.val < 128) := by
      rw [← plain, Text.ofChars, List.all_map]
      exact ascii
    have same : t.composed = Text.ofChars t.chars := by
      rw [Text.composed, Text.compatible, if_pos small, Text.chars]
    rw [same]
    -- a keyword is no name; soft keywords and other words are read alike
    split at found
    · cases found
      cases name
    · split at found <;> cases found <;> rw [nameText, Text.ofString, String.toList_ofList]
  · rw [plain] at found
    split at found
    · cases found
      rw [nameText, Text.ofString, String.toList_ofList, Text.composed]
    · cases found

theorem says_constant {m : MemberView} (named : IsName m.name) :
    Says (constantLexemes m) fun ss => shapes ss = [constantShape m] := by
  refine (says_assignment (isName_nameOf named) (writes_text m.stamp.digest).assigns).imp ?_
  rintro ss ⟨place, rfl⟩
  rw [nameText_nameOf named]
  rfl

/-- Marks that close a block at the start of the next one close it at its own end. -/
theorem between_close {α : Type} {marks : List Lexeme} {lexemes : α → List Lexeme} {xs : List α}
    (some_items : xs ≠ []) :
    between marks lexemes xs ++ marks = xs.flatMap fun x => lexemes x ++ marks := by
  cases xs with
  | nil => exact absurd rfl some_items
  | cons x xs =>
    have rotated : (xs.flatMap fun y => marks ++ lexemes y) ++ marks =
        marks ++ xs.flatMap fun y => lexemes y ++ marks := by
      clear some_items
      induction xs with
      | nil => simp
      | cons y ys ih => simp only [List.flatMap_cons, List.append_assoc, ih]
    simp only [between, List.append_assoc, rotated, List.flatMap_cons]

theorem says_type {t : TypeView} (named : t.IsNamed) :
    Says (typeLexemes t ++ [.dedent]) fun ss => shapes ss = [typeShape t] := by
  have said := says_class (isName_nameOf named.name) named.inhabited
    fun m inside => says_constant (named.members m inside)
  rw [nameText_nameOf named.name] at said
  rw [typeLexemes, List.append_assoc]
  exact said

theorem says_container {c : ContainerView} (named : c.IsNamed) :
    Says (containerLexemes c ++ [.dedent, .dedent]) fun ss => shapes ss = [containerShape c] := by
  have said := says_class (isName_nameOf named.name) named.inhabited
    fun t inside => says_type (named.types t inside)
  rw [nameText_nameOf named.name, ← between_close named.inhabited] at said
  have form : containerLexemes c ++ [.dedent, .dedent] = classHead c.name ++
      (between [.dedent] typeLexemes c.types ++ [.dedent] ++ [.dedent]) := by
    simp [containerLexemes]
  rw [form]
  exact said

theorem says_doc : Says [docLexeme, .newline] fun ss => shapes ss = [docShape] := by
  have value : Escape.text "Digest constants addressable without any lookup.".toList =
      some "Digest constants addressable without any lookup." := by decide
  refine (says_expression (writes_literal value)).imp ?_
  rintro ss ⟨place, rfl⟩
  rfl

theorem says_root {root : Text} (named_root : IsName root) {cs : List ContainerView}
    (named : ∀ c ∈ cs, c.IsNamed) :
    Says (rootLexemes root cs ++ closingLexemes cs) fun ss => shapes ss = [rootShape root cs] := by
  -- the items of the root class: its documentation, which is no container, and the containers
  let lexemes : Option ContainerView → List Lexeme
    | none => [docLexeme, .newline]
    | some c => containerLexemes c ++ [.dedent, .dedent]
  let shape : Option ContainerView → Stmt Unit
    | none => docShape
    | some c => containerShape c
  have each : ∀ x ∈ none :: cs.map some, Says (lexemes x) fun ss => shapes ss = [shape x] := by
    intro x member
    cases x with
    | none => exact says_doc
    | some c =>
      have inside : c ∈ cs := by simpa using member
      exact says_container (named c inside)
  have said := says_class (isName_nameOf named_root) (by simp) each
  have body : (none :: cs.map some).map shape = docShape :: cs.map containerShape := by
    simp [shape, Function.comp_def]
  have pieces : (none :: cs.map some).flatMap lexemes = [docLexeme, .newline] ++
      cs.flatMap fun c => containerLexemes c ++ [.dedent, .dedent] := by
    rw [List.flatMap_cons, List.flatMap_map]
  rw [nameText_nameOf named_root, body, pieces] at said
  have form : rootLexemes root cs ++ closingLexemes cs = classHead root ++ ([docLexeme, .newline] ++
      (cs.flatMap fun c => containerLexemes c ++ [.dedent, .dedent]) ++ [.dedent]) := by
    by_cases no_cs : cs = []
    · subst no_cs
      simp [rootLexemes, closingLexemes, between]
    · have closes : closingLexemes cs = [.dedent, .dedent] ++ [.dedent] := by
        simp [closingLexemes, no_cs]
      simp only [rootLexemes, closes, ← between_close no_cs, List.append_assoc]
  rw [form]
  exact said

theorem says_exports (root : Text) :
    Says (exportLexemes root) fun ss => shapes ss = [exportShape root] := by
  refine (says_assignment (l := .name "__all__") rfl
    (writes_list_pair (writes_text "REGISTRY") (writes_text root)).assigns).imp ?_
  rintro ss ⟨place, rfl⟩
  rfl

/-! ### The module -/

/-- An emitted module is read as the statements that its views call for. -/
theorem reads_program {root : Text} (named_root : IsName root) {cs : List ContainerView}
    (named : ∀ c ∈ cs, c.IsNamed) {n : Nat} (enough : 32 * (moduleLexemes root cs).length + 5 ≤ n) :
    Reads (Grammar.module n) (moduleLexemes root cs) (fun ss => shapes ss = moduleShape root cs)
      [] := by
  obtain ⟨m, rfl⟩ : ∃ m, n = m + 5 := ⟨n - 5, by omega⟩
  simp only [moduleLexemes, List.length_append] at enough
  have exports := (says_exports root).then (n := m + 1) (by omega) reads_module_end
  have classes := (says_root named_root named).then
    (by rw [List.length_append]; omega) exports
  have mapping := (says_registry cs).then (by omega) classes
  have whole := says_import_registry.then (by omega) mapping
  have form : moduleLexemes root cs = importLexemes ++ (registryLexemes cs ++
      (rootLexemes root cs ++ closingLexemes cs ++ (exportLexemes root ++ []))) := by
    simp [moduleLexemes]
  rw [form]
  refine whole.imp ?_
  rintro ss ⟨imports, _, rfl, imported, registry, _, rfl, registered, root_class, _, rfl, declared,
    names, _, rfl, exported, rfl⟩
  simp only [shapes_append, imported, registered, declared, exported]
  rfl

theorem registryArgument?_shape {P : Type} (s : Stmt P) :
    registryArgument? s.shape = registryArgument? s := by
  cases s with
  | simple place form =>
    rw [Stmt.shape]
    unfold registryArgument?
    split <;> split <;> simp_all
  | _ => rfl

/-- The registry that an emitted module assigns is the first one that is found in it. -/
theorem registryArgument?_of_shapes {root : Text} {cs : List ContainerView} {ss : List (Stmt Place)}
    (read : shapes ss = moduleShape root cs) :
    ss.findSome? registryArgument? = some (mappingExpr cs) := by
  have found : (shapes ss).findSome? registryArgument? = some (mappingExpr cs) := by
    rw [read]
    rfl
  rw [shapes_eq_map, List.findSome?_map] at found
  rw [← found]
  congr 1
  funext s
  exact (registryArgument?_shape s).symm

end BodyDigest.Emit
