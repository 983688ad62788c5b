import BodyDigest.Proofs.Emit.Pages
import BodyDigest.Proofs.Indented.Lexing

/-! The lexemes of an emitted module. -/
namespace BodyDigest.Emit

open Indented Indented.Lexer

/-! ### Stamps -/

def stampLexemes (m : MemberView) : List Lexeme :=
  [literalOf m.key, .op ":", .op "(", literalOf m.stamp.digest, .op ",",
    literalOf m.stamp.signature, .op ")", .op ","]

def typeStampLexemes (t : TypeView) : List Lexeme :=
  literalOf t.key :: .op ":" :: .op "\x7b" ::
    (t.members.flatMap stampLexemes ++ [.op "\x7d", .op ","])

def containerStampLexemes (c : ContainerView) : List Lexeme :=
  literalOf c.key :: .op ":" :: .op "\x7b" ::
    (c.types.flatMap typeStampLexemes ++ [.op "\x7d", .op ","])

variable {blocks : List Width} {rest : List Char} {next : Char}

/-- Signs that are lexemes of their own whatever follows them. -/
theorem goes_sign {c : Char} (sign : c ∈ ['(', ')', '[', ']', '\x7b', '\x7d', ','])
    {brackets inner : List Char}
    (opened : bracketsAfter brackets (.op (String.ofList [c])) = some inner) :
    Goes ⟨false, blocks, brackets, c :: rest⟩ [.op (String.ofList [c])]
      ⟨false, blocks, inner, rest⟩ := by
  have starts : ['(', ')', '[', ']', '\x7b', '\x7d', ','].all (fun d => decide (StartsLexeme d)) := by
    decide
  have found : lexeme ([c] ++ rest) = some (.op (String.ofList [c]), [c], rest) := by
    simp only [List.mem_cons, List.not_mem_nil, or_false] at sign
    rcases sign with rfl | rfl | rfl | rfl | rfl | rfl | rfl <;> rfl
  exact goes_lexeme (of_decide_eq_true (List.all_eq_true.mp starts c sign)) rfl found opened

/-- Operators that what follows them does not make longer. -/
theorem goes_operator {c : Char} {brackets : List Char}
    (pair : (c, next) ∈ [(':', ' '), (':', '\n'), ('=', ' '), ('.', 'r'), ('.', 'f')]) :
    Goes ⟨false, blocks, brackets, c :: next :: rest⟩ [.op (String.ofList [c])]
      ⟨false, blocks, brackets, next :: rest⟩ := by
  have starts : [':', '=', '.'].all (fun d => decide (StartsLexeme d)) := by decide
  simp only [List.mem_cons, Prod.mk.injEq, List.not_mem_nil, or_false] at pair
  have known : c ∈ [':', '=', '.'] := by
    rcases pair with ⟨rfl, _⟩ | ⟨rfl, _⟩ | ⟨rfl, _⟩ | ⟨rfl, _⟩ | ⟨rfl, _⟩ <;> simp
  have found : lexeme ([c] ++ next :: rest) =
      some (.op (String.ofList [c]), [c], next :: rest) := by
    rcases pair with ⟨rfl, rfl⟩ | ⟨rfl, rfl⟩ | ⟨rfl, rfl⟩ | ⟨rfl, rfl⟩ | ⟨rfl, rfl⟩ <;> rfl
  have plain : bracketsAfter brackets (.op (String.ofList [c])) = some brackets := by
    rcases pair with ⟨rfl, _⟩ | ⟨rfl, _⟩ | ⟨rfl, _⟩ | ⟨rfl, _⟩ | ⟨rfl, _⟩ <;> rfl
  exact goes_lexeme (of_decide_eq_true (List.all_eq_true.mp starts c known)) rfl found plain

theorem line_chars (indent : Nat) (t : Text) :
    (line indent t).chars = List.replicate indent ' ' ++ t.chars ++ ['\n'] := by
  simp [line]

/-- The brackets that are open inside a mapping, innermost first. -/
def inMapping : List Char := ['\x7d', ')']

def inContainer : List Char := '\x7d' :: inMapping

def inType : List Char := '\x7d' :: inContainer

theorem goes_stamp (m : MemberView) : Goes ⟨false, blocks, inType, (stampLine m).chars ++ rest⟩
    (stampLexemes m) ⟨false, blocks, inType, rest⟩ := by
  have text : (stampLine m).chars ++ rest = List.replicate 12 ' ' ++
      ((Text.quoted m.key).chars ++ ':' :: ' ' :: '(' :: ((Text.quoted m.stamp.digest).chars ++
        ',' :: ' ' :: ((Text.quoted m.stamp.signature).chars ++ ')' :: ',' :: '\n' :: rest))) := by
    have first : (": (" : String).toList = [':', ' ', '('] := rfl
    have second : (", " : String).toList = [',', ' '] := rfl
    have third : ("),": String).toList = [')', ','] := rfl
    simp [stampLine, line_chars, first, second, third]
  rw [text]
  refine .skip (goes_blanks 12) ?_
  refine .cons (goes_literal m.key (by decide)) ?_
  refine .cons (goes_operator (by decide)) (.skip goes_blank ?_)
  refine .cons (goes_sign (by decide) rfl) ?_
  refine .cons (goes_literal m.stamp.digest (by decide)) ?_
  refine .cons (goes_sign (by decide) rfl) (.skip goes_blank ?_)
  refine .cons (goes_literal m.stamp.signature (by decide)) ?_
  refine .cons (goes_sign (by decide) rfl) ?_
  refine .cons (goes_sign (by decide) rfl) ?_
  exact goes_feed_inside

/-- What is gone through one by one is gone through as a whole. -/
theorem goes_flatMap {α : Type} {xs : List α} {text : α → List Char} {lexemes : α → List Lexeme}
    {lineStart : Bool} {brackets : List Char}
    (each : ∀ x ∈ xs, ∀ rest, Goes ⟨lineStart, blocks, brackets, text x ++ rest⟩ (lexemes x)
      ⟨lineStart, blocks, brackets, rest⟩) :
    Goes ⟨lineStart, blocks, brackets, xs.flatMap text ++ rest⟩ (xs.flatMap lexemes)
      ⟨lineStart, blocks, brackets, rest⟩ := by
  induction xs with
  | nil => exact Goes.refl _
  | cons x xs ih =>
    have tail := ih fun y member => each y (by simp [member])
    rw [List.flatMap_cons, List.flatMap_cons, List.append_assoc]
    exact (each x (by simp) _).trans tail

theorem goes_type_stamps (t : TypeView) :
    Goes ⟨false, blocks, inContainer, (typeStamps t).chars ++ rest⟩ (typeStampLexemes t)
      ⟨false, blocks, inContainer, rest⟩ := by
  have text : (typeStamps t).chars ++ rest = List.replicate 8 ' ' ++
      ((Text.quoted t.key).chars ++ ':' :: ' ' :: '\x7b' :: '\n' ::
        (t.members.flatMap (fun m => (stampLine m).chars) ++
          (List.replicate 8 ' ' ++ '\x7d' :: ',' :: '\n' :: rest))) := by
    have first : (": " : String).toList = [':', ' '] := rfl
    have second : ("," : String).toList = [','] := rfl
    simp [typeStamps, line_chars, first, second, openBrace, closeBrace, Text.chars_flatMap]
  rw [text]
  refine .skip (goes_blanks 8) ?_
  refine .cons (goes_literal t.key (by decide)) ?_
  refine .cons (goes_operator (by decide)) (.skip goes_blank ?_)
  refine .cons (goes_sign (by decide) rfl) (.skip goes_feed_inside ?_)
  refine .trans (goes_flatMap fun m _ _ => goes_stamp m) ?_
  refine .skip (goes_blanks 8) ?_
  refine .cons (goes_sign (by decide) rfl) ?_
  exact .cons (goes_sign (by decide) rfl) goes_feed_inside

theorem goes_container_stamps (c : ContainerView) :
    Goes ⟨false, blocks, inMapping, (containerStamps c).chars ++ rest⟩ (containerStampLexemes c)
      ⟨false, blocks, inMapping, rest⟩ := by
  have text : (containerStamps c).chars ++ rest = List.replicate 4 ' ' ++
      ((Text.quoted c.key).chars ++ ':' :: ' ' :: '\x7b' :: '\n' ::
        (c.types.flatMap (fun t => (typeStamps t).chars) ++
          (List.replicate 4 ' ' ++ '\x7d' :: ',' :: '\n' :: rest))) := by
    have first : (": " : String).toList = [':', ' '] := rfl
    have second : ("," : String).toList = [','] := rfl
    simp [containerStamps, line_chars, first, second, openBrace, closeBrace, Text.chars_flatMap]
  rw [text]
  refine .skip (goes_blanks 4) ?_
  refine .cons (goes_literal c.key (by decide)) ?_
  refine .cons (goes_operator (by decide)) (.skip goes_blank ?_)
  refine .cons (goes_sign (by decide) rfl) (.skip goes_feed_inside ?_)
  refine .trans (goes_flatMap fun t _ _ => goes_type_stamps t) ?_
  refine .skip (goes_blanks 4) ?_
  refine .cons (goes_sign (by decide) rfl) ?_
  exact .cons (goes_sign (by decide) rfl) goes_feed_inside

/-! ### Classes -/

/-- A name that can stand in a statement. -/
def IsName (t : Text) : Prop := t.isIdentifier ∧ isKeyword t = false

/-- Views with usable names, none of which is empty. -/
structure TypeView.IsNamed (t : TypeView) : Prop where
  name : IsName t.name
  inhabited : t.members ≠ []
  members : ∀ m ∈ t.members, IsName m.name

structure ContainerView.IsNamed (c : ContainerView) : Prop where
  name : IsName c.name
  inhabited : c.types ≠ []
  types : ∀ t ∈ c.types, t.IsNamed

def constantLexemes (m : MemberView) : List Lexeme :=
  [nameOf m.name, .op "=", literalOf m.stamp.digest, .newline]

/-- The first line of a class, and the start of its block. -/
def classHead (name : Text) : List Lexeme :=
  [.keyword "class", nameOf name, .op ":", .newline, .indent]

def typeLexemes (t : TypeView) : List Lexeme := classHead t.name ++ t.members.flatMap constantLexemes

/-- Blocks, each of which is closed by `marks` when the next one starts. -/
def between {α : Type} (marks : List Lexeme) (lexemes : α → List Lexeme) : List α → List Lexeme
  | [] => []
  | x :: xs => lexemes x ++ xs.flatMap fun y => marks ++ lexemes y

def containerLexemes (c : ContainerView) : List Lexeme :=
  classHead c.name ++ between [.dedent] typeLexemes c.types

/-- The blocks that are open at a depth of `4 * n` blanks. -/
def nested : Nat → List Width
  | 0 => [⟨0, 0⟩]
  | n + 1 => ⟨4 * (n + 1), 4 * (n + 1)⟩ :: nested n

theorem goes_class_line {name : Text} (named : IsName name) {k : Nat} {marks : List Lexeme}
    {inner : List Width} (settled : settle ⟨k, k⟩ blocks = some (marks.reverse, inner)) :
    Goes ⟨true, blocks, [], (line k (("class " : Text) ++ name ++ ":")).chars ++ rest⟩
      (marks ++ [.keyword "class", nameOf name, .op ":", .newline]) ⟨true, inner, [], rest⟩ := by
  have text : (line k (("class " : Text) ++ name ++ ":")).chars ++ rest = List.replicate k ' ' ++
      'c' :: (['l', 'a', 's', 's'] ++ ' ' :: (name.chars ++ ':' :: '\n' :: rest)) := by
    have first : ("class " : String).toList = ['c', 'l', 'a', 's', 's', ' '] := rfl
    have second : (":" : String).toList = [':'] := rfl
    simp [line_chars, first, second]
  rw [text]
  refine .trans (goes_indentation (by decide) (by decide) (by decide) settled) ?_
  have keyword (after : List Char) : Goes ⟨false, inner, [], ['c', 'l', 'a', 's', 's'] ++ ' ' :: after⟩
      [.keyword "class"] ⟨false, inner, [], ' ' :: after⟩ :=
    goes_lexeme (by decide) rfl rfl rfl
  refine .cons (keyword _) (.skip goes_blank ?_)
  refine .cons (goes_name named.1 named.2 (by decide) (by decide)) ?_
  exact .cons (goes_operator (by decide)) goes_feed

theorem goes_constant {m : MemberView} (named : IsName m.name) {marks : List Lexeme}
    {inner : List Width} (settled : settle ⟨12, 12⟩ blocks = some (marks.reverse, inner)) :
    Goes ⟨true, blocks, [], (constantLine m).chars ++ rest⟩ (marks ++ constantLexemes m)
      ⟨true, inner, [], rest⟩ := by
  obtain ⟨c, tail, form, start, _⟩ := identifier_chars named.1
  have text : (constantLine m).chars ++ rest = List.replicate 12 ' ' ++
      (m.name.chars ++ ' ' :: '=' :: ' ' :: ((Text.quoted m.stamp.digest).chars ++ '\n' :: rest)) := by
    have first : (" = " : String).toList = [' ', '=', ' '] := rfl
    simp [constantLine, line_chars, first]
  obtain ⟨indentation, comment, feed⟩ := startsLexeme_of_name start
  have opens : Goes ⟨true, blocks, [], List.replicate 12 ' ' ++ (m.name.chars ++ ' ' :: '=' :: ' ' ::
      ((Text.quoted m.stamp.digest).chars ++ '\n' :: rest))⟩ marks ⟨false, inner, [], m.name.chars ++
        ' ' :: '=' :: ' ' :: ((Text.quoted m.stamp.digest).chars ++ '\n' :: rest)⟩ := by
    rw [form, List.cons_append]
    exact goes_indentation indentation comment feed settled
  rw [text]
  refine .trans opens ?_
  refine .cons (goes_name named.1 named.2 (by decide) (by decide)) (.skip goes_blank ?_)
  refine .cons (goes_operator (by decide)) (.skip goes_blank ?_)
  exact .cons (goes_literal _ (by decide)) goes_feed

/-- A block whose items settle at one width, with `marks` before the first and `later` before each
other one. -/
theorem goes_between {α : Type} {xs : List α} {text : α → List Char} {lexemes : α → List Lexeme}
    {first later : List Lexeme} {outer inner : List Width} (some_items : xs ≠ [])
    (enters : ∀ x ∈ xs, ∀ rest, Goes ⟨true, outer, [], text x ++ rest⟩ (first ++ lexemes x)
      ⟨true, inner, [], rest⟩)
    (continues : ∀ x ∈ xs, ∀ rest, Goes ⟨true, inner, [], text x ++ rest⟩ (later ++ lexemes x)
      ⟨true, inner, [], rest⟩) :
    Goes ⟨true, outer, [], xs.flatMap text ++ rest⟩ (first ++ between later lexemes xs)
      ⟨true, inner, [], rest⟩ := by
  cases xs with
  | nil => exact absurd rfl some_items
  | cons x xs =>
    have others : Goes ⟨true, inner, [], xs.flatMap text ++ rest⟩
        (xs.flatMap fun y => later ++ lexemes y) ⟨true, inner, [], rest⟩ :=
      goes_flatMap fun y member => continues y (List.mem_cons_of_mem x member)
    have whole := (enters x (by simp) (xs.flatMap text ++ rest)).trans others
    simpa [between] using whole

theorem between_nil {α : Type} (lexemes : α → List Lexeme) (xs : List α) :
    between [] lexemes xs = xs.flatMap lexemes := by
  cases xs <;> simp [between]

theorem goes_type {t : TypeView} (named : t.IsNamed) {marks : List Lexeme}
    (settled : settle ⟨8, 8⟩ blocks = some (marks.reverse, nested 2)) :
    Goes ⟨true, blocks, [], (typeClass t).chars ++ rest⟩ (marks ++ typeLexemes t)
      ⟨true, nested 3, [], rest⟩ := by
  have text : (typeClass t).chars ++ rest = '\n' :: ((line 8 (("class " : Text) ++ t.name ++ ":")).chars
      ++ (t.members.flatMap (fun m => (constantLine m).chars) ++ rest)) := by
    have first : ("\n" : String).toList = ['\n'] := rfl
    simp [typeClass, first, Text.chars_flatMap]
  have members : Goes ⟨true, nested 2, [], t.members.flatMap (fun m => (constantLine m).chars) ++ rest⟩
      ([Lexeme.indent] ++ between [] constantLexemes t.members) ⟨true, nested 3, [], rest⟩ :=
    goes_between named.inhabited
      (fun m member _ => goes_constant (named.members m member) rfl)
      (fun m member _ => goes_constant (named.members m member) rfl)
  rw [between_nil] at members
  have whole := (goes_class_line named.name settled).trans members
  rw [text]
  refine .skip goes_empty_line ?_
  simpa [typeLexemes, classHead] using whole

theorem goes_container {c : ContainerView} (named : c.IsNamed) {marks : List Lexeme}
    (settled : settle ⟨4, 4⟩ blocks = some (marks.reverse, nested 1)) :
    Goes ⟨true, blocks, [], (containerClass c).chars ++ rest⟩ (marks ++ containerLexemes c)
      ⟨true, nested 3, [], rest⟩ := by
  have text : (containerClass c).chars ++ rest =
      '\n' :: ((line 4 (("class " : Text) ++ c.name ++ ":")).chars
        ++ (c.types.flatMap (fun t => (typeClass t).chars) ++ rest)) := by
    have first : ("\n" : String).toList = ['\n'] := rfl
    simp [containerClass, first, Text.chars_flatMap]
  have types : Goes ⟨true, nested 1, [], c.types.flatMap (fun t => (typeClass t).chars) ++ rest⟩
      ([Lexeme.indent] ++ between [Lexeme.dedent] typeLexemes c.types) ⟨true, nested 3, [], rest⟩ :=
    goes_between named.inhabited
      (fun t member _ => goes_type (named.types t member) rfl)
      (fun t member _ => goes_type (named.types t member) rfl)
  have whole := (goes_class_line named.name settled).trans types
  rw [text]
  refine .skip goes_empty_line ?_
  simpa [containerLexemes, classHead] using whole

/-! ### The module -/

def importLexemes : List Lexeme :=
  [.keyword "from", .name "hashstamp", .op ".", .name "registry", .keyword "import",
    .name "Registry", .newline]

def registryLexemes (cs : List ContainerView) : List Lexeme :=
  [.name "REGISTRY", .op "=", .name "Registry", .op ".", .name "from_mapping", .op "(", .op "\x7b"] ++
    (cs.flatMap containerStampLexemes ++ [.op "\x7d", .op ")", .newline])

def docLexeme : Lexeme := .literal [] "Digest constants addressable without any lookup.".toList

/-- The class tree up to the end of its last line; its blocks are still open. -/
def rootLexemes (root : Text) (cs : List ContainerView) : List Lexeme :=
  classHead root ++ [docLexeme, .newline] ++ between [.dedent, .dedent] containerLexemes cs

/-- What closes the blocks of the class tree. -/
def closingLexemes (cs : List ContainerView) : List Lexeme :=
  if cs.isEmpty then [.dedent] else [.dedent, .dedent, .dedent]

def exportLexemes (root : Text) : List Lexeme :=
  [.name "__all__", .op "=", .op "[", literalOf "REGISTRY", .op ",", literalOf root, .op "]", .newline]

def moduleLexemes (root : Text) (cs : List ContainerView) : List Lexeme :=
  importLexemes ++ registryLexemes cs ++ rootLexemes root cs ++ closingLexemes cs ++
    exportLexemes root

theorem goes_containers {cs : List ContainerView} (named : ∀ c ∈ cs, c.IsNamed) :
    Goes ⟨true, nested 1, [], cs.flatMap (fun c => (containerClass c).chars) ++ rest⟩
      (between [.dedent, .dedent] containerLexemes cs)
      ⟨true, if cs.isEmpty then nested 1 else nested 3, [], rest⟩ := by
  by_cases none_c : cs = []
  · subst none_c
    exact Goes.refl _
  · have all : Goes ⟨true, nested 1, [], cs.flatMap (fun c => (containerClass c).chars) ++ rest⟩
        ([] ++ between [.dedent, .dedent] containerLexemes cs) ⟨true, nested 3, [], rest⟩ :=
      goes_between none_c
        (fun c member _ => goes_container (named c member) rfl)
        (fun c member _ => goes_container (named c member) rfl)
    have some_c : cs.isEmpty = false := by simpa using none_c
    simpa [some_c] using all

/-- A name or a keyword of the fixed texts. -/
theorem goes_fixed (word : String) {brackets : List Char} {l : Lexeme}
    (meant : ((word.toList.head?.any isNameStart && word.toList.all isNameChar) = true) ∧
      nameLexeme word.toList = some l)
    (ends : isNameChar next = false ∧ next ≠ '\'' ∧ next ≠ '"') :
    Goes ⟨false, blocks, brackets, word.toList ++ next :: rest⟩ [l]
      ⟨false, blocks, brackets, next :: rest⟩ := by
  obtain ⟨shape, meant⟩ := meant
  rw [Bool.and_eq_true] at shape
  exact goes_word word.toList shape.1 shape.2 meant ends.1 ends.2

theorem goes_margin {c : Char} (h : StartsLexeme c) :
    Goes ⟨true, nested 0, [], c :: rest⟩ [] ⟨false, nested 0, [], c :: rest⟩ :=
  goes_indentation (k := 0) h.1 h.2.1 h.2.2 rfl

theorem goes_import : Goes ⟨true, nested 0, [],
    (line 0 "from hashstamp.registry import Registry").chars ++ rest⟩ importLexemes
      ⟨true, nested 0, [], rest⟩ := by
  have text : (line 0 "from hashstamp.registry import Registry").chars ++ rest =
      "from".toList ++ ' ' :: ("hashstamp".toList ++ '.' :: ("registry".toList ++ ' ' ::
        ("import".toList ++ ' ' :: ("Registry".toList ++ '\n' :: rest)))) := by
    have words : ("from hashstamp.registry import Registry" : String).toList =
        "from".toList ++ ' ' :: ("hashstamp".toList ++ '.' :: ("registry".toList ++ ' ' ::
          ("import".toList ++ ' ' :: "Registry".toList))) := rfl
    simp only [line_chars, Text.chars_ofString, words, List.replicate_zero, List.nil_append,
      List.append_assoc, List.cons_append]
  rw [text]
  refine .skip (goes_margin (by decide)) ?_
  refine .cons (goes_fixed "from" (by decide) (by decide)) (.skip goes_blank ?_)
  refine .cons (goes_fixed "hashstamp" (by decide) (by decide)) ?_
  refine .cons (goes_operator (by decide)) ?_
  refine .cons (goes_fixed "registry" (by decide) (by decide)) (.skip goes_blank ?_)
  refine .cons (goes_fixed "import" (by decide) (by decide)) (.skip goes_blank ?_)
  exact .cons (goes_fixed "Registry" (by decide) (by decide)) goes_feed

theorem goes_registry (cs : List ContainerView) : Goes ⟨true, nested 0, [],
    (line 0 (("REGISTRY = Registry.from_mapping(" : Text) ++ openBrace)).chars ++
      (cs.flatMap (fun c => (containerStamps c).chars) ++ '\x7d' :: ')' :: '\n' :: rest)⟩
      (registryLexemes cs) ⟨true, nested 0, [], rest⟩ := by
  have text (tail : List Char) :
      (line 0 (("REGISTRY = Registry.from_mapping(" : Text) ++ openBrace)).chars ++ tail =
        "REGISTRY".toList ++ ' ' :: ("=".toList ++ ' ' :: ("Registry".toList ++ '.' ::
          ("from_mapping".toList ++ '(' :: '\x7b' :: '\n' :: tail))) := by
    have words : ("REGISTRY = Registry.from_mapping(" : String).toList =
        "REGISTRY".toList ++ ' ' :: ("=".toList ++ ' ' :: ("Registry".toList ++ '.' ::
          ("from_mapping".toList ++ ['(']))) := rfl
    simp only [line_chars, Text.chars_append, Text.chars_ofString, words, List.replicate_zero,
      List.nil_append, List.append_assoc, List.cons_append, openBrace, Text.chars_cons_char,
      Text.chars_nil]
  rw [text]
  refine .skip (goes_margin (by decide)) ?_
  refine .cons (goes_fixed "REGISTRY" (by decide) (by decide)) (.skip goes_blank ?_)
  refine .cons (goes_operator (by decide)) (.skip goes_blank ?_)
  refine .cons (goes_fixed "Registry" (by decide) (by decide)) ?_
  refine .cons (goes_operator (by decide)) ?_
  refine .cons (goes_fixed "from_mapping" (by decide) (by decide)) ?_
  refine .cons (goes_sign (by decide) rfl) ?_
  refine .cons (goes_sign (by decide) rfl) (.skip goes_feed_inside ?_)
  change Goes _ (cs.flatMap containerStampLexemes ++
    [Lexeme.op "\x7d", Lexeme.op ")", Lexeme.newline]) _
  refine .trans (goes_flatMap fun c _ _ => goes_container_stamps c) ?_
  refine .cons (goes_sign (by decide) rfl) ?_
  exact .cons (goes_sign (by decide) rfl) goes_feed

/-- What stands behind the first quote of the documentation. -/
theorem documentation_chars : ("\"\"\"Digest constants addressable without any lookup.\"\"\"" : String).toList =
    '"' :: (['"', '"'] ++ "Digest constants addressable without any lookup.".toList ++
      ['"', '"', '"']) := rfl

theorem goes_documentation : Goes ⟨false, blocks, [], '"' :: (['"', '"'] ++
    "Digest constants addressable without any lookup.".toList ++ ['"', '"', '"']) ++ rest⟩
      [docLexeme] ⟨false, blocks, [], rest⟩ :=
  goes_lexeme (by decide) rfl (lexeme_long (.inl rfl) rfl rest) rfl

theorem goes_root {root : Text} (named_root : IsName root) {cs : List ContainerView}
    (named : ∀ c ∈ cs, c.IsNamed) :
    Goes ⟨true, nested 0, [], (staticText root cs).chars ++ rest⟩ (rootLexemes root cs)
      ⟨true, if cs.isEmpty then nested 1 else nested 3, [], rest⟩ := by
  have text : (staticText root cs).chars ++ rest =
      (line 0 (("class " : Text) ++ root ++ ":")).chars ++ (List.replicate 4 ' ' ++
        ('"' :: (['"', '"'] ++ "Digest constants addressable without any lookup.".toList ++
          ['"', '"', '"']) ++ '\n' ::
            (cs.flatMap (fun c => (containerClass c).chars) ++ rest))) := by
    simp only [staticText, line_chars, Text.chars_append, Text.chars_ofString,
      documentation_chars, List.append_assoc, List.cons_append, List.nil_append,
      Text.chars_flatMap]
  have head (after : List Char) : Goes ⟨true, nested 0, [],
      (line 0 (("class " : Text) ++ root ++ ":")).chars ++ after⟩
      ([] ++ [.keyword "class", nameOf root, .op ":", .newline]) ⟨true, nested 0, [], after⟩ :=
    goes_class_line named_root rfl
  have opens (after : List Char) : Goes ⟨true, nested 0, [], List.replicate 4 ' ' ++ '"' :: after⟩
      [.indent] ⟨false, nested 1, [], '"' :: after⟩ :=
    goes_indentation (by decide) (by decide) (by decide) rfl
  have containers : Goes ⟨true, nested 1, [],
      cs.flatMap (fun c => (containerClass c).chars) ++ rest⟩
      (between [.dedent, .dedent] containerLexemes cs)
      ⟨true, if cs.isEmpty then nested 1 else nested 3, [], rest⟩ := goes_containers named
  have whole := (head _).trans
    ((opens _).cons (goes_documentation.cons (goes_feed.cons containers)))
  rw [text]
  simpa [rootLexemes, classHead] using whole

theorem goes_exports (root : Text) (cs : List ContainerView) : Goes ⟨true,
    if cs.isEmpty then nested 1 else nested 3, [],
      ("__all__ = [\"REGISTRY\", " : String).toList ++ ((Text.quoted root).chars ++ ']' :: '\n' :: rest)⟩
      (closingLexemes cs ++ exportLexemes root) ⟨true, nested 0, [], rest⟩ := by
  have text : ("__all__ = [\"REGISTRY\", " : String).toList ++
      ((Text.quoted root).chars ++ ']' :: '\n' :: rest) =
        "__all__".toList ++ ' ' :: ("=".toList ++ ' ' :: '[' :: ("\"REGISTRY\"".toList ++ ',' :: ' ' ::
          ((Text.quoted root).chars ++ ']' :: '\n' :: rest))) := rfl
  have closes (after : List Char) : Goes ⟨true, if cs.isEmpty then nested 1 else nested 3, [],
      "__all__".toList ++ after⟩ (closingLexemes cs) ⟨false, nested 0, [], "__all__".toList ++ after⟩ := by
    unfold closingLexemes
    split
    · exact goes_indentation (c := '_') (k := 0) (by decide) (by decide) (by decide) rfl
    · exact goes_indentation (c := '_') (k := 0) (by decide) (by decide) (by decide) rfl
  have registry (after : List Char) : Goes ⟨false, nested 0, [']'], "\"REGISTRY\"".toList ++ ',' :: after⟩
      [literalOf "REGISTRY"] ⟨false, nested 0, [']'], ',' :: after⟩ :=
    goes_lexeme (c := '"') (by decide) rfl rfl rfl
  rw [text]
  refine .trans (closes _) ?_
  refine .cons (goes_fixed "__all__" (by decide) (by decide)) (.skip goes_blank ?_)
  refine .cons (goes_operator (by decide)) (.skip goes_blank ?_)
  refine .cons (goes_sign (by decide) rfl) ?_
  refine .cons (registry _) ?_
  refine .cons (goes_sign (by decide) rfl) (.skip goes_blank ?_)
  refine .cons (goes_literal root (by decide)) ?_
  exact .cons (goes_sign (by decide) rfl) goes_feed

theorem closed_module (root : Text) (count : Nat) (runtime static : Text) :
    closed (moduleText root count runtime static) =
      moduleText root count runtime static ++ [CodePoint.char '\n'] := by
  obtain ⟨before, form⟩ : ∃ before : Text,
      moduleText root count runtime static = before ++ [CodePoint.char ']'] := by
    have bracket : Text.ofString "]" = [CodePoint.char ']'] := rfl
    refine ⟨line 0 "# <auto-generated/>" ++ line 0 (("# Generated by hashstamp from " : Text) ++
      Text.ofNat count ++ " members; do not edit.") ++ runtime ++ "\n\n" ++ static ++ "\n" ++
        (("__all__ = [\"REGISTRY\", " : Text) ++ Text.quoted root), ?_⟩
    simp only [moduleText, bracket, List.append_assoc]
  have trimmed : Text.trimRight (before ++ [CodePoint.char ']']) =
      before ++ [CodePoint.char ']'] := by
    have solid : (CodePoint.char ']').isBlank = false := rfl
    simp [Text.trimRight, trimEnd, solid]
  rw [closed, form, trimmed]

/-- The second comment of the module behind its number sign. -/
def countComment (count : Nat) : Text :=
  (" Generated by hashstamp from " : Text) ++ Text.ofNat count ++ " members; do not edit."

theorem module_chars (root : Text) (count : Nat) (cs : List ContainerView) :
    (pages root count cs).module.chars =
      '#' :: (" <auto-generated/>".toList ++ '\n' :: '#' :: ((countComment count).chars ++ '\n' ::
        ((line 0 "from hashstamp.registry import Registry").chars ++ '\n' ::
          ((line 0 (("REGISTRY = Registry.from_mapping(" : Text) ++ openBrace)).chars ++
            (cs.flatMap (fun c => (containerStamps c).chars) ++ '\x7d' :: ')' :: '\n' :: '\n' ::
              ((staticText root cs).chars ++ '\n' :: (("__all__ = [\"REGISTRY\", " : String).toList ++
                ((Text.quoted root).chars ++ [']', '\n'])))))))) := by
  have auto : ("# <auto-generated/>" : String).toList = '#' :: " <auto-generated/>".toList := by
    decide
  have generated : ("# Generated by hashstamp from " : String).toList =
      '#' :: " Generated by hashstamp from ".toList := by
    decide
  have one : ("\n" : String).toList = ['\n'] := rfl
  have two : ("\n\n" : String).toList = ['\n', '\n'] := rfl
  have bracket : ("]" : String).toList = [']'] := rfl
  have paren : (")" : String).toList = [')'] := rfl
  simp only [pages, closed_module]
  simp only [moduleText, runtimeText, Text.chars_append, line_chars,
    Text.chars_ofString, auto, generated, one, two, bracket, paren, Text.chars_flatMap,
    closeBrace, Text.chars_cons_char, Text.chars_nil, countComment, List.append_assoc,
    List.cons_append, List.nil_append, List.replicate_zero]

theorem digits_no_feed (count : Nat) : '\n' ∉ Nat.toDigits 10 count := by
  intro member
  have digit := Nat.isDigit_of_mem_toDigits (by decide) (by decide) member
  revert digit
  decide

theorem goes_module {root : Text} (named_root : IsName root) (count : Nat) {cs : List ContainerView}
    (named : ∀ c ∈ cs, c.IsNamed) :
    Goes ⟨true, nested 0, [], (pages root count cs).module.chars⟩ (moduleLexemes root cs)
      ⟨true, nested 0, [], []⟩ := by
  have auto : '\n' ∉ " <auto-generated/>".toList := by decide
  have generated : '\n' ∉ (countComment count).chars := by
    have digits : (Text.ofNat count).chars = Nat.toDigits 10 count := Text.chars_ofChars _
    have words : '\n' ∉ " Generated by hashstamp from ".toList ∧
        '\n' ∉ " members; do not edit.".toList := by decide
    simp only [countComment, Text.chars_append, Text.chars_ofString, digits, List.mem_append]
    rintro ((member | member) | member)
    · exact words.1 member
    · exact digits_no_feed count member
    · exact words.2 member
  rw [module_chars]
  refine .skip (goes_comment_line auto) (.skip (goes_comment_line generated) ?_)
  simp only [moduleLexemes, List.append_assoc]
  refine .trans goes_import (.skip goes_empty_line ?_)
  refine .trans (goes_registry cs) (.skip goes_empty_line ?_)
  refine .trans (goes_root named_root named) (.skip goes_empty_line ?_)
  exact goes_exports root cs

/-- The tokens of a source that the lexer goes through up to its end. -/
theorem tokens_of_goes {source : List Char} {ls : List Lexeme} (carriage : '\r' ∉ source)
    (ends : source.getLast? = some '\n')
    (h : Goes ⟨true, nested 0, [], source⟩ ls ⟨true, nested 0, [], []⟩) :
    ∃ ts, Lexer.tokens source = some ts ∧ ts.map Token.lexeme = ls ∧
      ls.length ≤ 2 * source.length + 1 := by
  have unified : Lines.unify source = source := Lines.unify_eq_self carriage
  have closed_line : closeLastLine source = source := by
    simp [closeLastLine, ends]
  obtain ⟨fuel, pos, ts, enough, lexemes, same⟩ := h.2 (2 * source.length + 2) ⟨1, 0⟩ [] (by
    simp [Config.load])
  have bound := h.1
  simp only [Config.size, Config.load, nested, List.length_cons, List.length_nil] at bound
  refine ⟨ts, ?_, lexemes, by simp at bound; omega⟩
  obtain ⟨n, rfl⟩ : ∃ n, fuel = n + 1 := ⟨fuel - 1, by omega⟩
  simp only [Config.state, nested] at same
  rw [tokens, unified, closed_line]
  simp only [same]
  rw [run]
  simp [indentation]

end BodyDigest.Emit
