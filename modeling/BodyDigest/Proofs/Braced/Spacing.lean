import Mathlib.Tactic.SplitIfs
import BodyDigest.Braced.Tree

/-!
Token lists that differ in what stands between their tokens. A list of bare tokens, which are numbered,
stands for all of them: a spacing says what stands before each token and on which line it is. Grouping by
brackets, and whatever else looks at kinds and texts only, does not see it.
-/
namespace BodyDigest.Braced

/-- What stands before each token of a list, and its line. -/
structure Spacing where
  lead : Nat → List Trivia
  line : Nat → Nat

namespace Spacing

variable (m : Spacing)

/-- A token whose line is its number, where it stands in a source. -/
def token (t : Token) : Token := ⟨m.lead t.line, t.kind, t.text, m.line t.line⟩

mutual

def tree : Tree → Tree
  | .leaf t => .leaf (m.token t)
  | .group opening inside closing => .group (m.token opening) (trees inside) (m.token closing)

def trees : List Tree → List Tree
  | [] => []
  | t :: rest => tree t :: trees rest

end

@[simp] theorem token_text (t : Token) : (m.token t).text = t.text := rfl

@[simp] theorem trees_nil : m.trees [] = [] := rfl

@[simp] theorem trees_cons (t : Tree) (ts : List Tree) : m.trees (t :: ts) = m.tree t :: m.trees ts := rfl

theorem trees_eq_map (ts : List Tree) : m.trees ts = ts.map m.tree := by
  induction ts with
  | nil => rfl
  | cons t rest ih => rw [trees_cons, ih, List.map_cons]

@[simp] theorem trees_append (ts us : List Tree) : m.trees (ts ++ us) = m.trees ts ++ m.trees us := by
  simp [trees_eq_map]

@[simp] theorem trees_length (ts : List Tree) : (m.trees ts).length = ts.length := by
  simp [trees_eq_map]

@[simp] theorem trees_reverse (ts : List Tree) : (m.trees ts).reverse = m.trees ts.reverse := by
  simp [trees_eq_map]

@[simp] theorem trees_drop (n : Nat) (ts : List Tree) : (m.trees ts).drop n = m.trees (ts.drop n) := by
  simp [trees_eq_map]

@[simp] theorem trees_tail (ts : List Tree) : (m.trees ts).tail = m.trees ts.tail := by
  simp [trees_eq_map]

@[simp] theorem trees_isEmpty (ts : List Tree) : (m.trees ts).isEmpty = ts.isEmpty := by
  cases ts <;> rfl

/-! ### Looking at trees -/

@[simp] theorem inside_tree (t : Tree) : (m.tree t).inside = m.trees t.inside := by
  cases t <;> rfl

@[simp] theorem word?_tree (t : Tree) : (m.tree t).word? = t.word? := by
  cases t <;> rfl

@[simp] theorem isSign_tree (s : Text) (t : Tree) : (m.tree t).isSign s = t.isSign s := by
  cases t <;> rfl

@[simp] theorem isGroup_tree (s : Text) (t : Tree) : (m.tree t).isGroup s = t.isGroup s := by
  cases t <;> rfl

@[simp] theorem isName_tree (t : Tree) : (m.tree t).isName = t.isName := by simp [Tree.isName]

@[simp] theorem isWord_tree (w : Text) (t : Tree) : (m.tree t).isWord w = t.isWord w := by
  simp [Tree.isWord]

@[simp] theorem isOneOf_tree (ws : List Text) (t : Tree) : (m.tree t).isOneOf ws = t.isOneOf ws := by
  simp [Tree.isOneOf]

@[simp] theorem isParens_tree (t : Tree) : (m.tree t).isParens = t.isParens := by simp [Tree.isParens]

@[simp] theorem isSquare_tree (t : Tree) : (m.tree t).isSquare = t.isSquare := by simp [Tree.isSquare]

@[simp] theorem isBlock_tree (t : Tree) : (m.tree t).isBlock = t.isBlock := by simp [Tree.isBlock]

@[simp] theorem head?_any (p : Tree → Bool) (blind : ∀ t, p (m.tree t) = p t) (ts : List Tree) :
    (m.trees ts).head?.any p = ts.head?.any p := by
  cases ts <;> simp [blind]

@[simp] theorem any_trees (p : Tree → Bool) (blind : ∀ t, p (m.tree t) = p t) (ts : List Tree) :
    (m.trees ts).any p = ts.any p := by
  induction ts with
  | nil => rfl
  | cons t rest ih => simp [blind, ih]

@[simp] theorem dropWhile_trees (p : Tree → Bool) (blind : ∀ t, p (m.tree t) = p t) (ts : List Tree) :
    (m.trees ts).dropWhile p = m.trees (ts.dropWhile p) := by
  induction ts with
  | nil => rfl
  | cons t rest ih =>
    rw [trees_cons, List.dropWhile_cons, List.dropWhile_cons, blind, ih]
    cases p t <;> rfl

@[simp] theorem takeWhile_trees (p : Tree → Bool) (blind : ∀ t, p (m.tree t) = p t) (ts : List Tree) :
    (m.trees ts).takeWhile p = m.trees (ts.takeWhile p) := by
  induction ts with
  | nil => rfl
  | cons t rest ih =>
    rw [trees_cons, List.takeWhile_cons, List.takeWhile_cons, blind, ih]
    cases p t <;> rfl

@[simp] theorem behind_trees (p : Tree → Bool) (blind : ∀ t, p (m.tree t) = p t) (ts : List Tree) :
    Tree.behind p (m.trees ts) = m.trees (Tree.behind p ts) := by
  rw [Tree.behind, Tree.behind, dropWhile_trees m _ (fun t => by rw [blind]), trees_drop]

@[simp] theorem before_trees (ts rest : List Tree) :
    Tree.before (m.trees ts) (m.trees rest) = m.trees (Tree.before ts rest) := by
  simp [Tree.before, trees_eq_map]

@[simp] theorem angled?_trees (depth : Nat) (ts : List Tree) :
    Tree.angled? depth (m.trees ts) = (Tree.angled? depth ts).map m.trees := by
  induction ts generalizing depth with
  | nil => simp [Tree.angled?]
  | cons t rest ih =>
    simp only [trees_cons, Tree.angled?, isSign_tree, ih]
    split_ifs <;> rfl

/-- A choice that does not look at the spacing, taken between lists that have it. -/
theorem ite_trees {c : Prop} [Decidable c] {ts us spaced spaced' : List Tree} (first : spaced = m.trees ts)
    (second : spaced' = m.trees us) :
    (if c then spaced else spaced') = m.trees (if c then ts else us) := by
  rw [first, second, apply_ite m.trees]

/-! ### Grouping -/

theorem unclosed_trees (done : List Tree) (outer : List Tree.Open) :
    Tree.unclosed (m.trees done) (outer.map fun o => ⟨m.trees o.before, m.token o.opening⟩) =
      m.trees (Tree.unclosed done outer) := by
  induction outer generalizing done with
  | nil => rfl
  | cons o outer ih =>
    rw [List.map_cons, Tree.unclosed, Tree.unclosed, ← ih]
    simp [tree]

theorem assemble_trees (outer : List Tree.Open) (done : List Tree) (ts : List Token) :
    Tree.assemble (outer.map fun o => ⟨m.trees o.before, m.token o.opening⟩) (m.trees done)
        (ts.map m.token) = m.trees (Tree.assemble outer done ts) := by
  induction ts generalizing outer done with
  | nil => simp [Tree.assemble, unclosed_trees]
  | cons t rest ih =>
    have opens : Tree.opens (m.token t) = Tree.opens t := rfl
    have closes : Tree.closes (m.token t) = Tree.closes t := rfl
    simp only [List.map_cons, Tree.assemble, opens, closes]
    split_ifs
    · exact ih (⟨done, t⟩ :: outer) []
    · cases Tree.closes t with
      | false => exact ih outer (.leaf t :: done)
      | true =>
        cases outer with
        | nil => exact ih [] (.leaf t :: done)
        | cons o others =>
          rw [List.map_cons, ← ih others (.group o.opening done.reverse t :: o.before)]
          simp [tree]

theorem ofTokens_map (ts : List Token) : Tree.ofTokens (ts.map m.token) = m.trees (Tree.ofTokens ts) :=
  m.assemble_trees [] [] ts

end Spacing

/-! ### Tokens of trees -/

namespace Tree

theorem tokensOf_append (ts us : List Tree) : tokensOf (ts ++ us) = tokensOf ts ++ tokensOf us := by
  induction ts with
  | nil => rfl
  | cons t rest ih => simp [tokensOf, ih]

end Tree

namespace Spacing

variable (m : Spacing)

mutual

theorem tokens_tree : (t : Tree) → (m.tree t).tokens = t.tokens.map m.token
  | .leaf t => rfl
  | .group opening inside closing => by
    rw [tree, Tree.tokens, Tree.tokens, tokensOf_trees inside]
    simp

theorem tokensOf_trees : (ts : List Tree) → Tree.tokensOf (m.trees ts) = (Tree.tokensOf ts).map m.token
  | [] => rfl
  | t :: rest => by
    rw [trees, Tree.tokensOf, Tree.tokensOf, tokens_tree t, tokensOf_trees rest, List.map_append]

end

/-- The text of tokens in a source. -/
def text (ts : List Token) : Text := Token.textOf (ts.map m.token)

theorem textOf_trees (ts : List Tree) : Tree.textOf (m.trees ts) = m.text (Tree.tokensOf ts) := by
  rw [Tree.textOf, tokensOf_trees, text]

end Spacing

/-! ### Grouping keeps all tokens -/

namespace Tree

/-- The tokens in front of the innermost open group. -/
def tokensBefore : List Open → List Token
  | [] => []
  | o :: outer => tokensBefore outer ++ tokensOf o.before.reverse ++ [o.opening]

theorem tokensOf_unclosed (done : List Tree) (outer : List Open) :
    tokensOf (unclosed done outer).reverse = tokensBefore outer ++ tokensOf done.reverse := by
  induction outer generalizing done with
  | nil => rfl
  | cons o outer ih =>
    rw [unclosed, ih, tokensBefore]
    simp [tokensOf_append, tokensOf, tokens]

theorem tokensOf_assemble (outer : List Open) (done : List Tree) (ts : List Token) :
    tokensOf (assemble outer done ts) = tokensBefore outer ++ tokensOf done.reverse ++ ts := by
  induction ts generalizing outer done with
  | nil => rw [assemble, tokensOf_unclosed, List.append_nil]
  | cons t rest ih =>
    unfold assemble
    split_ifs
    · rw [ih]
      simp [tokensBefore, tokensOf]
    · split
      · rw [ih]
        simp [tokensBefore, tokensOf_append, tokensOf, tokens]
      · rw [ih]
        simp [tokensOf_append, tokensOf, tokens]

theorem tokensOf_ofTokens (ts : List Token) : tokensOf (ofTokens ts) = ts := by
  rw [ofTokens, tokensOf_assemble]
  rfl

/-! ### What is left to read -/

attribute [grind →] List.IsSuffix.trans

attribute [grind .] List.suffix_refl

attribute [grind! .] List.suffix_cons List.dropWhile_suffix List.drop_suffix List.tail_suffix

variable {t : Tree} {ts us rest : List Tree}

@[grind →]
theorem suffix_tail (h : t :: rest <:+ us) : rest <:+ us.tail := by
  obtain ⟨front, rfl⟩ := h
  cases front with
  | nil => exact List.suffix_refl rest
  | cons u front => exact ⟨front ++ [t], by simp⟩

theorem tail_suffix_tail (h : us <:+ ts) : us.tail <:+ ts.tail := by
  cases us with
  | nil => exact List.nil_suffix
  | cons t rest => exact suffix_tail h

theorem dropWhile_suffix_tail {p : Tree → Bool} (h : ts.dropWhile p = t :: rest) :
    rest <:+ ts.tail := by
  have whole := List.dropWhile_suffix p (l := ts)
  rw [h] at whole
  exact suffix_tail whole

@[grind! .]
theorem behind_suffix (p : Tree → Bool) (ts : List Tree) : behind p ts <:+ ts :=
  (List.drop_suffix 1 _).trans (List.dropWhile_suffix _)

theorem behind_suffix_tail (p : Tree → Bool) (ts : List Tree) : behind p ts <:+ ts.tail := by
  cases ts with
  | nil => exact List.suffix_refl []
  | cons t rest =>
    rw [behind, List.dropWhile_cons]
    split <;> grind

@[grind →]
theorem angled?_suffix {depth : Nat} (h : angled? depth ts = some rest) : rest <:+ ts := by
  fun_induction angled? depth ts <;> grind

theorem ite_suffix {c : Prop} [Decidable c] (first : ts <:+ rest) (second : us <:+ rest) :
    (if c then ts else us) <:+ rest := by
  split
  · exact first
  · exact second

theorem tokensOf_suffix (h : us <:+ ts) : tokensOf us <:+ tokensOf ts := by
  obtain ⟨front, rfl⟩ := h
  exact ⟨tokensOf front, (tokensOf_append front us).symm⟩

theorem first_mem_tokens (t : Tree) : t.first ∈ t.tokens := by
  cases t <;> simp [first, tokens]

theorem inside_infix (member : t ∈ ts) : tokensOf t.inside <:+: tokensOf ts := by
  obtain ⟨front, behind, rfl⟩ := List.append_of_mem member
  cases t with
  | leaf t => exact List.nil_infix
  | group opening inside closing =>
    refine ⟨tokensOf front ++ [opening], closing :: tokensOf behind, ?_⟩
    simp [tokensOf_append, tokensOf, tokens, Tree.inside]

theorem nothing_within (some_tree : ts ≠ []) : ∃ t ∈ ts, [] <:+ t.inside := by
  obtain ⟨t, rest, rfl⟩ := List.exists_cons_of_ne_nil some_tree
  exact ⟨t, List.mem_cons_self .., List.nil_suffix⟩

/-- How many tokens there are to read. -/
def weight (ts : List Tree) : Nat := (tokensOf ts).length

theorem weight_of_suffix (h : us <:+ ts) : weight us ≤ weight ts := (tokensOf_suffix h).length_le

theorem weight_of_tail (some_tree : ts ≠ []) (h : us <:+ ts.tail) : weight us < weight ts := by
  cases ts with
  | nil => exact absurd rfl some_tree
  | cons t rest =>
    have first := List.length_pos_of_mem (first_mem_tokens t)
    have later := weight_of_suffix h
    simp only [weight, tokensOf, List.length_append, List.tail_cons] at later ⊢
    omega

theorem weight_inside (member : t ∈ ts) : weight t.inside < weight ts := by
  have whole : weight t.inside < t.tokens.length := by
    cases t with
    | leaf t => exact Nat.zero_lt_one
    | group opening inside closing =>
      simp only [weight, Tree.inside, tokens, List.length_cons, List.length_append]
      omega
  obtain ⟨front, behind, rfl⟩ := List.append_of_mem member
  simp only [weight, tokensOf, tokensOf_append, List.length_append] at whole ⊢
  omega

end Tree

/-! ### Tokens of a source -/

namespace Token

/-- Tokens without what stands before them, each with its number as its line. -/
def bare (ts : List Token) : List Token := ts.zipIdx.map fun t => ⟨[], t.1.kind, t.1.text, t.2⟩

end Token

/-- What stands before the tokens of a source. -/
def Spacing.ofTokens (ts : List Token) : Spacing where
  lead i := (ts[i]?.map (·.lead)).getD []
  line i := (ts[i]?.map (·.line)).getD 0

theorem Spacing.bare_map (ts : List Token) : (Token.bare ts).map (Spacing.ofTokens ts).token = ts := by
  refine List.ext_getElem (by simp [Token.bare]) fun i _ inside => ?_
  simp [Token.bare, Spacing.token, Spacing.ofTokens, List.getElem?_eq_getElem inside]

theorem Token.exists_of_mem_bare {ts : List Token} {t : Token} (h : t ∈ bare ts) :
    ∃ u ∈ ts, t.kind = u.kind ∧ t.text = u.text := by
  obtain ⟨⟨u, i⟩, member, rfl⟩ := List.mem_map.mp h
  exact ⟨u, List.mem_of_getElem? (List.mem_zipIdx_iff_getElem?.mp member), rfl, rfl⟩

theorem Token.bare_congr {ts us : List Token}
    (same : ts.map (fun t => (t.kind, t.text)) = us.map fun t => (t.kind, t.text)) : bare ts = bare us := by
  have shown (vs : List Token) : bare vs =
      (vs.map fun t => (t.kind, t.text)).zipIdx.map fun t => ⟨[], t.1.1, t.1.2, t.2⟩ := by
    simp [bare, List.zipIdx_map, Function.comp_def]
  rw [shown, shown, same]

end BodyDigest.Braced
