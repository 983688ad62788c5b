import BodyDigest.Braced.Token

/-! Tokens grouped by their brackets. -/
namespace BodyDigest.Braced

inductive Tree where
  | leaf (t : Token)
  | group (opening : Token) (inside : List Tree) (closing : Token)

namespace Tree

mutual

def tokens : Tree → List Token
  | .leaf t => [t]
  | .group opening inside closing => opening :: (tokensOf inside ++ [closing])

def tokensOf : List Tree → List Token
  | [] => []
  | t :: rest => t.tokens ++ tokensOf rest

end

def first : Tree → Token
  | .leaf t | .group t _ _ => t

/-- The source text of neighbouring trees. -/
def textOf (ts : List Tree) : Text := Token.textOf (tokensOf ts)

/-- The line on which trees start. -/
def lineOf : List Tree → Nat
  | [] => 0
  | t :: _ => t.first.line

/-! ### Grouping -/

def opens (t : Token) : Bool :=
  t.kind = .sign && (t.text = ("(" : Text) || t.text = ("[" : Text) || t.text = ("\x7b" : Text))

def closes (t : Token) : Bool :=
  t.kind = .sign && (t.text = (")" : Text) || t.text = ("]" : Text) || t.text = ("\x7d" : Text))

/-- A group that was opened, and the trees before it, latest first. -/
structure Open where
  before : List Tree
  opening : Token

/-- Trees without the groups that nothing closes; all lists have their latest tree first. -/
def unclosed (done : List Tree) : List Open → List Tree
  | [] => done
  | o :: outer => unclosed (done ++ .leaf o.opening :: o.before) outer

/-- Groups tokens behind the trees in `done`, latest first; what closes nothing is a leaf. -/
def assemble (outer : List Open) (done : List Tree) : List Token → List Tree
  | [] => (unclosed done outer).reverse
  | t :: rest =>
    if opens t then assemble (⟨done, t⟩ :: outer) [] rest
    else
      match closes t, outer with
      | true, o :: others => assemble others (.group o.opening done.reverse t :: o.before) rest
      | _, _ => assemble outer (.leaf t :: done) rest

end Tree

def Tree.ofTokens (ts : List Token) : List Tree := Tree.assemble [] [] ts

namespace Tree

/-! ### Looking at trees -/

/-- The text of a word. -/
def word? : Tree → Option Text
  | .leaf t => if t.kind = .word then some t.text else none
  | .group _ _ _ => none

def isName (t : Tree) : Bool := t.word?.isSome

def isWord (w : Text) (t : Tree) : Bool := t.word? = some w

def isOneOf (ws : List Text) (t : Tree) : Bool := t.word?.any ws.contains

def isSign (s : Text) : Tree → Bool
  | .leaf t => t.kind = .sign && t.text = s
  | .group _ _ _ => false

def isGroup (bracket : Text) : Tree → Bool
  | .leaf _ => false
  | .group t _ _ => t.text = bracket

def isParens (t : Tree) : Bool := t.isGroup "("

def isSquare (t : Tree) : Bool := t.isGroup "["

def isBlock (t : Tree) : Bool := t.isGroup "\x7b"

def inside : Tree → List Tree
  | .leaf _ => []
  | .group _ ts _ => ts

/-- The trees before `rest`, which ends `ts`. -/
def before (ts rest : List Tree) : List Tree := ts.take (ts.length - rest.length)

/-- What follows the first tree with `p`. -/
def behind (p : Tree → Bool) (ts : List Tree) : List Tree := (ts.dropWhile (!p ·)).drop 1

/-- What follows the angle bracket that closes the innermost of `depth` open ones. -/
def angled? : Nat → List Tree → Option (List Tree)
  | _, [] => none
  | depth, t :: rest =>
    if t.isSign "<" then angled? (depth + 1) rest
    else if t.isSign ">" then if depth ≤ 1 then some rest else angled? (depth - 1) rest
    else angled? depth rest

end Tree

end BodyDigest.Braced
