import BodyDigest.Files.Glob
import BodyDigest.Files.Path

/-!
Rules that hide paths. Of the rules that match a path the last one decides: it hides the path, or
shows it again when it is negated.
-/
namespace BodyDigest

structure IgnoreRule where
  pattern : Text
  directoryOnly : Bool
  anchored : Bool
  negated : Bool
  deriving DecidableEq

namespace IgnoreRule

def hasSlash (r : IgnoreRule) : Bool := r.pattern.contains Path.slash

/-- The rule of a pattern that is not blank. A slash behind it restricts it to directories, one
before it ties it to the root. -/
def ofText (negated : Bool) (t : Text) : Option IgnoreRule :=
  let t := t.trim
  if t.isEmpty then none
  else
    let directoryOnly := t.getLast? = some Path.slash
    let t := if directoryOnly then t.dropLast else t
    let anchored := t.head? = some Path.slash
    some ⟨if anchored then t.tail else t, directoryOnly, anchored, negated⟩

/-- Whether the rule speaks of a path: of all of it when the pattern is anchored or holds a slash,
otherwise of one of its parts. -/
def accepts (r : IgnoreRule) (path : Text) (isDirectory : Bool) : Bool :=
  if r.pattern.isEmpty || (r.directoryOnly && !isDirectory) then false
  else if r.anchored || r.hasSlash then
    Glob.accepts (Glob.ofText r.pattern) path
      || (r.directoryOnly && (r.pattern ++ [Path.slash]).isPrefixOf path)
  else (pieces (· = Path.slash) path).any (Glob.accepts (Glob.ofText r.pattern))

def isLineEnd (c : CodePoint) : Bool :=
  (10 ≤ c.val && c.val ≤ 13) || (0x1c ≤ c.val && c.val ≤ 0x1e) || c.val = 0x85 || c.val = 0x2028
    || c.val = 0x2029

/-- The rule of a line, if it is neither blank nor a comment. -/
def ofLine (line : Text) : Option IgnoreRule :=
  match line.trim with
  | [] => none
  | c :: rest =>
    if c = .char '#' then none
    else if c = .char '!' then ofText true rest
    else ofText false (c :: rest)

/-- The rules of a text, line by line. -/
def ofLines (t : Text) : List IgnoreRule := (pieces isLineEnd t).filterMap ofLine

/-- Whether the last rule that speaks of a path hides it. -/
def hides (rules : List IgnoreRule) (path : Text) (isDirectory : Bool) : Bool :=
  rules.foldl (fun hidden r => if r.accepts path isDirectory then !r.negated else hidden) false

end IgnoreRule

end BodyDigest
