import BodyDigest.Proofs.Attribution
import BodyDigest.Proofs.Project.Unreadable
import BodyDigest.Proofs.Text.Identifiers
import BodyDigest.Proofs.Text.Pieces

/-!
The names under which the modules below a root are imported: the parts of the path, without the
directory of sources in front and without the name of a package's own file. A module outside of both
is named by its whole path, whatever the root is called, and shares its name with no other.
-/
namespace BodyDigest

namespace Path

/-- A file name is cut at its last point. -/
theorem cutSuffix_append {stem behind : Text} (named : stem ≠ []) (some_text : behind ≠ [])
    (clear : point ∉ behind) : cutSuffix (stem ++ point :: behind) = (stem, point :: behind) := by
  have plain : ∀ c ∈ behind.reverse, decide (c ≠ point) = true := by
    intro c member
    exact decide_eq_true fun same => clear (same ▸ List.mem_reverse.mp member)
  have back : (stem ++ point :: behind).reverse.takeWhile (· ≠ point) = behind.reverse := by
    rw [List.reverse_append, List.reverse_cons, List.append_assoc,
      List.takeWhile_append_of_pos plain, List.singleton_append, List.takeWhile_cons_of_neg (by simp),
      List.append_nil]
  have front : (stem ++ point :: behind).length - behind.length - 1 = stem.length := by
    simp only [List.length_append, List.length_cons]
    omega
  simp only [cutSuffix, back, List.reverse_reverse, front, List.take_left]
  simp [named, some_text]

end Path

namespace Indented

open BodyDigest.Path (point)

/-! ### Names with points -/

/-- The parts with points between them, if all are identifiers. -/
def dotted (parts : List Text) : Option Text :=
  if ∀ part ∈ parts, part.isIdentifier then some (Text.join [point] parts) else none

variable {parts others : List Text} {name : Text}

theorem point_notMem_identifier {t : Text} (ident : t.isIdentifier) : point ∉ t := by
  intro member
  have part := (Text.isIdentifier_iff.mp ident).2 point member
  exact absurd part (by decide)

theorem dotted_eq_some_iff :
    dotted parts = some name ↔ (∀ part ∈ parts, part.isIdentifier) ∧ Text.join [point] parts = name := by
  unfold dotted
  split
  · rename_i identifiers
    exact ⟨fun same => ⟨identifiers, Option.some.inj same⟩, fun h => congrArg some h.2⟩
  · rename_i other
    exact ⟨fun same => absurd same (by simp), fun h => absurd h.1 other⟩

/-- The parts are those between the points of the name. -/
theorem pieces_of_dotted (some_parts : parts ≠ []) (h : dotted parts = some name) :
    pieces (· = point) name = parts := by
  obtain ⟨identifiers, rfl⟩ := dotted_eq_some_iff.mp h
  exact pieces_join some_parts fun part member => point_notMem_identifier (identifiers part member)

theorem dotted_injective (left : parts ≠ []) (right : others ≠ []) (h : dotted parts = some name)
    (same : dotted others = some name) : parts = others := by
  rw [← pieces_of_dotted left h, pieces_of_dotted right same]

/-! ### Files of modules -/

variable {root : Path} {dirs : List Text} {stem : Text}

/-- The parts of the path from a root to a module, which stands in the directory that `dirs` lead to. -/
def filePath (dirs : List Text) (stem : Text) : List Text := dirs ++ [stem ++ ".py"]

/-- What a module is imported by: the directories, without one for sources in front, and the name of
the file unless it is a package's own; the root's name where nothing is left. -/
def importedParts (root : Path) (dirs : List Text) (stem : Text) : List Text :=
  let dirs := if dirs.head? = some ("src" : Text) then dirs.tail else dirs
  let parts := if stem = ("__init__" : Text) then dirs else dirs ++ [stem]
  if parts = [] then [root.name] else parts

/-- A module right below the root that is called as the directory of sources is taken for it. -/
def nameParts (root : Path) (dirs : List Text) (stem : Text) : List Text :=
  if dirs = [] ∧ stem = ("src" : Text) then [root.name] else importedParts root dirs stem

theorem importedParts_ne_nil : importedParts root dirs stem ≠ [] := by
  have filled (parts : List Text) : (if parts = [] then [root.name] else parts) ≠ [] := by
    split
    · simp
    · rename_i some_parts
      exact some_parts
  exact filled _

theorem nameParts_ne_nil : nameParts root dirs stem ≠ [] := by
  unfold nameParts
  split
  · simp
  · exact importedParts_ne_nil

theorem packageParts_concat (root : Path) (dirs : List Text) (stem : Text) :
    (if (packageParts (dirs ++ [stem])).isEmpty then [root.name] else packageParts (dirs ++ [stem])) =
      nameParts root dirs stem := by
  -- A module right below the root has only one part, which both rules look at.
  cases dirs with
  | nil =>
    by_cases alone : stem = ("src" : Text)
    · simp [packageParts, nameParts, alone]
    · simp [packageParts, nameParts, importedParts, alone]
  | cons d rest =>
    have sources : (if (d :: rest ++ [stem]).head? = some ("src" : Text)
          then (d :: rest ++ [stem]).tail else d :: rest ++ [stem]) =
        (if (d :: rest).head? = some ("src" : Text) then (d :: rest).tail else d :: rest) ++ [stem] := by
      rw [List.cons_append, List.head?_cons, List.head?_cons, List.tail_cons, List.tail_cons]
      split <;> rfl
    have further : ¬ (d :: rest = [] ∧ stem = ("src" : Text)) := by simp
    rw [nameParts, if_neg further]
    simp only [packageParts, importedParts, sources, List.getLast?_concat, List.dropLast_concat,
      Option.some.injEq, List.isEmpty_iff]

theorem moduleName_of_stem {last : Text} (h : stemParts (filePath dirs stem) = .ok (dirs ++ [last])) :
    moduleName root (Command.below root (filePath dirs stem)) = .ok (dotted (nameParts root dirs last)) := by
  rw [moduleName, Command.relativeTo_below]
  simp only [bind, Except.bind, h, packageParts_concat, dotted, List.all_eq_true]
  rfl

theorem dotted_nameParts_of_not (bad : ¬ stem.isIdentifier) : dotted (nameParts root dirs stem) = none := by
  have not_sources : ¬ (dirs = [] ∧ stem = ("src" : Text)) := by
    rintro ⟨-, rfl⟩
    exact bad (by decide)
  have not_own : stem ≠ ("__init__" : Text) := by
    rintro rfl
    exact bad (by decide)
  have member : stem ∈ nameParts root dirs stem := by
    rw [nameParts, if_neg not_sources, importedParts, if_neg not_own, if_neg (by simp)]
    simp
  exact if_neg fun identifiers => bad (identifiers stem member)

theorem moduleName_filePath (root : Path) (dirs : List Text) (stem : Text) :
    moduleName root (Command.below root (filePath dirs stem)) = .ok (dotted (nameParts root dirs stem)) := by
  by_cases named : stem = []
  · -- A name that begins with its last point is not cut, and is no identifier either way.
    subst named
    have whole : stemParts (filePath dirs []) = .ok (dirs ++ [(".py" : Text)]) := by
      rw [stemParts, filePath, List.getLast?_concat, List.dropLast_concat]
      rfl
    rw [moduleName_of_stem whole, dotted_nameParts_of_not (by decide), dotted_nameParts_of_not (by decide)]
  · apply moduleName_of_stem
    have suffix : (".py" : Text) = point :: "py" := rfl
    have cut : (Path.cutSuffix (stem ++ ".py")).1 = stem := by
      rw [suffix, Path.cutSuffix_append named (by decide) (by decide)]
    rw [stemParts, filePath, List.getLast?_concat, List.dropLast_concat]
    simp only [cut]

/-! ### What the names tell -/

/-- A module that is not in the directory of sources, does not have its name, and is not a package's
own file. -/
structure IsPlain (dirs : List Text) (stem : Text) : Prop where
  outside : (dirs ++ [stem]).head? ≠ some ("src" : Text)
  member : stem ≠ ("__init__" : Text)

theorem nameParts_of_isPlain (plain : IsPlain dirs stem) : nameParts root dirs stem = dirs ++ [stem] := by
  have not_sources : ¬ (dirs = [] ∧ stem = ("src" : Text)) := by
    rintro ⟨rfl, rfl⟩
    exact plain.outside rfl
  have outside : dirs.head? ≠ some ("src" : Text) := by
    cases dirs with
    | nil => simp
    | cons d rest => exact plain.outside
  rw [nameParts, if_neg not_sources, importedParts, if_neg plain.member, if_neg outside,
    if_neg (by simp)]

/-- Modules of one name have the same parts in it. -/
theorem same_parts {other : Path} {dirs' : List Text} {stem' : Text}
    (left : moduleName root (Command.below root (filePath dirs stem)) = .ok (some name))
    (right : moduleName other (Command.below other (filePath dirs' stem')) = .ok (some name)) :
    nameParts root dirs stem = nameParts other dirs' stem' := by
  rw [moduleName_filePath] at left right
  exact dotted_injective nameParts_ne_nil nameParts_ne_nil (Except.ok.inj left) (Except.ok.inj right)

/-- What is described of a module bears its name. -/
theorem scope_of_indentedMembers {t : Tree} {ignoreDocumentation : Bool} {ds : List Descriptor}
    {p : Path} (reported : Source.indentedMembers t root p ignoreDocumentation = .ok (some ds)) :
    ∃ scope, moduleName root p = .ok (some scope) ∧ ∀ d ∈ ds, d.scope = some scope := by
  rw [Source.indentedMembers] at reported
  obtain ⟨scope, module, reported⟩ := except_bind_ok_iff.mp reported
  rw [except_mapError_ok_iff] at module
  cases scope with
  | none => cases reported
  | some scope =>
    obtain ⟨cs, -, reported⟩ := except_bind_ok_iff.mp reported
    obtain ⟨parts, -, reported⟩ := except_bind_ok_iff.mp reported
    obtain ⟨_, members, ⟨⟩⟩ := except_bind_ok_iff.mp reported
    obtain ⟨_, -, members⟩ := except_bind_ok_iff.mp (except_mapError_ok_iff.mp members)
    obtain ⟨_, -, members⟩ := except_bind_ok_iff.mp members
    refine ⟨scope, module, fun d member => ?_⟩
    have each := mapM_eq_ok_iff.mp members
    obtain ⟨m, -, described⟩ := List.mem_map.mp (each ▸ List.mem_map_of_mem member)
    exact (describes_of_describe described).scope

/-- A module is named by the parts of its path, without the directory of sources in front and the name of
a package's own file behind, except that a module `src` right below the root gets the root's name.
Outside of these the name depends on the path below the root only, and tells it; and whatever is
described of a module bears its name. -/
theorem modules_are_named_by_path (root : Path) (dirs : List Text) (stem : Text) :
    (¬ (dirs = [] ∧ stem = ("src" : Text)) →
      moduleName root (Command.below root (filePath dirs stem)) =
        .ok (dotted (importedParts root dirs stem))) ∧
    (dirs = [] ∧ stem = ("src" : Text) →
      moduleName root (Command.below root (filePath dirs stem)) = .ok (dotted [root.name])) ∧
    (IsPlain dirs stem →
      moduleName root (Command.below root (filePath dirs stem)) = .ok (dotted (dirs ++ [stem])) ∧
      ∀ other dirs' stem' name, IsPlain dirs' stem' →
        moduleName root (Command.below root (filePath dirs stem)) = .ok (some name) →
        moduleName other (Command.below other (filePath dirs' stem')) = .ok (some name) →
        filePath dirs stem = filePath dirs' stem') ∧
    ∀ t ignoreDocumentation ds,
      Source.indentedMembers t root (Command.below root (filePath dirs stem)) ignoreDocumentation =
        .ok (some ds) →
      ∃ name, dotted (nameParts root dirs stem) = some name ∧ ∀ d ∈ ds, d.scope = some name := by
  refine ⟨fun further => ?_, fun alone => ?_, fun plain => ⟨?_, ?_⟩, ?_⟩
  · rw [moduleName_filePath, nameParts, if_neg further]
  · rw [moduleName_filePath, nameParts, if_pos alone]
  · rw [moduleName_filePath, nameParts_of_isPlain plain]
  · intro other dirs' stem' name plain' left right
    have parts := same_parts left right
    rw [nameParts_of_isPlain plain, nameParts_of_isPlain plain'] at parts
    obtain ⟨rfl, last⟩ := List.append_inj' parts rfl
    obtain rfl := List.singleton_inj.mp last
    rfl
  · intro t ignoreDocumentation ds reported
    obtain ⟨name, module, scopes⟩ := scope_of_indentedMembers reported
    rw [moduleName_filePath] at module
    exact ⟨name, Except.ok.inj module, scopes⟩

/-- A file `shop/cart.py` with one function, below the root `a`. -/
def cart : Tree :=
  let octets := Utf8.encode "def f(): return 1\n".toList
  .directory [("a", .directory [("shop", .directory [("cart.py", .file octets)])])]

theorem cart_is_named :
    (∃ ds, Source.indentedMembers cart ⟨.top, ["a"]⟩ ⟨.top, ["a", "shop", "cart.py"]⟩ false = .ok (some ds) ∧
      ds ≠ [] ∧ ∀ d ∈ ds, d.scope = some ("shop.cart" : Text)) ∧
    moduleName ⟨.top, ["b"]⟩ ⟨.top, ["b", "shop", "cart.py"]⟩ = .ok (some "shop.cart") ∧
    moduleName ⟨.top, ["shop"]⟩ ⟨.top, ["shop", "src", "__init__.py"]⟩ = .ok (some "shop") := by
  have computed : (Source.indentedMembers cart ⟨.top, ["a"]⟩ ⟨.top, ["a", "shop", "cart.py"]⟩ false).map
      (·.map List.length) = .ok (some 1) := by decide +kernel
  have name : dotted ["shop", "cart"] = some "shop.cart" := by decide +kernel
  have plain : IsPlain ["shop"] "cart" := ⟨by decide, by decide⟩
  refine ⟨?_, ?_, ?_⟩
  · cases reported : Source.indentedMembers cart ⟨.top, ["a"]⟩ ⟨.top, ["a", "shop", "cart.py"]⟩ false with
    | error e =>
      rw [reported] at computed
      cases computed
    | ok found =>
      cases found with
      | none =>
        rw [reported] at computed
        cases computed
      | some ds =>
        rw [reported] at computed
        obtain ⟨named, parts, scopes⟩ :=
          (modules_are_named_by_path ⟨.top, ["a"]⟩ ["shop"] "cart").2.2.2 cart false ds reported
        rw [nameParts_of_isPlain plain] at parts
        obtain rfl := Option.some.inj (name.symm.trans parts)
        have one : ds.length = 1 := Option.some.inj (Except.ok.inj computed)
        exact ⟨ds, rfl, List.length_pos_iff.mp (one ▸ Nat.one_pos), scopes⟩
  · have module := ((modules_are_named_by_path ⟨.top, ["b"]⟩ ["shop"] "cart").2.2.1 plain).1
    rw [List.singleton_append, name] at module
    exact module
  · have module := (modules_are_named_by_path ⟨.top, ["shop"]⟩ ["src"] "__init__").1 (by simp)
    have root_name : dotted (importedParts ⟨.top, ["shop"]⟩ ["src"] "__init__") = some "shop" := by
      decide +kernel
    rw [root_name] at module
    exact module

/-- A module `src` right below the root takes the name of another one, which is called as the root. -/
theorem module_src_loses_name :
    dotted (importedParts ⟨.top, ["a"]⟩ [] "src") = some "src" ∧
    moduleName ⟨.top, ["a"]⟩ ⟨.top, ["a", "src.py"]⟩ = .ok (some "a") ∧
    moduleName ⟨.top, ["a"]⟩ ⟨.top, ["a", "a.py"]⟩ = .ok (some "a") := by
  decide +kernel

end Indented
end BodyDigest
