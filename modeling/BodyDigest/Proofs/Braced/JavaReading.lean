import BodyDigest.Braced.Java
import BodyDigest.Proofs.Braced.Spacing

/-!
How far each part of a Java file reaches. Where one ends does not depend on the spacing, and what follows it
is an end of what it started with.
-/
namespace BodyDigest.Braced.Java

open BodyDigest.Braced.Tree

section Spacing

variable (m : Spacing)

/-! ### Annotations and modifiers -/

@[simp] theorem afterName_trees (n : Nat) (ts : List Tree) :
    afterName n (m.trees ts) = m.trees (afterName n ts) := by
  induction n generalizing ts with
  | zero => rfl
  | succ n ih =>
    rcases ts with _ | ⟨point, _ | ⟨w, rest⟩⟩
    · rfl
    · rfl
    · simp only [afterName, Spacing.trees_cons, Spacing.isSign_tree, Spacing.isName_tree, ih]
      exact m.ite_trees rfl rfl

@[simp] theorem afterAnnotation?_trees (ts : List Tree) :
    afterAnnotation? (m.trees ts) = (afterAnnotation? ts).map m.trees := by
  rcases ts with _ | ⟨sign, _ | ⟨name, rest⟩⟩
  · rfl
  · rfl
  · simp only [afterAnnotation?, Spacing.trees_cons, Spacing.isSign_tree, Spacing.isName_tree,
      Spacing.isWord_tree, Spacing.trees_length, afterName_trees]
    rcases afterName rest.length rest with _ | ⟨t, more⟩
    · split_ifs <;> rfl
    · simp only [Spacing.trees_cons, Spacing.isParens_tree]
      split_ifs <;> rfl

@[simp] theorem afterModifiers_trees (n : Nat) (ts : List Tree) :
    afterModifiers n (m.trees ts) = m.trees (afterModifiers n ts) := by
  induction n generalizing ts with
  | zero => rfl
  | succ n ih =>
    cases ts with
    | nil => rfl
    | cons t rest =>
      have annotation := afterAnnotation?_trees m (t :: rest)
      simp only [Spacing.trees_cons] at annotation
      simp only [afterModifiers, Spacing.trees_cons, annotation, Spacing.isOneOf_tree,
        Spacing.isWord_tree, ih]
      cases afterAnnotation? (t :: rest) with
      | some more => simp [ih]
      | none =>
        refine m.ite_trees rfl ?_
        cases t.isWord "non" with
        | false => rfl
        | true =>
          rcases rest with _ | ⟨dash, _ | ⟨w, more⟩⟩
          · rfl
          · rfl
          · simp only [Spacing.trees_cons, Spacing.isSign_tree, Spacing.isWord_tree, ih]
            exact m.ite_trees rfl rfl

@[simp] theorem withoutModifiers_trees (ts : List Tree) :
    withoutModifiers (m.trees ts) = m.trees (withoutModifiers ts) := by
  simp [withoutModifiers]

/-! ### Types -/

@[simp] theorem typeEnd_trees (n : Nat) (ts : List Tree) :
    typeEnd n (m.trees ts) = m.trees (typeEnd n ts) := by
  induction n generalizing ts with
  | zero => rfl
  | succ n ih =>
    cases ts with
    | nil => rfl
    | cons t rest =>
      have annotation := afterAnnotation?_trees m (t :: rest)
      simp only [Spacing.trees_cons] at annotation
      simp only [typeEnd, Spacing.trees_cons, annotation, Spacing.isSquare_tree, Spacing.isSign_tree,
        Spacing.angled?_trees, withoutModifiers_trees, ih]
      refine m.ite_trees rfl (m.ite_trees ?_ (m.ite_trees ?_ ?_))
      · cases angled? 1 rest <;> simp [ih]
      · rcases withoutModifiers rest with _ | ⟨w, more⟩
        · rfl
        · simp only [Spacing.trees_cons, Spacing.isName_tree, ih]
          exact m.ite_trees rfl rfl
      · cases afterAnnotation? (t :: rest) <;> simp [ih]

@[simp] theorem afterType?_trees (ts : List Tree) :
    afterType? (m.trees ts) = (afterType? ts).map m.trees := by
  fun_cases afterType? ts <;> simp_all [afterType?]

/-! ### Parameters -/

@[simp] theorem parameterRest_trees (ts : List Tree) :
    parameterRest (m.trees ts) = m.trees (parameterRest ts) := by
  simp [parameterRest, Option.getD_map]

/-! ### Statements -/

@[simp] theorem typeName?_trees (ts : List Tree) :
    typeName? (m.trees ts) = (typeName? ts).map m.tree := by
  rcases ts with _ | ⟨w, _ | ⟨name, rest⟩⟩
  · rfl
  · rfl
  · have next : (m.trees rest).head?.any (fun t => t.isParens || t.isSign "<") =
        rest.head?.any (fun t => t.isParens || t.isSign "<") := by simp
    simp only [typeName?, Spacing.trees_cons, Spacing.isOneOf_tree, Spacing.isName_tree,
      Spacing.isWord_tree, next]
    split_ifs <;> rfl

@[simp] theorem afterSemicolon_trees (ts : List Tree) :
    afterSemicolon (m.trees ts) = m.trees (afterSemicolon ts) := by
  simp [afterSemicolon]

@[simp] theorem afterHandlers_trees (n : Nat) (ts : List Tree) :
    afterHandlers n (m.trees ts) = m.trees (afterHandlers n ts) := by
  fun_induction afterHandlers n ts <;> simp_all [afterHandlers]

@[simp] theorem afterStatement_trees (n : Nat) (ts : List Tree) :
    afterStatement n (m.trees ts) = m.trees (afterStatement n ts) := by
  induction n generalizing ts with
  | zero => simp [afterStatement]
  | succ n ih =>
    cases ts with
    | nil => rfl
    | cons t rest =>
      have declares : (typeName? (withoutModifiers (m.tree t :: m.trees rest))).isSome =
          (typeName? (withoutModifiers (t :: rest))).isSome := by
        rw [← Spacing.trees_cons, withoutModifiers_trees, typeName?_trees, Option.isSome_map]
      have block := m.behind_trees isBlock m.isBlock_tree (t :: rest)
      have semicolon := afterSemicolon_trees m (t :: rest)
      simp only [Spacing.trees_cons] at block semicolon
      simp only [afterStatement, Spacing.trees_cons, Spacing.isBlock_tree, Spacing.isSign_tree,
        Spacing.isWord_tree, Spacing.isOneOf_tree, Spacing.isName_tree, Spacing.head?_any,
        Spacing.trees_drop, Spacing.trees_length, Spacing.behind_trees, afterSemicolon_trees,
        afterHandlers_trees, implies_true, ih, declares, block, semicolon]
      refine m.ite_trees rfl (m.ite_trees ?_ ?_)
      · rcases afterStatement n (rest.drop 1) with _ | ⟨e, more⟩
        · rfl
        · simp only [Spacing.trees_cons, Spacing.isWord_tree, ih]
          exact m.ite_trees rfl rfl
      · refine m.ite_trees rfl (m.ite_trees rfl (m.ite_trees ?_ (m.ite_trees rfl ?_)))
        · rcases behind isBlock rest with _ | ⟨s, more⟩
          · rfl
          · simp only [Spacing.trees_cons, Spacing.isSign_tree]
            exact m.ite_trees rfl rfl
        · exact m.ite_trees rfl (m.ite_trees rfl rfl)

/-! ### Members -/

@[simp] theorem afterTypeParameters_trees (ts : List Tree) :
    afterTypeParameters (m.trees ts) = m.trees (afterTypeParameters ts) := by
  cases ts with
  | nil => rfl
  | cons t rest =>
    simp only [afterTypeParameters, Spacing.trees_cons, Spacing.isSign_tree, Spacing.angled?_trees]
    exact m.ite_trees (Option.getD_map _ (t :: rest) _) rfl

@[simp] theorem afterMember_trees (value : Bool) (ts : List Tree) :
    afterMember value (m.trees ts) = m.trees (afterMember value ts) := by
  fun_induction afterMember value ts <;> simp_all [afterMember]

@[simp] theorem enumMembers_trees (ts : List Tree) : enumMembers (m.trees ts) = m.trees (enumMembers ts) := by
  simp [enumMembers]

@[simp] theorem annotationType_trees (ts : List Tree) :
    annotationType (m.trees ts) = annotationType ts := by
  rcases ts with _ | ⟨sign, _ | ⟨w, rest⟩⟩
  · rfl
  · rfl
  · simp [annotationType]

end Spacing

section Ends

variable {ts rest : List Tree}

@[grind! .]
theorem afterName_suffix (n : Nat) (ts : List Tree) : afterName n ts <:+ ts := by
  fun_induction afterName n ts <;> grind

@[grind →]
theorem afterAnnotation?_suffix (h : afterAnnotation? ts = some rest) : rest <:+ ts := by
  unfold afterAnnotation? at h
  grind

@[grind! .]
theorem afterModifiers_suffix (n : Nat) (ts : List Tree) : afterModifiers n ts <:+ ts := by
  fun_induction afterModifiers n ts <;> grind

@[grind! .]
theorem withoutModifiers_suffix (ts : List Tree) : withoutModifiers ts <:+ ts := afterModifiers_suffix _ ts

/-- A point with nothing behind it but modifiers ends a type, and they are lost with it. -/
theorem typeEnd_ends (n : Nat) (ts : List Tree) : typeEnd n ts <:+ ts ∨ ∃ t, typeEnd n ts = [t] := by
  fun_induction typeEnd n ts <;> grind

theorem afterType?_suffix {t u : Tree} (h : afterType? ts = some (t :: u :: rest)) : rest <:+ ts.tail := by
  unfold afterType? at h
  split at h
  · rename_i name inner
    have ends := typeEnd_ends inner.length inner
    grind
  · cases h

@[grind! .]
theorem afterSemicolon_suffix (ts : List Tree) : afterSemicolon ts <:+ ts := behind_suffix _ ts

@[grind! .]
theorem afterHandlers_suffix (n : Nat) (ts : List Tree) : afterHandlers n ts <:+ ts := by
  fun_induction afterHandlers n ts <;> grind

@[grind! .]
theorem afterStatement_suffix (n : Nat) (ts : List Tree) : afterStatement n ts <:+ ts.tail := by
  induction n generalizing ts with
  | zero => simp [afterStatement]
  | succ n ih =>
    cases ts with
    | nil => exact List.suffix_refl []
    | cons t rest =>
      have block := behind_suffix_tail isBlock (t :: rest)
      have semicolon : afterSemicolon (t :: rest) <:+ rest := behind_suffix_tail _ (t :: rest)
      rw [afterStatement, List.tail_cons]
      refine ite_suffix (List.suffix_refl rest) (ite_suffix (by grind) ?_)
      refine ite_suffix (by grind) (ite_suffix (by grind) (ite_suffix (by grind) (ite_suffix (by grind) ?_)))
      exact ite_suffix (by grind) (ite_suffix block semicolon)

@[grind! .]
theorem afterTypeParameters_suffix (ts : List Tree) : afterTypeParameters ts <:+ ts := by
  cases ts with
  | nil => exact List.suffix_refl []
  | cons t rest =>
    rw [afterTypeParameters]
    cases closed : angled? 1 rest <;> grind

theorem typeName?_mem {name : Tree} (h : typeName? ts = some name) : name ∈ ts := by
  unfold typeName? at h
  grind

theorem afterMember_suffix (value : Bool) (ts : List Tree) : afterMember value ts <:+ ts.tail := by
  fun_induction afterMember value ts <;> grind

end Ends

end BodyDigest.Braced.Java
