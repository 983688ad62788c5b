import BodyDigest.Braced.CSharp
import BodyDigest.Proofs.Braced.Spacing

/-!
How far each part of a C# file reaches. Where one ends does not depend on the spacing, and what follows it
is an end of what it started with.
-/
namespace BodyDigest.Braced.CSharp

open BodyDigest.Braced.Tree

section Spacing

variable (m : Spacing)

/-! ### Types -/

@[simp] theorem typeEnd_trees (n : Nat) (ts : List Tree) :
    typeEnd n (m.trees ts) = m.trees (typeEnd n ts) := by
  fun_induction typeEnd n ts <;> simp_all [typeEnd]

@[simp] theorem afterType?_trees (ts : List Tree) :
    afterType? (m.trees ts) = (afterType? ts).map m.trees := by
  simp only [afterType?, Spacing.dropWhile_trees, Spacing.isOneOf_tree, implies_true]
  cases ts.dropWhile (·.isOneOf typePrefixes) <;> simp

/-! ### Parameters -/

@[simp] theorem beforeParameter_tree (t : Tree) : beforeParameter (m.tree t) = beforeParameter t := by
  simp [beforeParameter]

@[simp] theorem parameterRest_trees (ts : List Tree) :
    parameterRest (m.trees ts) = m.trees (parameterRest ts) := by
  simp [parameterRest, Option.getD_map]

/-! ### Statements -/

@[simp] theorem afterSemicolon_trees (ts : List Tree) :
    afterSemicolon (m.trees ts) = m.trees (afterSemicolon ts) := by
  simp [afterSemicolon]

@[simp] theorem afterLocalBody?_trees (ts : List Tree) :
    afterLocalBody? (m.trees ts) = (afterLocalBody? ts).map m.trees := by
  cases ts with
  | nil => rfl
  | cons t rest =>
    simp only [Spacing.trees_cons, afterLocalBody?, Spacing.isBlock_tree, Spacing.isWord_tree,
      Spacing.isSign_tree, Spacing.dropWhile_trees, implies_true]
    cases rest.dropWhile fun u => !(u.isBlock || u.isSign "=>" || u.isSign ";") with
    | nil => simp
    | cons u later =>
      simp
      split_ifs <;> rfl

@[simp] theorem afterLocalFunction?_trees (ts : List Tree) :
    afterLocalFunction? (m.trees ts) = (afterLocalFunction? ts).map m.trees := by
  unfold afterLocalFunction?
  have lead : (m.trees ts).dropWhile (fun t => t.isSquare || t.isOneOf localModifiers) =
      m.trees (ts.dropWhile fun t => t.isSquare || t.isOneOf localModifiers) := by simp
  rw [lead]
  generalize ts.dropWhile (fun t => t.isSquare || t.isOneOf localModifiers) = rest
  have creates : (m.trees rest).head?.any (·.isWord "new") = rest.head?.any (·.isWord "new") := by simp
  simp only [creates, afterType?_trees]
  cases rest.head?.any (·.isWord "new") with
  | true => rfl
  | false =>
    rcases afterType? rest with _ | _ | ⟨name, _ | ⟨t, inner⟩⟩
    · rfl
    · rfl
    · simp
    · simp only [Option.map_some, Spacing.trees_cons, Spacing.isName_tree, Spacing.isSign_tree,
        Spacing.angled?_trees]
      rw [← Spacing.trees_cons, Option.getD_map, ← apply_ite m.trees]
      rcases (if t.isSign "<" then (angled? 1 inner).getD (t :: inner) else t :: inner) with _ | ⟨u, body⟩
      · simp
      · simp only [Spacing.trees_cons, Spacing.isParens_tree, afterLocalBody?_trees]
        split_ifs <;> rfl

@[simp] theorem afterHandlers_trees (n : Nat) (ts : List Tree) :
    afterHandlers n (m.trees ts) = m.trees (afterHandlers n ts) := by
  fun_induction afterHandlers n ts <;> simp_all [afterHandlers]

@[simp] theorem afterStatement_trees (n : Nat) (ts : List Tree) :
    afterStatement n (m.trees ts) = m.trees (afterStatement n ts) := by
  induction n generalizing ts with
  | zero => simp [afterStatement]
  | succ n ih =>
    cases ts with
    | nil => rfl
    | cons t rest =>
      have local_function := afterLocalFunction?_trees m (t :: rest)
      have semicolon := afterSemicolon_trees m (t :: rest)
      simp only [Spacing.trees_cons] at local_function semicolon
      simp only [afterStatement, Spacing.trees_cons, Spacing.isBlock_tree, Spacing.isSign_tree,
        Spacing.isWord_tree, Spacing.isOneOf_tree, Spacing.isName_tree, Spacing.head?_any,
        Spacing.isParens_tree, Spacing.trees_drop, Spacing.trees_length, Spacing.behind_trees,
        afterSemicolon_trees, afterHandlers_trees, implies_true, ih, local_function, semicolon]
      refine m.ite_trees rfl (m.ite_trees ?_ ?_)
      · rcases afterStatement n (rest.drop 1) with _ | ⟨e, more⟩
        · rfl
        · simp only [Spacing.trees_cons, Spacing.isWord_tree, ih]
          exact m.ite_trees rfl rfl
      · refine m.ite_trees rfl (m.ite_trees rfl (m.ite_trees rfl (m.ite_trees rfl ?_)))
        refine m.ite_trees rfl (m.ite_trees rfl (m.ite_trees rfl ?_))
        exact Option.getD_map _ _ _

/-! ### Members -/

@[simp] theorem beforeMember_tree (t : Tree) : beforeMember (m.tree t) = beforeMember t := by
  simp [beforeMember]

@[simp] theorem methodName?_trees (n : Nat) (ts : List Tree) : methodName? n (m.trees ts) =
    (methodName? n ts).map fun f => (m.tree f.1, m.tree f.2.1, m.trees f.2.2) := by
  induction n generalizing ts with
  | zero => rfl
  | succ n ih =>
    rcases ts with _ | ⟨name, _ | ⟨t, rest⟩⟩
    · rfl
    · rfl
    · simp only [methodName?, Spacing.trees_cons, Spacing.isName_tree, Spacing.isWord_tree,
        Spacing.isParens_tree, Spacing.isSign_tree, Spacing.angled?_trees, ih]
      rcases angled? 1 rest with _ | _ | ⟨u, more⟩
      · split_ifs <;> rfl
      · split_ifs <;> rfl
      · simp only [Option.map_some, Spacing.trees_cons, Spacing.isParens_tree, Spacing.isSign_tree, ih]
        split_ifs <;> rfl

theorem methodBody_trees (ts : List Tree) :
    (methodBody (m.trees ts)).2 = m.trees (methodBody ts).2 := by
  simp only [methodBody, Spacing.isBlock_tree, Spacing.isSign_tree, Spacing.dropWhile_trees, implies_true]
  cases ts.dropWhile fun t => !(t.isBlock || t.isSign "=>" || t.isSign ";") with
  | nil => rfl
  | cons t later =>
    simp
    split_ifs <;> simp

@[simp] theorem afterMember_trees (value : Bool) (ts : List Tree) :
    afterMember value (m.trees ts) = m.trees (afterMember value ts) := by
  fun_induction afterMember value ts <;> simp_all [afterMember]

@[simp] theorem typeName?_trees (ts : List Tree) :
    typeName? (m.trees ts) = (typeName? ts).map m.tree := by
  rcases ts with _ | ⟨w, _ | ⟨name, rest⟩⟩
  · rfl
  · rfl
  · have next : (m.trees rest).head? = rest.head?.map m.tree := by cases rest <;> rfl
    simp only [typeName?, Spacing.trees_cons, Spacing.isOneOf_tree, Spacing.isName_tree,
      Spacing.isWord_tree, next]
    split_ifs <;> rfl

@[simp] theorem withoutSemicolon_trees (ts : List Tree) :
    withoutSemicolon (m.trees ts) = m.trees (withoutSemicolon ts) := by
  fun_cases withoutSemicolon ts <;> simp_all [withoutSemicolon]

@[simp] theorem fromBody_trees (ts : List Tree) : fromBody (m.trees ts) = m.trees (fromBody ts) := by
  simp [fromBody]

@[simp] theorem kindOfNamespace_trees (ts : List Tree) :
    kindOfNamespace (m.trees ts) = kindOfNamespace ts := by
  simp [kindOfNamespace]

end Spacing

section Ends

variable {ts rest : List Tree}

@[grind! .]
theorem typeEnd_suffix (n : Nat) (ts : List Tree) : typeEnd n ts <:+ ts := by
  fun_induction typeEnd n ts <;> grind

@[grind →]
theorem afterType?_suffix (h : afterType? ts = some rest) : rest <:+ ts.tail := by
  unfold afterType? at h
  split at h
  · rename_i dropped
    have behind := dropWhile_suffix_tail dropped
    grind
  · cases h

@[grind! .]
theorem afterSemicolon_suffix (ts : List Tree) : afterSemicolon ts <:+ ts := behind_suffix _ ts

@[grind →]
theorem afterLocalBody?_suffix (h : afterLocalBody? ts = some rest) : rest <:+ ts := by
  unfold afterLocalBody? at h
  grind

theorem afterLocalFunction?_suffix (h : afterLocalFunction? ts = some rest) : rest <:+ ts.tail := by
  simp only [afterLocalFunction?] at h
  split at h
  · rename_i name more _ named
    have generic : more <:+ ts.tail := by
      have behind := afterType?_suffix named
      have lead := List.dropWhile_suffix (fun t => t.isSquare || t.isOneOf localModifiers) (l := ts)
      generalize ts.dropWhile (fun t => t.isSquare || t.isOneOf localModifiers) = dropped at behind lead
      cases dropped <;> grind
    rcases more with _ | ⟨t, inner⟩
    · grind
    · have body : (if t.isSign "<" then (angled? 1 inner).getD (t :: inner) else t :: inner) <:+
          t :: inner := by
        cases closed : angled? 1 inner <;> grind
      simp only at h
      generalize (if t.isSign "<" then (angled? 1 inner).getD (t :: inner) else t :: inner) = ys at h body
      cases ys <;> grind
  · cases h

@[grind! .]
theorem afterHandlers_suffix (n : Nat) (ts : List Tree) : afterHandlers n ts <:+ ts := by
  fun_induction afterHandlers n ts <;> grind

@[grind! .]
theorem afterStatement_suffix (n : Nat) (ts : List Tree) : afterStatement n ts <:+ ts.tail := by
  induction n generalizing ts with
  | zero => simp [afterStatement]
  | succ n ih =>
    cases ts with
    | nil => exact List.suffix_refl []
    | cons t rest =>
      have other : (afterLocalFunction? (t :: rest)).getD (afterSemicolon (t :: rest)) <:+ rest := by
        cases ends : afterLocalFunction? (t :: rest) with
        | none => exact behind_suffix_tail _ (t :: rest)
        | some more => exact afterLocalFunction?_suffix ends
      rw [afterStatement, List.tail_cons]
      refine ite_suffix (List.suffix_refl rest) (ite_suffix (by grind) ?_)
      refine ite_suffix (by grind) (ite_suffix (by grind) (ite_suffix (by grind) (ite_suffix (by grind) ?_)))
      exact ite_suffix (by grind) (ite_suffix (by grind) (ite_suffix (by grind) other))

theorem methodName?_suffix {n : Nat} {named : Tree × Tree × List Tree} (h : methodName? n ts = some named) :
    named.2.2 <:+ ts.tail := by
  fun_induction methodName? n ts <;> grind

theorem methodBody_suffix (ts : List Tree) : (methodBody ts).2 <:+ ts := by
  fun_cases methodBody ts <;> grind

theorem afterMember_suffix (value : Bool) (ts : List Tree) : afterMember value ts <:+ ts.tail := by
  fun_induction afterMember value ts <;> grind

theorem typeName?_mem {name : Tree} (h : typeName? ts = some name) : name ∈ ts := by
  unfold typeName? at h
  grind [List.mem_of_mem_head?]

theorem withoutSemicolon_suffix (ts : List Tree) : withoutSemicolon ts <:+ ts := by
  fun_cases withoutSemicolon ts <;> grind

end Ends

end BodyDigest.Braced.CSharp
