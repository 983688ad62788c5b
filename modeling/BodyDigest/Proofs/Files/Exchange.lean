import Mathlib.Logic.Relation
import BodyDigest.Proofs.Files.Listing

/-!
The order in which directories list their entries does not matter to a scan. It is enough that this
holds of one exchange of neighbours, in some directory of the tree.
-/
namespace BodyDigest

namespace Tree

variable {t u v : Tree} {a b entries : List (Text × Tree)} {e f : Text × Tree} {name : Text}
variable {names here rest parts : List Text} {p : Path}

/-- One directory lists two neighbours the other way round. -/
inductive Exchange : Tree → Tree → Prop
  | first (a b : List (Text × Tree)) (e f : Text × Tree) :
      Exchange (.directory (a ++ e :: f :: b)) (.directory (a ++ f :: e :: b))
  | deeper (a b : List (Text × Tree)) (name : Text) {t u : Tree} (inside : Exchange t u) :
      Exchange (.directory (a ++ (name, t) :: b)) (.directory (a ++ (name, u) :: b))

/-- The trees differ at most in the order of the entries of their directories. -/
def Reordered : Tree → Tree → Prop := Relation.ReflTransGen Exchange

/-! ### Names of a directory -/

theorem areProper_iff : areProper entries ↔ (entries.map (·.1)).Nodup ∧
    ∀ e ∈ entries, e.1 ≠ Path.upwards ∧ e.2.isProper := by
  induction entries with
  | nil => simp [areProper]
  | cons e entries ih =>
    obtain ⟨name, t⟩ := e
    have fresh : entries.lookup name = none ↔ name ∉ entries.map (·.1) := by
      simp only [List.lookup_eq_none_iff, bne_iff_ne, List.mem_map, not_exists, not_and]
      exact forall₂_congr fun e _ => ne_comm
    simp only [areProper, ne_eq, Bool.and_eq_true, decide_not, Bool.not_eq_true',
      decide_eq_false_iff_not, Option.isNone_iff_eq_none, fresh, ih, List.map_cons,
      List.nodup_cons, List.forall_mem_cons]
    tauto

theorem Exchange.isProper (step : Exchange t u) (proper : t.isProper) : u.isProper := by
  induction step with
  | first a b e f =>
    rw [Tree.isProper, areProper_iff] at proper ⊢
    have swapped : (a ++ f :: e :: b).Perm (a ++ e :: f :: b) :=
      (List.Perm.swap e f b).append_left a
    exact ⟨(swapped.map _).nodup_iff.mpr proper.1, fun d member => proper.2 d (swapped.subset member)⟩
  | @deeper a b name t u inside ih =>
    rw [Tree.isProper, areProper_iff] at proper ⊢
    obtain ⟨distinct, each⟩ := proper
    refine ⟨by simpa using distinct, fun d member => ?_⟩
    rcases List.mem_append.mp member with before | later
    · exact each d (by simp [before])
    · rcases List.mem_cons.mp later with rfl | behind
      · obtain ⟨named, first⟩ := each (name, t) (by simp)
        exact ⟨named, ih first⟩
      · exact each d (by simp [behind])

/-! ### What names lead to -/

/-- What stands at one place of two trees: the same, or directories that differ by an exchange. -/
def Alike (x y : Except AccessError Tree) : Prop :=
  x = y ∨ ∃ es fs, x = .ok (.directory es) ∧ y = .ok (.directory fs) ∧
    Exchange (.directory es) (.directory fs)

theorem Exchange.alike (step : Exchange t u) : Alike (.ok t) (.ok u) := by
  cases step with
  | first a b e f => exact .inr ⟨_, _, rfl, rfl, .first a b e f⟩
  | deeper a b name inside => exact .inr ⟨_, _, rfl, rfl, .deeper a b name inside⟩

theorem Exchange.get (step : Exchange t u) (proper : t.isProper) (names : List Text) :
    Alike (t.get names) (u.get names) := by
  induction step generalizing names with
  | first a b e f =>
    cases names with
    | nil =>
      rw [get_nil, get_nil]
      exact (Exchange.first a b e f).alike
    | cons name rest =>
      refine .inl ?_
      rw [Tree.isProper, areProper_iff] at proper
      have apart : e.1 ≠ f.1 := by
        have distinct := (List.nodup_append.mp (List.map_append ▸ proper.1)).2.1
        rw [List.map_cons, List.map_cons, List.nodup_cons] at distinct
        exact fun same => distinct.1 (by simp [same])
      have found : (a ++ e :: f :: b).lookup name = (a ++ f :: e :: b).lookup name := by
        rw [List.lookup_append, List.lookup_append, List.lookup_cons, List.lookup_cons,
          List.lookup_cons, List.lookup_cons]
        by_cases first : name = e.1
        · have second : (name == f.1) = false := beq_false_of_ne (first ▸ apart)
          simp [second]
        · have other : (name == e.1) = false := beq_false_of_ne first
          simp [other]
      rw [Tree.get, Tree.get, found]
  | @deeper a b name t u inside ih =>
    cases names with
    | nil =>
      rw [get_nil, get_nil]
      exact (Exchange.deeper a b name inside).alike
    | cons n rest =>
      rw [Tree.isProper, areProper_iff] at proper
      have first := ih (proper.2 (name, t) (by simp)).2 rest
      rw [Tree.get, Tree.get, List.lookup_append, List.lookup_append, List.lookup_cons,
        List.lookup_cons]
      cases a.lookup n with
      | some w => exact .inl rfl
      | none =>
        cases n == name with
        | true => exact first
        | false => exact .inl rfl

theorem Exchange.canonical (step : Exchange t u) (proper : t.isProper) (here rest : List Text) :
    t.canonical here rest = u.canonical here rest := by
  induction rest generalizing here with
  | nil => rw [Tree.canonical, Tree.canonical]
  | cons part rest ih =>
    rw [Tree.canonical, Tree.canonical]
    split
    · rcases step.get proper here with same | ⟨es, fs, first, second, -⟩
      · rw [same]
        cases u.get here with
        | error e => rfl
        | ok w =>
          cases w with
          | file octets => rfl
          | directory entries => exact ih _
      · rw [first, second]
        exact ih _
    · exact ih _

theorem Exchange.look (step : Exchange t u) (proper : t.isProper) (p : Path) :
    Alike (t.look p) (u.look p) := by
  rw [Tree.look, Tree.look, step.canonical proper]
  cases u.canonical [] p.parts with
  | error e => exact .inl rfl
  | ok names => exact step.get proper names

theorem Exchange.readsSame (step : Exchange t u) (proper : t.isProper) (p : Path) :
    ReadsSame t u p := by
  rcases step.look proper p with same | ⟨es, fs, first, second, -⟩
  · exact readsSame_of_look same.symm
  · constructor
    · rw [holds, holds, first, second]
      rfl
    · intro _
      apply charsAt_congr
      rw [octetsAt_eq, octetsAt_eq, first, second]
      rfl

end Tree

namespace Scan

open BodyDigest.Tree

variable {t u : Tree} {a b : List (Text × Tree)}

theorem placesIn_append (parts : List Text) (a b : List (Text × Tree)) :
    placesIn parts (a ++ b) = placesIn parts a ++ placesIn parts b := by
  induction a with
  | nil => rw [List.nil_append, placesIn_nil, List.nil_append]
  | cons e a ih =>
    obtain ⟨name, t⟩ := e
    rw [List.cons_append, placesIn_cons, placesIn_cons, ih, List.append_assoc]

theorem Exchange.places (step : Exchange t u) (parts : List Text) :
    (places parts t).Perm (places parts u) := by
  induction step generalizing parts with
  | first a b e f =>
    obtain ⟨m, v⟩ := e
    obtain ⟨n, w⟩ := f
    rw [places_directory, places_directory, placesIn_append, placesIn_append, placesIn_cons,
      placesIn_cons, placesIn_cons, placesIn_cons, ← List.append_assoc (Scan.places (parts ++ [m]) v),
      ← List.append_assoc (Scan.places (parts ++ [n]) w)]
    exact (List.perm_append_comm.append_right _).append_left _
  | deeper a b name inside ih =>
    rw [places_directory, places_directory, placesIn_append, placesIn_append, placesIn_cons,
      placesIn_cons]
    exact ((ih _).append_right _).append_left _

theorem files_of_exchange (step : Exchange t u) (proper : t.isProper) (root asked : Path)
    (excludes : List Text) : files t root asked excludes = files u root asked excludes := by
  have rules : statedRules u root = statedRules t root :=
    statedRules_congr (step.readsSame proper _)
  rcases step.look proper root with same | ⟨es, fs, first, second, inside⟩
  · rw [files, files, same, rules]
  · have perm := Exchange.places inside []
    rw [places_directory, places_directory] at perm
    have sorted : (placesIn [] es).mergeSort Path.partsLe = (placesIn [] fs).mergeSort Path.partsLe :=
      mergeSort_eq_of_perm perm
    cases read : statedRules t root with
    | ok stated =>
      rw [files_eq_filter first read, files_eq_filter second (rules.trans read), sorted]
    | error e =>
      rw [files, files, first, second, rules, read]
      rfl

theorem files_of_reordered (reordered : Reordered t u) (proper : t.isProper) (root asked : Path)
    (excludes : List Text) : files t root asked excludes = files u root asked excludes := by
  have kept : u.isProper ∧ files t root asked excludes = files u root asked excludes := by
    induction reordered with
    | refl => exact ⟨proper, rfl⟩
    | tail _ step ih =>
      exact ⟨step.isProper ih.1, ih.2.trans (files_of_exchange step ih.1 root asked excludes)⟩
  exact kept.2

end Scan

end BodyDigest
