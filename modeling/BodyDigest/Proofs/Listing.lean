import Mathlib.Data.List.Pairwise

/-!
Lists that show all things with a property, one after the other: how such lists are put together from
shorter ones.
-/
namespace BodyDigest

variable {α β ι : Type} {shown : α → β} {R : α → α → Prop} {P Q : α → Prop} {xs ys : List β}

/-- The elements show exactly the things with a property, of which any two stand in the relation, the
earlier one to the later. -/
def Lists (shown : α → β) (R : α → α → Prop) (P : α → Prop) (xs : List β) : Prop :=
  ∃ found : List α, xs = found.map shown ∧ (∀ a, a ∈ found ↔ P a) ∧ found.Pairwise R

namespace Lists

theorem nil (never : ∀ a, ¬ P a) : Lists shown R P [] :=
  ⟨[], rfl, fun a => by simp [never a], .nil⟩

theorem single {a : α} (alone : ∀ b, P b ↔ b = a) : Lists shown R P [shown a] :=
  ⟨[a], rfl, fun b => by rw [List.mem_singleton, alone], List.pairwise_singleton _ _⟩

theorem imp (h : Lists shown R P xs) (same : ∀ a, P a ↔ Q a) : Lists shown R Q xs := by
  obtain ⟨found, rfl, all, ordered⟩ := h
  exact ⟨found, rfl, fun a => (all a).trans (same a), ordered⟩

theorem append (hp : Lists shown R P xs) (hq : Lists shown R Q ys)
    (ordered : ∀ a b, P a → Q b → R a b) : Lists shown R (fun a => P a ∨ Q a) (xs ++ ys) := by
  obtain ⟨found, rfl, all, first⟩ := hp
  obtain ⟨more, rfl, rest, later⟩ := hq
  refine ⟨found ++ more, List.map_append.symm, fun a => ?_, ?_⟩
  · rw [List.mem_append, all, rest]
  · exact List.pairwise_append.mpr
      ⟨first, later, fun a here b there => ordered a b ((all a).mp here) ((rest b).mp there)⟩

/-- Things that are shown like others, which they are made of. -/
theorem map (h : Lists shown R P xs) {f : α → α} (alike : ∀ a, shown (f a) = shown a)
    (ordered : ∀ a b, R a b → R (f a) (f b)) : Lists shown R (fun b => ∃ a, P a ∧ b = f a) xs := by
  obtain ⟨found, rfl, all, apart⟩ := h
  refine ⟨found.map f, ?_, fun b => ?_, List.pairwise_map.mpr (apart.imp (ordered _ _))⟩
  · rw [List.map_map]
    exact List.map_congr_left fun a _ => (alike a).symm
  · simp only [List.mem_map, all, eq_comm]

/-- One list after the other, each with a property of its own. -/
theorem flatMap {is : List ι} {each : ι → List β} {P : ι → α → Prop}
    (listed : ∀ i ∈ is, Lists shown R (P i) (each i))
    (ordered : is.Pairwise fun i j => ∀ a b, P i a → P j b → R a b) :
    Lists shown R (fun a => ∃ i ∈ is, P i a) (is.flatMap each) := by
  induction is with
  | nil => exact .nil (by simp)
  | cons i rest ih =>
    obtain ⟨first, later⟩ := List.pairwise_cons.mp ordered
    obtain ⟨here, listed⟩ := List.forall_mem_cons.mp listed
    rw [List.flatMap_cons]
    refine (here.append (ih listed later) ?_).imp fun a => by simp
    rintro a b at_i ⟨j, member, at_j⟩
    exact first j member a b at_i at_j

end Lists

end BodyDigest
