import Mathlib.Data.List.Nodup
import BodyDigest.Indented.Classes
import BodyDigest.Proofs.Indented.Shapes

/-!
Classes of constants: what they hold does not depend on where they stand in a source, and each
constant is found at its names as long as no class binds a name twice.
-/
namespace BodyDigest.Indented

/-! ### Declarations without their places -/

section

variable {P : Type}

theorem boundBy?_shape (s : Stmt P) : boundBy? s.shape = boundBy? s := by
  cases s <;> rfl

theorem boundIn?_shapes (ss : List (Stmt P)) : boundIn? (shapes ss) = boundIn? ss := by
  induction ss with
  | nil => rfl
  | cons s rest ih => rw [shapes, boundIn?, boundIn?, boundBy?_shape, ih]

mutual

theorem held?_shape : (s : Stmt P) → held? s.shape = held? s
  | .class _ _ body => by rw [Stmt.shape, held?, held?, heldIn?_shapes body]
  | .simple _ _ | .function _ _ _ | .if _ _ _ _ | .while _ _ _ _ | .for _ _ _ _ _ _
  | .with _ _ _ _ | .try _ _ _ _ _ _ | .match _ _ _ => rfl

theorem heldIn?_shapes : (ss : List (Stmt P)) → heldIn? (shapes ss) = heldIn? ss
  | [] => rfl
  | s :: rest => by rw [shapes, heldIn?, heldIn?, held?_shape s, heldIn?_shapes rest]

end

theorem documentedClass?_shape (s : Stmt P) : documentedClass? s.shape = documentedClass? s := by
  cases s with
  | «class» place head body =>
    cases body with
    | nil => rfl
    | cons s body =>
      rw [Stmt.shape, shapes, documentedClass?, documentedClass?, heldIn?_shapes,
        Render.documentation?_shape]
  | _ => rfl

theorem heldIn?_map {α : Type} {xs : List α} {statement : α → Stmt P} {member : α → Text × Held}
    (each : ∀ x ∈ xs, held? (statement x) = some (member x)) :
    heldIn? (xs.map statement) = some (xs.map member) := by
  induction xs with
  | nil => rfl
  | cons x xs ih =>
    have first := each x (by simp)
    have others := ih fun y inside => each y (List.mem_cons_of_mem x inside)
    rw [List.map_cons, heldIn?, first, others]
    rfl

end

/-! ### Constants and the names that lead to them -/

namespace Held

/-- A place below a name. -/
def under (name : Text) (q : List Text × Text) : List Text × Text := (name :: q.1, q.2)

/-- A constant that is the only one at its place, and to which the names of the place lead. -/
def IsFound (h : Held) (q : List Text × Text) : Prop :=
  h.at? q.1 = some q.2 ∧ h.places.filter (fun p => p.1 = q.1) = [q]

def IsFaithful (h : Held) : Prop := ∀ q ∈ h.places, h.IsFound q

variable {name : Text} {h : Held} {members : List (Text × Held)} {q : List Text × Text}

theorem places_cons : (Held.class ((name, h) :: members)).places =
    h.places.map (under name) ++ (Held.class members).places := by
  rw [places, places, placesIn]
  rfl

theorem under_injective (name : Text) : Function.Injective (under name) := by
  intro p q same
  cases p
  cases q
  simpa [under] using same

/-- The names that lead to a constant start with that of a member. -/
theorem starts_with_member (inside : q ∈ (Held.class members).places) :
    ∃ m ∈ members, ∃ p ∈ m.2.places, q = under m.1 p := by
  induction members with
  | nil =>
    rw [places, placesIn] at inside
    cases inside
  | cons m members ih =>
    rw [places_cons, List.mem_append, List.mem_map] at inside
    rcases inside with ⟨p, found, rfl⟩ | later
    · exact ⟨m, by simp, p, found, rfl⟩
    · obtain ⟨other, member, p, found, same⟩ := ih later
      exact ⟨other, by simp [member], p, found, same⟩

theorem mem_places {m : Text × Held} (member : m ∈ members) {p : List Text × Text}
    (inside : p ∈ m.2.places) : under m.1 p ∈ (Held.class members).places := by
  induction members with
  | nil => cases member
  | cons first members ih =>
    rw [places_cons, List.mem_append]
    rcases List.mem_cons.mp member with rfl | later
    · exact .inl (List.mem_map_of_mem inside)
    · exact .inr (ih later)

theorem places_ne_nil {m : Text × Held} (member : m ∈ members) (inhabited : m.2.places ≠ []) :
    (Held.class members).places ≠ [] := by
  obtain ⟨p, inside⟩ := List.exists_mem_of_ne_nil _ inhabited
  exact List.ne_nil_of_mem (mem_places member inside)

theorem at?_class (first : Text) (path : List Text) :
    (Held.class members).at? (first :: path) =
      (members.reverse.lookup first).bind (at? path) := by
  rw [at?]

/-- A later member replaces an earlier one of its name. -/
theorem at?_cons_of_mem {first : Text} (later : first ∈ members.map (·.1)) (path : List Text) :
    (Held.class ((name, h) :: members)).at? (first :: path) =
      (Held.class members).at? (first :: path) := by
  have found : members.reverse.lookup first ≠ none := by
    rw [Ne, List.lookup_eq_none_iff]
    intro absent
    obtain ⟨m, member, rfl⟩ := List.mem_map.mp later
    simpa using absent m (List.mem_reverse.mpr member)
  rw [at?_class, at?_class, List.reverse_cons, List.lookup_append,
    Option.or_of_isSome (Option.isSome_iff_ne_none.mpr found)]

theorem at?_cons_self (fresh : name ∉ members.map (·.1)) (path : List Text) :
    (Held.class ((name, h) :: members)).at? (name :: path) = h.at? path := by
  have absent : members.reverse.lookup name = none := by
    rw [List.lookup_eq_none_iff]
    intro m member
    have different : m.1 ≠ name := by
      intro same
      exact fresh (same ▸ List.mem_map_of_mem (List.mem_reverse.mp member))
    simpa using different.symm
  rw [at?_class, List.reverse_cons, List.lookup_append, absent]
  simp

/-- What names lead to is a constant at that place. -/
theorem mem_places_of_at? {path : List Text} {value : Text} (found : h.at? path = some value) :
    (path, value) ∈ h.places := by
  induction path generalizing h with
  | nil =>
    cases h with
    | constant v =>
      obtain rfl : v = value := by simpa [at?] using found
      simp [places]
    | «class» members => simp [at?] at found
  | cons first path ih =>
    cases h with
    | constant v => simp [at?] at found
    | «class» members =>
      rw [at?_class] at found
      obtain ⟨inner, looked_up, rest⟩ := Option.bind_eq_some_iff.mp found
      have member : (first, inner) ∈ members := by
        obtain ⟨before, after, split, _⟩ := List.lookup_eq_some_iff.mp looked_up
        rw [← List.mem_reverse, split]
        simp
      exact mem_places member (ih rest)

/-! ### When constants are found -/

theorem filter_under (fresh : name ∉ members.map (·.1)) (p : List Text × Text) :
    (Held.class ((name, h) :: members)).places.filter (fun q => q.1 = (under name p).1) =
      (h.places.filter fun q => q.1 = p.1).map (under name) := by
  have none_later : (Held.class members).places.filter (fun q => q.1 = (under name p).1) = [] := by
    rw [List.filter_eq_nil_iff]
    intro q inside same
    obtain ⟨m, member, r, _, rfl⟩ := starts_with_member inside
    have heads : m.1 = name := by
      have := of_decide_eq_true same
      simp only [under, List.cons.injEq] at this
      exact this.1
    exact fresh (heads ▸ List.mem_map_of_mem member)
  have below : (fun q : List Text × Text => decide (q.1 = (under name p).1)) ∘ under name =
      fun q => decide (q.1 = p.1) := by
    funext q
    simp [under]
  rw [places_cons, List.filter_append, none_later, List.append_nil, List.filter_map, below]

theorem filter_other {first : Text} (fresh : name ≠ first) (path : List Text) :
    (Held.class ((name, h) :: members)).places.filter (fun q => q.1 = first :: path) =
      (Held.class members).places.filter fun q => q.1 = first :: path := by
  have none_first : (h.places.map (under name)).filter (fun q => q.1 = first :: path) = [] := by
    rw [List.filter_eq_nil_iff]
    intro q inside same
    obtain ⟨p, _, rfl⟩ := List.mem_map.mp inside
    have := of_decide_eq_true same
    simp only [under, List.cons.injEq] at this
    exact fresh this.1
  rw [places_cons, List.filter_append, none_first, List.nil_append]

theorem not_isFaithful_of_mem (inhabited : h.places ≠ []) (later : name ∈ members.map (·.1)) :
    ¬ (Held.class ((name, h) :: members)).IsFaithful := by
  intro faithful
  obtain ⟨q, inside⟩ := List.exists_mem_of_ne_nil _ inhabited
  have first : under name q ∈ h.places.map (under name) := List.mem_map_of_mem inside
  obtain ⟨found, alone⟩ := faithful (under name q)
    (places_cons ▸ List.mem_append_left _ first)
  -- the names lead to a later constant, so that there are two at this place
  rw [under, at?_cons_of_mem later] at found
  have second := mem_places_of_at? found
  have some_first := List.length_pos_of_mem
    (List.mem_filter_of_mem (p := fun p => p.1 = (under name q).1) first (by simp))
  have some_second := List.length_pos_of_mem
    (List.mem_filter_of_mem (p := fun p => p.1 = (under name q).1) second (by simp [under]))
  have count := congrArg List.length alone
  rw [places_cons, List.filter_append, List.length_append, List.length_singleton] at count
  omega

/-- A constant below the first member, where no later one has its name. -/
theorem isFound_under (fresh : name ∉ members.map (·.1)) (p : List Text × Text) :
    (Held.class ((name, h) :: members)).IsFound (under name p) ↔ h.IsFound p := by
  rw [IsFound, IsFound, filter_under fresh, ← List.map_singleton,
    (List.map_injective_iff.mpr (under_injective name)).eq_iff, under, at?_cons_self fresh]

theorem isFound_cons (fresh : name ∉ members.map (·.1)) {m : Text × Held} (member : m ∈ members)
    (p : List Text × Text) :
    (Held.class ((name, h) :: members)).IsFound (under m.1 p) ↔
      (Held.class members).IsFound (under m.1 p) := by
  have listed : m.1 ∈ members.map (·.1) := List.mem_map_of_mem member
  have different : name ≠ m.1 := fun same => fresh (same ▸ listed)
  rw [IsFound, IsFound, under, at?_cons_of_mem listed, filter_other different]

theorem isFaithful_cons_iff (inhabited : h.places ≠ []) :
    (Held.class ((name, h) :: members)).IsFaithful ↔
      name ∉ members.map (·.1) ∧ h.IsFaithful ∧ (Held.class members).IsFaithful := by
  by_cases later : name ∈ members.map (·.1)
  · have broken := not_isFaithful_of_mem (h := h) inhabited later
    simp only [broken, later, not_true_eq_false, false_and]
  · have here := isFound_under (h := h) later
    have there (m : Text × Held) (member : m ∈ members) := isFound_cons (h := h) later member
    constructor
    · intro faithful
      refine ⟨later, ?_, ?_⟩
      · intro p inside
        exact (here p).mp (faithful _ (places_cons ▸ List.mem_append_left _
          (List.mem_map_of_mem inside)))
      · intro q inside
        obtain ⟨m, member, p, _, rfl⟩ := starts_with_member inside
        exact (there m member p).mp (faithful _ (places_cons ▸ List.mem_append_right _ inside))
    · rintro ⟨_, inner, others⟩ q inside
      rw [places_cons, List.mem_append, List.mem_map] at inside
      rcases inside with ⟨p, below, rfl⟩ | inside
      · exact (here p).mpr (inner p below)
      · obtain ⟨m, member, p, _, rfl⟩ := starts_with_member inside
        exact (there m member p).mpr (others _ inside)

/-- Constants are found where no class binds a name twice. -/
theorem isFaithful_class_iff (inhabited : ∀ m ∈ members, m.2.places ≠ []) :
    (Held.class members).IsFaithful ↔
      (members.map (·.1)).Nodup ∧ ∀ m ∈ members, m.2.IsFaithful := by
  induction members with
  | nil => simp [IsFaithful, places, placesIn]
  | cons m members ih =>
    have others := ih fun n member => inhabited n (List.mem_cons_of_mem m member)
    rw [isFaithful_cons_iff (inhabited m (by simp)), others, List.map_cons, List.nodup_cons,
      List.forall_mem_cons]
    tauto

end Held

end BodyDigest.Indented
