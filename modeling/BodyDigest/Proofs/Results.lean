import Mathlib.Data.List.Basic

/-!
Computations that may fail: when a step, a change of the error, and a list of computations succeed,
and for which reasons they fail.
-/
namespace BodyDigest

variable {α β ε δ : Type}

theorem except_bind_ok_iff {x : Except ε α} {f : α → Except ε β} {b : β} :
    (x >>= f) = .ok b ↔ ∃ a, x = .ok a ∧ f a = .ok b := by
  cases x <;> simp [bind, Except.bind]

theorem except_bind_succeeds_iff {x : Except ε α} {f : α → Except ε β} :
    (∃ b, (x >>= f) = .ok b) ↔ ∃ a, x = .ok a ∧ ∃ b, f a = .ok b := by
  cases x <;> simp [bind, Except.bind]

theorem except_mapError_ok_iff {f : ε → δ} {x : Except ε α} {a : α} :
    x.mapError f = .ok a ↔ x = .ok a := by
  cases x <;> simp [Except.mapError]

theorem error_of_map {x : Except ε α} {f : α → β} {e : ε}
    (h : x.map f = .error e) : x = .error e := by
  cases x with
  | error e' => exact congrArg _ (Except.error.inj h)
  | ok a => cases h

/-- A list of results is the result of a list exactly when each result is one. -/
theorem mapM_eq_ok_iff {f : α → Except ε β} {xs : List α} {ys : List β} :
    xs.mapM f = .ok ys ↔ xs.map f = ys.map .ok := by
  induction xs generalizing ys with
  | nil => cases ys <;> simp [pure, Except.pure]
  | cons x rest ih =>
    rw [List.mapM_cons]
    cases head : f x with
    | error e => cases ys <;> simp [bind, Except.bind, head]
    | ok y =>
      cases tail : rest.mapM f with
      | error e =>
        have fails : ∀ zs : List β, rest.map f ≠ zs.map .ok := fun zs same => by
          rw [ih.mpr same] at tail
          cases tail
        cases ys <;> simp [bind, Except.bind, head, fails]
      | ok zs =>
        have rest_ok := ih.mp tail
        cases ys with
        | nil => simp [bind, Except.bind, pure, Except.pure]
        | cons w ws =>
          have injective : Function.Injective (Except.ok : β → Except ε β) :=
            fun a b same => Except.ok.inj same
          simp [bind, Except.bind, pure, Except.pure, head, rest_ok,
            (List.map_injective_iff.mpr injective).eq_iff]

theorem mapM_ok_exists_iff {f : α → Except ε β} {xs : List α} :
    (∃ ys, xs.mapM f = .ok ys) ↔ ∀ x ∈ xs, ∃ y, f x = .ok y := by
  simp only [mapM_eq_ok_iff]
  induction xs with
  | nil => exact ⟨fun _ _ member => absurd member List.not_mem_nil, fun _ => ⟨[], rfl⟩⟩
  | cons x rest ih =>
    rw [List.forall_mem_cons, ← ih]
    constructor
    · rintro ⟨ys, all⟩
      cases ys with
      | nil => simp at all
      | cons y ys =>
        obtain ⟨first, later⟩ := List.cons.inj all
        exact ⟨⟨y, first⟩, ys, later⟩
    · rintro ⟨⟨y, first⟩, ys, later⟩
      exact ⟨y :: ys, by rw [List.map_cons, List.map_cons, first, later]⟩

theorem mapM_eq_ok_map {f : α → Except ε β} {g : α → β} {xs : List α}
    (h : ∀ x ∈ xs, f x = .ok (g x)) : xs.mapM f = .ok (xs.map g) := by
  rw [mapM_eq_ok_iff, List.map_map]
  exact List.map_congr_left h

/-- Of a list of computations the first fault decides. -/
theorem mapM_eq_of_faults {f : α → Except ε β} {q : α → Option ε} {g : α → β}
    {xs : List α} (each : ∀ x ∈ xs, f x = (q x).elim (.ok (g x)) .error) :
    xs.mapM f = (xs.findSome? q).elim (.ok (xs.map g)) .error := by
  induction xs with
  | nil => rfl
  | cons x rest ih =>
    have later := ih fun y member => each y (List.mem_cons_of_mem _ member)
    rw [List.mapM_cons, each x List.mem_cons_self, List.findSome?_cons, later]
    cases q x with
    | some e => rfl
    | none => cases rest.findSome? q <;> rfl

/-! ### Two computations -/

variable {α' β' : Type}

/-- What two computations give, if both give something, is related. -/
def Both (T : α → α' → Prop) (x : Except ε α) (y : Except ε α') : Prop :=
  ∀ a b, x = .ok a → y = .ok b → T a b

namespace Both

variable {T : α → α' → Prop} {U : β → β' → Prop} {x : Except ε α} {y : Except ε α'}

theorem ok {a : α} {b : α'} (h : T a b) : Both T (.ok a : Except ε α) (.ok b) := by
  rintro _ _ ⟨⟩ ⟨⟩
  exact h

theorem pure {a : α} {b : α'} (h : T a b) : Both T (Pure.pure a : Except ε α) (Pure.pure b) :=
  ok h

theorem bind {f : α → Except ε β} {g : α' → Except ε β'} (first : Both T x y)
    (later : ∀ a b, T a b → Both U (f a) (g b)) : Both U (x >>= f) (y >>= g) := by
  intro c d left right
  obtain ⟨a, hx, hf⟩ := except_bind_ok_iff.mp left
  obtain ⟨b, hy, hg⟩ := except_bind_ok_iff.mp right
  exact later a b (first a b hx hy) c d hf hg

theorem mapError (h : Both T x y) (f : ε → δ) : Both T (x.mapError f) (y.mapError f) :=
  fun a b left right => h a b (except_mapError_ok_iff.mp left) (except_mapError_ok_iff.mp right)

/-- Of the first it is also known that it gives the result. -/
theorem read (h : Both T x y) : Both (fun a b => T a b ∧ x = .ok a) x y :=
  fun a b left right => ⟨h a b left right, left⟩

theorem imp {V : α → α' → Prop} (h : Both T x y) (whole : ∀ a b, T a b → V a b) : Both V x y :=
  fun a b left right => whole a b (h a b left right)

end Both

/-! ### Failing for a known reason -/

/-- When the computation fails, it does for a reason that `P` allows. -/
def FailsBy (P : ε → Prop) (x : Except ε α) : Prop := ∀ e, x = .error e → P e

namespace FailsBy

variable {P Q : ε → Prop} {x : Except ε α}

theorem ok (a : α) : FailsBy P (.ok a : Except ε α) := by
  rintro e ⟨⟩

theorem error {e : ε} (h : P e) : FailsBy P (.error e : Except ε α) := by
  rintro _ ⟨⟩
  exact h

theorem bind {f : α → Except ε β} (first : FailsBy P x) (later : ∀ a, x = .ok a → FailsBy P (f a)) :
    FailsBy P (x >>= f) := by
  cases x with
  | error e => exact error (first e rfl)
  | ok a => exact later a rfl

theorem map {f : α → β} (h : FailsBy P x) : FailsBy P (f <$> x) := by
  cases x with
  | error e => exact error (h e rfl)
  | ok a => exact ok _

theorem mapError {f : ε → δ} {R : δ → Prop} (h : FailsBy P x) (whole : ∀ e, P e → R (f e)) :
    FailsBy R (x.mapError f) := by
  cases x with
  | error e => exact error (whole e (h e rfl))
  | ok a => exact ok a

theorem imp (h : FailsBy P x) (whole : ∀ e, P e → Q e) : FailsBy Q x :=
  fun e failed => whole e (h e failed)

theorem mapM {f : α → Except ε β} {xs : List α} (each : ∀ a ∈ xs, FailsBy P (f a)) :
    FailsBy P (xs.mapM f) := by
  induction xs with
  | nil => exact ok []
  | cons a xs ih =>
    rw [List.mapM_cons]
    refine (each a List.mem_cons_self).bind fun b _ => FailsBy.bind ?_ fun bs _ => ok _
    exact ih fun c member => each c (List.mem_cons_of_mem a member)

end FailsBy

end BodyDigest
