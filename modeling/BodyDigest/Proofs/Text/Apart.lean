import BodyDigest.Text.Identifier
import BodyDigest.Proofs.Text.Trimming

/-!
Texts that tell things apart. Two texts were written for two things; where they are equal, with
whatever follows each of them, the things are equal, and so is what follows. A text ends where no
word goes on, which is what lets words stand inside.
-/
namespace BodyDigest

/-- No word goes on at the start of the text. -/
def EndsWord (r : Text) : Prop := ∀ c ∈ r.head?, c.isIdentifierPart = false

/-- A text that no word goes on with. -/
def breaks (t : Text) : Bool := t.head?.any fun c => !c.isIdentifierPart

/-- A text that does not start with a blank. -/
def starts (t : Text) : Bool := t.head?.any fun c => !c.isBlank

/-- A text that does not end with a blank. -/
def stops (t : Text) : Bool := t.getLast?.any fun c => !c.isBlank

theorem endsWord_of_breaks {k : Text} (h : breaks k) (x : Text) : EndsWord (k ++ x) := by
  cases k with
  | nil => cases h
  | cons c rest => simpa [EndsWord, breaks] using h

theorem endsWord_nil : EndsWord [] := by simp [EndsWord]

theorem starts_append {t : Text} (h : starts t) (x : Text) : starts (t ++ x) := by
  cases t with
  | nil => cases h
  | cons c rest => exact h

theorem stops_append {t : Text} (h : stops t) (x : Text) : stops (x ++ t) := by
  rcases List.eq_nil_or_concat t with rfl | ⟨rest, c, rfl⟩
  · cases h
  · simpa [stops, ← List.append_assoc] using h

theorem breaks_append {t : Text} (h : breaks t) (x : Text) : breaks (t ++ x) := by
  cases t with
  | nil => cases h
  | cons c rest => exact h

theorem solid_iff {t : Text} : Solid t ↔ starts t ∧ stops t := by
  constructor
  · rintro ⟨⟨c, rest, rfl, first⟩, front, d, ends, last⟩
    refine ⟨by simp [starts, first], ?_⟩
    rw [ends]
    simp [stops, last]
  · rintro ⟨first, last⟩
    constructor
    · cases t with
      | nil => cases first
      | cons c rest => exact ⟨c, rest, rfl, by simpa [starts] using first⟩
    · rcases List.eq_nil_or_concat t with rfl | ⟨rest, c, rfl⟩
      · cases last
      · exact ⟨rest, c, by simp, by simpa [stops] using last⟩

/-! ### Texts for two things -/

/-- Texts for things that are equal if `P` holds. -/
def Apart (P : Prop) (t u : Text) : Prop :=
  ∀ r s, EndsWord r → EndsWord s → t ++ r = u ++ s → P ∧ t = u

/-- Texts that blanks may surround. -/
structure Piece (P : Prop) (t u : Text) : Prop where
  left : Solid t
  right : Solid u
  apart : Apart P t u

/-- Nothing, or a text that may follow a word and be followed by a blank. -/
def IsTail (t : Text) : Prop := t = [] ∨ breaks t ∧ stops t

/-- Texts that may follow others. -/
structure Tail (P : Prop) (t u : Text) : Prop where
  left : IsTail t
  right : IsTail u
  apart : Apart P t u

variable {P Q R : Prop} {t u v w : Text}

theorem Apart.imp (h : Apart P t u) (whole : P → Q) : Apart Q t u := by
  intro r s hr hs same
  obtain ⟨p, rfl⟩ := h r s hr hs same
  exact ⟨whole p, rfl⟩

theorem Piece.imp (h : Piece P t u) (whole : P → Q) : Piece Q t u :=
  ⟨h.left, h.right, h.apart.imp whole⟩

theorem Tail.imp (h : Tail P t u) (whole : P → Q) : Tail Q t u :=
  ⟨h.left, h.right, h.apart.imp whole⟩

theorem Apart.same (p : P) (t : Text) : Apart P t t := fun _ _ _ _ _ => ⟨p, rfl⟩

theorem Piece.same (p : P) (solid : Solid t) : Piece P t t := ⟨solid, solid, .same p t⟩

theorem Tail.nil (p : P) : Tail P [] [] := ⟨.inl rfl, .inl rfl, .same p []⟩

theorem Tail.same (p : P) (first : breaks t) (last : stops t) : Tail P t t :=
  ⟨.inr ⟨first, last⟩, .inr ⟨first, last⟩, .same p t⟩

theorem Apart.eq (h : Apart P t u) (same : t = u) : P :=
  (h [] [] endsWord_nil endsWord_nil (by rw [same])).1

theorem IsTail.endsWord (h : IsTail t) {r : Text} (ends : EndsWord r) : EndsWord (t ++ r) := by
  rcases h with rfl | ⟨first, _⟩
  · exact ends
  · exact endsWord_of_breaks first r

theorem IsTail.append (ht : IsTail t) (hu : IsTail u) : IsTail (t ++ u) := by
  rcases ht with rfl | ⟨first, last⟩
  · exact hu
  · rcases hu with rfl | ⟨_, last'⟩
    · rw [List.append_nil]
      exact .inr ⟨first, last⟩
    · exact .inr ⟨breaks_append first u, stops_append last' t⟩

theorem Solid.tail (ht : Solid t) (hu : IsTail u) : Solid (t ++ u) := by
  rcases hu with rfl | ⟨_, last⟩
  · rw [List.append_nil]
    exact ht
  · exact solid_iff.mpr ⟨starts_append (solid_iff.mp ht).1 u, stops_append last t⟩

theorem Apart.append (ht : Apart P t u) (hv : Apart Q v w) (left : IsTail v) (right : IsTail w) :
    Apart (P ∧ Q) (t ++ v) (u ++ w) := by
  intro r s hr hs same
  rw [List.append_assoc, List.append_assoc] at same
  obtain ⟨p, rfl⟩ := ht _ _ (left.endsWord hr) (right.endsWord hs) same
  obtain ⟨q, rfl⟩ := hv r s hr hs (List.append_cancel_left same)
  exact ⟨⟨p, q⟩, rfl⟩

theorem Apart.lead (h : Apart P t u) (k : Text) : Apart P (k ++ t) (k ++ u) := by
  intro r s hr hs same
  rw [List.append_assoc, List.append_assoc] at same
  obtain ⟨p, rfl⟩ := h r s hr hs (List.append_cancel_left same)
  exact ⟨p, rfl⟩

theorem Piece.lead (h : Piece P t u) {k : Text} (first : starts k) :
    Piece P (k ++ t) (k ++ u) :=
  ⟨solid_iff.mpr ⟨starts_append first t, stops_append (solid_iff.mp h.left).2 k⟩,
    solid_iff.mpr ⟨starts_append first u, stops_append (solid_iff.mp h.right).2 k⟩, h.apart.lead k⟩

theorem Piece.after (h : Piece P t u) {k : Text} (first : breaks k) : Tail P (k ++ t) (k ++ u) :=
  ⟨.inr ⟨breaks_append first t, stops_append (solid_iff.mp h.left).2 k⟩,
    .inr ⟨breaks_append first u, stops_append (solid_iff.mp h.right).2 k⟩, h.apart.lead k⟩

theorem Piece.tail (h : Piece P t u) (left : breaks t) (right : breaks u) : Tail P t u :=
  ⟨.inr ⟨left, (solid_iff.mp h.left).2⟩, .inr ⟨right, (solid_iff.mp h.right).2⟩, h.apart⟩

theorem Piece.append (ht : Piece P t u) (hv : Tail Q v w) : Piece (P ∧ Q) (t ++ v) (u ++ w) :=
  ⟨ht.left.tail hv.left, ht.right.tail hv.right, ht.apart.append hv.apart hv.left hv.right⟩

theorem Tail.append (ht : Tail P t u) (hv : Tail Q v w) : Tail (P ∧ Q) (t ++ v) (u ++ w) :=
  ⟨ht.left.append hv.left, ht.right.append hv.right, ht.apart.append hv.apart hv.left hv.right⟩

/-- What stands between brackets may be empty. -/
theorem Apart.enclosed (h : Apart P t u) {k : Text} (first : breaks k) (last : stops k)
    {o : Text} (opens : starts o) : Piece P (o ++ t ++ k) (o ++ u ++ k) := by
  refine ⟨solid_iff.mpr ⟨?_, stops_append last _⟩, solid_iff.mpr ⟨?_, stops_append last _⟩, ?_⟩
  · exact starts_append (starts_append opens t) k
  · exact starts_append (starts_append opens u) k
  · have closed : IsTail k := .inr ⟨first, last⟩
    exact ((h.lead o).append (.same True.intro k) closed closed).imp And.left

/-- Without the same beginning. -/
theorem Tail.behind {k : Text} (h : Tail P (k ++ t) (k ++ u)) (first : starts t)
    (first' : starts u) : Piece P t u := by
  have solid {x : Text} (first : starts x) (tail : IsTail (k ++ x)) : Solid x := by
    refine solid_iff.mpr ⟨first, ?_⟩
    rcases List.eq_nil_or_concat x with rfl | ⟨rest, c, rfl⟩
    · cases first
    · rcases tail with empty | ⟨_, last⟩
      · simp at empty
      · simpa [stops, ← List.append_assoc] using last
  refine ⟨solid first h.left, solid first' h.right, ?_⟩
  intro r s hr hs same
  obtain ⟨p, whole⟩ := h.apart r s hr hs (by rw [List.append_assoc, List.append_assoc, same])
  exact ⟨p, List.append_cancel_left whole⟩

/-! ### Lists of texts -/

/-- Texts for the elements of two lists, one by one. -/
inductive Pieces : Prop → List Text → List Text → Prop
  | nil {P : Prop} (p : P) : Pieces P [] []
  | cons {P Q R : Prop} {t u : Text} {ts us : List Text} (first : Piece P t u)
    (later : Pieces Q ts us) (whole : P → Q → R) : Pieces R (t :: ts) (u :: us)

variable {ts us vs ws : List Text}

namespace Pieces

theorem imp (h : Pieces P ts us) (whole : P → Q) : Pieces Q ts us := by
  cases h with
  | nil p => exact .nil (whole p)
  | cons first later all => exact .cons first later fun p q => whole (all p q)

theorem append (ht : Pieces P ts us) (hv : Pieces Q vs ws) :
    Pieces (P ∧ Q) (ts ++ vs) (us ++ ws) := by
  induction ht with
  | nil p => exact hv.imp fun q => ⟨p, q⟩
  | cons first _ whole ih =>
    exact .cons first ih fun p both => ⟨whole p both.1, both.2⟩

theorem single (h : Piece P t u) : Pieces P [t] [u] :=
  .cons h (.nil True.intro) fun p _ => p

/-- Each element with the same text before it. -/
theorem after (h : Pieces P ts us) {k : Text} (first : breaks k) :
    Tail P (ts.flatMap (k ++ ·)) (us.flatMap (k ++ ·)) := by
  induction h with
  | nil p => exact .nil p
  | cons one _ whole ih =>
    simp only [List.flatMap_cons]
    exact ((one.after first).append ih).imp fun both => whole both.1 both.2

end Pieces

theorem join_cons (separator t : Text) (ts : List Text) :
    Text.join separator (t :: ts) = t ++ ts.flatMap (separator ++ ·) := by
  induction ts generalizing t with
  | nil => simp [Text.join_singleton]
  | cons u rest ih => rw [Text.join_cons_cons, ih, List.flatMap_cons, List.append_assoc,
      List.append_assoc]

theorem Pieces.join_cons (first : Piece P t u) (later : Pieces Q ts us) {k : Text}
    (separator : breaks k) :
    Piece (P ∧ Q) (Text.join k (t :: ts)) (Text.join k (u :: us)) := by
  rw [BodyDigest.join_cons, BodyDigest.join_cons]
  exact first.append (later.after separator)

theorem Pieces.join (h : Pieces P ts us) {k : Text} (separator : breaks k) :
    Apart P (Text.join k ts) (Text.join k us) := by
  cases h with
  | nil p => exact .same p _
  | cons first later whole =>
    exact (Pieces.join_cons first later separator).apart.imp fun both => whole both.1 both.2

end BodyDigest
