import Mathlib.Data.List.Forall2
import BodyDigest.Proofs.Rereading
import BodyDigest.Proofs.Indented.Telling.Statements

/-!
Edits of a body show. Where each fragment is read as the statement that it was cut out of, another
literal, name or operator makes another canonical text.
-/
namespace BodyDigest

open Indented

theorem Pieces.solid {P : Prop} {ts us : List Text} (h : Pieces P ts us) :
    (∀ t ∈ ts, Solid t) ∧ ∀ u ∈ us, Solid u := by
  induction h with
  | nil => simp
  | cons first _ _ ih =>
    rw [List.forall_mem_cons, List.forall_mem_cons]
    exact ⟨⟨first.left, ih.1⟩, first.right, ih.2⟩

namespace Canonical

/-- Trimming does not change what needs none. -/
theorem joined_solid {ts : List Text} (solid : ∀ t ∈ ts, Solid t) :
    Text.trim (Text.join "\n" ((ts.map Text.trim).filter (!·.isEmpty))) = Text.join "\n" ts := by
  have trimmed : ts.map Text.trim = ts :=
    (List.map_congr_left fun t member => Text.trim_solid (solid t member)).trans (List.map_id ts)
  have shown : ts.filter (!·.isEmpty) = ts :=
    List.filter_eq_self.mpr fun t member => by simpa using (solid t member).ne_nil
  rw [trimmed, shown]
  cases ts with
  | nil => rfl
  | cons t rest => exact Text.trim_solid (Text.join_solid (by simp) solid)

/-- The text of a body that keeps its statements is that of the statements, one below the other. -/
theorem ofBody_of_keeps {b : Body} {kept : List (Stmt Place)} (h : Keeps b kept)
    (plain : ∀ s ∈ kept, Render.documentation? s = none) {text : Text}
    (shown : ofBody b = .ok text) : ∃ ts,
      (shapes kept).mapM (fun s => (Render.statement s).mapError FragmentError.render) = .ok ts ∧
      text = Text.trim (Text.join "\n" ((ts.map Text.trim).filter (!·.isEmpty))) := by
  rw [ofBody, fragmentTexts_of_keeps h plain] at shown
  obtain ⟨ts, texts, joined⟩ := except_bind_ok_iff.mp shown
  exact ⟨ts, texts, (Except.ok.inj joined).symm⟩

theorem statements_pieces {ss ss' : List (Stmt Unit)} (form : List.Forall₂ StmtForm ss ss') :
    Both (Pieces (ss = ss')) (ss.mapM fun s => (Render.statement s).mapError FragmentError.render)
      (ss'.mapM fun s => (Render.statement s).mapError FragmentError.render) := by
  induction form with
  | nil => exact .ok (.nil rfl)
  | cons first _ ih =>
    rw [List.mapM_cons, List.mapM_cons]
    refine ((Render.statement_piece first).mapError _).bind fun _ _ one => ih.bind
      fun _ _ others => .pure (.cons one others ?_)
    rintro rfl rfl
    rfl

theorem ofBody_tells {b c : Body} {kept others : List (Stmt Place)} (hb : Keeps b kept)
    (hc : Keeps c others) (plain : ∀ s ∈ kept, Render.documentation? s = none)
    (plain' : ∀ s ∈ others, Render.documentation? s = none)
    (form : List.Forall₂ StmtForm (shapes kept) (shapes others)) {text : Text}
    (shown : ofBody b = .ok text) (shown' : ofBody c = .ok text) : shapes kept = shapes others := by
  obtain ⟨ts, texts, rfl⟩ := ofBody_of_keeps hb plain shown
  obtain ⟨us, texts', same⟩ := ofBody_of_keeps hc plain' shown'
  have pieces := statements_pieces form ts us texts texts'
  rw [joined_solid pieces.solid.1, joined_solid pieces.solid.2] at same
  exact (pieces.join rfl).eq same

end Canonical

end BodyDigest
