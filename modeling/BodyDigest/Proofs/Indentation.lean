import BodyDigest.Canonical
import BodyDigest.Proofs.Text.Pieces
import BodyDigest.Proofs.Text.Plain
import Mathlib.Data.List.Forall2

/-!
Where a fragment of statements stands does not count: indented as a whole it keeps its canonical text,
however its own lines are indented. The margin of the lines that are moved is the indentation they are
moved by, followed by the margin they had.
-/
namespace BodyDigest

/-! ### Lines that are moved -/

/-- A line with an indentation put in front; a line of spaces and tabs may stay as it is. -/
inductive Moved {α : Type} (isIndent : α → Bool) (p : List α) : List α → List α → Prop where
  | indented (l : List α) : Moved isIndent p l (p ++ l)
  | blank {l : List α} (only : l.all isIndent) : Moved isIndent p l l

namespace Margin

variable {p l m : List Char} {ls ms : List (List Char)}

theorem commonPrefix_append (p l m : List Char) :
    commonPrefix (p ++ l) (p ++ m) = p ++ commonPrefix l m := by
  induction p with
  | nil => rfl
  | cons c rest ih => simp [commonPrefix, ih]

theorem foldl_commonPrefix_append (p l : List Char) (ls : List (List Char)) :
    (ls.map (p ++ ·)).foldl commonPrefix (p ++ l) = p ++ ls.foldl commonPrefix l := by
  induction ls generalizing l with
  | nil => rfl
  | cons m rest ih => rw [List.map_cons, List.foldl_cons, commonPrefix_append, ih, List.foldl_cons]

theorem commonPrefix_begins (l m : List Char) :
    commonPrefix l m <+: l ∧ commonPrefix l m <+: m := by
  fun_induction commonPrefix l m with
  | case1 r a s ih => exact ⟨(List.prefix_cons_inj a).mpr ih.1, (List.prefix_cons_inj a).mpr ih.2⟩
  | case2 => exact ⟨List.nil_prefix, List.nil_prefix⟩
  | case3 => exact ⟨List.nil_prefix, List.nil_prefix⟩

theorem foldl_commonPrefix_begins (l : List Char) (ls : List (List Char)) :
    ls.foldl commonPrefix l <+: l ∧ ∀ m ∈ ls, ls.foldl commonPrefix l <+: m := by
  induction ls generalizing l with
  | nil => exact ⟨List.prefix_rfl, by simp⟩
  | cons m rest ih =>
    obtain ⟨whole, each⟩ := ih (commonPrefix l m)
    obtain ⟨left, right⟩ := commonPrefix_begins l m
    refine ⟨whole.trans left, fun k member => ?_⟩
    rcases List.mem_cons.mp member with rfl | later
    · exact whole.trans right
    · exact each k later

/-- The indentations of the lines that hold more than spaces and tabs. -/
def indents (ls : List (List Char)) : List (List Char) :=
  (ls.filter fun l => !l.all isIndent).map (·.takeWhile isIndent)

theorem mem_indents (member : l ∈ ls) (holds : ¬ l.all isIndent) :
    l.takeWhile isIndent ∈ indents ls :=
  List.mem_map_of_mem (List.mem_filter.mpr ⟨member, by simpa using holds⟩)

theorem margin_eq (ls : List (List Char)) : margin ls =
    match indents ls with
    | [] => []
    | first :: others => others.foldl commonPrefix first := rfl

/-- The margin is a beginning of every line that holds something. -/
theorem margin_begins (member : l ∈ ls) (holds : ¬ l.all isIndent) : margin ls <+: l := by
  have inside := mem_indents member holds
  refine List.IsPrefix.trans ?_ (List.takeWhile_prefix isIndent)
  rw [margin_eq]
  cases found : indents ls with
  | nil => simp [found] at inside
  | cons first others =>
    rw [found] at inside
    obtain ⟨whole, each⟩ := foldl_commonPrefix_begins first others
    rcases List.mem_cons.mp inside with same | later
    · rw [same]
      exact whole
    · exact each _ later

/-- A line, emptied if it holds spaces and tabs only. -/
def emptied (l : List Char) : List Char := if l.all isIndent then [] else l

/-- Puts an indentation in front of a line that holds something. -/
def indent (p l : List Char) : List Char := if l.all isIndent then l else p ++ l

theorem all_append (only : p.all isIndent) (l : List Char) :
    (p ++ l).all isIndent = l.all isIndent := by
  rw [List.all_append, only, Bool.true_and]

theorem emptied_of_moved (only : p.all isIndent) (h : Moved isIndent p l m) :
    emptied m = indent p (emptied l) := by
  cases h with
  | indented => by_cases blank : l.all isIndent <;> simp [emptied, indent, all_append only, blank]
  | blank blank => simp [emptied, indent, blank]

theorem emptied_moved (only : p.all isIndent) (h : List.Forall₂ (Moved isIndent p) ls ms) :
    ms.map emptied = (ls.map emptied).map (indent p) := by
  induction h with
  | nil => rfl
  | cons first _ ih => simp only [List.map_cons, emptied_of_moved only first, ih]

theorem indents_indent (only : p.all isIndent) (ls : List (List Char)) :
    indents (ls.map (indent p)) = (indents ls).map (p ++ ·) := by
  induction ls with
  | nil => rfl
  | cons l rest ih =>
    simp only [indents] at ih
    by_cases blank : l.all isIndent
    · simp [indents, indent, blank, ih]
    · simp [indents, indent, all_append only, blank, ih,
        List.takeWhile_append_of_pos (List.all_eq_true.mp only)]

/-- The margin of lines that are moved, if one of them holds something. -/
theorem margin_indent (only : p.all isIndent) (member : l ∈ ls) (holds : ¬ l.all isIndent) :
    margin (ls.map (indent p)) = p ++ margin ls := by
  have inside := mem_indents member holds
  rw [margin_eq, margin_eq, indents_indent only]
  cases found : indents ls with
  | nil => simp [found] at inside
  | cons first others => exact foldl_commonPrefix_append p first others

/-- A line without the margin in front. -/
def without (m l : List Char) : List Char := if m.isPrefixOf l then l.drop m.length else l

theorem remove_eq (cs : List Char) : remove cs = List.intercalate ['\n']
    (((lines cs).map emptied).map (without (margin ((lines cs).map emptied)))) := rfl

theorem without_indent (p : List Char) (starts : m <+: l) :
    without (p ++ m) (p ++ l) = without m l := by
  obtain ⟨rest, rfl⟩ := starts
  have both : (p ++ m) <+: p ++ (m ++ rest) := by simp
  rw [without, if_pos (List.isPrefixOf_iff_prefix.mpr both), without,
    if_pos (List.isPrefixOf_iff_prefix.mpr (List.prefix_append m rest))]
  simp

theorem without_nil (m : List Char) : without m [] = [] := by simp [without]

/-- Lines of which each is empty or holds something keep what stands behind their margin. -/
theorem without_margin (only : p.all isIndent) (each : ∀ l ∈ ls, l = [] ∨ ¬ l.all isIndent) :
    (ls.map (indent p)).map (without (margin (ls.map (indent p)))) =
      ls.map (without (margin ls)) := by
  rw [List.map_map]
  refine List.map_congr_left fun l member => ?_
  rcases each l member with rfl | holds
  · simp [indent, without_nil]
  · rw [Function.comp_apply, indent, if_neg holds, margin_indent only member holds,
      without_indent p (margin_begins member holds)]

theorem remove_of_moved {cs ds : List Char} (only : p.all isIndent)
    (h : List.Forall₂ (Moved isIndent p) (lines cs) (lines ds)) : remove ds = remove cs := by
  rw [remove_eq, remove_eq, emptied_moved only h, without_margin only]
  intro l member
  obtain ⟨k, -, rfl⟩ := List.mem_map.mp member
  by_cases blank : k.all isIndent <;> simp [emptied, blank]

end Margin

/-! ### Texts -/

namespace Text

variable {p t u : Text} {c : CodePoint}

/-- The lines of a text, which only line feeds end. -/
def lines (t : Text) : List Text := pieces (· = .char '\n') t

def isIndent (c : CodePoint) : Bool := c = .char ' ' || c = .char '\t'

/-- All lines of a text are moved by one indentation, which holds spaces and tabs. -/
structure IsIndented (p t u : Text) : Prop where
  only : p.all isIndent
  moved : List.Forall₂ (Moved isIndent p) t.lines u.lines

theorem mem_iff_of_moved (visible : isIndent c = false) {ls ms : List Text} (only : p.all isIndent)
    (h : List.Forall₂ (Moved isIndent p) ls ms) : (∃ m ∈ ms, c ∈ m) ↔ ∃ l ∈ ls, c ∈ l := by
  have absent : c ∉ p := fun member => by simp [List.all_eq_true.mp only c member] at visible
  induction h with
  | nil => simp
  | cons first _ ih =>
    rw [List.exists_mem_cons_iff, List.exists_mem_cons_iff]
    refine or_congr ?_ ih
    cases first with
    | indented => rw [List.mem_append, or_iff_right absent]
    | blank => rfl

/-- A text that is moved has the same code points, but for spaces and tabs. -/
theorem IsIndented.mem_iff (h : IsIndented p t u) (inside : c ≠ .char '\n')
    (visible : isIndent c = false) : c ∈ u ↔ c ∈ t := by
  rw [← mem_pieces_iff (p := (· = .char '\n')) (decide_eq_false inside),
    ← mem_pieces_iff (p := (· = .char '\n')) (decide_eq_false inside)]
  exact mem_iff_of_moved visible h.only h.moved

theorem IsIndented.isPlain_iff (h : IsIndented p t u) : IsPlain u ↔ IsPlain t := by
  simp only [Text.isPlain_iff, h.mem_iff (c := .surrogate _) (by simp) (by simp [isIndent])]

theorem lines_chars (t : Text) : Margin.lines t.chars = t.lines.map chars := by
  induction t with
  | nil => rfl
  | cons c rest ih =>
    simp only [Margin.lines, lines] at ih
    cases c with
    | char d =>
      rw [chars_cons_char, Margin.lines, lines, pieces, pieces, ih]
      by_cases ends : d = '\n'
      · simp [ends]
      · rw [if_neg (by simpa using ends), if_neg (by simpa using ends)]
        cases pieces _ rest <;> rfl
    | surrogate offset =>
      obtain ⟨first, others, later, whole⟩ :=
        pieces_cons_of_not (p := (· = .char '\n')) (a := .surrogate offset) rfl rest
      rw [lines, whole, Margin.lines]
      change pieces _ (chars rest) = _
      rw [ih, later]
      rfl

theorem all_isIndent_chars (h : t.all isIndent) : t.chars.all Margin.isIndent := by
  rw [List.all_eq_true] at h ⊢
  intro d member
  obtain ⟨c, inside, read⟩ := List.mem_filterMap.mp member
  cases c with
  | char e =>
    cases read
    simpa [isIndent, Margin.isIndent] using h _ inside
  | surrogate offset => cases read

theorem moved_chars {l m : Text} (h : Moved isIndent p l m) :
    Moved Margin.isIndent p.chars l.chars m.chars := by
  cases h with
  | indented =>
    rw [chars_append]
    exact .indented _
  | blank only => exact .blank (all_isIndent_chars only)

/-- The characters of a text that is moved, without its margin. -/
theorem IsIndented.remove (h : IsIndented p t u) : Margin.remove u.chars = Margin.remove t.chars := by
  refine Margin.remove_of_moved (all_isIndent_chars h.only) ?_
  rw [lines_chars, lines_chars, List.forall₂_map_left_iff, List.forall₂_map_right_iff]
  exact h.moved.imp fun _ _ => moved_chars

end Text

namespace Canonical

open Indented

variable {p t u : Text} {kind : BodyKind}

/-- A text that is moved is a source if it was one before. -/
theorem sourceChars_of_indented (h : Text.IsIndented p t u) :
    (∃ e, sourceChars t = .error e ∧ sourceChars u = .error e) ∨
      sourceChars t = .ok t.chars ∧ sourceChars u = .ok u.chars := by
  have null : '\x00' ∈ u.chars ↔ '\x00' ∈ t.chars := by
    rw [Text.mem_chars_iff, Text.mem_chars_iff]
    exact h.mem_iff (by decide) (by decide)
  have of_plain {v : Text} (plain : v.IsPlain) : sourceChars v =
      if '\x00' ∈ v.chars then .error .nullCharacter else .ok v.chars := by
    rw [sourceChars, ← Text.ofChars_chars plain, Text.chars?_ofChars]
    simp
  by_cases plain : t.IsPlain
  · rw [of_plain plain, of_plain (h.isPlain_iff.mpr plain)]
    by_cases held : '\x00' ∈ t.chars
    · exact .inl ⟨_, if_pos held, if_pos (null.mpr held)⟩
    · exact .inr ⟨if_neg held, if_neg fun inside => held (null.mp inside)⟩
  · refine .inl ⟨.loneSurrogate, ?_, ?_⟩
    · rw [sourceChars, Text.chars?_eq_none plain]
    · rw [sourceChars, Text.chars?_eq_none fun moved => plain (h.isPlain_iff.mp moved)]

theorem pythonText_of_ne (statements : kind ≠ .expression) (fragment : Text) :
    pythonText kind fragment = (do
      let cs ← (sourceChars fragment).mapError .source
      statementsText cs) := by
  cases kind with
  | expression => exact absurd rfl statements
  | statements => rfl
  | other name => rfl

theorem pythonText_of_indented (h : Text.IsIndented p t u) (statements : kind ≠ .expression) :
    pythonText kind u = pythonText kind t := by
  rw [pythonText_of_ne statements, pythonText_of_ne statements]
  rcases sourceChars_of_indented h with ⟨e, before, after⟩ | ⟨before, after⟩
  · rw [before, after]
  · rw [before, after]
    change statementsText _ = statementsText _
    rw [statementsText, statementsText, h.remove]

/-- Indented as a whole, by any spaces and tabs, a fragment of statements keeps the text of its body,
or keeps it from having one. -/
theorem text_of_indented (h : Text.IsIndented p t u) (statements : kind ≠ .expression)
    (before after : List Text) :
    text (some ⟨kind, before ++ u :: after, python⟩) =
      text (some ⟨kind, before ++ t :: after, python⟩) := by
  have each : List.mapM (pythonText kind) (before ++ u :: after) =
      List.mapM (pythonText kind) (before ++ t :: after) := by
    rw [List.mapM_append, List.mapM_append, List.mapM_cons, List.mapM_cons,
      pythonText_of_indented h statements]
  have reading (fragments : List Text) :
      fragmentText ⟨kind, fragments, python⟩ = pythonText kind := by
    funext f
    rw [fragmentText, if_pos rfl]
  rw [text, text, ofBody, ofBody, reading, reading, each]

/-- Lines that are indented by a tab or not at all, and a line of two spaces. -/
def branch : Text := "if a:\n\tb\n  \nc"

/-- The same lines behind a tab and a space, but for the line of two spaces. -/
def branchMoved : Text := "\t if a:\n\t \tb\n  \n\t c"

theorem branch_keeps_its_text : Text.IsIndented "\t " branch branchMoved ∧
    text (some ⟨.statements, ["x = 1", branchMoved], python⟩) = .ok "x = 1\nif a:\n    b\nc" := by
  have moved : Text.IsIndented "\t " branch branchMoved :=
    ⟨rfl, .cons (.indented _) (.cons (.indented _) (.cons (.blank rfl) (.cons (.indented _) .nil)))⟩
  have statements : BodyKind.statements ≠ .expression := by decide
  refine ⟨moved, (text_of_indented moved statements ["x = 1"] []).trans ?_⟩
  decide +kernel

end Canonical

end BodyDigest
