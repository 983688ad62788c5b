import BodyDigest.Proofs.Discrimination
import BodyDigest.Proofs.Braced.Boundaries
import BodyDigest.Proofs.Braced.Forms

/-!
Literals in the canonical text of a body in a language with braces. A literal that ends in its place is
one token, and all of it is in the canonical text, so that bodies which differ in it have different
texts. Of a literal that is cut short this is not true: white space in it is lost.
-/
namespace BodyDigest

/-! ### Texts around a part that is kept -/

section Trimming

variable {α : Type} {p : α → Bool} {a : α}

theorem dropWhile_around (stop : p a = false) (xs ys : List α) :
    (xs ++ a :: ys).dropWhile p = xs.dropWhile p ++ a :: ys := by
  induction xs with
  | nil => rw [List.nil_append, List.dropWhile_cons_of_neg (by simp [stop])]; rfl
  | cons x xs ih => by_cases drop : p x <;> simp [drop, ih]

theorem trimEnd_around (stop : p a = false) (xs ys : List α) :
    trimEnd p (xs ++ a :: ys) = xs ++ a :: trimEnd p ys := by
  rw [trimEnd, List.reverse_append, List.reverse_cons, List.append_assoc, List.singleton_append,
    dropWhile_around stop]
  simp [trimEnd]

end Trimming

/-- What is made of a text that trimming keeps: the text itself, always between the same two. -/
def Frames (make : Text → Text) : Prop :=
  ∃ before after, ∀ t, Solid t → make t = before ++ t ++ after

namespace Frames

variable {make : Text → Text}

theorem id : Frames fun t => t := ⟨[], [], by simp⟩

theorem around (h : Frames make) (before after : Text) :
    Frames fun t => before ++ make t ++ after := by
  obtain ⟨a, b, same⟩ := h
  refine ⟨before ++ a, b ++ after, fun t solid => ?_⟩
  simp [same t solid]

theorem join (h : Frames make) (separator : Text) (before after : List Text) :
    Frames fun t => Text.join separator (before ++ make t :: after) := by
  induction before with
  | nil =>
    cases after with
    | nil => simpa [Text.join_singleton] using h
    | cons u after =>
      have framed := h.around [] (separator ++ Text.join separator (u :: after))
      simpa [Text.join_cons_cons] using framed
  | cons s before ih =>
    have framed := ih.around (s ++ separator) []
    obtain ⟨a, b, same⟩ := framed
    refine ⟨a, b, fun t solid => ?_⟩
    rw [← same t solid]
    cases before <;> simp [Text.join_cons_cons]

theorem trim (h : Frames make) : Frames fun t => Text.trim (make t) := by
  obtain ⟨a, b, same⟩ := h
  refine ⟨a.dropWhile CodePoint.isBlank, Text.trimRight b, fun t solid => ?_⟩
  obtain ⟨c, more, first, left⟩ := solid.first
  obtain ⟨front, d, last, right⟩ := solid.last
  have whole : a ++ t ++ b = a ++ c :: (more ++ b) := by simp [first]
  have ended : a.dropWhile CodePoint.isBlank ++ c :: (more ++ b) =
      (a.dropWhile CodePoint.isBlank ++ front) ++ d :: b := by
    rw [← List.cons_append, ← first, last]
    simp
  change trimEnd CodePoint.isBlank ((make t).dropWhile CodePoint.isBlank) = _
  rw [same t solid, whole, dropWhile_around left, ended, trimEnd_around right, last]
  simp [Text.trimRight]

/-- Nothing of the text between is lost. -/
theorem injective (h : Frames make) {t u : Text} (ht : Solid t) (hu : Solid u)
    (same : make t = make u) : t = u := by
  obtain ⟨a, b, framed⟩ := h
  rw [framed t ht, framed u hu] at same
  exact List.append_cancel_left (List.append_cancel_right same)

theorem ne_nil (h : Frames make) {t : Text} (solid : Solid t) : make t ≠ [] := by
  obtain ⟨a, b, framed⟩ := h
  rw [framed t solid]
  simp [solid.ne_nil]

end Frames

namespace Canonical

open Braced Braced.Lexeme

/-! ### Tokens in the text of a body -/

/-- The text of a fragment is made from any of its tokens but a semicolon. -/
theorem tokenText_framed (kind : BodyKind) (earlier later : List Text) : ∃ make, Frames make ∧
    ∀ fragment t, t ≠ (";" : Text) → tokens fragment = earlier ++ t :: later →
      tokenText kind fragment = make t := by
  have plain : ∀ fragment t, tokens fragment = earlier ++ t :: later →
      Text.join " " (tokens fragment) = Text.join " " (earlier ++ t :: later) :=
    fun fragment t found => by rw [found]
  cases kind with
  | expression =>
    refine ⟨_, Frames.id.join " " earlier (trimEnd (· = (";" : Text)) later), ?_⟩
    intro fragment t other found
    have kept := trimEnd_around (p := (· = (";" : Text))) (decide_eq_false other) earlier later
    rw [tokenText, found]
    exact congrArg (Text.join " ") kept
  | statements => exact ⟨_, Frames.id.join " " earlier later, fun fragment t _ => plain fragment t⟩
  | other name => exact ⟨_, Frames.id.join " " earlier later, fun fragment t _ => plain fragment t⟩

/-- The text of a body is made from any token of any of its fragments but a semicolon. -/
theorem text_framed {language : Text} (kind : BodyKind) (braced : language ≠ python)
    (front back : List Text) (earlier later : List Text) : ∃ make, Frames make ∧
      ∀ fragment t, Solid t → t ≠ (";" : Text) → tokens fragment = earlier ++ t :: later →
        text (some ⟨kind, front ++ fragment :: back, language⟩) = .ok (make t) := by
  obtain ⟨make, framed, made⟩ := tokenText_framed kind earlier later
  let texts (fragments : List Text) : List Text :=
    ((fragments.map (tokenText kind)).map Text.trim).filter (!·.isEmpty)
  refine ⟨_, (framed.trim.join "\n" (texts front) (texts back)).trim, ?_⟩
  intro fragment t solid other found
  have some_text : (!(Text.trim (tokenText kind fragment)).isEmpty) = true := by
    rw [made fragment t other found]
    simpa using framed.trim.ne_nil solid
  have split : texts (front ++ fragment :: back) =
      texts front ++ Text.trim (tokenText kind fragment) :: texts back := by
    simp only [texts, List.map_append, List.map_cons, List.filter_append, List.filter_cons, some_text,
      if_true]
  rw [text_of_braced braced]
  change Except.ok (Text.trim (Text.join "\n" (texts (front ++ fragment :: back)))) = _
  rw [split, made fragment t other found]

theorem statementTokens_split {kind : BodyKind} {language fragment : Text} {front back : List Text}
    (some_tokens : tokens fragment ≠ []) :
    statementTokens ⟨kind, front ++ fragment :: back, language⟩ =
      statementTokens ⟨kind, front, language⟩ ++
        tokens fragment :: statementTokens ⟨kind, back, language⟩ := by
  simp [statementTokens, some_tokens]

/-! ### Literals in bodies -/

/-- A body with a place for a literal in one of its fragments. -/
structure Slot where
  kind : BodyKind
  language : Text
  front : List Text
  before : Text
  after : Text
  back : List Text

namespace Slot

variable {s s' : Slot} {f g : Form}

def fragment (s : Slot) (f : Form) : Text := s.before ++ (f.text ++ s.after)

def body (s : Slot) (f : Form) : Body := ⟨s.kind, s.front ++ s.fragment f :: s.back, s.language⟩

/-- A literal that ends in its place, where a lexeme ends in front of it and no quote follows. -/
structure Takes (s : Slot) (f : Form) : Prop where
  wellFormed : f.IsWellFormed
  inPlace : f.EndsInPlace
  bound : EndsBehind s.before (f.text ++ s.after)
  single : s.after.head? ≠ some (.char '"')

/-- Literals behind the same front are one token each, behind the same tokens. -/
theorem tokens_of_takes (hf : s.Takes f) (hg : s'.Takes g) (same : s'.before = s.before) :
    ∃ earlier, tokens (s.fragment f) = earlier ++ f.text :: tokens s.after ∧
      tokens (s'.fragment g) = earlier ++ g.text :: tokens s'.after := by
  obtain ⟨ls, split_f, split_g⟩ := ofText_of_endsBehind hf.bound (same ▸ hg.bound)
  rw [Form.ofText_of_endsInPlace hf.wellFormed hf.inPlace hf.single] at split_f
  rw [Form.ofText_of_endsInPlace hg.wellFormed hg.inPlace hg.single] at split_g
  refine ⟨(ls.filter isToken).map (·.text), ?_, ?_⟩
  · rw [tokens, fragment, split_f, List.filter_append, List.map_append]
    rfl
  · rw [tokens, fragment, same, split_g, List.filter_append, List.map_append]
    rfl

/-- One literal makes the difference, in a body of any kind. -/
theorem texts_differ (braced : s.language ≠ python) (hf : s.Takes f) (hg : s.Takes g)
    (differ : f.text ≠ g.text) :
    ∃ x y, text (some (s.body f)) = .ok x ∧ text (some (s.body g)) = .ok y ∧ x ≠ y := by
  obtain ⟨earlier, found_f, found_g⟩ := tokens_of_takes hf hg rfl
  obtain ⟨make, framed, made⟩ := text_framed s.kind braced s.front s.back earlier (tokens s.after)
  have solid_f := Form.text_solid hf.wellFormed
  have solid_g := Form.text_solid hg.wellFormed
  exact ⟨make f.text, make g.text,
    made _ _ solid_f (Form.text_ne_semicolon hf.wellFormed) found_f,
    made _ _ solid_g (Form.text_ne_semicolon hg.wellFormed) found_g,
    fun same => differ (framed.injective solid_f solid_g same)⟩

/-- Where every quote belongs to a literal, nothing behind a literal makes up for a difference in it. -/
theorem texts_differ_from (same_front : s'.front = s.front) (same_before : s'.before = s.before)
    (hf : s.Takes f) (hg : s'.Takes g) (differ : f.text ≠ g.text) (lexical_f : Lexical (s.body f))
    (lexical_g : Lexical (s'.body g)) :
    ∃ x y, text (some (s.body f)) = .ok x ∧ text (some (s'.body g)) = .ok y ∧ x ≠ y := by
  obtain ⟨earlier, found_f, found_g⟩ := tokens_of_takes hf hg same_before
  refine ⟨_, _, text_of_lexical lexical_f, text_of_lexical lexical_g, fun same => differ ?_⟩
  have lines := joined_tokens (statementTokens_lines lexical_f) (statementTokens_lines lexical_g) same
  rw [body, body, statementTokens_split (by simp [found_f]), statementTokens_split (by simp [found_g]),
    same_front] at lines
  have front : statementTokens ⟨s'.kind, s.front, s'.language⟩ =
      statementTokens ⟨s.kind, s.front, s.language⟩ := rfl
  rw [front, List.append_cancel_left_eq, found_f, found_g, List.cons.injEq,
    List.append_cancel_left_eq, List.cons.injEq] at lines
  exact lines.1.1

end Slot

/-- A literal as its language writes it is one token exactly if it ends in its place. Bodies that
differ in one such literal have different canonical texts, and so have bodies that differ in such a
literal first. -/
theorem literals_are_kept {f : Form} (wellFormed : f.IsWellFormed) :
    (tokens f.text = [f.text] ↔ f.EndsInPlace) ∧
    (∀ (s : Slot) (g : Form), s.language ≠ python → s.Takes f → s.Takes g → f.text ≠ g.text →
      ∃ x y, text (some (s.body f)) = .ok x ∧ text (some (s.body g)) = .ok y ∧ x ≠ y) ∧
    ∀ (s s' : Slot) (g : Form), s'.front = s.front → s'.before = s.before →
      s.Takes f → s'.Takes g → f.text ≠ g.text → Lexical (s.body f) → Lexical (s'.body g) →
        ∃ x y, text (some (s.body f)) = .ok x ∧ text (some (s'.body g)) = .ok y ∧ x ≠ y :=
  ⟨Form.tokens_text_iff wellFormed, fun _ _ => Slot.texts_differ,
    fun _ _ _ => Slot.texts_differ_from⟩

/-- A literal behind an at sign, with a quote, a line end and blanks in it. -/
def verbatimLines (blanks : Nat) : Form :=
  .verbatim 1 0 (quotes 1 ++ .char '\n' :: List.replicate blanks (.char ' '))

/-- The assignment of a literal, in front of a comment. -/
def assignment (kind : BodyKind) (back : List Text) : Slot :=
  ⟨kind, "csharp", [], "s = ", "; // \"\"\"", back⟩

theorem assignment_takes {blanks : Nat}
    (bound : EndsBehind "s = " ((verbatimLines blanks).text ++ "; // \"\"\"")) (kind : BodyKind)
    (back : List Text) : (assignment kind back).Takes (verbatimLines blanks) :=
  ⟨trivial, trivial, bound, by rintro ⟨⟩⟩

theorem blank_in_literal_is_kept : tokens (verbatimLines 1).text = [(verbatimLines 1).text] ∧
    text (some ((assignment .expression []).body (verbatimLines 1))) ≠
      text (some ((assignment .expression []).body (verbatimLines 2))) ∧
    text (some ((assignment .statements ["return;"]).body (verbatimLines 1))) ≠
      text (some ((assignment .statements []).body (verbatimLines 2))) := by
  have one := @assignment_takes 1 (endsBehind_of_take 4 (by decide +kernel))
  have two := @assignment_takes 2 (endsBehind_of_take 4 (by decide +kernel))
  have lexical_one : Lexical ((assignment .statements ["return;"]).body (verbatimLines 1)) :=
    ⟨rfl, by decide, by unfold Quoted; decide +kernel⟩
  have lexical_two : Lexical ((assignment .statements []).body (verbatimLines 2)) :=
    ⟨rfl, by decide, by unfold Quoted; decide +kernel⟩
  obtain ⟨whole, inside, behind⟩ := literals_are_kept (f := verbatimLines 1) trivial
  obtain ⟨x, y, hx, hy, other⟩ := inside (assignment .expression []) (verbatimLines 2) (by decide)
    (one _ _) (two _ _) (by decide)
  obtain ⟨u, v, hu, hv, apart⟩ := behind (assignment .statements ["return;"])
    (assignment .statements []) (verbatimLines 2) rfl rfl (one _ _) (two _ _) (by decide)
    lexical_one lexical_two
  refine ⟨whole.mpr trivial, fun same => other ?_, fun same => apart ?_⟩
  · exact Except.ok.inj (hx.symm.trans (same.trans hy))
  · exact Except.ok.inj (hu.symm.trans (same.trans hv))

/-- Literals as their language writes them, which are not one token, and of which the canonical texts
do not tell one from the other. -/
structure Confused (f g : Form) (language : Text) : Prop where
  wellFormed : f.IsWellFormed ∧ g.IsWellFormed
  cut : tokens f.text ≠ [f.text] ∧ tokens g.text ≠ [g.text]
  differ : f.text ≠ g.text
  same : text (some ⟨.statements, [f.text], language⟩) = text (some ⟨.statements, [g.text], language⟩)

/-- A block of text that starts with three quotes, the first of them behind a backslash. -/
def escapedQuotes (blanks : Nat) : Form :=
  .block ([.plain (.char '\n'), .escaped (.char '"'), .plain (.char '"'), .plain (.char '"'),
    .plain (.char 'a')] ++ List.replicate blanks (.plain (.char ' ')) ++ [.plain (.char 'b')])

/-- A raw literal between four quotes, with three in it. -/
def threeQuotes (blanks : Nat) : Form :=
  .raw 0 4 (.char 'a' :: (quotes 3 ++ List.replicate blanks (.char ' ') ++ [.char 'b']))

/-- A raw literal behind a dollar sign, on two lines. -/
def twoLines (blanks : Nat) : Form :=
  .raw 1 3 (.char '\n' :: (List.replicate blanks (.char ' ') ++ [.char 'b', .char '\n']))

theorem literals_cut_short_lose_blanks :
    Confused (escapedQuotes 1) (escapedQuotes 2) "java" ∧
      Confused (threeQuotes 1) (threeQuotes 2) "csharp" ∧ Confused (twoLines 1) (twoLines 2) "csharp" := by
  refine ⟨⟨?_, ?_, ?_, ?_⟩, ⟨?_, ?_, ?_, ?_⟩, ?_, ?_, ?_, ?_⟩ <;> decide +kernel

end Canonical

end BodyDigest
