import Mathlib.Data.List.TakeWhile
import Mathlib.Logic.Relation
import BodyDigest.Proofs.Braced.Tokens

/-!
Blanks and comments between tokens do not matter. Edits put blanks between two lexemes, or in the
place of blanks or of a comment; the tokens stay, although a comment or a literal between three
quotes may look for its end far behind the place of the edit.
-/
namespace BodyDigest.Braced.Lexeme

/-! ### Lexemes and their places -/

/-- The text that lexemes make up. -/
def written (ls : List Lexeme) : Text := ls.flatMap (·.text)

/-- The lexemes that are tokens. -/
def significant (t : Text) : List Lexeme := (ofText t).filter isToken

/-- A lexeme is measured where it starts. -/
theorem mem_ofText {l : Lexeme} {t : Text} (member : l ∈ ofText t) :
    ∃ c u n, measure (c :: u) = (l.kind, n) ∧ l.text = (c :: u).take n := by
  induction size : t.length using Nat.strongRecOn generalizing t with
  | ind size ih =>
    cases t with
    | nil => simp [ofText] at member
    | cons c u =>
      obtain ⟨k, n, measured⟩ : ∃ k n, measure (c :: u) = (k, n) := ⟨_, _, rfl⟩
      have positive := (measure_le measured).1
      rw [ofText_measured measured, List.mem_cons] at member
      rcases member with rfl | later
      · exact ⟨c, u, n, measured, rfl⟩
      · refine ih _ ?_ later rfl
        rw [← size, List.length_drop, List.length_cons]
        omega

theorem ofText_behind {t : Text} {ls rs : List Lexeme} (split : ofText t = ls ++ rs) :
    ofText (written rs) = rs := by
  induction ls generalizing t with
  | nil =>
    have whole := flatMap_ofText t
    rw [List.nil_append] at split
    rw [split] at whole
    rw [written, whole, split]
  | cons l ls ih =>
    cases t with
    | nil => simp [ofText] at split
    | cons c u =>
      obtain ⟨k, n, measured⟩ : ∃ k n, measure (c :: u) = (k, n) := ⟨_, _, rfl⟩
      rw [ofText_measured measured, List.cons_append, List.cons.injEq] at split
      exact ih split.2

theorem significant_behind {t : Text} {ls rs : List Lexeme} (split : ofText t = ls ++ rs) :
    significant (written rs) = rs.filter isToken := by
  rw [significant, ofText_behind split]

theorem comment?_of_measure {t : Text} {n : Nat} (h : measure t = (.comment, n)) :
    comment? t = some n := by
  obtain ⟨m, read, k⟩ | ⟨m, _, _, k⟩ | ⟨m, _, _, k⟩ | ⟨m, _, _, _, k⟩ | ⟨m, _, k⟩ | ⟨m, _, k⟩ |
    ⟨_, _, _, _, k⟩ := measure_cases t <;> cases h.symm.trans k
  exact read

theorem blank?_of_measure {t : Text} {n : Nat} (h : measure t = (.blank, n)) :
    blank? t = some n := by
  obtain ⟨m, _, k⟩ | ⟨m, _, _, k⟩ | ⟨m, _, _, k⟩ | ⟨m, _, _, _, k⟩ | ⟨m, _, k⟩ | ⟨m, read, k⟩ |
    ⟨_, _, _, _, k⟩ := measure_cases t <;> cases h.symm.trans k
  exact read

theorem measure_of_comment {t : Text} {n : Nat} (h : comment? t = some n) :
    measure t = (.comment, n) := by
  rw [measure, h]

/-- A quote that stands alone is a token. -/
theorem isToken_of_lone {l : Lexeme} {t : Text} (member : l ∈ ofText t) {quote : CodePoint}
    (solid : quote.isBlank = false) (slash : quote ≠ .char '/') (lone : l.text = [quote]) :
    l.isToken := by
  obtain ⟨c, u, n, measured, text⟩ := mem_ofText member
  obtain ⟨i, rfl⟩ : ∃ i, n = i + 1 := ⟨n - 1, by have := (measure_le measured).1; omega⟩
  have first : c = quote := by
    rw [text, List.take_succ_cons, List.cons.injEq] at lone
    exact lone.1
  have kinds : l.kind ≠ .comment ∧ l.kind ≠ .blank := by
    constructor <;> intro kind <;> rw [kind] at measured
    · have read := comment?_of_measure measured
      rw [first, comment?_head slash] at read
      cases read
    · have read := blank?_of_measure measured
      simp [blank?, first, solid] at read
  simp [isToken, kinds]

theorem quoted_iff_significant {t : Text} :
    Quoted t ↔ ∀ l ∈ significant t, l.text ≠ [.char '"'] ∧ l.text ≠ [.char '\''] := by
  constructor
  · intro quoted l member
    exact quoted l (List.mem_filter.mp member).1
  · intro kept l member
    constructor <;> intro lone
    · have token := isToken_of_lone member (by decide) (by decide) lone
      exact (kept l (List.mem_filter.mpr ⟨member, token⟩)).1 lone
    · have token := isToken_of_lone member (by decide) (by decide) lone
      exact (kept l (List.mem_filter.mpr ⟨member, token⟩)).2 lone

/-! ### Ends that are looked for behind an edit -/

/-- A run of blanks is crossed by nothing that has none. -/
theorem infix_around_run {run pattern u v : Text} (clear : ∀ c ∈ pattern, c.isBlank = false)
    (blanks : ∀ c ∈ run, c.isBlank) (some_run : run ≠ [])
    (inside : pattern <:+: u ++ (run ++ v)) : pattern <:+: u ∨ pattern <:+: v := by
  induction run generalizing u with
  | nil => exact absurd rfl some_run
  | cons s run ih =>
    have absent : s ∉ pattern := fun member => by
      have blank := blanks s (by simp)
      rw [clear s member] at blank
      cases blank
    rcases infix_around absent inside with before | later
    · exact .inl before
    · by_cases last : run = []
      · subst last
        exact .inr later
      · rcases ih (u := []) (fun c member => blanks c (by simp [member])) last later with
          empty | behind
        · rw [List.infix_nil.mp empty]
          exact .inr List.nil_infix
        · exact .inr behind

theorem upTo?_none_cut {run pattern t after : Text} (clear : ∀ c ∈ pattern, c.isBlank = false)
    (blanks : ∀ c ∈ run, c.isBlank) (some_run : run ≠ []) (none_ : upTo? pattern t = none) {m : Nat}
    (behind : after <:+ t) : upTo? pattern (t.take m ++ (run ++ after)) = none := by
  rw [upTo?_eq_none_iff] at none_ ⊢
  intro inside
  rcases infix_around_run clear blanks some_run inside with before | later
  · exact none_ (before.trans (List.take_prefix m t).isInfix)
  · exact none_ (later.trans behind.isInfix)

/-- What replaces the rest of a text behind its first `m` code points: blanks, and then an end of
that rest. -/
structure Replaces (run after : Text) (m : Nat) (t : Text) : Prop where
  blanks : ∀ c ∈ run, c.isBlank
  some_run : run ≠ []
  behind : after <:+ t.drop m

namespace Replaces

variable {run after t : Text} {m : Nat}

theorem comment?_none (h : Replaces run after m t) (none_ : comment? t = none) :
    comment? (t.take m ++ (run ++ after)) = none := by
  obtain ⟨s, more, rfl⟩ := List.exists_cons_of_ne_nil h.some_run
  have blank := h.blanks s (by simp)
  have slash := blank_ne blank (c := .char '/') rfl
  cases found : comment? (t.take m ++ (s :: more ++ after)) with
  | none => rfl
  | some n =>
    exfalso
    rcases comment?_opening found with starts | starts
    · obtain ⟨rest, whole⟩ := (prefix_of_cut starts (by simp [slash])).trans (List.take_prefix m t)
      rw [← whole] at none_
      cases none_
    · have inside := prefix_of_cut starts (by simp [slash, blank_ne blank (c := .char '*') rfl])
      obtain ⟨rest, rfl⟩ := inside.trans (List.take_prefix m t)
      have two := inside.length_le
      simp only [List.length_cons, List.length_nil, List.length_take] at two
      obtain ⟨i, rfl⟩ : ∃ i, m = i + 2 := ⟨m - 2, by omega⟩
      simp only [comment?, List.cons_append, List.nil_append, List.take_succ_cons,
        Option.map_eq_none_iff] at none_ found
      have behind : after <:+ rest := h.behind.trans (by simpa using List.drop_suffix i rest)
      have again : upTo? "*/" (rest.take i ++ (s :: more ++ after)) = none :=
        upTo?_none_cut (by decide) h.blanks h.some_run none_ behind
      rw [List.cons_append] at again
      rw [again] at found
      cases found

theorem longLiteral?_none (h : Replaces run after m t) (none_ : longLiteral? t = none) :
    longLiteral? (t.take m ++ (run ++ after)) = none := by
  obtain ⟨s, more, rfl⟩ := List.exists_cons_of_ne_nil h.some_run
  have blank := h.blanks s (by simp)
  cases found : longLiteral? (t.take m ++ (s :: more ++ after)) with
  | none => rfl
  | some n =>
    exfalso
    have inside := prefix_of_cut (longLiteral?_opening found)
      (by simp [blank_ne blank (c := .char '"') rfl])
    obtain ⟨rest, rfl⟩ := inside.trans (List.take_prefix m t)
    have three := inside.length_le
    simp only [List.length_replicate, List.length_take] at three
    obtain ⟨i, rfl⟩ : ∃ i, m = i + 3 := ⟨m - 3, by omega⟩
    simp only [longLiteral?, List.replicate_succ, List.replicate_zero, List.cons_append,
      List.nil_append, List.take_succ_cons, Option.map_eq_none_iff] at none_ found
    have behind : after <:+ rest :=
      h.behind.trans (by simpa [List.replicate_succ] using List.drop_suffix i rest)
    have again : upTo? "\"\"\"" (rest.take i ++ (s :: more ++ after)) = none :=
      upTo?_none_cut (by decide) h.blanks h.some_run none_ behind
    rw [List.cons_append] at again
    rw [again] at found
    cases found

/-- An edit behind a token leaves the token. -/
theorem measure_token {c : CodePoint} (h : Replaces run after m (c :: t)) {k : Kind} {n : Nat}
    (measured : measure (c :: t) = (k, n)) (comment : k ≠ .comment) (blank : k ≠ .blank)
    (quoted : Quoted (c :: t)) (within : n ≤ m) :
    measure ((c :: t).take m ++ (run ++ after)) = (k, n) := by
  have no_comment : comment? (c :: t) = none := by
    cases found : comment? (c :: t) with
    | none => rfl
    | some i =>
      cases measured.symm.trans (measure_of_comment found)
      exact absurd rfl comment
  have comments := h.comment?_none no_comment
  have literals := h.longLiteral?_none
  obtain ⟨s, more, rfl⟩ := List.exists_cons_of_ne_nil h.some_run
  exact measure_cut (h.blanks s (by simp)) measured comment blank quoted within _ comments literals

end Replaces

/-! ### Blanks and comments -/

theorem significant_measured {c : CodePoint} {t : Text} {k : Kind} {n : Nat}
    (measured : measure (c :: t) = (k, n)) :
    significant (c :: t) =
      [⟨k, (c :: t).take n⟩].filter isToken ++ significant ((c :: t).drop n) := by
  rw [significant, ofText_measured measured, ← List.singleton_append, List.filter_append,
    significant]

theorem significant_dropWhile (t : Text) :
    significant (t.dropWhile CodePoint.isBlank) = significant t := by
  cases t with
  | nil => rfl
  | cons c t =>
    by_cases blank : c.isBlank
    · rw [List.dropWhile_cons_of_pos blank, significant_measured (measure_blank blank t),
        List.drop_succ_cons]
      have rest : t.drop (t.takeWhile CodePoint.isBlank).length = t.dropWhile CodePoint.isBlank :=
        calc t.drop (t.takeWhile CodePoint.isBlank).length
            = (t.takeWhile CodePoint.isBlank ++ t.dropWhile CodePoint.isBlank).drop
                (t.takeWhile CodePoint.isBlank).length := by rw [List.takeWhile_append_dropWhile]
          _ = t.dropWhile CodePoint.isBlank := List.drop_left
      rw [rest]
      rfl
    · rw [List.dropWhile_cons_of_neg blank]

theorem significant_blanks {run : Text} (blanks : ∀ c ∈ run, c.isBlank) (t : Text) :
    significant (run ++ t) = significant t := by
  rw [← significant_dropWhile, List.dropWhile_append_of_pos blanks, significant_dropWhile]

theorem comment?_line {w u : Text} (inside : ∀ c ∈ w, isLineEnd c = false)
    (ends : ∀ c ∈ u.head?, isLineEnd c) :
    comment? (.char '/' :: .char '/' :: (w ++ u)) = some (w.length + 2) := by
  have run : (w ++ u).takeWhile (!isLineEnd ·) = w := by
    rw [List.takeWhile_append_of_pos (by simpa using inside)]
    cases u with
    | nil => simp
    | cons c u => simp [ends c rfl]
  simp [comment?, run, Nat.add_comm]

/-- A comment up to the end of its line depends on that end, another one on nothing behind it. -/
theorem comment?_cases {t : Text} {n : Nat} (h : comment? t = some n) :
    (∀ other, comment? (t.take n ++ other) = some n) ∨
    ∃ w u, t = .char '/' :: .char '/' :: (w ++ u) ∧ n = w.length + 2 ∧
      (∀ c ∈ w, isLineEnd c = false) ∧ ∀ c ∈ u.head?, isLineEnd c := by
  unfold comment? at h
  split at h
  · rename_i rest
    cases h
    refine .inr ⟨rest.takeWhile (!isLineEnd ·), rest.dropWhile (!isLineEnd ·), ?_, ?_, ?_, ?_⟩
    · rw [List.takeWhile_append_dropWhile]
    · omega
    · intro c member
      simpa using List.all_eq_true.mp List.all_takeWhile c member
    · intro c first
      have stops := List.head?_dropWhile_not (!isLineEnd ·) rest
      rw [Option.mem_def.mp first] at stops
      simpa using stops
  · rename_i rest
    obtain ⟨m, found, rfl⟩ := Option.map_eq_some_iff.mp h
    obtain ⟨before, after, rfl, rfl, again⟩ := upTo?_eq found
    refine .inl fun other => ?_
    have cut : (before ++ Text.ofString "*/" ++ after).take (before.length + 2) =
        before ++ Text.ofString "*/" :=
      List.take_left' (by simp [Text.ofString, Text.ofChars])
    have length : (Text.ofString "*/").length = 2 := rfl
    rw [length] at again ⊢
    rw [Nat.add_comm 2, List.take_succ_cons, List.take_succ_cons, cut]
    simp only [comment?, List.cons_append, again other, Option.map_some, Nat.add_comm 2]
  · cases h

theorem significant_line (u : Text) : significant (.char '/' :: .char '/' :: u) =
    significant (u.dropWhile (!isLineEnd ·)) := by
  have rest : u.drop (u.takeWhile (!isLineEnd ·)).length = u.dropWhile (!isLineEnd ·) :=
    calc u.drop (u.takeWhile (!isLineEnd ·)).length
        = (u.takeWhile (!isLineEnd ·) ++ u.dropWhile (!isLineEnd ·)).drop
            (u.takeWhile (!isLineEnd ·)).length := by rw [List.takeWhile_append_dropWhile]
      _ = u.dropWhile (!isLineEnd ·) := List.drop_left
  rw [significant_measured (measure_of_comment rfl), Nat.add_comm 2, List.drop_succ_cons,
    List.drop_succ_cons, rest]
  rfl

/-- Behind a comment up to the end of its line, blanks with a line end make no difference, nor do
other blanks in front of that end. -/
theorem significant_behind_line {w run after : Text} (inside : ∀ c ∈ w, isLineEnd c = false)
    (blanks : ∀ c ∈ run, c.isBlank)
    (ends : run.any isLineEnd ∨ ∀ c ∈ after.head?, isLineEnd c) :
    significant (.char '/' :: .char '/' :: (w ++ (run ++ after))) = significant after := by
  rw [significant_line, List.dropWhile_append_of_pos (by simpa using inside)]
  by_cases ended : run.any isLineEnd
  · have left : run.dropWhile (!isLineEnd ·) ≠ [] := by
      simpa [List.dropWhile_eq_nil_iff] using ended
    rw [List.dropWhile_append, if_neg (by simpa using left)]
    exact significant_blanks (fun c member => blanks c (List.dropWhile_sublist _ |>.subset member)) _
  · have open_run : ∀ c ∈ run, (!isLineEnd c) = true := by simpa using ended
    rw [List.dropWhile_append_of_pos open_run]
    cases after with
    | nil => rfl
    | cons c after =>
      have first := ends.resolve_left ended c rfl
      rw [List.dropWhile_cons_of_neg (by simp [first])]

/-! ### Edits -/

theorem written_append (ls rs : List Lexeme) : written (ls ++ rs) = written ls ++ written rs :=
  List.flatMap_append

theorem written_split {t : Text} {ls rs : List Lexeme} (split : ofText t = ls ++ rs) :
    written ls ++ written rs = t := by
  rw [← written_append, ← split, written, flatMap_ofText]

theorem written_ne_nil {t : Text} {l : Lexeme} {ls rs : List Lexeme}
    (split : ofText t = l :: ls ++ rs) : written (l :: ls) ≠ [] := by
  obtain ⟨c, u, n, measured, text⟩ := mem_ofText (l := l) (t := t) (by simp [split])
  obtain ⟨i, rfl⟩ : ∃ i, n = i + 1 := ⟨n - 1, by have := (measure_le measured).1; omega⟩
  simp [written, text]

/-- The last lexeme is a comment up to the end of its line. -/
def EndsInLineComment (ls : List Lexeme) : Prop :=
  ∃ l, ls.getLast? = some l ∧ l.kind = .comment ∧ [.char '/', .char '/'] <+: l.text

section

variable {c : CodePoint} {t front run rest after : Text} {k : Kind} {n : Nat}

/-- An edit that is not right behind a comment leaves the comment. -/
theorem comment?_kept (h : comment? t = some n) (whole : t.take n ++ (front ++ rest) = t)
    (some_front : front ≠ []) (after : Text) : comment? (t.take n ++ (front ++ after)) = some n := by
  rcases comment?_cases h with any | ⟨w, u, rfl, rfl, inside, ends⟩
  · exact any _
  · have text : (CodePoint.char '/' :: .char '/' :: (w ++ u)).take (w.length + 2) =
        .char '/' :: .char '/' :: w := by
      rw [List.take_succ_cons, List.take_succ_cons, List.take_left]
    rw [text] at whole ⊢
    simp only [List.cons_append, List.cons.injEq, List.append_cancel_left_eq, true_and] at whole
    obtain ⟨d, front, rfl⟩ := List.exists_cons_of_ne_nil some_front
    refine comment?_line inside ?_
    rw [← whole] at ends
    exact ends

/-- An edit that is not right behind a run of blanks leaves the run. -/
theorem measure_blank_kept (blank : c.isBlank) (measured : measure (c :: t) = (.blank, n))
    (whole : (c :: t).take n ++ (front ++ rest) = c :: t) (some_front : front ≠ []) (after : Text) :
    measure ((c :: t).take n ++ (front ++ after)) = (.blank, n) := by
  cases (measure_blank blank t).symm.trans measured
  obtain ⟨d, front, rfl⟩ := List.exists_cons_of_ne_nil some_front
  rw [List.take_succ_cons, List.cons_append, List.cons.injEq] at whole
  have run : t.take (t.takeWhile CodePoint.isBlank).length = t.takeWhile CodePoint.isBlank :=
    (List.prefix_iff_eq_take.1 (List.takeWhile_prefix _)).symm
  rw [run] at whole
  have stops : d.isBlank = false := by
    have tail : t.dropWhile CodePoint.isBlank = d :: front ++ rest :=
      List.append_cancel_left ((List.takeWhile_append_dropWhile).trans whole.2.symm)
    have first := List.head?_dropWhile_not CodePoint.isBlank t
    rw [tail] at first
    simpa using first
  rw [List.take_succ_cons, run, List.cons_append, measure_blank blank,
    List.takeWhile_append_of_pos fun d member => List.all_eq_true.mp List.all_takeWhile d member,
    List.cons_append, List.takeWhile_cons_of_neg (by simp [stops]), List.append_nil]

/-- An edit somewhere behind a token leaves the token. -/
theorem measure_token_kept (measured : measure (c :: t) = (k, n)) (comment : k ≠ .comment)
    (blank : k ≠ .blank) (quoted : Quoted (c :: t)) (blanks : ∀ c ∈ run, c.isBlank)
    (some_run : run ≠ []) (behind : after <:+ rest)
    (whole : (c :: t).take n ++ (front ++ rest) = c :: t) :
    measure ((c :: t).take n ++ (front ++ (run ++ after))) = (k, n) := by
  have length : ((c :: t).take n ++ front).length = n + front.length := by
    rw [List.length_append, List.length_take, Nat.min_eq_left (measure_le measured).2]
  rw [← List.append_assoc] at whole
  have cut : (c :: t).take (n + front.length) = (c :: t).take n ++ front :=
    calc (c :: t).take (n + front.length)
        = ((c :: t).take n ++ front ++ rest).take (n + front.length) := by rw [whole]
      _ = (c :: t).take n ++ front := List.take_left' length
  have dropped : (c :: t).drop (n + front.length) = rest :=
    calc (c :: t).drop (n + front.length)
        = ((c :: t).take n ++ front ++ rest).drop (n + front.length) := by rw [whole]
      _ = rest := List.drop_left' length
  have replaces : Replaces run after (n + front.length) (c :: t) :=
    ⟨blanks, some_run, dropped ▸ behind⟩
  have kept := replaces.measure_token measured comment blank quoted (by omega)
  rw [cut, List.append_assoc] at kept
  exact kept

/-- Behind a comment that goes on up to the end of its line, an edit may change the comment, but
nothing else. -/
theorem significant_comment (h : comment? t = some n) (whole : t.take n ++ rest = t)
    (blanks : ∀ c ∈ run, c.isBlank)
    (line : [.char '/', .char '/'] <+: t.take n → run.any isLineEnd ∨ after = rest) :
    (∀ other, comment? (t.take n ++ other) = some n) ∨
      significant (t.take n ++ (run ++ after)) = significant (run ++ after) := by
  rcases comment?_cases h with any | ⟨w, u, rfl, rfl, inside, ends⟩
  · exact .inl any
  · right
    have text : (CodePoint.char '/' :: .char '/' :: (w ++ u)).take (w.length + 2) =
        .char '/' :: .char '/' :: w := by
      rw [List.take_succ_cons, List.take_succ_cons, List.take_left]
    rw [text] at whole line ⊢
    simp only [List.cons_append, List.cons.injEq, List.append_cancel_left_eq, true_and] at whole
    subst whole
    rw [significant_blanks blanks]
    refine significant_behind_line inside blanks ((line ⟨w, rfl⟩).imp_right ?_)
    rintro rfl
    exact ends

theorem blanks_of_measure (measured : measure (c :: t) = (.blank, n)) :
    ∀ d ∈ (c :: t).take n, d.isBlank := by
  have read := blank?_of_measure measured
  simp only [blank?] at read
  split at read
  · cases read
  · cases read
    exact fun d => mem_run

end

/-- Blanks that are put in front of the rest of a text, or of a part at its end with the same tokens,
leave the tokens in front of them, and so all tokens. -/
theorem significant_edited {t run after : Text} {ls rs : List Lexeme} (split : ofText t = ls ++ rs)
    (quoted : Quoted t) (blanks : ∀ c ∈ run, c.isBlank) (some_run : run ≠ [])
    (behind : after <:+ written rs) (rest : significant after = rs.filter isToken)
    (line : EndsInLineComment ls → run.any isLineEnd ∨ after = written rs) :
    significant (written ls ++ (run ++ after)) = significant t := by
  induction ls generalizing t with
  | nil =>
    rw [List.nil_append] at split
    rw [written, List.flatMap_nil, List.nil_append, significant_blanks blanks, rest, significant,
      split]
  | cons l ls ih =>
    cases t with
    | nil => simp [ofText] at split
    | cons c u =>
      obtain ⟨k, n, measured⟩ : ∃ k n, measure (c :: u) = (k, n) := ⟨_, _, rfl⟩
      obtain ⟨positive, within⟩ := measure_le measured
      rw [ofText_measured measured, List.cons_append, List.cons.injEq] at split
      obtain ⟨rfl, tail⟩ := split
      have whole : (c :: u).take n ++ (written ls ++ written rs) = c :: u := by
        rw [written_split tail, List.take_append_drop]
      have later : significant (written ls ++ (run ++ after)) = significant ((c :: u).drop n) := by
        apply ih tail ((quoted_measured measured).mp quoted).2
        rintro ⟨l, last, comment⟩
        refine line ⟨l, ?_, comment⟩
        cases ls with
        | nil => cases last
        | cons d ls => rw [List.getLast?_cons_cons, last]
      -- Where the first lexeme is kept, so are the others.
      have of_kept (kept : measure ((c :: u).take n ++ (written ls ++ (run ++ after))) = (k, n)) :
          significant ((c :: u).take n ++ (written ls ++ (run ++ after))) =
            significant (c :: u) := by
        have length : ((c :: u).take n).length = n := by rw [List.length_take]; omega
        obtain ⟨i, rfl⟩ : ∃ i, n = i + 1 := ⟨n - 1, by omega⟩
        rw [List.take_succ_cons, List.cons_append] at kept ⊢
        rw [significant_measured kept, significant_measured measured, ← List.cons_append,
          ← List.take_succ_cons, List.take_left' length, List.drop_left' length, later]
      rw [written, List.flatMap_cons, List.append_assoc]
      change significant ((c :: u).take n ++ (written ls ++ (run ++ after))) = _
      -- A lexeme that is no token may grow by an edit right behind it.
      have of_changed (other : isToken ⟨k, (c :: u).take n⟩ = false)
          (changed : significant ((c :: u).take n ++ (written ls ++ (run ++ after))) =
            significant (written ls ++ (run ++ after))) :
          significant ((c :: u).take n ++ (written ls ++ (run ++ after))) =
            significant (c :: u) := by
        rw [changed, later, significant_measured measured,
          List.filter_cons_of_neg (by simp [other])]
        rfl
      have some_front (d : Lexeme) (others : List Lexeme) (same : ls = d :: others) :
          written ls ≠ [] := by
        subst same
        exact written_ne_nil tail
      by_cases comment : k = .comment
      · subst comment
        have read := comment?_of_measure measured
        cases ls with
        | nil =>
          rcases significant_comment read whole blanks
            (fun slashes => line ⟨_, rfl, rfl, slashes⟩) with any | changed
          · exact of_kept (measure_of_comment (any _))
          · exact of_changed rfl changed
        | cons d others =>
          exact of_kept (measure_of_comment (comment?_kept read whole (some_front d others rfl) _))
      · by_cases blank : k = .blank
        · subst blank
          have run_blank := blanks_of_measure measured
          cases ls with
          | nil => exact of_changed rfl (significant_blanks run_blank _)
          | cons d others =>
            have first : c.isBlank := run_blank c (by
              rw [← Nat.succ_pred_eq_of_pos positive, List.take_succ_cons]
              exact List.mem_cons_self)
            exact of_kept (measure_blank_kept first measured whole (some_front d others rfl) _)
        · exact of_kept (measure_token_kept measured comment blank quoted blanks some_run behind whole)

/-! ### Sequences of edits -/

/-- White space, and some of it. -/
def IsRun (t : Text) : Prop := t ≠ [] ∧ ∀ c ∈ t, c.isBlank

/-- One edit of the layout of a text. A comment up to the end of its line keeps a line end behind
it. -/
inductive Edit (t : Text) : Text → Prop
  | insert {before after : List Lexeme} {run : Text} (split : ofText t = before ++ after)
      (between : before ≠ [] ∧ after ≠ []) (blanks : IsRun run) :
      Edit t (written before ++ (run ++ written after))
  | replace {before after : List Lexeme} {l : Lexeme} {run : Text}
      (split : ofText t = before ++ l :: after) (kind : l.kind = .blank ∨ l.kind = .comment)
      (blanks : IsRun run) (line : EndsInLineComment before → run.any isLineEnd) :
      Edit t (written before ++ (run ++ written after))

theorem significant_edit {t u : Text} (quoted : Quoted t) (edit : Edit t u) :
    significant u = significant t := by
  cases edit with
  | insert split between blanks =>
    exact significant_edited split quoted blanks.2 blanks.1 (List.suffix_refl _)
      (significant_behind split) fun _ => .inr rfl
  | @replace before after l run split kind blanks line =>
    have other : ¬ l.isToken := by
      rcases kind with kind | kind <;> simp [isToken, kind]
    have behind : written after <:+ written (l :: after) := by
      rw [← List.singleton_append, written_append]
      exact List.suffix_append _ _
    have rest : significant (written after) = (l :: after).filter isToken := by
      rw [List.filter_cons_of_neg other]
      have shifted : ofText t = (before ++ [l]) ++ after := by simp [split]
      exact significant_behind shifted
    exact significant_edited split quoted blanks.2 blanks.1 behind rest fun last => .inl (line last)

/-- Edits of layout leave the tokens, and every quote belongs to a literal as before. -/
theorem edits_keep_tokens {t u : Text} (quoted : Quoted t) (edits : Relation.ReflTransGen Edit t u) :
    tokens u = tokens t ∧ Quoted u := by
  have same : significant u = significant t ∧ Quoted u := by
    induction edits with
    | refl => exact ⟨rfl, quoted⟩
    | tail _ edit ih =>
      have kept := significant_edit ih.2 edit
      refine ⟨kept.trans ih.1, ?_⟩
      rw [quoted_iff_significant, kept, ← quoted_iff_significant]
      exact ih.2
  refine ⟨?_, same.2⟩
  change (significant u).map _ = (significant t).map _
  rw [same.1]

/-- A word, a comment, an operator, a literal that looks like a comment, and a comment up to the end
of its line that looks like the end of another one. -/
def commented : Text := "a/*b*/==@\"/*\"\"\"// */\r\n*c"

def respaced : Text := "a\t== @\"/*\"\"\"// */\n*c"

theorem commented_tokens_kept :
    Quoted commented ∧ Relation.ReflTransGen Edit commented respaced ∧
      tokens respaced = tokens commented := by
  have quoted : Quoted commented := by
    unfold Quoted
    decide +kernel
  -- The comment gives way to a tab, a space comes in behind the operator, and the line end changes.
  have first : Edit commented "a\t==@\"/*\"\"\"// */\r\n*c" := by
    refine @Edit.replace commented [⟨.word, "a"⟩]
      [⟨.operator, "=="⟩, ⟨.literal, "@\"/*\"\"\""⟩, ⟨.comment, "// */"⟩, ⟨.blank, "\r\n"⟩,
        ⟨.sign, "*"⟩, ⟨.word, "c"⟩]
      ⟨.comment, "/*b*/"⟩ "\t" (by decide +kernel) (.inr rfl) (by unfold IsRun; decide) ?_
    rintro ⟨l, last, comment, _⟩
    cases last
    cases comment
  have second : Edit "a\t==@\"/*\"\"\"// */\r\n*c" "a\t== @\"/*\"\"\"// */\r\n*c" :=
    @Edit.insert _ [⟨.word, "a"⟩, ⟨.blank, "\t"⟩, ⟨.operator, "=="⟩]
      [⟨.literal, "@\"/*\"\"\""⟩, ⟨.comment, "// */"⟩, ⟨.blank, "\r\n"⟩, ⟨.sign, "*"⟩, ⟨.word, "c"⟩]
      " " (by decide +kernel) (by simp) (by unfold IsRun; decide)
  have third : Edit "a\t== @\"/*\"\"\"// */\r\n*c" respaced :=
    @Edit.replace _ [⟨.word, "a"⟩, ⟨.blank, "\t"⟩, ⟨.operator, "=="⟩, ⟨.blank, " "⟩,
        ⟨.literal, "@\"/*\"\"\""⟩, ⟨.comment, "// */"⟩]
      [⟨.sign, "*"⟩, ⟨.word, "c"⟩] ⟨.blank, "\r\n"⟩ "\n" (by decide +kernel) (.inl rfl)
      (by unfold IsRun; decide) (fun _ => by decide)
  have edits := ((Relation.ReflTransGen.single first).tail second).tail third
  exact ⟨quoted, edits, (edits_keep_tokens quoted edits).1⟩

end BodyDigest.Braced.Lexeme
