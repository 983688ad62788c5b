import BodyDigest.Proofs.Braced.Forms
import BodyDigest.Proofs.Braced.Patterns

/-!
The lexemes of a text cover it without a gap. The patterns of lexemes are looked for from left to
right; each match starts where the one before it ends, and a literal or a comment that does not end
loses nothing, since its first sign is a lexeme of its own.
-/
namespace BodyDigest.Braced.Lexeme

/-! ### Lexemes in their places -/

structure Placed where
  start : Nat
  lexeme : Lexeme
  deriving DecidableEq

namespace Placed

def stop (p : Placed) : Nat := p.start + p.lexeme.text.length

def covers (p : Placed) (i : Nat) : Bool := p.start ≤ i && i < p.stop

/-- Matches one behind the other, each of which takes something. -/
inductive Tiles : Nat → List Placed → Nat → Prop where
  | nil (n : Nat) : Tiles n [] n
  | cons {p : Placed} {ps : List Placed} {n : Nat} (takes : p.lexeme.text ≠ [])
    (later : Tiles p.stop ps n) : Tiles p.start (p :: ps) n

/-- The matches in a text that starts at a place. Where no pattern takes anything, one code point is
passed over. -/
def search (start : Nat) : Text → List Placed
  | [] => []
  | c :: rest =>
    match Shape.taken? (c :: rest) with
    | some (k, n + 1) => ⟨start, k, c :: rest.take n⟩ :: search (start + (n + 1)) (rest.drop n)
    | _ => search (start + 1) rest
  termination_by t => t.length
  decreasing_by
    · simp only [List.length_cons, List.length_drop]
      omega
    · simp

/-- The successive matches of the patterns in a text. -/
def found (t : Text) : List Placed := search 0 t

/-- Lexemes one behind the other. -/
def row (start : Nat) : List Lexeme → List Placed
  | [] => []
  | l :: ls => ⟨start, l⟩ :: row (start + l.text.length) ls

/-- Nothing is passed over. -/
theorem search_eq (start : Nat) (t : Text) : search start t = row start (ofText t) := by
  induction size : t.length using Nat.strongRecOn generalizing start t with
  | ind size ih =>
    cases t with
    | nil => simp [search, ofText, row]
    | cons c rest =>
      obtain ⟨k, n, measured⟩ : ∃ k n, measure (c :: rest) = (k, n) := ⟨_, _, rfl⟩
      obtain ⟨positive, within⟩ := measure_le measured
      obtain ⟨n, rfl⟩ := Nat.exists_eq_add_one_of_ne_zero (Nat.ne_of_gt positive)
      have length : (c :: rest.take n).length = n + 1 := by
        rw [List.length_cons] at within ⊢
        rw [List.length_take, Nat.min_eq_left (by omega)]
      have less : (rest.drop n).length < (c :: rest).length := by
        rw [List.length_drop, List.length_cons]
        omega
      have taken : Shape.taken? (c :: rest) = some (k, n + 1) := by
        rw [Shape.taken?_cons, measured]
      rw [search, taken, ofText_measured measured, List.take_succ_cons, List.drop_succ_cons, row]
      simp only
      rw [length, ih _ (size ▸ less) _ _ rfl]

variable {p : Placed} {ps : List Placed} {ls : List Lexeme} {m n i start : Nat} {t front : Text}

theorem map_row (start : Nat) (ls : List Lexeme) : (row start ls).map (·.lexeme) = ls := by
  induction ls generalizing start with
  | nil => rfl
  | cons l ls ih => rw [row, List.map_cons, ih]

theorem start_le_of_mem_row (member : p ∈ row start ls) : start ≤ p.start := by
  induction ls generalizing start with
  | nil => cases member
  | cons l ls ih =>
    rcases List.mem_cons.mp member with rfl | later
    · exact Nat.le_refl _
    · exact Nat.le_trans (Nat.le_add_right _ _) (ih later)

theorem tiles_row (some_text : ∀ l ∈ ls, l.text ≠ []) (start : Nat) :
    Tiles start (row start ls) (start + (written ls).length) := by
  induction ls generalizing start with
  | nil => exact .nil start
  | cons l ls ih =>
    obtain ⟨first, others⟩ := List.forall_mem_cons.mp some_text
    have later := ih others (start + l.text.length)
    rw [Nat.add_assoc, ← List.length_append] at later
    exact @Tiles.cons ⟨start, l⟩ _ _ first later

/-- What stands in the place of a lexeme. -/
theorem text_of_mem_row (member : p ∈ row front.length ls) :
    p.lexeme.text = ((front ++ written ls).drop p.start).take p.lexeme.text.length := by
  induction ls generalizing front with
  | nil => cases member
  | cons l ls ih =>
    have whole : written (l :: ls) = l.text ++ written ls := List.flatMap_cons
    rw [whole]
    rcases List.mem_cons.mp member with rfl | later
    · rw [List.drop_left, List.take_left]
    · rw [← List.length_append] at later
      rw [← List.append_assoc]
      exact ih later

theorem Tiles.le (h : Tiles m ps n) : m ≤ n := by
  induction h with
  | nil n => exact Nat.le_refl n
  | cons takes later ih => exact Nat.le_trans (Nat.le_add_right _ _) ih

theorem Tiles.mem_bounds (h : Tiles m ps n) (member : p ∈ ps) : m ≤ p.start ∧ p.stop ≤ n := by
  induction h with
  | nil n => cases member
  | @cons q ps n takes later ih =>
    have front : q.start ≤ q.stop := Nat.le_add_right _ _
    rcases List.mem_cons.mp member with rfl | inside
    · exact ⟨Nat.le_refl _, later.le⟩
    · obtain ⟨above, below⟩ := ih inside
      exact ⟨Nat.le_trans front above, below⟩

theorem covers_iff : p.covers i ↔ p.start ≤ i ∧ i < p.stop := by
  rw [covers, Bool.and_eq_true, decide_eq_true_eq, decide_eq_true_eq]

theorem Tiles.covered_once (h : Tiles m ps n) (above : m ≤ i) (below : i < n) :
    ∃! p, p ∈ ps ∧ p.covers i := by
  induction h with
  | nil n => omega
  | @cons q ps n takes later ih =>
    by_cases inside : i < q.stop
    · refine ⟨q, ⟨List.mem_cons_self, covers_iff.mpr ⟨above, inside⟩⟩, ?_⟩
      rintro p ⟨member, covered⟩
      rcases List.mem_cons.mp member with rfl | behind
      · rfl
      · have bound := (later.mem_bounds behind).1
        have start := (covers_iff.mp covered).1
        omega
    · obtain ⟨p, ⟨member, covered⟩, alone⟩ := ih (Nat.le_of_not_lt inside) below
      refine ⟨p, ⟨List.mem_cons_of_mem _ member, covered⟩, ?_⟩
      rintro r ⟨among, covered'⟩
      rcases List.mem_cons.mp among with rfl | behind
      · exact absurd (covers_iff.mp covered').2 inside
      · exact alone r ⟨behind, covered'⟩

/-- Whether a place lies in a token. -/
def inToken (ps : List Placed) (i : Nat) : Bool := ps.any fun p => p.lexeme.isToken && p.covers i

theorem inToken_cons (p : Placed) (ps : List Placed) (i : Nat) :
    inToken (p :: ps) i = (p.lexeme.isToken && p.covers i || inToken ps i) := List.any_cons

theorem inToken_row_before (before : i < start) : inToken (row start ls) i = false := by
  rw [inToken, List.any_eq_false]
  intro p member both
  have above := start_le_of_mem_row member
  have covered := (covers_iff.mp (Bool.and_eq_true_iff.mp both).2).1
  omega

/-- The tokens are what is left of a text without the other lexemes. -/
theorem flatten_tokens (start : Nat) (ls : List Lexeme) :
    ((ls.filter isToken).map (·.text)).flatten =
      (((written ls).zipIdx start).filter fun c => inToken (row start ls) c.2).map Prod.fst := by
  induction ls generalizing start with
  | nil => rfl
  | cons l ls ih =>
    have whole : written (l :: ls) = l.text ++ written ls := List.flatMap_cons
    have first : ∀ c ∈ l.text.zipIdx start, inToken (row start (l :: ls)) c.2 = l.isToken := by
      intro c member
      have above := List.le_snd_of_mem_zipIdx member
      have below := List.snd_lt_of_mem_zipIdx member
      rw [Nat.add_comm] at below
      have covered : covers ⟨start, l⟩ c.2 = true := covers_iff.mpr ⟨above, below⟩
      rw [row, inToken_cons, covered, Bool.and_true, inToken_row_before below, Bool.or_false]
    have others : ∀ c ∈ (written ls).zipIdx (start + l.text.length),
        inToken (row start (l :: ls)) c.2 = inToken (row (start + l.text.length) ls) c.2 := by
      intro c member
      have above := List.le_snd_of_mem_zipIdx member
      have passed : covers ⟨start, l⟩ c.2 = false := by
        rw [Bool.eq_false_iff]
        intro covered
        exact Nat.not_lt_of_le above (covers_iff.mp covered).2
      rw [row, inToken_cons, passed, Bool.and_false, Bool.false_or]
    rw [whole, List.zipIdx_append, List.filter_append, List.map_append, List.filter_congr first,
      List.filter_congr others, ← ih, List.filter_cons]
    cases l.isToken <;> simp

end Placed

/-! ### Comments and blanks -/

/-- A comment up to the end of a line, or one that ends at its first star with a slash behind it. -/
inductive IsComment : Text → Prop
  | line {body : Text} (inside : ∀ c ∈ body, isLineEnd c = false) :
    IsComment (.char '/' :: .char '/' :: body)
  | block {body : Text} (open_end : ¬ Text.ofString "*/" <:+: body ++ [.char '*']) :
    IsComment (.char '/' :: .char '*' :: (body ++ Text.ofString "*/"))

/-- White space and comments only. A comment that is no block goes on up to the end of its line. -/
inductive IsGap : Text → Prop
  | nil : IsGap []
  | blank {c : CodePoint} {rest : Text} (blank : c.isBlank) (later : IsGap rest) : IsGap (c :: rest)
  | line {body rest : Text} (inside : ∀ c ∈ body, isLineEnd c = false)
    (ends : ∀ c ∈ rest.head?, isLineEnd c) (later : IsGap rest) :
    IsGap (.char '/' :: .char '/' :: (body ++ rest))
  | block {body rest : Text} (open_end : ¬ Text.ofString "*/" <:+: body ++ [.char '*'])
    (later : IsGap rest) : IsGap (.char '/' :: .char '*' :: (body ++ Text.ofString "*/" ++ rest))

theorem length_block (body : Text) : (body ++ Text.ofString "*/").length = body.length + 2 :=
  List.length_append

theorem comment?_block {body : Text} (open_end : ¬ Text.ofString "*/" <:+: body ++ [.char '*'])
    (rest : Text) : comment? (.char '/' :: .char '*' :: (body ++ Text.ofString "*/" ++ rest)) =
      some (body.length + 4) := by
  have ended : upTo? (Text.ofString "*/") (body ++ Text.ofString "*/" ++ rest) = some (body.length + 2) :=
    @upTo?_first [.char '*'] body (.char '/') open_end rest
  rw [comment?, ended, Option.map_some, Nat.add_comm]

/-- What a comment looks like, and what follows it. -/
theorem comment?_shape {t : Text} {n : Nat} (h : comment? t = some n) :
    (∃ body rest, t = .char '/' :: .char '/' :: (body ++ rest) ∧ n = body.length + 2 ∧
      (∀ c ∈ body, isLineEnd c = false) ∧ ∀ c ∈ rest.head?, isLineEnd c) ∨
    ∃ body rest, t = .char '/' :: .char '*' :: (body ++ Text.ofString "*/" ++ rest) ∧
      n = body.length + 4 ∧ ¬ Text.ofString "*/" <:+: body ++ [.char '*'] := by
  unfold comment? at h
  split at h
  · rename_i rest
    cases h
    refine .inl ⟨rest.takeWhile (!isLineEnd ·), rest.dropWhile (!isLineEnd ·), ?_, Nat.add_comm ..,
      ?_, ?_⟩
    · rw [List.takeWhile_append_dropWhile]
    · intro c member
      simpa using List.all_eq_true.mp List.all_takeWhile c member
    · intro c first
      have stops := List.head?_dropWhile_not (!isLineEnd ·) rest
      rw [Option.mem_def.mp first] at stops
      simpa using stops
  · rename_i rest
    obtain ⟨m, found, rfl⟩ := Option.map_eq_some_iff.mp h
    obtain ⟨body, after, rfl, rfl, again⟩ := upTo?_eq found
    refine .inr ⟨body, after, rfl, by change 2 + (body.length + 2) = _; omega, fun early => ?_⟩
    obtain ⟨m, sooner, less⟩ : ∃ m, upTo? (Text.ofString "*/") (body ++ Text.ofString "*/" ++ after) =
        some m ∧ m < body.length + 2 := @upTo?_early [.char '*'] body (.char '/') early after
    rw [again after] at sooner
    cases sooner
    exact absurd less (Nat.lt_irrefl _)
  · cases h

variable {l : Lexeme} {t : Text}

theorem text_ne_nil (member : l ∈ ofText t) : l.text ≠ [] := by
  obtain ⟨c, u, n, measured, text⟩ := mem_ofText member
  obtain ⟨n, rfl⟩ := Nat.exists_eq_add_one_of_ne_zero (Nat.ne_of_gt (measure_le measured).1)
  simp [text]

theorem isComment_of_kind (member : l ∈ ofText t) (kind : l.kind = .comment) : IsComment l.text := by
  obtain ⟨c, u, n, measured, text⟩ := mem_ofText member
  rw [kind] at measured
  obtain ⟨body, rest, whole, rfl, inside, -⟩ | ⟨body, rest, whole, rfl, open_end⟩ :=
    comment?_shape (comment?_of_measure measured)
  · rw [text, whole, List.take_succ_cons, List.take_succ_cons, List.take_left]
    exact .line inside
  · rw [text, whole, List.take_succ_cons, List.take_succ_cons, List.take_left' (length_block body)]
    exact .block open_end

theorem isRun_of_kind (member : l ∈ ofText t) (kind : l.kind = .blank) : IsRun l.text := by
  refine ⟨text_ne_nil member, ?_⟩
  obtain ⟨c, u, n, measured, text⟩ := mem_ofText member
  rw [kind] at measured
  rw [text]
  exact blanks_of_measure measured

theorem IsComment.read {comment : Text} (h : IsComment comment) (rest : Text) :
    ∃ n, comment? (comment ++ rest) = some n := by
  cases h with
  | line inside => exact ⟨_, rfl⟩
  | block open_end => exact ⟨_, comment?_block open_end rest⟩

theorem kind_of_isComment (member : l ∈ ofText t) (comment : IsComment l.text) : l.kind = .comment := by
  obtain ⟨c, u, n, measured, text⟩ := mem_ofText member
  obtain ⟨rest, whole⟩ : l.text <+: c :: u := text ▸ List.take_prefix n (c :: u)
  obtain ⟨m, read⟩ := comment.read rest
  rw [whole] at read
  exact congrArg Prod.fst (measured.symm.trans (measure_of_comment read))

theorem kind_of_isRun (member : l ∈ ofText t) (run : IsRun l.text) : l.kind = .blank := by
  obtain ⟨c, u, n, measured, text⟩ := mem_ofText member
  obtain ⟨n, rfl⟩ := Nat.exists_eq_add_one_of_ne_zero (Nat.ne_of_gt (measure_le measured).1)
  have blank : c.isBlank := run.2 c (by simp [text])
  rw [measure_blank blank] at measured
  exact (congrArg Prod.fst measured).symm

/-- A lexeme is a token unless it is a comment or white space. -/
theorem isToken_iff (member : l ∈ ofText t) : l.isToken ↔ ¬ IsComment l.text ∧ ¬ IsRun l.text := by
  have kinds : l.isToken ↔ l.kind ≠ .comment ∧ l.kind ≠ .blank := by simp [isToken]
  rw [kinds]
  exact and_congr
    (not_congr ⟨isComment_of_kind member, kind_of_isComment member⟩)
    (not_congr ⟨isRun_of_kind member, kind_of_isRun member⟩)

/-! ### Texts without tokens -/

theorem IsGap.blanks {run rest : Text} (blanks : ∀ c ∈ run, c.isBlank) (later : IsGap rest) :
    IsGap (run ++ rest) := by
  induction run with
  | nil => exact later
  | cons c run ih =>
    obtain ⟨first, others⟩ := List.forall_mem_cons.mp blanks
    exact .blank first (ih others)

theorem significant_of_isGap (h : IsGap t) : significant t = [] := by
  induction h with
  | nil => simp [significant, ofText]
  | @blank c rest blank later ih =>
    rw [← List.singleton_append, significant_blanks (by simpa using blank), ih]
  | @line body rest inside ends later ih =>
    rw [← ih, ← List.nil_append rest]
    exact significant_behind_line inside (by simp) (.inr ends)
  | @block body rest open_end later ih =>
    have measured := measure_of_comment (comment?_block open_end rest)
    rw [significant_measured measured, List.drop_succ_cons, List.drop_succ_cons,
      List.drop_left' (length_block body), ih]
    rfl

theorem isGap_of_significant (h : significant t = []) : IsGap t := by
  induction size : t.length using Nat.strongRecOn generalizing t with
  | ind size ih =>
    cases t with
    | nil => exact .nil
    | cons c u =>
      obtain ⟨k, n, measured⟩ : ∃ k n, measure (c :: u) = (k, n) := ⟨_, _, rfl⟩
      obtain ⟨positive, within⟩ := measure_le measured
      rw [significant_measured measured, List.append_eq_nil_iff] at h
      obtain ⟨no_token, behind⟩ := h
      have less : ((c :: u).drop n).length < (c :: u).length := by
        rw [List.length_drop]
        omega
      have later : IsGap ((c :: u).drop n) := ih _ (size ▸ less) behind rfl
      have kinds : k = .comment ∨ k = .blank := by
        simpa [isToken, or_iff_not_imp_left] using no_token
      rcases kinds with rfl | rfl
      · obtain ⟨body, rest, whole, rfl, inside, ends⟩ | ⟨body, rest, whole, rfl, open_end⟩ :=
          comment?_shape (comment?_of_measure measured)
        · rw [whole, List.drop_succ_cons, List.drop_succ_cons, List.drop_left] at later
          rw [whole]
          exact .line inside ends later
        · rw [whole, List.drop_succ_cons, List.drop_succ_cons,
            List.drop_left' (length_block body)] at later
          rw [whole]
          exact .block open_end later
      · rw [← List.take_append_drop n (c :: u)]
        exact .blanks (blanks_of_measure measured) later

theorem tokens_eq_nil_iff_isGap : tokens t = [] ↔ IsGap t :=
  List.map_eq_nil_iff.trans ⟨isGap_of_significant, significant_of_isGap⟩

open Placed in
/-- The lexer cuts a text into pieces. The patterns of lexemes match one behind the other, each takes
something, and together they take the whole text; the tokens are the matches that are neither comments
nor white space, so that what lies outside of these lies in one token and in no other, and the tokens
hold it in its order. A text without tokens is white space and comments. -/
theorem lexemes_partition_text (t : Text) :
    (∀ u, (Shape.taken? u).isSome ↔ u ≠ []) ∧ (∀ u k n, Shape.taken? u = some (k, n) → 0 < n) ∧
    (found t).map (·.lexeme) = ofText t ∧ Tiles 0 (found t) t.length ∧
    (∀ p ∈ found t, p.lexeme.text = (t.drop p.start).take p.lexeme.text.length) ∧
    (found t).flatMap (·.lexeme.text) = t ∧
    tokens t = ((found t).filter (·.lexeme.isToken)).map (·.lexeme.text) ∧
    (∀ p ∈ found t, p.lexeme.isToken ↔ ¬ IsComment p.lexeme.text ∧ ¬ IsRun p.lexeme.text) ∧
    (∀ i < t.length, ∃! p, p ∈ found t ∧ p.covers i) ∧
    (tokens t).flatten = (t.zipIdx.filter fun c => inToken (found t) c.2).map Prod.fst ∧
    (tokens t = [] ↔ IsGap t) := by
  have whole : written (ofText t) = t := flatMap_ofText t
  have lexemes : (found t).map (·.lexeme) = ofText t := by rw [found, search_eq, map_row]
  have tiles : Tiles 0 (found t) t.length := by
    have row := tiles_row (fun l (member : l ∈ ofText t) => text_ne_nil member) 0
    rwa [whole, Nat.zero_add, ← search_eq] at row
  have of_found (p : Placed) (member : p ∈ found t) : p.lexeme ∈ ofText t :=
    lexemes ▸ List.mem_map_of_mem member
  refine ⟨Shape.taken?_isSome_iff, fun _ _ _ => Shape.taken?_pos, lexemes, tiles,
    fun p member => ?_, ?_, ?_, fun p member => isToken_iff (of_found p member),
    fun i below => tiles.covered_once (Nat.zero_le i) below, ?_, tokens_eq_nil_iff_isGap⟩
  · rw [found, search_eq] at member
    have place := @text_of_mem_row p (ofText t) [] member
    rwa [List.nil_append, whole] at place
  · rw [← List.flatMap_map, lexemes, flatMap_ofText]
  · rw [tokens, ← lexemes, List.filter_map, List.map_map]
    rfl
  · rw [tokens, flatten_tokens 0, whole, found, search_eq]

/-- The signs of a comment that does not end are tokens, and so is a quote that opens nothing. -/
example : tokens "a /* b' // c" = ["a", "/", "*", "b", "'"] := by decide +kernel

end BodyDigest.Braced.Lexeme
