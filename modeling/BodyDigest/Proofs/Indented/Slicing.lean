import BodyDigest.Indented.Slice
import BodyDigest.Proofs.Text.Cuts

/-!
Places of a source that lie between characters. The octets between two such places are those of characters
again, so that a slice has a text.
-/
namespace BodyDigest.Indented

open Utf8

/-! ### Lines -/

/-- What ends a line in a source. -/
def IsLineEnd (cs : List Char) : Prop := cs = ['\n'] ∨ cs = ['\r'] ∨ cs = ['\r', '\n']

/-- The lines of a text with line feeds, and the octets of the lines that they were; the last line may
have been left open. -/
inductive Lined : List Char → List (List UInt8) → Prop where
  | nil : Lined [] []
  | line {body ends rest : List Char} {lines : List (List UInt8)} (clear : '\n' ∉ body)
    (ended : IsLineEnd ends ∨ ends = [] ∧ lines = []) (later : Lined rest lines) :
    Lined (body ++ '\n' :: rest) (encode (body ++ ends) :: lines)

theorem closeLastLine_feed (cs : List Char) :
    Lexer.closeLastLine ('\n' :: cs) = '\n' :: Lexer.closeLastLine cs := by
  cases cs with
  | nil => rfl
  | cons c rest =>
    simp only [Lexer.closeLastLine, List.isEmpty_cons, List.getLast?_cons_cons, Bool.false_or]
    split <;> rfl

theorem closeLastLine_cons {c : Char} (inside : c ≠ '\n') (cs : List Char) :
    Lexer.closeLastLine (c :: cs) =
      if cs = [] then [c, '\n'] else c :: Lexer.closeLastLine cs := by
  cases cs with
  | nil => simp [Lexer.closeLastLine, inside]
  | cons d rest =>
    simp only [Lexer.closeLastLine, List.isEmpty_cons, List.getLast?_cons_cons, Bool.false_or,
      reduceCtorEq, if_false]
    split <;> rfl

theorem ofOctets_cons {b : UInt8} (inside : b ≠ 10 ∧ b ≠ 13) {os first : List UInt8}
    {others : List (List UInt8)} (later : Lines.ofOctets os = first :: others) :
    Lines.ofOctets (b :: os) = (b :: first) :: others := by
  cases os with
  | nil => cases later
  | cons d rest =>
    rw [Lines.ofOctets]
    · exact inside.1
    · exact inside.2
    · exact fun _ same => absurd same inside.2
    · exact later

/-- Octets that end no line stand at the front of the first one. -/
theorem ofOctets_append {os ps first : List UInt8} (clear : ∀ b ∈ os, b ≠ 10 ∧ b ≠ 13)
    {others : List (List UInt8)} (later : Lines.ofOctets ps = first :: others) :
    Lines.ofOctets (os ++ ps) = (os ++ first) :: others := by
  induction os with
  | nil => exact later
  | cons b rest ih =>
    obtain ⟨inside, clear⟩ := List.forall_mem_cons.mp clear
    exact ofOctets_cons inside (ih clear)

theorem ofOctets_clear {os : List UInt8} (clear : ∀ b ∈ os, b ≠ 10 ∧ b ≠ 13) (some_octets : os ≠ []) :
    Lines.ofOctets os = [os] := by
  obtain ⟨front, b, rfl⟩ := List.eq_nil_or_concat os |>.resolve_left some_octets
  obtain ⟨feed, back⟩ := clear b (by simp)
  rw [List.concat_eq_append] at clear ⊢
  refine ofOctets_append (fun d member => clear d (List.mem_append_left _ member)) ?_
  rw [Lines.ofOctets.eq_def]
  split <;> simp_all [Lines.ofOctets]

theorem octets_clear {c : Char} (inside : c ≠ '\n' ∧ c ≠ '\r') :
    ∀ b ∈ String.utf8EncodeChar c, b ≠ 10 ∧ b ≠ 13 := by
  intro b member
  constructor
  · rintro rfl
    exact inside.1 (char_of_octet (d := '\n') member rfl (by decide))
  · rintro rfl
    exact inside.2 (char_of_octet (d := '\r') member rfl (by decide))

/-- A carriage return before a character other than a line feed is a line end. -/
theorem ofOctets_return {rest : List Char} (other : ∀ more, rest = '\n' :: more → False) :
    Lines.ofOctets (13 :: encode rest) = [13] :: Lines.ofOctets (encode rest) := by
  rw [Lines.ofOctets]
  intro later same
  cases rest with
  | nil => cases same
  | cons c more =>
    rw [encode_cons] at same
    cases octets : String.utf8EncodeChar c with
    | nil => exact octets_ne_nil c octets
    | cons b os =>
      rw [octets, List.cons_append] at same
      obtain rfl := (List.cons.inj same).1
      have feed : c = '\n' := char_of_octet (octets ▸ List.mem_cons_self ..) rfl (by decide)
      exact other more (by rw [feed])

theorem closeLastLine_eq_nil {cs : List Char} (h : Lexer.closeLastLine cs = []) : cs = [] := by
  rw [Lexer.closeLastLine] at h
  split at h
  · exact h
  · simp at h

theorem unify_eq_nil {cs : List Char} (h : Lines.unify cs = []) : cs = [] := by
  rw [Lines.unify.eq_def] at h
  split at h
  · cases h
  · cases h
  · cases h
  · rfl

theorem lined (cs : List Char) :
    Lined (Lexer.closeLastLine (Lines.unify cs)) (Lines.ofOctets (encode cs)) := by
  induction cs using Lines.unify.induct with
  | case1 rest ih =>
    rw [Lines.unify, closeLastLine_feed]
    exact @Lined.line [] _ _ _ List.not_mem_nil (.inl (.inr (.inr rfl))) ih
  | case2 rest other ih =>
    rw [Lines.unify.eq_2 _ other, closeLastLine_feed]
    change Lined _ (Lines.ofOctets (13 :: encode rest))
    rw [ofOctets_return other]
    exact @Lined.line [] _ _ _ List.not_mem_nil (.inl (.inr (.inl rfl))) ih
  | case3 c rest _ other ih =>
    rw [Lines.unify.eq_3 _ _ (fun _ same => absurd same other) other]
    by_cases feed : c = '\n'
    · rw [feed, closeLastLine_feed]
      change Lined _ (Lines.ofOctets (10 :: encode rest))
      rw [Lines.ofOctets]
      exact @Lined.line [] _ _ _ List.not_mem_nil (.inl (.inl rfl)) ih
    · have clear := octets_clear ⟨feed, other⟩
      rw [closeLastLine_cons feed, encode_cons]
      split
      · rename_i empty
        obtain rfl := unify_eq_nil empty
        rw [show encode [] = [] from rfl, List.append_nil, ofOctets_clear clear (octets_ne_nil c)]
        simpa [encode] using
          @Lined.line [c] _ _ _ (by simpa using Ne.symm feed) (.inr ⟨rfl, rfl⟩) .nil
      · rename_i inhabited
        generalize closed : Lexer.closeLastLine (Lines.unify rest) = text at ih ⊢
        generalize cut : Lines.ofOctets (encode rest) = lines at ih
        cases ih with
        | nil => exact absurd (closeLastLine_eq_nil closed) inhabited
        | line body_clear ended later =>
          rename_i body _ _ _
          rw [ofOctets_append clear cut, ← encode_cons]
          exact @Lined.line (c :: body) _ _ _ (by simp [Ne.symm feed, body_clear]) ended later
  | case4 => exact .nil

variable {source before behind : List Char} {lines : List (List UInt8)} {i k : Nat}

theorem isText_lines (h : Lined source lines) : ∀ l ∈ lines, IsText l := by
  induction h with
  | nil => simp
  | line clear ended later ih => exact List.forall_mem_cons.mpr ⟨⟨_, rfl⟩, ih⟩

/-- Only the last line may lack a line end. -/
theorem isCut_before_end (h : Lined source lines) (more : i + 1 < lines.length) :
    IsCut (lines.getD i []) ((lines.getD i []).length - 1) := by
  induction h generalizing i with
  | nil => simp at more
  | @line body ends rest lines clear ended later ih =>
    cases i with
    | zero =>
      obtain ⟨front, last, rfl, single⟩ : ∃ front last, ends = front ++ [last] ∧
          (String.utf8EncodeChar last).length = 1 := by
        rcases ended with (rfl | rfl | rfl) | ⟨-, rfl⟩
        · exact ⟨[], '\n', rfl, rfl⟩
        · exact ⟨[], '\r', rfl, rfl⟩
        · exact ⟨['\r'], '\n', rfl, rfl⟩
        · simp at more
      refine ⟨body ++ front, [last], by simp, ?_⟩
      simp [encode_append, encode_cons, single, show encode [] = [] from rfl]
    | succ i => simpa using ih (by simpa using more)

/-! ### Places -/

theorem advance_append (p : Pos) (cs ds : List Char) : p.advance (cs ++ ds) = (p.advance cs).advance ds :=
  List.foldl_append

theorem advance_clear (p : Pos) {cs : List Char} (clear : '\n' ∉ cs) :
    p.advance cs = ⟨p.line, p.column + (encode cs).length⟩ := by
  induction cs generalizing p with
  | nil => rfl
  | cons c rest ih =>
    rw [List.mem_cons, not_or] at clear
    rw [Pos.advance, List.foldl_cons, ← Pos.advance, ih _ clear.2, Pos.after, if_neg (Ne.symm clear.1),
      encode_cons, List.length_append, String.length_utf8EncodeChar, Nat.add_assoc]

/-- A place that lies on a line between two of its characters, or at the start of the line behind all. -/
structure At (lines : List (List UInt8)) (p : Pos) : Prop where
  counted : 1 ≤ p.line
  cut : IsCut (lines.getD (p.line - 1) []) p.column

theorem cut_of_lined (h : Lined source lines) (k : Nat) (whole : source = before ++ behind) :
    ∃ i column, Pos.advance ⟨k, 0⟩ before = ⟨k + i, column⟩ ∧ IsCut (lines.getD i []) column ∧
      (behind ≠ [] → i < lines.length) := by
  induction h generalizing k before with
  | nil =>
    obtain ⟨rfl, rfl⟩ := List.append_eq_nil_iff.mp whole.symm
    exact ⟨0, 0, rfl, isCut_zero isText_nil, fun some_behind => absurd rfl some_behind⟩
  | @line body ends rest lines clear ended later ih =>
    have on_line {front back : List Char} (split : body = front ++ back) :
        ∃ i column, Pos.advance ⟨k, 0⟩ front = ⟨k + i, column⟩ ∧
          IsCut ((encode (body ++ ends) :: lines).getD i []) column ∧
          (behind ≠ [] → i < (encode (body ++ ends) :: lines).length) := by
      subst split
      rw [advance_clear _ fun member => clear (List.mem_append_left _ member)]
      exact ⟨0, _, rfl, ⟨front, back ++ ends, by simp, by simp⟩, by simp⟩
    rcases List.append_eq_append_iff.mp whole with ⟨more, rfl, same⟩ | ⟨inner, split, -⟩
    · cases more with
      | nil => simpa using on_line (List.append_nil body).symm
      | cons d more =>
        obtain ⟨rfl, rest_split⟩ := List.cons.inj same
        obtain ⟨i, column, place, cut, inside⟩ := ih (k + 1) rest_split
        refine ⟨i + 1, column, ?_, by simpa using cut, by simpa using inside⟩
        rw [advance_append, advance_clear _ clear]
        change Pos.advance ⟨k + 1, 0⟩ more = _
        rw [place, Nat.add_assoc, Nat.add_comm 1]
    · exact on_line split

theorem at_of_lined (h : Lined source lines) (whole : source = before ++ behind) :
    At lines (Pos.advance ⟨1, 0⟩ before) := by
  obtain ⟨i, column, place, cut, -⟩ := cut_of_lined h 1 whole
  rw [place]
  exact ⟨by simp, by simpa using cut⟩

/-- A place with something behind it lies on one of the lines. -/
theorem line_of_lined (h : Lined source lines) (whole : source = before ++ behind) (inside : behind ≠ []) :
    (Pos.advance ⟨1, 0⟩ before).line ≤ lines.length := by
  obtain ⟨i, column, place, -, bound⟩ := cut_of_lined h 1 whole
  have := bound inside
  rw [place]
  simp only
  omega

/-! ### Slices -/

namespace Slice

/-- The column that a slice starts in. -/
def Start.from (start : Start) (line : List UInt8) : Nat := start.column.getD (line.length - 1)

theorem isText_firstLine {start : Start} {line stopped : List UInt8} (cut : IsCut line (start.from line))
    (shown : IsText (stopped.drop (start.from line))) : IsText (firstLine start line stopped) := by
  refine IsText.append ?_ shown
  split
  · exact cut.take
  · exact isText_spaces _

theorem isCut_last (each : ∀ l ∈ lines, IsText l) {stop : Pos} (stops : At lines stop) {l : List UInt8}
    (last : ((lines.take stop.line).drop k).getLast? = some l) : IsCut l stop.column := by
  have cut := stops.cut
  rw [List.getLast?_drop] at last
  split at last
  · cases last
  · rw [List.getLast?_take, if_neg (Nat.ne_of_gt stops.counted)] at last
    rw [List.getD_eq_getElem?_getD] at cut
    cases found : lines[stop.line - 1]? with
    | some line =>
      rw [found] at cut last
      obtain rfl := Option.some.inj last
      exact cut
    | none =>
      -- Behind all lines only the first column is a cut.
      rw [found] at cut last
      have start : stop.column = 0 := by
        obtain ⟨front, back, empty, length⟩ := cut
        have nothing := congrArg List.length empty
        rw [encode_append, List.length_append] at nothing
        simp only [Option.getD_none, List.length_nil] at nothing
        omega
      rw [start]
      exact isCut_zero (each l (List.mem_of_getLast? last))

theorem isText_octets {start : Start} {stop : Pos} (each : ∀ l ∈ lines, IsText l)
    (starts : IsCut (lines.getD (start.line - 1) []) (start.from (lines.getD (start.line - 1) [])))
    (stops : At lines stop) : IsText (octets lines start stop) := by
  have ends {l : List UInt8} := isCut_last (k := start.line - 1) (l := l) each stops
  have among : ∀ l ∈ (lines.take stop.line).drop (start.line - 1), IsText l :=
    fun l member => each l (List.mem_of_mem_take (List.mem_of_mem_drop member))
  have head : ∀ l ∈ ((lines.take stop.line).drop (start.line - 1)).head?,
      lines.getD (start.line - 1) [] = l := by
    intro l first
    rw [List.head?_drop, Option.mem_def, List.getElem?_take] at first
    split at first
    · rw [List.getD_eq_getElem?_getD, first, Option.getD_some]
    · cases first
  unfold octets
  split
  · exact isText_nil
  · rename_i only shown
    rw [shown] at ends head
    rw [head only rfl] at starts
    exact isText_firstLine starts (starts.between (ends rfl))
  · rename_i first rest several shown
    rw [shown] at ends head among
    rw [head first rfl] at starts
    refine ((isText_firstLine starts starts.drop).append (isText_flatten fun l member => ?_)).append ?_
    · exact among l (List.mem_cons_of_mem _ ((List.dropLast_sublist rest).subset member))
    · cases last : rest.getLast? with
      | none => exact absurd (by rw [List.getLast?_eq_none_iff.mp last]) several
      | some l =>
        rw [List.getLastD_eq_getLast?, last]
        refine (ends ?_).take
        rw [List.getLast?_cons, last]
        rfl

theorem text_of_isText {start : Start} {stop : Pos} (h : IsText (octets lines start stop)) :
    ∃ t, text lines start stop = .ok t := by
  obtain ⟨cs, same⟩ := h
  exact ⟨Text.ofChars cs, by rw [text, same, decode_encode]; rfl⟩

theorem ofSpan_succeeds (each : ∀ l ∈ lines, IsText l) {span : Span} (starts : At lines span.start)
    (stops : At lines span.stop) : ∃ t, ofSpan lines span = .ok t :=
  text_of_isText (isText_octets each starts.cut stops)

theorem lastAt?_some {os : List UInt8} {column : Nat} (found : lastAt? os = some column) :
    ∃ front back, os = front ++ 64 :: back ∧ column = front.length := by
  have whole := List.takeWhile_append_dropWhile (p := (· ≠ (64 : UInt8))) (l := os.reverse)
  unfold lastAt? at found
  simp only at found
  split at found
  · rename_i less
    cases dropped : os.reverse.dropWhile (· ≠ (64 : UInt8)) with
    | nil =>
      rw [dropped, List.append_nil] at whole
      rw [whole, List.length_reverse] at less
      omega
    | cons b more =>
      have sign : b = 64 := by
        have stops := List.head?_dropWhile_not (· ≠ (64 : UInt8)) os.reverse
        rw [dropped] at stops
        simpa using stops
      rw [dropped, sign] at whole
      have split := congrArg List.reverse whole
      simp only [List.reverse_append, List.reverse_cons, List.reverse_reverse, List.append_assoc,
        List.singleton_append] at split
      refine ⟨more.reverse, _, split.symm, ?_⟩
      have lengths := congrArg List.length whole
      simp only [List.length_append, List.length_cons, List.length_reverse] at lengths ⊢
      have := Option.some.inj found
      omega
  · cases found

/-- A place whose statement can be cut out. The line of a decorator is not the last one. -/
structure Fits (lines : List (List UInt8)) (place : Place) : Prop where
  start : At lines place.span.start
  stop : At lines place.span.stop
  decorator : ∀ p ∈ place.decorator, At lines p ∧ p.line < lines.length
  lambdaBody : ∀ s ∈ place.lambdaBody, At lines s.start ∧ At lines s.stop

theorem ofPlace_succeeds (h : Lined source lines) {place : Place} (fits : Fits lines place) :
    ∃ t, ofPlace lines place = .ok t := by
  have each := isText_lines h
  unfold ofPlace
  split
  · exact ofSpan_succeeds each fits.start fits.stop
  · rename_i p decorated
    obtain ⟨here, more⟩ := fits.decorator p decorated
    refine text_of_isText (isText_octets each ?_ fits.stop)
    cases found : lastAt? ((lines.getD (p.line - 1) []).take p.column) with
    | none =>
      have counted := here.counted
      exact isCut_before_end h (i := p.line - 1) (by omega)
    | some column =>
      obtain ⟨front, back, split, rfl⟩ := lastAt?_some found
      have line := List.take_append_drop p.column (lines.getD (p.line - 1) [])
      rw [split, List.append_assoc, List.cons_append] at line
      have cut := isCut_before (line ▸ here.cut.isText) (by decide)
      rwa [line] at cut

end Slice

end BodyDigest.Indented
