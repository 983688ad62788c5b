import BodyDigest.Indented.Lexer
import BodyDigest.Proofs.Indented.Slicing

/-!
Where the tokens of a source stand: between characters of its lines, one behind another.
-/
namespace BodyDigest.Indented

variable {source ahead : List Char} {lines : List (List UInt8)} {t : Token} {p q : Pos}

/-- A token stands between characters of a source; only the end of a block may stand behind all of them. -/
structure Token.Stands (lines : List (List UInt8)) (t : Token) : Prop where
  start : At lines t.span.start
  stop : At lines t.span.stop
  inside : t.lexeme ≠ .dedent → t.span.start.line ≤ lines.length

/-- A token does not reach below the line of a place, and the end of a line lies above it. -/
structure Token.Until (t : Token) (p : Pos) : Prop where
  start : t.span.start.line ≤ p.line
  stop : t.span.stop.line ≤ p.line
  newline : t.lexeme = .newline → t.span.start.line < p.line

theorem Token.Until.mono (h : t.Until p) (later : p.line ≤ q.line) : t.Until q :=
  ⟨Nat.le_trans h.start later, Nat.le_trans h.stop later,
    fun feed => Nat.lt_of_lt_of_le (h.newline feed) later⟩

/-- What is ahead of a place in a source. -/
def Faces (source : List Char) (p : Pos) (ahead : List Char) : Prop :=
  ∃ before, source = before ++ ahead ∧ p = Pos.advance ⟨1, 0⟩ before

theorem Faces.move {front : List Char} (h : Faces source p (front ++ ahead)) :
    Faces source (p.advance front) ahead := by
  obtain ⟨before, rfl, rfl⟩ := h
  exact ⟨before ++ front, (List.append_assoc ..).symm, (advance_append ..).symm⟩

theorem Faces.skip {c : Char} (h : Faces source p (c :: ahead)) :
    Faces source (p.after c) ahead := @Faces.move source ahead p [c] h

theorem Faces.at (h : Faces source p ahead) (lined : Lined source lines) : At lines p := by
  obtain ⟨before, whole, rfl⟩ := h
  exact at_of_lined lined whole

theorem Faces.inside (h : Faces source p ahead) (lined : Lined source lines) (some_ahead : ahead ≠ []) :
    p.line ≤ lines.length := by
  obtain ⟨before, whole, rfl⟩ := h
  exact line_of_lined lined whole some_ahead

theorem line_advance (p : Pos) (cs : List Char) : p.line ≤ (p.advance cs).line := by
  induction cs generalizing p with
  | nil => exact Nat.le_refl _
  | cons c rest ih =>
    refine Nat.le_trans ?_ (ih (p.after c))
    rw [Pos.after]
    split <;> simp

theorem advance_feed (p : Pos) {cs : List Char} (clear : '\n' ∉ cs) :
    p.advance (cs ++ ['\n']) = ⟨p.line + 1, 0⟩ := by
  rw [advance_append, advance_clear p clear]
  rfl

theorem Faces.feed {front : List Char} (h : Faces source p (front ++ '\n' :: ahead)) (clear : '\n' ∉ front) :
    Faces source ⟨p.line + 1, 0⟩ ahead := by
  rw [← advance_feed p clear]
  exact Faces.move (by simpa using h)

theorem split_at_feed (cs : List Char) : ∃ front, '\n' ∉ front ∧
    cs = front ++ cs.dropWhile (· ≠ '\n') ∧ ∀ c ∈ (cs.dropWhile (· ≠ '\n')).head?, c = '\n' := by
  refine ⟨cs.takeWhile (· ≠ '\n'), fun member => ?_, List.takeWhile_append_dropWhile.symm, fun c first => ?_⟩
  · simpa using List.all_eq_true.mp List.all_takeWhile _ member
  · have stops := List.head?_dropWhile_not (· ≠ '\n') cs
    rw [Option.mem_def.mp first] at stops
    simpa using stops

/-- The line below a place, in a source that ends with a line feed. -/
theorem Faces.below (h : Faces source p ahead) (closed : ∀ c ∈ source.getLast?, c = '\n')
    (some_ahead : ahead ≠ []) :
    Faces source ⟨p.line + 1, 0⟩ ((ahead.dropWhile (· ≠ '\n')).drop 1) := by
  obtain ⟨front, clear, split, first⟩ := split_at_feed ahead
  cases dropped : ahead.dropWhile (· ≠ '\n') with
  | nil =>
    rw [dropped, List.append_nil] at split
    obtain ⟨before, rfl, -⟩ := h
    obtain ⟨initial, last, rfl⟩ := List.eq_nil_or_concat ahead |>.resolve_left some_ahead
    have feed : last = '\n' := closed last (by simp)
    exact absurd (by rw [← split, feed]; simp) clear
  | cons c rest =>
    obtain rfl : c = '\n' := first c (by rw [dropped]; rfl)
    rw [split, dropped] at h
    exact h.feed clear

namespace Lexer

/-! ### What is taken -/

variable {cs taken rest : List Char}

theorem digitRun_append {p : Char → Bool} (h : digitRun p cs = some (taken, rest)) :
    cs = taken ++ rest := by
  fun_induction digitRun p cs generalizing taken <;> grind [Option.map_eq_some_iff]

theorem based_append {base : Nat} {p : Char → Bool} {lead : List Char} {value : Number}
    (h : based base p lead cs = some (value, taken, rest)) : lead ++ cs = taken ++ rest := by
  unfold based at h
  split at h
  · rename_i run
    rw [digitRun_append run]
    grind
  · cases h

theorem exponent_append {power : Int} (h : exponent cs = some (taken, power, rest)) :
    cs = taken ++ rest := by
  unfold exponent at h
  grind [→ digitRun_append, Option.map_eq_some_iff]

theorem fraction_append (h : fraction cs = some (taken, rest)) : cs = taken ++ rest := by
  unfold fraction at h
  grind [→ digitRun_append, Option.map_eq_some_iff]

theorem decimal_append {value : Number} (h : decimal cs = some (value, taken, rest)) :
    cs = taken ++ rest := by
  obtain ⟨⟨whole, r⟩, digits, h⟩ := Option.bind_eq_some_iff.mp h
  obtain ⟨⟨frac, r'⟩, point, h⟩ := Option.bind_eq_some_iff.mp h
  obtain ⟨⟨power, e, r''⟩, exponential, h⟩ := Option.bind_eq_some_iff.mp h
  have split : cs = (whole ++ frac ++ power) ++ r'' := by
    rw [digitRun_append digits, fraction_append point, exponent_append exponential]
    simp
  simp only at h
  split at h
  · rw [split, List.drop_left] at h
    grind
  · rw [split, List.drop_left] at h
    grind
  · grind

theorem number_append {value : Number} (h : number cs = some (value, taken, rest)) :
    cs = taken ++ rest := by
  unfold number at h
  grind [→ based_append, → decimal_append]

theorem shortBody_append {quote : Char} (h : shortBody quote cs = some (taken, rest)) :
    cs = taken ++ quote :: rest := by
  fun_induction shortBody quote cs generalizing taken <;> grind [Option.map_eq_some_iff]

theorem longBody_append {quote : Char} (h : longBody quote cs = some (taken, rest)) :
    cs = taken ++ [quote, quote, quote] ++ rest := by
  fun_induction longBody quote cs generalizing taken <;>
    grind [Option.map_eq_some_iff, List.isPrefixOf_iff_prefix, List.prefix_iff_eq_append]

theorem literal_append {quote : Char} {more body quotes : List Char}
    (h : literal quote (quote :: more) = some (body, quotes, rest)) :
    quote :: more = quotes ++ body ++ quotes ++ rest := by
  unfold literal at h
  split at h
  · rename_i tripled
    obtain ⟨⟨b, r⟩, found, same⟩ := Option.map_eq_some_iff.mp h
    cases same
    have opened := List.prefix_iff_eq_append.mp (List.isPrefixOf_iff_prefix.mp tripled)
    rw [← opened, List.append_assoc, List.append_assoc, ← List.append_assoc body]
    exact congrArg _ (longBody_append found)
  · obtain ⟨⟨b, r⟩, found, same⟩ := Option.map_eq_some_iff.mp h
    cases same
    rw [List.drop_one, List.tail_cons] at found
    rw [shortBody_append found]
    simp

theorem operator_append {l : Lexeme} (h : operator cs = some (l, taken, rest)) : cs = taken ++ rest := by
  obtain ⟨o, found, same⟩ := Option.map_eq_some_iff.mp h
  cases same
  have begins := List.find?_some found
  exact (List.prefix_iff_eq_append.mp (List.isPrefixOf_iff_prefix.mp begins)).symm

theorem lexeme_append {l : Lexeme} (h : lexeme cs = some (l, taken, rest)) : cs = taken ++ rest := by
  have word := List.takeWhile_append_dropWhile (p := isNameChar) (l := cs)
  unfold lexeme at h
  split at h
  · cases h
  · split at h
    · simp only at h
      split at h
      · rename_i q more after
        split at h
        · obtain ⟨⟨body, quotes, r⟩, found, same⟩ := Option.map_eq_some_iff.mp h
          cases same
          rw [after] at found word
          refine word.symm.trans ?_
          rw [literal_append found]
          simp
        · obtain ⟨l', -, same⟩ := Option.map_eq_some_iff.mp h
          cases same
          exact word.symm
      · obtain ⟨l', -, same⟩ := Option.map_eq_some_iff.mp h
        cases same
        exact word.symm
    · grind [→ number_append, → operator_append, Option.map_eq_some_iff]

/-! ### Places of tokens -/

theorem indentation_faces {w joined w' : Width} (here : Faces source p cs)
    (h : indentation w joined p cs = some (w', q, rest)) : Faces source q rest ∧ p.line ≤ q.line := by
  fun_induction indentation w joined p cs with
  | case1 w joined p more ih => exact ih here.skip h
  | case2 w joined p more ih => exact ih here.skip h
  | case3 w joined p more ih => exact ih here.skip h
  | case4 w joined p more none => cases h
  | case5 w joined p more some_more kept ih =>
    obtain ⟨faces, below⟩ := ih here.skip.skip h
    exact ⟨faces, Nat.le_trans (Nat.le_succ _) below⟩
  | case6 w joined p more other => cases h
  | case7 w joined p more =>
    cases h
    exact ⟨here, Nat.le_refl _⟩

/-- What holds of a lexer on its way through a source. A comment is left behind before its place is. -/
structure Sound (source : List Char) (lines : List (List UInt8)) (lineStart : Bool) (s : State)
    (done : List Token) : Prop where
  faces : ∃ comment, '\n' ∉ comment ∧ Faces source s.pos (comment ++ s.rest) ∧
    (comment = [] ∨ lineStart = false ∧ ∀ c ∈ s.rest.head?, c = '\n')
  stands : ∀ t ∈ done, t.Stands lines
  passed : ∀ t ∈ done, t.Until s.pos
  rising : done.Pairwise fun t u => u.Until t.span.start

variable {lineStart : Bool} {s s' : State} {done : List Token}

theorem Sound.move (h : Sound source lines lineStart s done) {after : Bool}
    (faces : Faces source s'.pos s'.rest) (below : s.pos.line ≤ s'.pos.line) :
    Sound source lines after s' done :=
  ⟨⟨[], List.not_mem_nil, faces, .inl rfl⟩, h.stands, fun t member => (h.passed t member).mono below,
    h.rising⟩

theorem Sound.put (h : Sound source lines lineStart s done) {after : Bool} (stands : t.Stands lines)
    (start : t.span.start = s.pos) (passed : t.Until s'.pos) (faces : Faces source s'.pos s'.rest) :
    Sound source lines after s' (t :: done) where
  faces := ⟨[], List.not_mem_nil, faces, .inl rfl⟩
  stands := List.forall_mem_cons.mpr ⟨stands, h.stands⟩
  passed := List.forall_mem_cons.mpr
    ⟨passed, fun u member => (h.passed u member).mono (start ▸ passed.start)⟩
  rising := List.pairwise_cons.mpr ⟨fun u member => start ▸ h.passed u member, h.rising⟩

/-- Tokens for the width of a line, all at its first character. -/
theorem Sound.settle (h : Sound source lines lineStart s done) {after : Bool} (lined : Lined source lines)
    (faces : Faces source s.pos s.rest) {marks : List Lexeme} (no_feed : ∀ m ∈ marks, m ≠ .newline)
    (inside : ∀ m ∈ marks, m ≠ .dedent → s.rest ≠ []) :
    Sound source lines after s (marks.map (fun m => ⟨m, ⟨s.pos, s.pos⟩⟩) ++ done) := by
  induction marks with
  | nil => exact h.move faces (Nat.le_refl _)
  | cons m rest ih =>
    obtain ⟨no_feed, later_feeds⟩ := List.forall_mem_cons.mp no_feed
    obtain ⟨inside, later_inside⟩ := List.forall_mem_cons.mp inside
    refine (ih later_feeds later_inside).put ⟨faces.at lined, faces.at lined, fun other => ?_⟩ rfl
      ⟨Nat.le_refl _, Nat.le_refl _, fun feed => absurd feed no_feed⟩ faces
    exact faces.inside lined (inside other)

theorem settle_no_feed {w : Width} {blocks inner : List Width} {marks : List Lexeme}
    (h : Lexer.settle w blocks = some (marks, inner)) : ∀ m ∈ marks, m ≠ .newline := by
  unfold Lexer.settle at h
  grind

theorem lexeme_no_feed {l : Lexeme} (h : lexeme cs = some (l, taken, rest)) : l ≠ .newline := by
  unfold lexeme nameLexeme operator at h
  grind [Option.map_eq_some_iff]

/-- Tokens that stand between characters, none of which reaches below the next one. -/
abbrev Rising (lines : List (List UInt8)) (ts : List Token) : Prop :=
  (∀ t ∈ ts, t.Stands lines) ∧ ts.Pairwise fun t u => t.Until u.span.start

theorem Sound.rising_reverse (h : Sound source lines lineStart s done) :
    Rising lines done.reverse :=
  ⟨fun t member => h.stands t (List.mem_reverse.mp member), List.pairwise_reverse.mpr h.rising⟩

section

variable {fuel : Nat} {ts : List Token}

/-- A step at the start of a line: the end of the source, an empty line, or tokens for the width. -/
theorem run_sound_line (lined : Lined source lines) (closed : ∀ c ∈ source.getLast?, c = '\n')
    (later : ∀ {lineStart s done}, Sound source lines lineStart s done →
      run fuel lineStart s done = some ts → Rising lines ts)
    (h : Sound source lines true s done) (ran : run (fuel + 1) true s done = some ts) :
    Rising lines ts := by
  obtain ⟨comment, clear, faces, skipped⟩ := h.faces
  obtain rfl := skipped.resolve_right (by simp)
  rw [run, if_pos rfl] at ran
  obtain ⟨⟨w, pos, rest⟩, indented, ran⟩ := Option.bind_eq_some_iff.mp ran
  obtain ⟨ahead, below⟩ := indentation_faces faces indented
  simp only at ran
  split at ran
  · have moved : Sound source lines true { s with pos := pos, rest := [] } done := h.move ahead below
    have ended : Sound source lines true { s with pos := pos, rest := [] }
        ((List.replicate (s.blocks.length - 1) Lexeme.dedent).map (fun m => ⟨m, ⟨pos, pos⟩⟩) ++ done) :=
      moved.settle lined ahead (by simp) (by simp)
    have same : ts = ((List.replicate (s.blocks.length - 1) Lexeme.dedent).map
        (fun m => (⟨m, ⟨pos, pos⟩⟩ : Token)) ++ done).reverse := by
      simpa using (Option.some.inj ran).symm
    rw [same]
    exact ended.rising_reverse
  · split at ran
    · exact later (h.move (ahead.below closed (List.cons_ne_nil _ _)) (Nat.le_succ_of_le below)) ran
    · obtain ⟨⟨marks, blocks⟩, settled, ran⟩ := Option.bind_eq_some_iff.mp ran
      have moved : Sound source lines false ⟨_, pos, blocks, s.brackets⟩ done := h.move ahead below
      exact later (moved.settle lined ahead (settle_no_feed settled) (by simp)) ran

/-- A step at a line feed, which is a token outside of brackets. -/
theorem run_sound_feed (lined : Lined source lines)
    (later : ∀ {lineStart s done}, Sound source lines lineStart s done →
      run fuel lineStart s done = some ts → Rising lines ts)
    {rest : List Char} (shown : s.rest = '\n' :: rest) (h : Sound source lines false s done)
    (ran : run (fuel + 1) false s done = some ts) : Rising lines ts := by
  obtain ⟨comment, clear, faces, -⟩ := h.faces
  rw [shown] at faces
  have next := faces.feed clear
  have below : s.pos.line ≤ s.pos.line + 1 := Nat.le_succ _
  rw [run, if_neg Bool.false_ne_true, shown] at ran
  simp only [Char.reduceEq, decide_false, Bool.or_self, Bool.false_eq_true, if_false, if_true] at ran
  split at ran
  · refine later (h.put ⟨faces.at lined, faces.at lined, fun _ => ?_⟩ rfl
      ⟨below, below, fun _ => Nat.lt_succ_self _⟩ next) ran
    exact faces.inside lined (by simp)
  · exact later (h.move next below) ran

/-- A step at another character: a blank, a comment, a joined line or a lexeme. -/
theorem run_sound_inside (lined : Lined source lines)
    (later : ∀ {lineStart s done}, Sound source lines lineStart s done →
      run fuel lineStart s done = some ts → Rising lines ts)
    {c : Char} {rest : List Char} (shown : s.rest = c :: rest) (feed : c ≠ '\n')
    (h : Sound source lines false s done) (ran : run (fuel + 1) false s done = some ts) :
    Rising lines ts := by
  obtain ⟨comment, clear, faces, skipped⟩ := h.faces
  rw [shown] at faces skipped
  obtain rfl : comment = [] := skipped.resolve_right fun at_feed => feed (at_feed.2 c rfl)
  rw [List.nil_append] at faces
  rw [run, if_neg Bool.false_ne_true, shown] at ran
  simp only at ran
  split at ran
  · exact later (h.move faces.skip (line_advance s.pos [c])) ran
  · split at ran
    · rename_i mark
      subst mark
      obtain ⟨front, inside, split, first⟩ := split_at_feed rest
      have comment_ahead : Faces source s.pos ('#' :: front ++ rest.dropWhile (· ≠ '\n')) := by
        rwa [List.cons_append, ← split]
      have passed : Sound source lines false { s with rest := rest.dropWhile (· ≠ '\n') } done :=
        ⟨⟨'#' :: front, by simp [inside], comment_ahead, .inr ⟨rfl, first⟩⟩, h.stands, h.passed,
          h.rising⟩
      exact later passed ran
    · split at ran
      · split at ran
        · rename_i slash _ d more
          subst slash
          exact later (h.move faces.skip.skip (line_advance s.pos ['\\', '\n'])) ran
        · cases ran
      · obtain ⟨⟨l, taken, left⟩, found, ran⟩ := Option.bind_eq_some_iff.mp ran
        obtain ⟨brackets, -, ran⟩ := Option.bind_eq_some_iff.mp ran
        have start := faces.at lined
        have inside := faces.inside lined (by simp)
        rw [lexeme_append found] at faces
        have below := line_advance s.pos taken
        exact later (h.put ⟨start, faces.move.at lined, fun _ => inside⟩ rfl
          ⟨below, Nat.le_refl _, fun feed => absurd feed (lexeme_no_feed found)⟩ faces.move) ran

end

theorem run_sound (lined : Lined source lines) (closed : ∀ c ∈ source.getLast?, c = '\n')
    {fuel : Nat} {ts : List Token} (h : Sound source lines lineStart s done)
    (ran : run fuel lineStart s done = some ts) : Rising lines ts := by
  induction fuel generalizing lineStart s done with
  | zero => cases ran
  | succ fuel ih =>
    cases lineStart with
    | true => exact run_sound_line lined closed ih h ran
    | false =>
      cases shown : s.rest with
      | nil =>
        rw [run, if_neg Bool.false_ne_true, shown] at ran
        cases ran
      | cons c rest =>
        by_cases feed : c = '\n'
        · subst feed
          exact run_sound_feed lined ih shown h ran
        · exact run_sound_inside lined ih shown feed h ran

/-- Every token of a source stands between characters of it, and none reaches below the next one. -/
theorem tokens_sound {source : List Char} {ts : List Token} (h : tokens source = some ts) :
    (∀ t ∈ ts, t.Stands (Lines.ofOctets (Utf8.encode source))) ∧
      ts.Pairwise fun t u => t.Until u.span.start := by
  refine run_sound (lined source) ?_ ⟨⟨[], List.not_mem_nil, ⟨[], rfl, rfl⟩, .inl rfl⟩, ?_, ?_, ?_⟩ h
  · intro c last
    unfold closeLastLine at last
    split at last
    · rename_i ended
      simp at ended
      grind
    · simpa using last.symm
  · simp
  · simp
  · exact .nil

end Lexer

end BodyDigest.Indented
