import BodyDigest.Proofs.Indented.Slicing

/-!
What the slice of a span holds: the source between two places, with its line ends, behind a padding
as wide as the column of the first place.
-/
namespace BodyDigest.Indented

open Utf8

/-! ### Lines of a source -/

def IsClear (cs : List Char) : Prop := ∀ c ∈ cs, c ≠ '\n' ∧ c ≠ '\r'

/-- The lines of a source with their line ends. A carriage return before a line feed ends no line by
itself, and the last line may be left open. -/
inductive IsLines : List (List Char) → List Char → Prop where
  | nil : IsLines [] []
  | last {body : List Char} (clear : IsClear body) (inhabited : body ≠ []) : IsLines [body] body
  | line {body ends rest : List Char} {lines : List (List Char)} (clear : IsClear body)
    (ended : IsLineEnd ends) (whole : ends = ['\r'] → rest.head? ≠ some '\n')
    (later : IsLines lines rest) : IsLines ((body ++ ends) :: lines) (body ++ ends ++ rest)

variable {cs before behind : List Char} {lines : List (List Char)}

theorem exists_lines (cs : List Char) : ∃ lines, IsLines lines cs := by
  have no_body : IsClear [] := fun c member => absurd member List.not_mem_nil
  induction cs using Lines.unify.induct with
  | case1 rest ih =>
    obtain ⟨lines, later⟩ := ih
    exact ⟨_, @IsLines.line [] _ _ _ no_body (.inr (.inr rfl)) (fun same => absurd same (by decide)) later⟩
  | case2 rest other ih =>
    obtain ⟨lines, later⟩ := ih
    refine ⟨_, @IsLines.line [] _ _ _ no_body (.inr (.inl rfl)) (fun _ feed => ?_) later⟩
    obtain ⟨more, same⟩ := List.head?_eq_some_iff.mp feed
    exact other more same
  | case3 c rest _ other ih =>
    obtain ⟨lines, later⟩ := ih
    by_cases feed : c = '\n'
    · rw [feed]
      exact ⟨_, @IsLines.line [] _ _ _ no_body (.inl rfl) (fun same => absurd same (by decide)) later⟩
    · have clear {body : List Char} (h : IsClear body) : IsClear (c :: body) :=
        List.forall_mem_cons.mpr ⟨⟨feed, other⟩, h⟩
      cases later with
      | nil => exact ⟨_, .last (clear no_body) (List.cons_ne_nil _ _)⟩
      | last body_clear inhabited => exact ⟨_, .last (clear body_clear) (List.cons_ne_nil _ _)⟩
      | line body_clear ended whole later => exact ⟨_, .line (clear body_clear) ended whole later⟩
  | case4 => exact ⟨[], .nil⟩

theorem IsLines.flatten (h : IsLines lines cs) : lines.flatten = cs := by
  induction h with
  | nil => rfl
  | last clear inhabited => exact List.append_nil _
  | line clear ended whole later ih => rw [List.flatten_cons, ih]

theorem IsClear.octets (h : IsClear cs) : ∀ b ∈ encode cs, b ≠ 10 ∧ b ≠ 13 := by
  intro b member
  obtain ⟨c, inside, of_char⟩ := List.mem_flatMap.mp member
  exact octets_clear (h c inside) b of_char

/-- Octets are cut where their characters are. -/
theorem IsLines.ofOctets (h : IsLines lines cs) : Lines.ofOctets (encode cs) = lines.map encode := by
  induction h with
  | nil => rfl
  | @last body clear inhabited =>
    refine ofOctets_clear clear.octets fun empty => inhabited ?_
    exact encode_injective empty
  | @line body ends rest lines clear ended whole later ih =>
    have cut : Lines.ofOctets (encode ends ++ encode rest) = encode ends :: lines.map encode := by
      rw [← ih]
      rcases ended with rfl | rfl | rfl
      · exact Lines.ofOctets.eq_3 _
      · exact ofOctets_return fun more same => whole rfl (by rw [same]; rfl)
      · exact Lines.ofOctets.eq_2 _
    rw [List.append_assoc, encode_append, encode_append, ofOctets_append clear.octets cut, List.map_cons,
      encode_append]

theorem IsLines.unique {others : List (List Char)} (h : IsLines lines cs) (h' : IsLines others cs) :
    lines = others :=
  List.map_injective_iff.mpr encode_injective (h.ofOctets.symm.trans h'.ofOctets)

/-! ### Places on the lines -/

/-- A place on one of the lines, between two characters or at an end of the line. -/
structure Site (lines : List (List Char)) where
  above : List (List Char)
  before : List Char
  behind : List Char
  below : List (List Char)
  whole : lines = above ++ (before ++ behind) :: below

namespace Site

/-- Lines are counted from one, columns are counted in octets. -/
def pos (s : Site lines) : Pos := ⟨s.above.length + 1, (encode s.before).length⟩

/-- How many characters of the source stand before a place. -/
def offset (s : Site lines) : Nat := (s.above.flatten ++ s.before).length

theorem take_offset (s : Site lines) : lines.flatten.take s.offset = s.above.flatten ++ s.before := by
  have whole : lines.flatten = s.above.flatten ++ s.before ++ (s.behind ++ s.below.flatten) := by
    rw [congrArg List.flatten s.whole, List.flatten_append, List.flatten_cons]
    simp only [List.append_assoc]
  rw [whole, offset, List.take_left]

theorem pos_injective {s r : Site lines} (same : s.pos = r.pos) :
    s.above = r.above ∧ s.before = r.before := by
  have line : s.above.length = r.above.length := Nat.succ.inj (congrArg Pos.line same)
  obtain ⟨above, rest⟩ := List.append_inj (s.whole.symm.trans r.whole) line
  have octets := congrArg encode (List.cons.inj rest).1
  rw [encode_append, encode_append] at octets
  have column : (encode s.before).length = (encode r.before).length := congrArg Pos.column same
  exact ⟨above, encode_injective (List.append_inj octets column).1⟩

end Site

theorem exists_site {p : Pos} (h : At (lines.map encode) p) (inside : p.line ≤ lines.length) :
    ∃ s : Site lines, s.pos = p := by
  obtain ⟨counted, front, back, line, column⟩ := h
  have below : p.line - 1 < lines.length := by omega
  have found : (lines.map encode).getD (p.line - 1) [] = encode lines[p.line - 1] := by
    rw [List.getD_eq_getElem?_getD, List.getElem?_map, List.getElem?_eq_getElem below]
    rfl
  have same : lines[p.line - 1] = front ++ back := encode_injective (found.symm.trans line)
  have whole : lines = lines.take (p.line - 1) ++ (front ++ back) :: lines.drop (p.line - 1 + 1) := by
    rw [← same, List.getElem_cons_drop, List.take_append_drop]
  refine ⟨⟨_, front, back, _, whole⟩, ?_⟩
  have count : (lines.take (p.line - 1)).length + 1 = p.line := by
    rw [List.length_take]
    omega
  rw [Site.pos, count, ← column]

/-! ### Paddings -/

def isWhite (c : Char) : Bool := [' ', '\t', '\n', '\x0b', '\x0c', '\r'].contains c

/-- White space as wide as the beginning of a line: that beginning itself if it is white, else spaces. -/
structure IsPadding (before padding : List Char) : Prop where
  wide : (encode padding).length = (encode before).length
  white : ∀ c ∈ padding, isWhite c
  own : (∀ c ∈ before, isWhite c) → padding = before
  spaces : ¬ (∀ c ∈ before, isWhite c) → ∀ c ∈ padding, c = ' '

theorem isBlankOctet_iff (b : UInt8) :
    Slice.isBlankOctet b ↔ b = 32 ∨ b = 9 ∨ b = 10 ∨ b = 11 ∨ b = 12 ∨ b = 13 := by
  simp only [Slice.isBlankOctet, Bool.or_eq_true, Bool.and_eq_true, decide_eq_true_eq,
    UInt8.le_iff_toNat_le, ← UInt8.toNat_inj, UInt8.toNat_ofNat]
  omega

/-- White characters are the ones whose octets are blank. -/
theorem isWhite_iff (c : Char) : isWhite c ↔ (String.utf8EncodeChar c).all Slice.isBlankOctet := by
  rw [isWhite, List.contains_iff_mem]
  constructor
  · intro white
    simp only [List.mem_cons, List.not_mem_nil, or_false] at white
    rcases white with rfl | rfl | rfl | rfl | rfl | rfl <;> rfl
  · intro blank
    obtain ⟨b, os, octets⟩ := List.exists_cons_of_ne_nil (octets_ne_nil c)
    have member : b ∈ String.utf8EncodeChar c := octets ▸ List.mem_cons_self
    obtain ⟨d, listed, alone, small⟩ : ∃ d ∈ [' ', '\t', '\n', '\x0b', '\x0c', '\r'],
        String.utf8EncodeChar d = [b] ∧ b.toNat < 128 := by
      rcases (isBlankOctet_iff b).mp (List.all_eq_true.mp blank b member) with
        rfl | rfl | rfl | rfl | rfl | rfl
      · exact ⟨' ', by decide, rfl, by decide⟩
      · exact ⟨'\t', by decide, rfl, by decide⟩
      · exact ⟨'\n', by decide, rfl, by decide⟩
      · exact ⟨'\x0b', by decide, rfl, by decide⟩
      · exact ⟨'\x0c', by decide, rfl, by decide⟩
      · exact ⟨'\r', by decide, rfl, by decide⟩
    rwa [char_of_octet member alone small]

theorem all_isBlankOctet_iff (cs : List Char) :
    (encode cs).all Slice.isBlankOctet ↔ ∀ c ∈ cs, isWhite c := by
  rw [encode, List.all_flatMap, List.all_eq_true]
  exact forall₂_congr fun c _ => (isWhite_iff c).symm

theorem IsPadding.unique {padding other : List Char} (h : IsPadding before padding)
    (h' : IsPadding before other) : padding = other := by
  by_cases white : ∀ c ∈ before, isWhite c
  · rw [h.own white, h'.own white]
  · obtain ⟨n, rfl⟩ : ∃ n, padding = List.replicate n ' ' :=
      ⟨_, List.eq_replicate_of_mem (h.spaces white)⟩
    obtain ⟨m, rfl⟩ : ∃ m, other = List.replicate m ' ' :=
      ⟨_, List.eq_replicate_of_mem (h'.spaces white)⟩
    have wide := h.wide.trans h'.wide.symm
    rw [encode_spaces, encode_spaces, List.length_replicate, List.length_replicate] at wide
    rw [wide]

/-- A slice goes on behind its padding, which depends on what stands before it on its first line only. -/
theorem exists_padding (before : List Char) : ∃ padding, IsPadding before padding ∧
    ∀ n behind stopped, Slice.firstLine ⟨n, some (encode before).length⟩
      (encode (before ++ behind)) stopped =
        encode padding ++ stopped.drop (encode before).length := by
  have lead (behind : List Char) :
      (encode (before ++ behind)).take (encode before).length = encode before := by
    rw [encode_append, List.take_left]
  by_cases white : ∀ c ∈ before, isWhite c
  · refine ⟨before, ⟨rfl, white, fun _ => rfl, fun other => absurd white other⟩,
      fun n behind stopped => ?_⟩
    simp only [Slice.firstLine, Option.getD_some, lead, (all_isBlankOctet_iff before).mpr white]
    cases octets : encode before <;> rfl
  · refine ⟨List.replicate (encode before).length ' ', ⟨?_, ?_, fun blank => absurd blank white, ?_⟩,
      fun n behind stopped => ?_⟩
    · rw [encode_spaces, List.length_replicate]
    · intro c member
      rw [List.eq_of_mem_replicate member]
      rfl
    · exact fun _ c member => List.eq_of_mem_replicate member
    · have other : (encode before).all Slice.isBlankOctet = false := by
        rw [Bool.eq_false_iff]
        exact fun blank => white ((all_isBlankOctet_iff before).mp blank)
      simp only [Slice.firstLine, Option.getD_some, lead, other, Bool.and_false, encode_spaces]
      rfl

/-! ### Slices between two places -/

/-- A text that is the source between the places of a span, behind a padding up to the column of the
first. -/
def IsExcerpt (cs : List Char) (span : Span) (t : Text) : Prop :=
  ∃ (lines : List (List Char)) (start stop : Site lines) (padding : List Char),
    IsLines lines cs ∧ start.pos = span.start ∧ stop.pos = span.stop ∧ IsPadding start.before padding ∧
      t = Text.ofChars (padding ++ (cs.take stop.offset).drop start.offset)

/-- The places of a span and its source tell the excerpt. -/
theorem IsExcerpt.unique {span : Span} {t u : Text} (h : IsExcerpt cs span t)
    (h' : IsExcerpt cs span u) : t = u := by
  obtain ⟨lines, start, stop, padding, cut, starts, stops, padded, rfl⟩ := h
  obtain ⟨others, start', stop', other, cut', starts', stops', padded', rfl⟩ := h'
  obtain rfl := cut.unique cut'
  obtain ⟨above, before⟩ := Site.pos_injective (starts.trans starts'.symm)
  obtain ⟨above', before'⟩ := Site.pos_injective (stops.trans stops'.symm)
  rw [← before] at padded'
  rw [padded.unique padded', Site.offset, Site.offset, Site.offset, Site.offset, above, before, above',
    before']

namespace Slice

variable {start stop : Site lines}

/-- The lines from that of one place to that of another. -/
theorem lines_between (start stop : Site lines) :
    ((lines.map encode).take stop.pos.line).drop (start.pos.line - 1) =
      ((stop.above ++ [stop.before ++ stop.behind]).drop start.above.length).map encode := by
  have whole : lines = stop.above ++ [stop.before ++ stop.behind] ++ stop.below := by
    rw [List.append_assoc]
    exact stop.whole
  have front : lines.take stop.pos.line = stop.above ++ [stop.before ++ stop.behind] := by
    rw [congrArg (List.take _) whole]
    exact List.take_left' List.length_append
  rw [← List.map_take, front, ← List.map_drop]
  rfl

/-- Of two places in their order, both are on one line or the line of the first is above the other. -/
theorem line_cases (ordered : start.pos.line ≤ stop.pos.line) :
    stop.above = start.above ∧ start.before ++ start.behind = stop.before ++ stop.behind ∨
      ∃ middle, stop.above = start.above ++ (start.before ++ start.behind) :: middle := by
  rcases List.append_eq_append_iff.mp (start.whole.symm.trans stop.whole) with
    ⟨between, above, same⟩ | ⟨between, above, same⟩
  · cases between with
    | nil => exact .inl ⟨above.trans (List.append_nil _), (List.cons.inj same).1⟩
    | cons line middle =>
      obtain ⟨rfl, -⟩ := List.cons.inj same
      exact .inr ⟨middle, above⟩
  · have none : between = [] := by
      have lengths := congrArg List.length above
      rw [List.length_append] at lengths
      have few : start.above.length ≤ stop.above.length := Nat.le_of_succ_le_succ ordered
      exact List.eq_nil_of_length_eq_zero (by omega)
    rw [none] at above same
    exact .inl ⟨(above.trans (List.append_nil _)).symm, (List.cons.inj same).1.symm⟩

theorem octets_single {os : List (List UInt8)} {start : Start} {stop : Pos} {only : List UInt8}
    (among : (os.take stop.line).drop (start.line - 1) = [only]) :
    octets os start stop = firstLine start only (only.take stop.column) := by
  rw [octets, among]

theorem octets_several {os middle : List (List UInt8)} {start : Start} {stop : Pos}
    {first last : List UInt8}
    (among : (os.take stop.line).drop (start.line - 1) = first :: (middle ++ [last])) :
    octets os start stop = firstLine start first first ++ middle.flatten ++ last.take stop.column := by
  rw [octets, among]
  split
  · contradiction
  · rename_i only same
    simp at same
  · rename_i front rest _ same
    obtain ⟨rfl, rfl⟩ := List.cons.inj same
    rw [List.dropLast_concat, List.getLastD_concat]

/-- On one line and over several ones, a slice is what stands between its places. -/
theorem octets_eq (ordered : start.pos.line ≤ stop.pos.line) {padding : List Char}
    (padded : ∀ n behind stopped, firstLine ⟨n, some (encode start.before).length⟩
      (encode (start.before ++ behind)) stopped =
        encode padding ++ stopped.drop (encode start.before).length) :
    octets (lines.map encode) ⟨start.pos.line, some start.pos.column⟩ stop.pos =
      encode (padding ++ (lines.flatten.take stop.offset).drop start.offset) := by
  have last : (encode (stop.before ++ stop.behind)).take stop.pos.column = encode stop.before := by
    rw [encode_append]
    exact List.take_left
  have among := lines_between start stop
  rw [stop.take_offset, Site.offset, encode_append]
  rcases line_cases ordered with ⟨above, line⟩ | ⟨middle, above⟩
  · rw [above, List.drop_left] at among
    rw [octets_single among, last, ← line, above, List.length_append, ← List.drop_drop, List.drop_left,
      ← drop_encode line]
    exact padded ..
  · have whole : stop.above.flatten ++ stop.before =
        start.above.flatten ++ start.before ++ (start.behind ++ middle.flatten ++ stop.before) := by
      rw [above, List.flatten_append, List.flatten_cons]
      simp only [List.append_assoc]
    have first : firstLine ⟨start.pos.line, some start.pos.column⟩
        (encode (start.before ++ start.behind)) (encode (start.before ++ start.behind)) =
          encode padding ++ encode start.behind := by
      refine (padded ..).trans ?_
      rw [encode_append, List.drop_left]
    rw [above, List.append_assoc start.above, List.drop_left, List.cons_append, List.map_cons,
      List.map_append, List.map_singleton] at among
    rw [octets_several among, last, whole, List.drop_left, first, encode_append, encode_append,
      encode_flatten]
    simp only [List.append_assoc]

/-- A span whose places lie on the lines of a source between characters has the source between its
places as its text, behind white space up to its column; so has a statement without decorators. -/
theorem slice_is_excerpt {cs : List Char} {span : Span}
    (starts : At (Lines.ofOctets (encode cs)) span.start)
    (stops : At (Lines.ofOctets (encode cs)) span.stop)
    (ordered : span.start.line ≤ span.stop.line)
    (inside : span.stop.line ≤ (Lines.ofOctets (encode cs)).length) :
    ∃ t, IsExcerpt cs span t ∧ (∀ u, IsExcerpt cs span u → u = t) ∧
      ofSpan (Lines.ofOctets (encode cs)) span = .ok t ∧
      ∀ place : Place, place.decorator = none → place.span = span →
        ofPlace (Lines.ofOctets (encode cs)) place = .ok t := by
  obtain ⟨lines, cut⟩ := exists_lines cs
  rw [cut.ofOctets] at starts stops inside ⊢
  rw [List.length_map] at inside
  obtain ⟨start, from_start⟩ := exists_site starts (Nat.le_trans ordered inside)
  obtain ⟨stop, to_stop⟩ := exists_site stops inside
  obtain ⟨padding, padded, cuts⟩ := exists_padding start.before
  rw [← from_start, ← to_stop] at ordered
  have sliced : ofSpan (lines.map encode) span =
      .ok (Text.ofChars (padding ++ (cs.take stop.offset).drop start.offset)) := by
    rw [ofSpan, text, ← from_start, ← to_stop, octets_eq ordered cuts, decode_encode, cut.flatten]
    rfl
  have excerpt :
      IsExcerpt cs span (Text.ofChars (padding ++ (cs.take stop.offset).drop start.offset)) :=
    ⟨lines, start, stop, padding, cut, from_start, to_stop, padded, rfl⟩
  refine ⟨_, excerpt, fun u other => other.unique excerpt, sliced, ?_⟩
  rintro place plain rfl
  rw [ofPlace, plain]
  exact sliced

/-- The tab before the first sign stays, the line ends stay as they are, and columns count octets. -/
theorem slice_is_excerpt_tabbed :
    IsExcerpt "if é:\r\n\tü = (1,\r é) ; x\n".toList ⟨⟨2, 1⟩, ⟨3, 4⟩⟩ "\tü = (1,\r é)" := by
  have lines : Lines.ofOctets (encode "if é:\r\n\tü = (1,\r é) ; x\n".toList) =
      ["if é:\r\n".toList, "\tü = (1,\r".toList, " é) ; x\n".toList].map encode := by
    decide +kernel
  have starts : At (Lines.ofOctets (encode "if é:\r\n\tü = (1,\r é) ; x\n".toList)) ⟨2, 1⟩ := by
    rw [lines]
    exact ⟨by decide, "\t".toList, "ü = (1,\r".toList, by decide +kernel, by decide +kernel⟩
  have stops : At (Lines.ofOctets (encode "if é:\r\n\tü = (1,\r é) ; x\n".toList)) ⟨3, 4⟩ := by
    rw [lines]
    exact ⟨by decide, " é)".toList, " ; x\n".toList, by decide +kernel, by decide +kernel⟩
  have shown : ofSpan (Lines.ofOctets (encode "if é:\r\n\tü = (1,\r é) ; x\n".toList))
      ⟨⟨2, 1⟩, ⟨3, 4⟩⟩ = .ok "\tü = (1,\r é)" := by
    decide +kernel
  obtain ⟨t, excerpt, -, sliced, -⟩ :=
    @slice_is_excerpt _ ⟨⟨2, 1⟩, ⟨3, 4⟩⟩ starts stops (by decide) (by decide +kernel)
  obtain rfl : ("\tü = (1,\r é)" : Text) = t := Except.ok.inj (shown.symm.trans sliced)
  exact excerpt

end Slice

end BodyDigest.Indented
