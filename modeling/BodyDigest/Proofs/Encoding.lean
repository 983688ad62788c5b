import BodyDigest.Project.Command
import BodyDigest.Proofs.Emit.Recovery

/-!
The emitted module encodes its registry without loss: the registry is read again from the octets of
the module, and different registries have different modules.
-/
namespace BodyDigest

/-! ### Characters of a module -/

/-- A text that a source may have, in which no line end is rewritten when it is read. -/
def Text.IsTidy (t : Text) : Prop := ∀ c ∈ t, ∃ d, c = .char d ∧ d ≠ '\r' ∧ d ≠ '\x00'

namespace Text

theorem isTidy_append {t u : Text} : IsTidy (t ++ u) ↔ IsTidy t ∧ IsTidy u := by
  simp [IsTidy, or_imp, forall_and]

theorem isTidy_flatMap {α : Type} {f : α → Text} {xs : List α} (h : ∀ x ∈ xs, IsTidy (f x)) :
    IsTidy (xs.flatMap f) := by
  intro c member
  obtain ⟨x, inside, here⟩ := List.mem_flatMap.mp member
  exact h x inside c here

theorem isTidy_ofChars {cs : List Char} (h : ∀ d ∈ cs, d ≠ '\r' ∧ d ≠ '\x00') :
    IsTidy (ofChars cs) := by
  intro c member
  obtain ⟨d, inside, rfl⟩ := List.mem_map.mp member
  exact ⟨d, rfl, h d inside⟩

theorem isTidy_char {d : Char} (h : d ≠ '\r' ∧ d ≠ '\x00') : IsTidy [.char d] := by
  intro c member
  exact ⟨d, List.mem_singleton.mp member, h⟩

theorem isTidy_ofString {s : String} (h : s.toList.all fun d => d ≠ '\r' && d ≠ '\x00') :
    IsTidy (ofString s) := by
  apply isTidy_ofChars
  intro d member
  simpa using List.all_eq_true.mp h d member

theorem IsTidy.plain {t : Text} (h : IsTidy t) : IsPlain t := by
  intro c member
  obtain ⟨d, form, _⟩ := h c member
  exact ⟨d, form⟩

theorem IsTidy.chars {t : Text} (h : IsTidy t) : ∀ d ∈ t.chars, d ≠ '\r' ∧ d ≠ '\x00' := by
  intro d member
  obtain ⟨c, inside, shown⟩ := List.mem_filterMap.mp member
  obtain ⟨e, rfl, clean⟩ := h c inside
  cases shown
  exact clean

theorem isTidy_identifier {t : Text} (h : t.isIdentifier) : IsTidy t := by
  obtain ⟨_, _, _, _, inside⟩ := Indented.Lexer.identifier_chars h
  rw [← ofChars_chars (isPlain_identifier h)]
  apply isTidy_ofChars
  intro d member
  have name_char := inside d member
  constructor
  · rintro rfl
    revert name_char
    decide
  · rintro rfl
    revert name_char
    decide

theorem isTidy_quoted (t : Text) : IsTidy (quoted t) := by
  obtain ⟨q, body, written⟩ := Indented.quoted_literal t
  have quote : q ≠ '\r' ∧ q ≠ '\x00' := by
    rcases written.quote with rfl | rfl <;> decide
  rw [written.text]
  apply isTidy_ofChars
  intro d member
  simp only [List.mem_cons, List.mem_append, List.not_mem_nil, or_false] at member
  rcases member with rfl | member | rfl
  · exact quote
  · exact (written.clean d member).2
  · exact quote

theorem isTidy_ofNat (n : Nat) : IsTidy (ofNat n) := by
  apply isTidy_ofChars
  intro d member
  have digit := Nat.isDigit_of_mem_toDigits (by decide) (by decide) member
  constructor
  · rintro rfl
    revert digit
    decide
  · rintro rfl
    revert digit
    decide

end Text

namespace Emit

open Text

theorem isTidy_line {indent : Nat} {t : Text} (h : IsTidy t) : IsTidy (line indent t) := by
  have blanks : IsTidy (List.replicate indent (.char ' ')) := by
    intro c member
    exact ⟨' ', List.eq_of_mem_replicate member, by decide, by decide⟩
  have feed : IsTidy [.char '\n'] := isTidy_char (by decide)
  exact isTidy_append.mpr ⟨isTidy_append.mpr ⟨blanks, h⟩, feed⟩

theorem isTidy_braces : IsTidy openBrace ∧ IsTidy closeBrace :=
  ⟨isTidy_char (by decide), isTidy_char (by decide)⟩

theorem isTidy_stamps (c : ContainerView) : IsTidy (containerStamps c) := by
  have colon : IsTidy (": " : Text) := isTidy_ofString (by decide)
  have comma : IsTidy ("," : Text) := isTidy_ofString (by decide)
  have pair : IsTidy (": (" : Text) ∧ IsTidy (", " : Text) ∧ IsTidy ("),": Text) :=
    ⟨isTidy_ofString (by decide), isTidy_ofString (by decide),
      isTidy_ofString (by decide)⟩
  have stamp (m : MemberView) : IsTidy (stampLine m) := by
    apply isTidy_line
    simp only [isTidy_append]
    exact ⟨⟨⟨⟨⟨isTidy_quoted _, pair.1⟩, isTidy_quoted _⟩, pair.2.1⟩, isTidy_quoted _⟩, pair.2.2⟩
  have type (t : TypeView) : IsTidy (typeStamps t) := by
    simp only [typeStamps, isTidy_append]
    refine ⟨⟨isTidy_line ?_, isTidy_flatMap fun m _ => stamp m⟩, isTidy_line ?_⟩
    · exact isTidy_append.mpr ⟨isTidy_append.mpr ⟨isTidy_quoted _, colon⟩, isTidy_braces.1⟩
    · exact isTidy_append.mpr ⟨isTidy_braces.2, comma⟩
  simp only [containerStamps, isTidy_append]
  refine ⟨⟨isTidy_line ?_, isTidy_flatMap fun t _ => type t⟩, isTidy_line ?_⟩
  · exact isTidy_append.mpr ⟨isTidy_append.mpr ⟨isTidy_quoted _, colon⟩, isTidy_braces.1⟩
  · exact isTidy_append.mpr ⟨isTidy_braces.2, comma⟩

theorem isTidy_class {indent : Nat} {name : Text} (named : IsName name) :
    IsTidy (line indent (("class " : Text) ++ name ++ ":")) := by
  have head : IsTidy ("class " : Text) := isTidy_ofString (by decide)
  have colon : IsTidy (":" : Text) := isTidy_ofString (by decide)
  exact isTidy_line
    (isTidy_append.mpr ⟨isTidy_append.mpr ⟨head, isTidy_identifier named.1⟩, colon⟩)

theorem isTidy_container {c : ContainerView} (named : c.IsNamed) : IsTidy (containerClass c) := by
  have feed : IsTidy ("\n" : Text) := isTidy_ofString (by decide)
  have equals : IsTidy (" = " : Text) := isTidy_ofString (by decide)
  have constant (m : MemberView) (member : IsName m.name) : IsTidy (constantLine m) :=
    isTidy_line (isTidy_append.mpr
      ⟨isTidy_append.mpr ⟨isTidy_identifier member.1, equals⟩, isTidy_quoted _⟩)
  have type (t : TypeView) (inner : t.IsNamed) : IsTidy (typeClass t) := by
    simp only [typeClass, isTidy_append]
    exact ⟨⟨feed, isTidy_class inner.name⟩,
      isTidy_flatMap fun m member => constant m (inner.members m member)⟩
  simp only [containerClass, isTidy_append]
  exact ⟨⟨feed, isTidy_class named.name⟩,
    isTidy_flatMap fun t member => type t (named.types t member)⟩

theorem isTidy_module {root : Text} (named_root : IsName root) (count : Nat)
    {cs : List ContainerView} (named : ∀ c ∈ cs, c.IsNamed) :
    IsTidy (pages root count cs).module := by
  have fixed (s : String) (clean : s.toList.all fun d => d ≠ '\r' && d ≠ '\x00') :
      IsTidy (Text.ofString s) := isTidy_ofString clean
  have feed : IsTidy [.char '\n'] := isTidy_char (by decide)
  have runtime : IsTidy (runtimeText cs) := by
    simp only [runtimeText, isTidy_append]
    refine ⟨⟨⟨⟨⟨isTidy_line (fixed _ ?_), fixed _ ?_⟩, isTidy_line ?_⟩, ?_⟩, ?_⟩, fixed _ ?_⟩
    · decide
    · decide
    · exact isTidy_append.mpr ⟨fixed _ (by decide), isTidy_braces.1⟩
    · exact isTidy_flatMap fun c _ => isTidy_stamps c
    · exact isTidy_braces.2
    · decide
  have static : IsTidy (staticText root cs) := by
    simp only [staticText, isTidy_append]
    refine ⟨⟨isTidy_class named_root, isTidy_line (fixed _ ?_)⟩, ?_⟩
    · decide
    · exact isTidy_flatMap fun c member => isTidy_container (named c member)
  rw [pages, closed_module]
  simp only [moduleText, isTidy_append]
  refine ⟨⟨⟨⟨⟨⟨⟨⟨⟨isTidy_line (fixed _ ?_), isTidy_line ?_⟩, runtime⟩, fixed _ ?_⟩, static⟩,
    fixed _ ?_⟩, fixed _ ?_⟩, isTidy_quoted root⟩, fixed _ ?_⟩, feed⟩
  · decide
  · simp only [isTidy_append]
    exact ⟨⟨fixed _ (by decide), isTidy_ofNat count⟩, fixed _ (by decide)⟩
  · decide
  · decide
  · decide
  · decide

/-! ### Reading it again -/

theorem checkRoot_ok {root : Text} (h : checkRoot root = .ok ()) : IsName root := by
  unfold checkRoot at h
  split at h
  · rename_i accepted
    simpa [IsName] using accepted
  · cases h

theorem module_ends (root : Text) (count : Nat) (cs : List ContainerView) :
    (pages root count cs).module.chars.getLast? = some '\n' := by
  rw [pages, closed_module, Text.chars_append]
  exact List.getLast?_concat

/-- The source of an emitted module is read as the statements that its views call for. -/
theorem moduleOf_pages {root : Text} (named_root : IsName root) {cs : List ContainerView}
    (named : ∀ c ∈ cs, c.IsNamed) (count : Nat) :
    ∃ ss, Indented.moduleOf (pages root count cs).module.chars = .ok ss ∧
      Indented.shapes ss = moduleShape root cs := by
  have tidy := (isTidy_module named_root count named).chars
  have goes := goes_module named_root count named
  have ends := module_ends root count cs
  generalize (pages root count cs).module.chars = source at tidy goes ends
  have carriage : '\r' ∉ source := fun member => (tidy _ member).1 rfl
  obtain ⟨ts, tokens, lexemes, few⟩ := tokens_of_goes carriage ends goes
  obtain ⟨ss, after, read, said, finished⟩ := reads_program named_root named
    (n := Indented.Grammar.fuelFor source) (by rw [Indented.Grammar.fuelFor]; omega)
    ⟨ts, ⟨1, 0⟩⟩ lexemes
  have none_left : after.ahead = [] := List.map_eq_nil_iff.mp finished
  refine ⟨ss, ?_, said⟩
  simp only [Indented.moduleOf, Indented.readAll, tokens, read, none_left, List.isEmpty_nil, if_true]

/-- The registry that an emitted module holds is found in its source. -/
theorem registryOfModule_pages {root : Text} (named_root : IsName root) {r : Registry}
    {cs : List ContainerView} (shown : views r = .ok cs) (count : Nat) :
    ∃ s, Indented.registryOfModule (pages root count cs).module.chars = .ok s ∧ s.agrees r := by
  obtain ⟨named, _, _⟩ := views_shape shown
  obtain ⟨s, found, agrees⟩ := registry_of_views shown
  obtain ⟨ss, body, said⟩ := moduleOf_pages named_root named count
  have registry := registryArgument?_of_shapes said
  have tidy := (isTidy_module named_root count named).chars
  generalize (pages root count cs).module.chars = source at tidy body
  have null : '\x00' ∉ source := fun member => (tidy _ member).2 rfl
  have chars : Indented.sourceChars (Text.ofChars source) = .ok source := by
    simp [Indented.sourceChars, Text.chars?_ofChars, null]
  refine ⟨s, ?_, agrees⟩
  simp only [Indented.registryOfModule, chars, body, registry, valueOf_mapping, found,
    Except.mapError, bind, Except.bind]

/-- What is emitted for a registry is a tidy source, in which the registry is found. -/
theorem emit_read {root : Text} {r : Registry} {a : Artifacts} (h : emit [] root r = .ok a) :
    IsTidy a.module ∧ ∃ s, Indented.registryOfModule a.module.chars = .ok s ∧ s.agrees r := by
  obtain ⟨root_ok, cs, shown, rfl⟩ := emit_built_in_iff.mp h
  have named_root := checkRoot_ok root_ok
  exact ⟨isTidy_module named_root r.size (views_shape shown).1,
    registryOfModule_pages named_root shown r.size⟩

end Emit

/-- A file of the octets of a tidy text is read as that text. -/
theorem Text.IsTidy.charsAt {t : Text} (tidy : IsTidy t) {tree : Tree} {p : Path}
    (held : tree.octetsAt p = .ok (Utf8.encode t.chars)) : tree.charsAt p = .ok t.chars := by
  have carriage : '\r' ∉ t.chars := fun member => (tidy.chars _ member).1 rfl
  simp only [Tree.charsAt, held, Utf8.decode_encode, Lines.unify_eq_self carriage,
    Except.mapError, bind, Except.bind, pure, Except.pure]

/-- A text that holds `r`: a file of its octets is read as a registry with the same entries. -/
structure Encodes (t : Text) (r : Registry) : Prop where
  carriage : CodePoint.char '\r' ∉ t
  read : ∃ octets, Utf8.encodeText t = .ok octets ∧
    ∀ (tree : Tree) (p : Path), tree.octetsAt p = .ok octets →
      ∃ s, Command.registryAt tree p = .ok s ∧ s.agrees r

theorem emit_encodes {root : Text} {r : Registry} {a : Emit.Artifacts}
    (h : Emit.emit [] root r = .ok a) : Encodes a.module r := by
  obtain ⟨tidy, s, found, agrees⟩ := Emit.emit_read h
  refine ⟨?_, _, Utf8.encodeText_plain tidy.plain, ?_⟩
  · intro member
    obtain ⟨d, same, other, _⟩ := tidy _ member
    cases same
    exact other rfl
  · intro tree p held
    refine ⟨s, ?_, agrees⟩
    simp only [Command.registryAt, tidy.charsAt held, found, Except.mapError, bind, Except.bind]

/-- One text holds one registry. -/
theorem Encodes.agrees {t : Text} {r s : Registry} (first : Encodes t r) (second : Encodes t s) :
    r.agrees s := by
  obtain ⟨octets, written, read⟩ := first.read
  obtain ⟨octets', written', read'⟩ := second.read
  obtain rfl : octets = octets' := Except.ok.inj (written.symm.trans written')
  have held : (Tree.file octets).octetsAt ⟨.top, []⟩ = .ok octets := rfl
  obtain ⟨found, loaded, same⟩ := read _ _ held
  obtain ⟨found', loaded', same'⟩ := read' _ _ held
  obtain rfl : found = found' := Except.ok.inj (loaded.symm.trans loaded')
  rw [Registry.agrees_iff_perm] at same same' ⊢
  exact same.symm.trans same'

theorem emit_eq_of_agrees {root : Text} {r s : Registry} {a b : Emit.Artifacts}
    (agrees : r.agrees s) (first : Emit.emit [] root r = .ok a)
    (second : Emit.emit [] root s = .ok b) : a = b := by
  have perm := Registry.agrees_iff_perm.mp agrees
  obtain ⟨_, cs, shown, rfl⟩ := Emit.emit_built_in_iff.mp first
  obtain ⟨_, ds, shown', rfl⟩ := Emit.emit_built_in_iff.mp second
  rw [← Emit.views_eq_of_perm perm, shown] at shown'
  obtain rfl := Except.ok.inj shown'
  rw [Registry.size, Registry.size, perm.length_eq]

/-- The emitted module is a lossless and canonical encoding of its registry: it is read back with
the same entries, and two registries have one module exactly when they have the same entries, in
whatever order these came. -/
theorem module_encodes_registry :
    (∀ root r a, Emit.emit [] root r = .ok a → Encodes a.module r) ∧
      ∀ root r s a b, Emit.emit [] root r = .ok a → Emit.emit [] root s = .ok b →
        (a.module = b.module ↔ r.agrees s) := by
  constructor
  · intro root r a ok
    exact emit_encodes ok
  · intro root r s a b first second
    constructor
    · intro same
      exact (emit_encodes first).agrees (same ▸ emit_encodes second)
    · intro agrees
      rw [emit_eq_of_agrees agrees first second]

/-- Two members whose stamps have quotes, a backslash, line ends, a null and a lone surrogate. -/
def oddEntries : List Entry := [
  ⟨⟨"N.M", "T", "f"⟩, ⟨"it's \"quoted\" \\", "f(\r\n)"⟩⟩,
  ⟨⟨"N.M", "T", "g"⟩, ⟨[.char '\x00', .surrogate 5], [.char '\x7f', .char '😀']⟩⟩]

theorem odd_entries_encoded : ∃ r s a b, r.entries = oddEntries ∧ s.entries = oddEntries.reverse ∧
    Emit.emit [] "HashStamps" r = .ok a ∧ Emit.emit [] "HashStamps" s = .ok b ∧
      Encodes a.module r ∧ a.module = b.module := by
  have emitted (r : Registry) (nameable : Emit.Nameable (Diff.keys r)) :
      ∃ a, Emit.emit [] "HashStamps" r = .ok a := by
    obtain ⟨cs, shown⟩ := (Emit.views_ok_iff r).mpr nameable
    exact ⟨_, Emit.emit_built_in_iff.mpr ⟨by decide, cs, shown, rfl⟩⟩
  let r : Registry := ⟨oddEntries, by decide⟩
  let s : Registry := ⟨oddEntries.reverse, by decide⟩
  obtain ⟨a, first⟩ := emitted r (by decide)
  obtain ⟨b, second⟩ := emitted s (by decide)
  have agrees : r.agrees s := by decide
  exact ⟨r, s, a, b, rfl, rfl, first, second, module_encodes_registry.1 _ _ _ first,
    (module_encodes_registry.2 _ _ _ _ _ first second).mpr agrees⟩

end BodyDigest
