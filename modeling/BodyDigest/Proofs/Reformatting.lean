import BodyDigest.Proofs.Braced.CSharpOutlines
import BodyDigest.Proofs.Braced.JavaOutlines
import BodyDigest.Proofs.Locality
import BodyDigest.Proofs.Text.Pieces

/-!
Sources of languages with braces that differ in what stands between their tokens. They have the same members;
names and signatures differ only where the spacing shows in them.
-/
namespace BodyDigest.Braced

/-! ### Tokens of a source -/

namespace Token

theorem quoted?_pos {dollars : Nat} {cs : List Char} {inside : Inside} {k : Nat}
    (h : quoted? dollars cs = some (inside, k)) : 0 < k := by
  unfold quoted? at h
  grind

theorem literalStart?_pos {l : Language} {cs : List Char} {inside : Inside} {k : Nat}
    (h : literalStart? l cs = some (inside, k)) : 0 < k := by
  unfold literalStart? at h
  grind [→ quoted?_pos]

theorem le_literalLength (l : Language) (n : Nat) (inside : List Inside) (taken : Nat) (cs : List Char) :
    taken ≤ literalLength l n inside taken cs := by
  fun_induction literalLength l n inside taken cs with
  | case1 => exact Nat.le_refl _
  | case2 => exact Nat.le_refl _
  | case3 => exact Nat.le_refl _
  | case4 => omega

theorem signLength_pos (cs : List Char) : 0 < signLength cs := by
  unfold signLength
  split
  · rename_i s found
    have all : ∀ s ∈ signs, 0 < s.length := by decide
    exact all s (List.mem_of_find?_eq_some found)
  · exact Nat.one_pos

theorem trivia?_pos {l : Language} {cs : List Char} {shape : Shape} {n : Nat}
    (h : trivia? l cs = some (shape, n)) : 0 < n := by
  unfold trivia? at h
  grind

theorem measure_pos (l : Language) (fuel : Nat) (cs : List Char) : 0 < (measure l fuel cs).2 := by
  unfold measure
  split
  · rename_i found trivia
    exact trivia?_pos trivia
  · split
    · rename_i inside k literal
      exact Nat.lt_of_lt_of_le (literalStart?_pos literal) (le_literalLength ..)
    · split
      · exact signLength_pos cs
      · exact Nat.pos_of_ne_zero ‹_›

theorem cut_solid (l : Language) (n : Nat) (cs : List Char) : ∀ piece ∈ cut l n cs, piece.2 ≠ [] := by
  fun_induction cut l n cs with
  | case1 => simp
  | case2 => simp
  | case3 fuel c rest shape k measured ih =>
    have some_char := measure_pos l fuel (c :: rest)
    rw [measured] at some_char
    refine List.forall_mem_cons.mpr ⟨?_, ih⟩
    simpa using Nat.ne_of_gt some_char

theorem cut_length (l : Language) (n : Nat) (cs : List Char) : (cut l n cs).length ≤ n := by
  fun_induction cut l n cs with
  | case1 => simp
  | case2 => simp
  | case3 fuel c rest shape k measured ih => simpa using ih

theorem gather_solid (line : Nat) (lead : List Trivia) (pieces : List (Shape × List Char))
    (solid : ∀ piece ∈ pieces, piece.2 ≠ []) : ∀ t ∈ gather line lead pieces, t.text ≠ [] := by
  fun_induction gather line lead pieces <;> simp_all [Text.ofChars]

theorem gather_length (line : Nat) (lead : List Trivia) (pieces : List (Shape × List Char)) :
    (gather line lead pieces).length ≤ pieces.length := by
  fun_induction gather line lead pieces <;> simp only [List.length_cons, List.length_nil] <;> omega

/-- No token of a source is empty. -/
theorem ofSource_solid (l : Language) (cs : List Char) : ∀ t ∈ ofSource l cs, t.text ≠ [] :=
  gather_solid 1 [] _ (cut_solid l _ cs)

theorem ofSource_length (l : Language) (cs : List Char) : (ofSource l cs).length ≤ cs.length :=
  Nat.le_trans (gather_length 1 [] _) (cut_length l cs.length cs)

end Token

/-! ### Files -/

/-- The declarations of files of a language. -/
def Language.declarations : Language → Bool → Nat → List Tree → List Node
  | .csharp => CSharp.declarations
  | .java => Java.declarations

theorem Language.file_children (l : Language) (cs : List Char) : (l.file cs).children =
    l.declarations true cs.length (Tree.ofTokens (Token.ofSource l cs)) := by
  cases l <;> rfl

/-- What a list of declarations starts with. -/
def Language.step : Language → Bool → List Tree → Step
  | .csharp => CSharp.step
  | .java => Java.step

theorem Language.readsSteps (l : Language) (r : Reading) : ReadsSteps r l.declarations l.step := by
  cases l with
  | csharp => exact CSharp.readsSteps r
  | java => exact Java.readsSteps r

/-- What stands between the tokens of a source. -/
def spacing (l : Language) (cs : List Char) : Spacing := Spacing.ofTokens (Token.ofSource l cs)

/-- The outlines of the members of a file, which its tokens tell. -/
def Language.outlines (l : Language) (cs : List Char) : List Outline :=
  let ts := Token.bare (Token.ofSource l cs)
  outlinesOf l.step true ts.length (Tree.ofTokens ts) [] []

/-- The members of a file are those that its outlines tell, in their order. -/
theorem members_written (r : Reading) (cs : List Char) :
    List.Forall₂ (Outline.IsWritten r (spacing r.language cs)) (r.language.outlines cs) (members r cs) := by
  let ts := Token.bare (Token.ofSource r.language cs)
  have reads := r.language.readsSteps r
  have filled : Filled (Tree.ofTokens ts) := by
    intro t member
    rw [Tree.tokensOf_ofTokens] at member
    obtain ⟨source, found, -, same⟩ := Token.exists_of_mem_bare member
    rw [same]
    exact Token.ofSource_solid _ _ source found
  have spaced : Token.ofSource r.language cs = ts.map (spacing r.language cs).token :=
    (Spacing.bare_map _).symm
  have weight : Tree.weight (Tree.ofTokens ts) = ts.length := by
    rw [Tree.weight, Tree.tokensOf_ofTokens]
  have enough : ts.length ≤ cs.length := by
    have count := Token.ofSource_length r.language cs
    rwa [spaced, List.length_map] at count
  have nodes : (r.language.file cs).children =
      r.language.declarations true ts.length ((spacing r.language cs).trees (Tree.ofTokens ts)) := by
    rw [r.language.file_children, spaced, Spacing.ofTokens_map]
    exact reads.enough _ true filled (weight ▸ enough) (Nat.le_of_eq weight)
  rw [members, nodes]
  exact reads.outlined true ts.length filled [] [] _ _ Tells.start

/-- Two sources have the same tokens. They may differ in white space, comments and directives. -/
def SameTokens (l : Language) (cs ds : List Char) : Prop :=
  (Token.ofSource l cs).map (fun t => (t.kind, t.text)) = (Token.ofSource l ds).map fun t => (t.kind, t.text)

instance (l : Language) (cs ds : List Char) : Decidable (SameTokens l cs ds) :=
  inferInstanceAs (Decidable (List.map _ _ = _))

theorem outlines_of_sameTokens {l : Language} {cs ds : List Char} (same : SameTokens l cs ds) :
    l.outlines cs = l.outlines ds := by
  rw [Language.outlines, Language.outlines, Token.bare_congr same]

/-! ### What the spacing shows in -/

section Gaps

variable {m m' : Spacing} {ts : List Token}

/-- What stands before a token. -/
def Spacing.gap (m : Spacing) (t : Token) : Text := (m.token t).leadText

theorem Spacing.text_cons (m : Spacing) (t : Token) (ts : List Token) :
    m.text (t :: ts) = t.text ++ ts.flatMap fun u => m.gap u ++ u.text := by
  simp [text, Token.textOf, List.flatMap_map, gap]

/-- The same stands between the tokens. -/
def SameGaps (m m' : Spacing) (ts : List Token) : Prop := ∀ t ∈ ts.tail, m.gap t = m'.gap t

instance : Decidable (SameGaps m m' ts) := inferInstanceAs (Decidable (∀ t ∈ ts.tail, _))

theorem text_of_sameGaps (same : SameGaps m m' ts) : m.text ts = m'.text ts := by
  cases ts with
  | nil => rfl
  | cons t rest =>
    rw [m.text_cons, m'.text_cons, List.flatMap_congr fun u member => by rw [same u member]]

/-- White space that separates. -/
def IsBlank (t : Text) : Prop := t ≠ [] ∧ ∀ c ∈ t, c.isBlank

instance (t : Text) : Decidable (IsBlank t) := inferInstanceAs (Decidable (_ ∧ ∀ c ∈ t, _))

/-- The same stands between the tokens, or white space in both. -/
def AlikeGaps (m m' : Spacing) (ts : List Token) : Prop :=
  ∀ t ∈ ts.tail, m.gap t = m'.gap t ∨ (IsBlank (m.gap t) ∧ IsBlank (m'.gap t))

instance : Decidable (AlikeGaps m m' ts) := inferInstanceAs (Decidable (∀ t ∈ ts.tail, _))

theorem words_blank {g : Text} (blank : IsBlank g) (x y : Text) :
    Text.words (x ++ (g ++ y)) = Text.words x ++ Text.words y := by
  have one {c : CodePoint} (isBlank : c.isBlank) (x y : Text) :
      Text.words (x ++ c :: y) = Text.words x ++ Text.words y := by
    rw [Text.words, pieces_append isBlank, List.filter_append]
    rfl
  obtain ⟨some_blank, all⟩ := blank
  induction g generalizing x with
  | nil => exact absurd rfl some_blank
  | cons c rest ih =>
    obtain ⟨here, later⟩ := List.forall_mem_cons.mp all
    rw [List.cons_append, one here]
    cases rest with
    | nil => rfl
    | cons d more => rw [← List.nil_append ((d :: more) ++ y), ih [] (by simp) later]; rfl

theorem collapsed_of_alikeGaps (alike : AlikeGaps m m' ts) :
    collapsed (m.text ts) = collapsed (m'.text ts) := by
  cases ts with
  | nil => rfl
  | cons t rest =>
    have words (us : List Token)
        (alike : ∀ u ∈ us, m.gap u = m'.gap u ∨ (IsBlank (m.gap u) ∧ IsBlank (m'.gap u)))
        (x : Text) : Text.words (x ++ us.flatMap fun u => m.gap u ++ u.text) =
          Text.words (x ++ us.flatMap fun u => m'.gap u ++ u.text) := by
      induction us generalizing x with
      | nil => rfl
      | cons u us ih =>
        obtain ⟨here, later⟩ := List.forall_mem_cons.mp alike
        simp only [List.flatMap_cons, List.append_assoc]
        rcases here with same | ⟨blank, blank'⟩
        · have next := ih later (x ++ m.gap u ++ u.text)
          simpa only [same, List.append_assoc] using next
        · rw [words_blank blank, words_blank blank', ih later]
    rw [m.text_cons, m'.text_cons, collapsed, collapsed, words rest alike]

/-- A type of a parameter shows the same in both spacings. -/
def ShownType.IsKept (m m' : Spacing) : ShownType → Prop
  | .unknown => True
  | .single ts => AlikeGaps m m' ts
  | .spread modified ts =>
    AlikeGaps m m' ts ∧ (modified → ∀ t ∈ ts.head?, m.remark? t = m'.remark? t)

instance : (p : ShownType) → Decidable (p.IsKept m m')
  | .unknown => .isTrue trivial
  | .single ts => inferInstanceAs (Decidable (AlikeGaps m m' ts))
  | .spread modified ts =>
    inferInstanceAs (Decidable (AlikeGaps m m' ts ∧ (modified → ∀ t ∈ ts.head?, m.remark? t = m'.remark? t)))

theorem ShownType.text_of_kept {p : ShownType} (kept : p.IsKept m m') : p.text m = p.text m' := by
  cases p with
  | unknown => rfl
  | single ts => exact collapsed_of_alikeGaps kept
  | spread modified ts =>
    obtain ⟨alike, remarks⟩ := kept
    have remark : (if modified then ts.head?.bind m.remark? else none) =
        if modified then ts.head?.bind m'.remark? else none := by
      cases modified with
      | false => rfl
      | true => exact Option.bind_congr (remarks rfl)
    rw [ShownType.text, ShownType.text, remark]
    cases if modified then ts.head?.bind m'.remark? else none with
    | none => rw [Option.getD_none, Option.getD_none, collapsed_of_alikeGaps alike]
    | some comment => rfl

/-- What a member is told by shows the same in both spacings. -/
structure Outline.IsKept (m m' : Spacing) (o : Outline) : Prop where
  spaces : ∀ ts ∈ o.spaces, SameGaps m m' ts
  type : ∀ ts ∈ o.type, SameGaps m m' ts
  params : ∀ p ∈ o.params, p.IsKept m m'

instance (o : Outline) : Decidable (o.IsKept m m') :=
  decidable_of_iff ((∀ ts ∈ o.spaces, SameGaps m m' ts) ∧ (∀ ts ∈ o.type, SameGaps m m' ts) ∧
    ∀ p ∈ o.params, p.IsKept m m')
    ⟨fun ⟨spaces, type, params⟩ => ⟨spaces, type, params⟩, fun kept => ⟨kept.spaces, kept.type, kept.params⟩⟩

end Gaps

end BodyDigest.Braced

namespace BodyDigest

/-! ### Names and keys -/

/-- What a descriptor says of a member, apart from its body and where it stands. -/
def Descriptor.heading (d : Descriptor) : Descriptor := { d with body := none, location := none }

theorem keyIn_heading (ds : List Descriptor) (d : Descriptor) :
    d.heading.keyIn (ds.map Descriptor.heading) = d.keyIn ds := by
  have placed : Descriptor.isPlaced ∘ Descriptor.heading = Descriptor.isPlaced := rfl
  have alike : (fun e => decide (SameMember e d.heading)) ∘ Descriptor.heading =
      fun e => decide (SameMember e d) := rfl
  rw [Descriptor.keyIn, Descriptor.keyIn, List.filter_map, List.filter_map, placed, alike, List.length_map]
  rfl

/-- The keys of a registry are those of its placed descriptors. -/
theorem keys_of_registry {ds : List Descriptor} {r : Registry} (h : registryOf ds = .ok r) :
    (r.entries.map (·.key)).Perm ((ds.filter Descriptor.isPlaced).map (·.keyIn ds)) := by
  obtain ⟨records, each, entries⟩ := registryOf_ok h
  have named (kept : List Descriptor) (marked : List Record) (pairs : kept.map fingerprint = marked.map .ok) :
      marked.map (fun r => (Record.placed records r).key) = kept.map (·.keyIn ds) := by
    induction kept generalizing marked with
    | nil =>
      rw [List.map_nil, List.nil_eq, List.map_eq_nil_iff] at pairs
      rw [pairs]
      rfl
    | cons d kept ih =>
      obtain ⟨r, marked, rfl, first, later⟩ := List.map_eq_cons_iff.mp pairs.symm
      rw [List.map_cons, List.map_cons, ih marked later.symm, key_of_record each first.symm]
  have keys := entries.map Entry.key
  rw [List.map_map] at keys
  exact keys.trans (.of_eq (named _ records each))

/-- Runs on descriptors with the same headings give registries with the same keys. -/
theorem contains_of_headings {ds es : List Descriptor} {r s : Registry}
    (same : ds.map Descriptor.heading = es.map Descriptor.heading) (first : registryOf ds = .ok r)
    (second : registryOf es = .ok s) (k : Key) : r.contains k = s.contains k := by
  have keys (ds : List Descriptor) : (ds.filter Descriptor.isPlaced).map (·.keyIn ds) =
      ((ds.map Descriptor.heading).filter Descriptor.isPlaced).map (·.keyIn (ds.map Descriptor.heading)) := by
    rw [List.filter_map, List.map_map]
    exact List.map_congr_left fun d _ => (keyIn_heading ds d).symm
  have mine := keys_of_registry first
  have other := keys_of_registry second
  rw [keys, same, ← keys] at mine
  rw [Bool.eq_iff_iff, Registry.contains, Registry.contains, Registry.find?_isSome_iff,
    Registry.find?_isSome_iff]
  exact (mine.trans other.symm).mem_iff

namespace Braced

theorem heading_of_written {r : Reading} {m m' : Spacing} {o : Outline} {d e : Descriptor}
    (written : o.IsWritten r m d) (written' : o.IsWritten r m' e) (kept : o.IsKept m m') :
    d.heading = e.heading := by
  have spaces : o.spaces.map m.text = o.spaces.map m'.text :=
    List.map_congr_left fun ts member => text_of_sameGaps (kept.spaces ts member)
  have type : o.type.map m.text = o.type.map m'.text :=
    Option.map_congr fun ts member => text_of_sameGaps (kept.type ts member)
  have params : o.params.map (·.text m) = o.params.map (·.text m') :=
    List.map_congr_left fun p member => ShownType.text_of_kept (kept.params p member)
  rw [Descriptor.heading, Descriptor.heading, written.scope, written'.scope, written.type, written'.type,
    written.member, written'.member, written.signature, written'.signature, spaces, type, params]

theorem own_names {r : Reading} {m : Spacing} {os : List Outline} {ds : List Descriptor}
    (written : List.Forall₂ (Outline.IsWritten r m) os ds) : ds.map (·.member) = os.map (·.member) := by
  induction written with
  | nil => rfl
  | cons first _ ih => rw [List.map_cons, List.map_cons, first.member, ih]

theorem headings_of_written {r : Reading} {m m' : Spacing} {os : List Outline} {ds es : List Descriptor}
    (written : List.Forall₂ (Outline.IsWritten r m) os ds)
    (written' : List.Forall₂ (Outline.IsWritten r m') os es) (kept : ∀ o ∈ os, o.IsKept m m') :
    ds.map Descriptor.heading = es.map Descriptor.heading := by
  induction written generalizing es with
  | nil =>
    cases written'
    rfl
  | cons first _ ih =>
    cases written' with
    | cons first' later' =>
      obtain ⟨here, later⟩ := List.forall_mem_cons.mp kept
      rw [List.map_cons, List.map_cons, heading_of_written first first' here, ih later' later]

def asWritten : List Char := "interface A \x7b void f(Map<K, V> m); void f(int x); \x7d".toList

/-- White space and comments are added and taken away; inside of the parameter's type, the line breaks. -/
def reflowed : List Char := "interface A\n\x7bvoid f( Map<K,\nV> m) ; void f(int/**/x);\x7d//\n".toList

/-- The blank inside of the parameter's type is taken away. -/
def packed : List Char := "interface A \x7b void f(Map<K,V> m); void f(int x); \x7d".toList

def interfaceFile : Reading := ⟨.java, "A.java", "a"⟩

/-- What is read of the two overloads on these lines. -/
def overloadsOf (type : Text) (line line' : Int) : List Descriptor := [
  { scope := some "a", type := some "A", member := "f", signature := "f(" ++ type ++ ")",
    location := some ⟨"A.java", line⟩ },
  { scope := some "a", type := some "A", member := "f", signature := "f(int)",
    location := some ⟨"A.java", line'⟩ }]

theorem members_asWritten : members interfaceFile asWritten = overloadsOf "Map<K, V>" 1 1 := by decide +kernel

theorem members_reflowed : members interfaceFile reflowed = overloadsOf "Map<K, V>" 2 3 := by decide +kernel

theorem members_packed : members interfaceFile packed = overloadsOf "Map<K,V>" 1 1 := by decide +kernel

end Braced

end BodyDigest
