import BodyDigest.Canonical
import BodyDigest.Proofs.Grouping
import BodyDigest.Proofs.Braced.Tokens

/-!
The canonical text of statements in a language with braces tells exactly their tokens: which ones,
in which order, and which statement each belongs to.
-/
namespace BodyDigest.Canonical

open Braced.Lexeme (Quoted Separates measure ofText)

/-- Statements in a language with braces, in which every quote belongs to a literal. -/
structure Lexical (b : Body) : Prop where
  statements : b.kind = .statements
  braced : b.language ≠ python
  quoted : ∀ f ∈ b.fragments, Quoted f

/-- The tokens of the fragments that have any. -/
def statementTokens (b : Body) : List (List Text) :=
  (b.fragments.map Braced.tokens).filter (!·.isEmpty)

/-- A token that is found again in front of a separator. -/
structure Lasting (t : Text) : Prop where
  solid : Solid t
  measured : ∀ s rest, Separates s → (measure (t ++ s :: rest)).2 = t.length

theorem lasting_lexemes {t : Text} (quoted : Quoted t) :
    ∀ l ∈ ofText t, l.isToken → Lasting l.text := by
  induction size : t.length using Nat.strongRecOn generalizing t with
  | ind size ih =>
  cases t with
  | nil => simp [ofText]
  | cons c rest =>
    obtain ⟨k, n, measured⟩ : ∃ k n, measure (c :: rest) = (k, n) := ⟨_, _, rfl⟩
    have whole := quoted
    obtain ⟨_, tail⟩ := (Braced.Lexeme.quoted_measured measured).mp quoted
    obtain ⟨positive, within⟩ := Braced.Lexeme.measure_le measured
    rw [Braced.Lexeme.ofText_measured measured]
    intro l member token
    rcases List.mem_cons.1 member with rfl | member
    · have kinds : k ≠ .comment ∧ k ≠ .blank := by
        simpa [Braced.Lexeme.isToken] using token
      constructor
      · exact (Braced.Lexeme.measure_solid measured kinds.1 kinds.2 tail).2.2
      · intro s other separates
        have again := Braced.Lexeme.measure_before (Braced.Lexeme.separates_blank separates)
          measured kinds.1 kinds.2 whole other
        rw [again, List.length_take]
        omega
    · exact ih _ (by rw [← size, List.length_drop]; omega) tail rfl l member token

theorem lasting_tokens {t : Text} (quoted : Quoted t) : ∀ x ∈ Braced.tokens t, Lasting x := by
  intro x member
  obtain ⟨l, kept, rfl⟩ := List.mem_map.1 member
  obtain ⟨inside, token⟩ := List.mem_filter.1 kept
  exact lasting_lexemes quoted l inside token

/-! ### Reading tokens back -/

theorem first_token {t u : Text} (ht : Lasting t) (hu : Lasting u) {s s' : CodePoint}
    (hs : Separates s) (hs' : Separates s') {r r' : Text} (same : t ++ s :: r = u ++ s' :: r') :
    t = u ∧ s = s' ∧ r = r' := by
  have lengths := ht.measured s r hs
  rw [same, hu.measured s' r' hs'] at lengths
  obtain ⟨tokens, rest⟩ := List.append_inj same lengths.symm
  exact ⟨tokens, List.cons.inj rest⟩

theorem line_tokens {ts us : List Text} (some_ts : ts ≠ []) (some_us : us ≠ [])
    (lasting_ts : ∀ t ∈ ts, Lasting t) (lasting_us : ∀ u ∈ us, Lasting u) {r r' : Text}
    (same : Text.join " " ts ++ .char '\n' :: r = Text.join " " us ++ .char '\n' :: r') :
    ts = us ∧ r = r' := by
  have space : Text.ofString " " = [.char ' '] := rfl
  induction ts generalizing us with
  | nil => exact absurd rfl some_ts
  | cons t ts ih =>
    cases us with
    | nil => exact absurd rfl some_us
    | cons u us =>
      have ht := lasting_ts t (by simp)
      have hu := lasting_us u (by simp)
      cases ts with
      | nil =>
        cases us with
        | nil =>
          rw [Text.join_singleton, Text.join_singleton] at same
          obtain ⟨rfl, _, rest⟩ := first_token ht hu (.inr rfl) (.inr rfl) same
          exact ⟨rfl, rest⟩
        | cons v us =>
          rw [Text.join_singleton, Text.join_cons_cons, space] at same
          simp only [List.append_assoc, List.cons_append, List.nil_append] at same
          obtain ⟨_, separators, _⟩ := first_token ht hu (.inr rfl) (.inl rfl) same
          exact absurd separators (by decide)
      | cons w ts =>
        cases us with
        | nil =>
          rw [Text.join_singleton, Text.join_cons_cons, space] at same
          simp only [List.append_assoc, List.cons_append, List.nil_append] at same
          obtain ⟨_, separators, _⟩ := first_token ht hu (.inl rfl) (.inr rfl) same
          exact absurd separators (by decide)
        | cons v us =>
          rw [Text.join_cons_cons, Text.join_cons_cons, space] at same
          simp only [List.append_assoc, List.cons_append, List.nil_append] at same
          obtain ⟨rfl, _, rest⟩ := first_token ht hu (.inl rfl) (.inl rfl) same
          obtain ⟨tails, rest⟩ := ih (by simp) (by simp)
            (fun x member => lasting_ts x (by simp [member]))
            (fun x member => lasting_us x (by simp [member])) rest
          exact ⟨by rw [tails], rest⟩

/-- Lines of tokens: none is empty, and every token is found again. -/
def Lines (lines : List (List Text)) : Prop := ∀ ts ∈ lines, ts ≠ [] ∧ ∀ t ∈ ts, Lasting t

theorem join_terminated {parts : List Text} (some_parts : parts ≠ []) :
    Text.join "\n" parts ++ [.char '\n'] = parts.flatMap (· ++ [.char '\n']) := by
  have newline : Text.ofString "\n" = [.char '\n'] := rfl
  induction parts with
  | nil => exact absurd rfl some_parts
  | cons t rest ih =>
    cases rest with
    | nil => simp [Text.join_singleton]
    | cons u rest =>
      have tail := ih (by simp)
      rw [Text.join_cons_cons, List.flatMap_cons, ← tail, newline]
      simp

theorem terminated_tokens {ls ms : List (List Text)} (hl : Lines ls) (hm : Lines ms)
    (same : (ls.map (Text.join " ")).flatMap (· ++ [.char '\n']) =
      (ms.map (Text.join " ")).flatMap (· ++ [.char '\n'])) : ls = ms := by
  induction ls generalizing ms with
  | nil =>
    cases ms with
    | nil => rfl
    | cons us ms => simp at same
  | cons ts ls ih =>
    cases ms with
    | nil => simp at same
    | cons us ms =>
      obtain ⟨some_ts, lasting_ts⟩ := hl ts (by simp)
      obtain ⟨some_us, lasting_us⟩ := hm us (by simp)
      simp only [List.map_cons, List.flatMap_cons, List.append_assoc, List.cons_append,
        List.nil_append] at same
      obtain ⟨rfl, rest⟩ := line_tokens some_ts some_us lasting_ts lasting_us same
      have tails := ih (fun x member => hl x (by simp [member]))
        (fun x member => hm x (by simp [member])) rest
      rw [tails]

theorem lines_solid {ls : List (List Text)} (h : Lines ls) :
    ∀ t ∈ ls.map (Text.join " "), Solid t := by
  intro t member
  obtain ⟨ts, inside, rfl⟩ := List.mem_map.1 member
  obtain ⟨some_ts, lasting⟩ := h ts inside
  exact Text.join_solid some_ts fun x m => (lasting x m).solid

theorem joined_tokens {ls ms : List (List Text)} (hl : Lines ls) (hm : Lines ms)
    (same : Text.join "\n" (ls.map (Text.join " ")) = Text.join "\n" (ms.map (Text.join " "))) :
    ls = ms := by
  by_cases none_l : ls = []
  · by_cases none_m : ms = []
    · rw [none_l, none_m]
    · have text : Solid (Text.join "\n" (ms.map (Text.join " "))) :=
        Text.join_solid (by simpa using none_m) (lines_solid hm)
      rw [← same, none_l] at text
      exact absurd rfl text.ne_nil
  · by_cases none_m : ms = []
    · have text : Solid (Text.join "\n" (ls.map (Text.join " "))) :=
        Text.join_solid (by simpa using none_l) (lines_solid hl)
      rw [same, none_m] at text
      exact absurd rfl text.ne_nil
    · have ended := congrArg (· ++ [CodePoint.char '\n']) same
      simp only [join_terminated (by simpa using none_l : ls.map (Text.join " ") ≠ []),
        join_terminated (by simpa using none_m : ms.map (Text.join " ") ≠ [])] at ended
      exact terminated_tokens hl hm ended

/-! ### Canonical texts -/

theorem statementTokens_lines {b : Body} (h : Lexical b) : Lines (statementTokens b) := by
  intro ts member
  obtain ⟨inside, kept⟩ := List.mem_filter.1 member
  obtain ⟨f, fragment, rfl⟩ := List.mem_map.1 inside
  exact ⟨by simpa using kept, lasting_tokens (h.quoted f fragment)⟩

theorem trimmed_fragments {fragments : List Text} (quoted : ∀ f ∈ fragments, Quoted f) :
    ((fragments.map (tokenText .statements)).map Text.trim).filter (!·.isEmpty) =
      ((fragments.map Braced.tokens).filter (!·.isEmpty)).map (Text.join " ") := by
  induction fragments with
  | nil => rfl
  | cons f rest ih =>
    have tail := ih fun g member => quoted g (by simp [member])
    simp only [List.map_cons, tokenText]
    by_cases none_f : Braced.tokens f = []
    · have empty : Text.trim (Text.join " " []) = [] := rfl
      simp only [none_f, empty, List.filter_cons, List.isEmpty_nil]
      exact tail
    · have solid : Solid (Text.join " " (Braced.tokens f)) :=
        Text.join_solid none_f fun x member => (lasting_tokens (quoted f (by simp)) x member).solid
      have kept : (!(Text.join " " (Braced.tokens f)).isEmpty) = true := by
        simpa using solid.ne_nil
      have kept_tokens : (!(Braced.tokens f).isEmpty) = true := by simpa using none_f
      simp only [Text.trim_solid solid, List.filter_cons, kept, kept_tokens, if_true, List.map_cons,
        tail]

/-- A body in a language with braces always has a text. -/
theorem text_of_braced {b : Body} (braced : b.language ≠ python) :
    text (some b) = .ok (Text.trim (Text.join "\n"
      (((b.fragments.map (tokenText b.kind)).map Text.trim).filter (!·.isEmpty)))) := by
  have fragments : b.fragments.mapM (fragmentText b) = .ok (b.fragments.map (tokenText b.kind)) := by
    apply mapM_eq_ok_map
    intro f _
    rw [fragmentText, if_neg braced]
  rw [text, ofBody, fragments]
  rfl

theorem text_of_lexical {b : Body} (h : Lexical b) :
    text (some b) = .ok (Text.join "\n" ((statementTokens b).map (Text.join " "))) := by
  have lines := lines_solid (statementTokens_lines h)
  rw [text_of_braced h.braced, h.statements, trimmed_fragments h.quoted]
  by_cases none_b : statementTokens b = []
  · simp only [statementTokens] at none_b
    simp only [statementTokens, none_b]
    rfl
  · have solid : Solid (Text.join "\n" ((statementTokens b).map (Text.join " "))) :=
      Text.join_solid (by simpa using none_b) lines
    exact congrArg _ (Text.trim_solid solid)

/-- Two bodies have the same canonical text exactly when their statements have the same tokens. -/
theorem same_text_iff_same_tokens {b c : Body} (hb : Lexical b) (hc : Lexical c) :
    ∃ x y, text (some b) = .ok x ∧ text (some c) = .ok y ∧
      (x = y ↔ statementTokens b = statementTokens c) := by
  refine ⟨_, _, text_of_lexical hb, text_of_lexical hc, ?_⟩
  constructor
  · exact joined_tokens (statementTokens_lines hb) (statementTokens_lines hc)
  · intro same
    rw [same]

/-- Two statements, one of them with a doubled quote and the sign of a comment in a literal. -/
def spread : Body :=
  ⟨.statements, ["var s = @\"a\"\"// b\" ; // text", "/* none */", "return s;"], "csharp"⟩

def dense : Body := ⟨.statements, ["var s=@\"a\"\"// b\";", "return s;"], "csharp"⟩

def swapped : Body := ⟨.statements, ["return s;", "var s=@\"a\"\"// b\";"], "csharp"⟩

theorem layout_is_lost_and_order_kept :
    text (some spread) = text (some dense) ∧ text (some dense) ≠ text (some swapped) := by
  have lexical : Lexical spread ∧ Lexical dense ∧ Lexical swapped := by
    refine ⟨⟨rfl, by decide, ?_⟩, ⟨rfl, by decide, ?_⟩, rfl, by decide, ?_⟩ <;>
      unfold Quoted <;> decide +kernel
  obtain ⟨x, y, read_x, read_y, same⟩ := same_text_iff_same_tokens lexical.1 lexical.2.1
  obtain ⟨y', z, read_y', read_z, different⟩ := same_text_iff_same_tokens lexical.2.1 lexical.2.2
  constructor
  · rw [read_x, read_y, same.2 (by decide +kernel)]
  · rw [read_y', read_z]
    intro equal
    have tokens := different.1 (Except.ok.inj equal)
    revert tokens
    decide +kernel

end BodyDigest.Canonical
