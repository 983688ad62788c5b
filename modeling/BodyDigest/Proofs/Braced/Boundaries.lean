import BodyDigest.Proofs.Layout

/-!
What follows the front of a text does not matter for the lexemes in it, as long as one of them ends
where the front does. A reader that stops within the front stops there whatever follows, or is carried
beyond the front by what follows.
-/
namespace BodyDigest.Braced.Lexeme

/-! ### Readers -/

/-- Where a reader stops within the front of a text, it stops there whatever follows the front, or is
carried beyond it. What is read tells how much of the text it takes. -/
def IsLocal {α : Type} (size : α → Nat) (read : Text → Option α) : Prop :=
  ∀ u x y a, read (u ++ x) = some a → size a ≤ u.length →
    ∃ b, read (u ++ y) = some b ∧ (b = a ∨ u.length < size b)

theorem IsLocal.or {α : Type} {size : α → Nat} {read other : Text → Option α}
    (first : IsLocal size read) (second : IsLocal size other) :
    IsLocal size fun t => (read t).or (other t) := by
  intro u x y a found within
  change (read (u ++ x)).or (other (u ++ x)) = some a at found
  change ∃ b, (read (u ++ y)).or (other (u ++ y)) = some b ∧ _
  cases here : read (u ++ x) with
  | some d =>
    rw [here, Option.some_or] at found
    cases found
    obtain ⟨b, again, place⟩ := first u x y _ here within
    exact ⟨b, by rw [again, Option.some_or], place⟩
  | none =>
    rw [here, Option.none_or] at found
    cases there : read (u ++ y) with
    | some b =>
      refine ⟨b, Option.some_or, .inr (Nat.lt_of_not_le fun inside => ?_)⟩
      obtain ⟨_, back, _⟩ := first u y x b there inside
      rw [here] at back
      cases back
    | none =>
      rw [Option.none_or]
      exact second u x y a found within

section Readers

variable {read : Text → Option Nat}

theorem IsLocal.label (h : IsLocal id read) (k : Kind) :
    IsLocal Prod.snd fun t => (read t).map (k, ·) := by
  intro u x y a found within
  obtain ⟨n, here, rfl⟩ := Option.map_eq_some_iff.mp found
  obtain ⟨m, again, place⟩ := h u x y n here within
  refine ⟨(k, m), Option.map_eq_some_iff.mpr ⟨m, again, rfl⟩, place.imp_left fun same => ?_⟩
  rw [same]

/-- A reader that looks at nothing behind what it takes. -/
theorem isLocal_of_settled (settled : ∀ t n, read t = some n →
    ∃ body after, t = body ++ after ∧ body.length = n ∧ ∀ rest, read (body ++ rest) = some n) :
    IsLocal id read := by
  intro u x y n found (within : n ≤ u.length)
  obtain ⟨body, after, whole, rfl, again⟩ := settled _ n found
  obtain ⟨rest, rfl⟩ : body <+: u :=
    List.prefix_of_prefix_length_le ⟨after, whole.symm⟩ (List.prefix_append u x) within
  exact ⟨body.length, by rw [List.append_assoc, again], .inl rfl⟩

/-- A reader that a blank stops without changing what comes before it. -/
theorem isLocal_of_cut
    (cut : ∀ t n m, read t = some n → n ≤ m → read (t.take m ++ [CodePoint.char ' ']) = some n)
    (none_cut : ∀ t m, read t = none → read (t.take m ++ [CodePoint.char ' ']) = none) :
    IsLocal id read := by
  intro u x y n found (within : n ≤ u.length)
  have stopped := cut _ n u.length found within
  rw [List.take_left] at stopped
  cases there : read (u ++ y) with
  | none =>
    have nothing := none_cut _ u.length there
    rw [List.take_left, stopped] at nothing
    cases nothing
  | some m =>
    refine ⟨m, rfl, ?_⟩
    rcases Nat.lt_or_ge u.length m with beyond | inside
    · exact .inr beyond
    · have same := cut _ m u.length there inside
      rw [List.take_left, stopped] at same
      exact .inl (Option.some.inj same).symm

theorem run_local {p : CodePoint → Bool} {u x : Text}
    (within : ((u ++ x).takeWhile p).length ≤ u.length) (y : Text) :
    ((u ++ y).takeWhile p).length = ((u ++ x).takeWhile p).length ∨
      u.length < ((u ++ y).takeWhile p).length := by
  rw [List.takeWhile_append] at within ⊢
  rw [List.takeWhile_append]
  split
  · rename_i whole
    rw [if_pos whole, List.length_append] at within
    rw [List.length_append, List.length_append]
    omega
  · exact .inl rfl

theorem isLocal_blank : IsLocal id blank? := by
  intro u x y n found (within : n ≤ u.length)
  simp only [blank?] at found ⊢
  split at found
  · cases found
  · rename_i some_blanks
    cases found
    rcases run_local within y with same | beyond
    · exact ⟨_, if_neg (by omega), .inl same⟩
    · exact ⟨_, if_neg (by omega), .inr beyond⟩

theorem isLocal_number : IsLocal id number? :=
  isLocal_of_cut (fun _ _ _ found behind => number?_cut rfl found behind [])
    fun _ m nothing => number?_none_cut rfl nothing m []

theorem isLocal_word : IsLocal id word? :=
  isLocal_of_cut (fun _ _ _ found behind => word?_cut rfl found behind [])
    fun _ m nothing => word?_none_cut rfl nothing m []

theorem isLocal_operator : IsLocal id operator? :=
  isLocal_of_cut (fun _ _ _ found behind => operator?_cut rfl found behind [])
    fun _ m nothing => operator?_none_cut rfl nothing m []

theorem isLocal_comment : IsLocal id comment? := by
  intro u x y n found (within : n ≤ u.length)
  rcases comment?_cases found with again | ⟨w, v, whole, rfl, inside, ends⟩
  · have kept := again (u.drop n ++ y)
    rw [List.take_append_of_le_length within, ← List.append_assoc, List.take_append_drop] at kept
    exact ⟨n, kept, .inl rfl⟩
  · obtain ⟨more, rfl⟩ : .char '/' :: .char '/' :: w <+: u :=
      List.prefix_of_prefix_length_le ⟨v, by simp [whole]⟩ (List.prefix_append u x) within
    simp only [List.cons_append, List.append_assoc, List.cons.injEq, true_and,
      List.append_cancel_left_eq] at whole ⊢
    subst whole
    cases more with
    | nil =>
      -- The comment goes up to the end of the front, and maybe beyond.
      have run : (w ++ y).takeWhile (!isLineEnd ·) = w ++ y.takeWhile (!isLineEnd ·) :=
        List.takeWhile_append_of_pos (by simpa using inside)
      refine ⟨2 + (w ++ y.takeWhile (!isLineEnd ·)).length, by rw [← run]; rfl, ?_⟩
      simp only [id, List.length_append, List.length_cons, List.length_nil]
      omega
    | cons d more => exact ⟨w.length + 2, comment?_line inside (by simpa using ends), .inl rfl⟩

/-! ### Literals -/

theorem isLocal_long : IsLocal id longLiteral? := by
  refine isLocal_of_settled fun t n found => ?_
  obtain ⟨inner, after, rfl, rfl, again⟩ := longLiteral?_inv found
  exact ⟨inner ++ [CodePoint.char '"'], after, by simp, by simp,
    fun rest => by simpa using again rest⟩

theorem isLocal_short : IsLocal id shortLiteral? := by
  refine isLocal_of_settled fun t n found => ?_
  obtain ⟨body, rfl, ended⟩ | ⟨k, body, rfl, ended⟩ := shortLiteral?_inv found
  · obtain ⟨inner, after, rfl, rfl, again⟩ := shortEnd?_eq (by decide) ended
    refine ⟨.char '\'' :: (inner ++ [CodePoint.char '\'']), after, by simp, by simp; omega,
      fun rest => ?_⟩
    rw [List.cons_append, List.append_assoc]
    exact again rest
  · obtain ⟨inner, after, rfl, rfl, again⟩ := shortEnd?_eq (by decide) ended
    refine ⟨List.replicate k (CodePoint.char '$') ++ .char '"' :: (inner ++ [CodePoint.char '"']),
      after, by simp, by simp; omega, fun rest => ?_⟩
    have form := shortLiteral?_form k (inner ++ .char '"' :: rest)
    rw [again rest] at form
    simpa using form

theorem verbatimEnd?_bounds {n m : Nat} {last : Option Nat} {t : Text}
    (h : verbatimEnd? n last t = some m) : last = some m ∨ n < m := by
  rcases verbatimEnd?_cases h with ⟨_, _, _, rfl, _⟩ | ⟨_, _, _, rfl, _⟩ | ⟨end_, _⟩
  · exact .inr (by omega)
  · exact .inr (by omega)
  · exact .inl end_

/-- A literal that can end already does so, there or further on. -/
theorem verbatimEnd?_some (n m : Nat) (t : Text) :
    ∃ i, verbatimEnd? n (some m) t = some i ∧ (i = m ∨ n < i) := by
  cases ended : verbatimEnd? n (some m) t with
  | none => cases (verbatimEnd?_none ended).1
  | some i =>
    refine ⟨i, rfl, (verbatimEnd?_bounds ended).imp (fun same => ?_) id⟩
    exact (Option.some.inj same).symm

theorem verbatimEnd?_quote (n : Nat) (last : Option Nat) (t : Text) :
    ∃ m, verbatimEnd? n last (.char '"' :: t) = some m ∧ (m = n + 1 ∨ n + 2 < m) := by
  cases t with
  | nil => exact ⟨n + 1, rfl, .inl rfl⟩
  | cons c t =>
    by_cases quote : c = .char '"'
    · subst quote
      exact verbatimEnd?_some (n + 2) (n + 1) t
    · exact ⟨n + 1, by simp [verbatimEnd?, quote], .inl rfl⟩

theorem verbatimEnd?_local {n m : Nat} {last : Option Nat} {u x : Text}
    (h : verbatimEnd? n last (u ++ x) = some m) (within : m ≤ n + u.length) (y : Text) :
    ∃ i, verbatimEnd? n last (u ++ y) = some i ∧ (i = m ∨ n + u.length < i) := by
  fun_induction verbatimEnd? n last u with
  | case1 n last =>
    rw [List.nil_append] at h ⊢
    rw [List.length_nil, Nat.add_zero] at within ⊢
    obtain rfl := (verbatimEnd?_bounds h).resolve_right (by omega)
    exact verbatimEnd?_some n m y
  | case2 n last rest ih =>
    obtain ⟨i, ended, place⟩ := ih h (by simpa [Nat.add_assoc, Nat.add_comm 2] using within)
    refine ⟨i, ended, place.imp_right fun beyond => ?_⟩
    simp only [List.length_cons]
    omega
  | case3 n last tail single =>
    cases tail with
    | nil =>
      -- The quote is the last of the front, and what follows may double it.
      rw [List.singleton_append] at h ⊢
      obtain ⟨m', here, closes⟩ := verbatimEnd?_quote n last x
      cases h.symm.trans here
      obtain ⟨i, ended, place⟩ := verbatimEnd?_quote n last y
      simp only [List.length_singleton] at within ⊢
      exact ⟨i, ended, by omega⟩
    | cons c tail =>
      have other : c ≠ .char '"' := fun doubled => single tail (by rw [doubled])
      have closes (t : Text) : verbatimEnd? n last (.char '"' :: c :: t) = some (n + 1) := by
        simp [verbatimEnd?, other]
      simp only [List.cons_append, closes, Option.some.injEq] at h ⊢
      exact ⟨n + 1, rfl, .inl h⟩
  | case4 n last c rest doubled quote ih =>
    have other : c ≠ .char '"' := quote
    rw [List.cons_append, verbatimEnd?_cons other] at h ⊢
    obtain ⟨i, ended, place⟩ := ih h (by simpa [Nat.add_assoc, Nat.add_comm 1] using within)
    refine ⟨i, ended, place.imp_right fun beyond => ?_⟩
    simp only [List.length_cons]
    omega

theorem isLocal_verbatim : IsLocal id verbatimLiteral? := by
  intro u x y n found (within : n ≤ u.length)
  obtain ⟨k, m, body, whole, ended⟩ := verbatimLiteral?_inv found
  have behind := (verbatimEnd?_bounds ended).resolve_left (by simp)
  obtain ⟨rest, rfl⟩ : List.replicate k (CodePoint.char '$') ++ .char '@' ::
      (List.replicate m (CodePoint.char '$') ++ [CodePoint.char '"']) <+: u :=
    List.prefix_of_prefix_length_le ⟨body, by simp [whole]⟩ (List.prefix_append u x)
      (by simp; omega)
  simp only [List.append_assoc, List.cons_append, List.nil_append, List.append_cancel_left_eq,
    List.cons.injEq, true_and] at whole ⊢
  subst whole
  obtain ⟨i, again, place⟩ := verbatimEnd?_local ended (by simp at within; omega) y
  refine ⟨i, (verbatimLiteral?_form k m _).trans again, place.imp_right fun beyond => ?_⟩
  simp only [List.length_append, List.length_cons, List.length_replicate, id]
  omega

theorem isLocal_literal : IsLocal id literal? := isLocal_long.or (isLocal_verbatim.or isLocal_short)

end Readers

/-! ### Lexemes -/

/-- Kind and length of the lexeme at the start of a text, unless it is a single sign. -/
def read? (t : Text) : Option (Kind × Nat) :=
  ((comment? t).map (.comment, ·)).or <| ((literal? t).map (.literal, ·)).or <|
    ((number? t).map (.number, ·)).or <| ((word? t).map (.word, ·)).or <|
      ((operator? t).map (.operator, ·)).or <| (blank? t).map (.blank, ·)

theorem measure_eq (t : Text) : measure t = (read? t).getD (.sign, 1) := by
  rw [measure, read?]
  cases comment? t with
  | some n => rfl
  | none => cases literal? t with
    | some n => rfl
    | none => cases number? t with
      | some n => rfl
      | none => cases word? t with
        | some n => rfl
        | none => cases operator? t with
          | some n => rfl
          | none => cases blank? t <;> rfl

theorem isLocal_read : IsLocal Prod.snd read? :=
  (isLocal_comment.label .comment).or <| (isLocal_literal.label .literal).or <|
    (isLocal_number.label .number).or <| (isLocal_word.label .word).or <|
      (isLocal_operator.label .operator).or <| isLocal_blank.label .blank

/-- The lexeme at the start of two texts with one front is the same, if it ends in the front. -/
theorem measure_alike {u x y : Text} (here : (measure (u ++ x)).2 ≤ u.length)
    (there : (measure (u ++ y)).2 ≤ u.length) : measure (u ++ y) = measure (u ++ x) := by
  rw [measure_eq] at here there
  rw [measure_eq, measure_eq]
  cases read : read? (u ++ x) with
  | some a =>
    rw [read] at here
    obtain ⟨b, again, same | beyond⟩ := isLocal_read u x y a read here
    · rw [again, same]
    · rw [again] at there
      exact absurd there (Nat.not_le_of_lt beyond)
  | none =>
    cases again : read? (u ++ y) with
    | none => rfl
    | some b =>
      rw [again] at there
      obtain ⟨_, back, _⟩ := isLocal_read u y x b again there
      rw [read] at back
      cases back

/-- In a text a lexeme ends where its front does. -/
def EndsBehind (front rest : Text) : Prop :=
  ∃ ls rs, ofText (front ++ rest) = ls ++ rs ∧ written ls = front

theorem endsBehind_of_take {front rest : Text} (count : Nat)
    (h : written ((ofText (front ++ rest)).take count) = front) : EndsBehind front rest :=
  ⟨_, _, (List.take_append_drop count _).symm, h⟩

theorem ofText_cons {x : Text} {l : Lexeme} {ls rs : List Lexeme}
    (split : ofText (written (l :: ls) ++ x) = l :: ls ++ rs) :
    measure (written (l :: ls) ++ x) = (l.kind, l.text.length) ∧
      ofText (written ls ++ x) = ls ++ rs := by
  obtain ⟨c, u, front⟩ := List.exists_cons_of_ne_nil (written_ne_nil split)
  have whole : written (l :: ls) ++ x = l.text ++ (written ls ++ x) := by simp [written]
  rw [front] at split whole ⊢
  rw [List.cons_append] at split whole ⊢
  obtain ⟨k, n, measured⟩ : ∃ k n, measure (c :: (u ++ x)) = (k, n) := ⟨_, _, rfl⟩
  have within := (measure_le measured).2
  rw [ofText_measured measured, List.cons_append, List.cons.injEq] at split
  obtain ⟨rfl, later⟩ := split
  have length : ((c :: (u ++ x)).take n).length = n := by
    rw [List.length_take, Nat.min_eq_left within]
  refine ⟨by rw [measured, length], ?_⟩
  rw [whole, List.drop_left' length] at later
  exact later

theorem front_alike {x y : Text} {ls rs ls' rs' : List Lexeme}
    (split : ofText (written ls ++ x) = ls ++ rs) (split' : ofText (written ls' ++ y) = ls' ++ rs')
    (same : written ls' = written ls) : ls' = ls := by
  induction ls generalizing ls' with
  | nil =>
    cases ls' with
    | nil => rfl
    | cons l' ls' => exact absurd same (written_ne_nil split')
  | cons l ls ih =>
    cases ls' with
    | nil => exact absurd same.symm (written_ne_nil split)
    | cons l' ls' =>
      obtain ⟨here, later⟩ := ofText_cons split
      obtain ⟨there, later'⟩ := ofText_cons split'
      have front : l.text <+: written (l :: ls) := ⟨written ls, rfl⟩
      have front' : l'.text <+: written (l :: ls) := same ▸ ⟨written ls', rfl⟩
      rw [same] at there
      have alike := measure_alike (by rw [here]; exact front.length_le)
        (by rw [there]; exact front'.length_le)
      rw [here, there, Prod.mk.injEq] at alike
      have texts : l'.text = l.text :=
        (List.prefix_of_prefix_length_le front' front (by rw [alike.2])).eq_of_length alike.2
      obtain rfl : l' = l := by
        cases l
        cases l'
        exact (mk.injEq ..).mpr ⟨alike.1, texts⟩
      rw [ih later later' (by simpa [written] using same)]

/-- Two texts with one front, behind which a lexeme ends in both, have the same lexemes there. -/
theorem ofText_of_endsBehind {front x y : Text} (hx : EndsBehind front x) (hy : EndsBehind front y) :
    ∃ ls, ofText (front ++ x) = ls ++ ofText x ∧ ofText (front ++ y) = ls ++ ofText y := by
  have behind {z : Text} {ls rs : List Lexeme} (split : ofText (front ++ z) = ls ++ rs)
      (written_ls : written ls = front) : rs = ofText z := by
    have rest := written_split split
    rw [written_ls, List.append_cancel_left_eq] at rest
    rw [← ofText_behind split, rest]
  obtain ⟨ls, rs, split, written_ls⟩ := hx
  obtain ⟨ls', rs', split', written_ls'⟩ := hy
  obtain rfl := behind split written_ls
  obtain rfl := behind split' written_ls'
  obtain rfl : ls' = ls := front_alike (written_ls ▸ split) (written_ls' ▸ split')
    (written_ls'.trans written_ls.symm)
  exact ⟨ls', split, split'⟩

end BodyDigest.Braced.Lexeme
