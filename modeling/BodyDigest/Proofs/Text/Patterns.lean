import Mathlib.Data.List.TakeWhile
import Mathlib.Data.List.Basic
import BodyDigest.Text.Basic

/-!
Patterns that are matched from left to right with backtracking. What a pattern can take at the start
of a text is listed in its order of preference, and the first way counts from which the rest of the
pattern can go on: an alternative before the next one, a greedy repetition before a shorter one.
-/
namespace BodyDigest.Text

inductive Pattern where
  | sign (p : CodePoint → Bool)
  | exactly (t : Text)
  | seq (first next : Pattern)
  | either (first other : Pattern)
  | many (p : Pattern)
  | fewest (p : Pattern)

namespace Pattern

/-- What repetitions can take, fewer of them than a bound. One that takes nothing is the last one. -/
def repeats (greedy : Bool) (ways : Text → List Nat) : Nat → Text → List Nat
  | 0, _ => []
  | bound + 1, t =>
    let more := (ways t).flatMap fun n =>
      if n = 0 then [0] else (repeats greedy ways bound (t.drop n)).map (n + ·)
    if greedy then more ++ [0] else 0 :: more

/-- How many code points a pattern can take at the start of a text, the preferred number first. -/
def ways : Pattern → Text → List Nat
  | sign p, t => if t.head?.any p then [1] else []
  | exactly w, t => if w.isPrefixOf t then [w.length] else []
  | seq p q, t => (p.ways t).flatMap fun n => (q.ways (t.drop n)).map (n + ·)
  | either p q, t => p.ways t ++ q.ways t
  | many p, t => repeats true p.ways (t.length + 1) t
  | fewest p, t => repeats false p.ways (t.length + 1) t

/-- How many code points a pattern takes. -/
def first (p : Pattern) (t : Text) : Option Nat := (p.ways t).head?

def maybe (p : Pattern) : Pattern := either p (exactly [])

def several (p : Pattern) : Pattern := seq p (many p)

def anyOf : List Pattern → Pattern
  | [] => sign fun _ => false
  | p :: others => either p (anyOf others)

def any : Pattern := sign fun _ => true

def one (c : CodePoint) : Pattern := sign fun d => d = c

variable {p q : Pattern} {t : Text} {greedy : Bool} {next : Nat → Option Nat}

/-! ### The number of repetitions -/

theorem mem_repeats_le {ways : Text → List Nat} (within : ∀ u, ∀ n ∈ ways u, n ≤ u.length)
    (bound : Nat) (t : Text) : ∀ n ∈ repeats greedy ways bound t, n ≤ t.length := by
  induction bound generalizing t with
  | zero => simp [repeats]
  | succ bound ih =>
    have longer : ∀ n ∈ (ways t).flatMap fun n =>
        if n = 0 then [0] else (repeats greedy ways bound (t.drop n)).map (n + ·), n ≤ t.length := by
      intro n member
      obtain ⟨m, here, later⟩ := List.mem_flatMap.mp member
      split at later
      · rw [List.mem_singleton.mp later]
        exact Nat.zero_le _
      · obtain ⟨k, again, rfl⟩ := List.mem_map.mp later
        have front := within t m here
        have back := ih _ k again
        rw [List.length_drop] at back
        omega
    intro n member
    rw [repeats] at member
    cases greedy with
    | true =>
      rcases List.mem_append.mp member with member | member
      · exact longer n member
      · rw [List.mem_singleton.mp member]
        exact Nat.zero_le _
    | false =>
      rcases List.mem_cons.mp member with rfl | member
      · exact Nat.zero_le _
      · exact longer n member

theorem mem_ways_le (p : Pattern) (t : Text) : ∀ n ∈ p.ways t, n ≤ t.length := by
  induction p generalizing t with
  | sign p =>
    intro n member
    rw [ways] at member
    split at member
    · rename_i starts
      cases t with
      | nil => cases starts
      | cons c t =>
        rw [List.mem_singleton.mp member, List.length_cons]
        omega
    · cases member
  | exactly w =>
    intro n member
    rw [ways] at member
    split at member
    · rename_i front
      rw [List.mem_singleton.mp member]
      exact (List.isPrefixOf_iff_prefix.mp front).length_le
    · cases member
  | seq p q hp hq =>
    intro n member
    obtain ⟨m, here, later⟩ := List.mem_flatMap.mp member
    obtain ⟨k, again, rfl⟩ := List.mem_map.mp later
    have front := hp t m here
    have back := hq _ k again
    rw [List.length_drop] at back
    omega
  | either p q hp hq =>
    intro n member
    rcases List.mem_append.mp member with member | member
    · exact hp t n member
    · exact hq t n member
  | many p ih => exact mem_repeats_le ih _ t
  | fewest p ih => exact mem_repeats_le ih _ t

/-- The length of a text bounds the number of repetitions in it. -/
theorem repeats_eq {j k : Nat} (enough : t.length < j) (enough' : t.length < k) :
    repeats greedy p.ways j t = repeats greedy p.ways k t := by
  induction j generalizing t k with
  | zero => omega
  | succ j ih =>
    obtain ⟨k, rfl⟩ := Nat.exists_eq_add_one_of_ne_zero (Nat.ne_of_gt (Nat.zero_lt_of_lt enough'))
    have same : ∀ n ∈ p.ways t,
        (if n = 0 then [0] else (repeats greedy p.ways j (t.drop n)).map (n + ·)) =
          if n = 0 then [0] else (repeats greedy p.ways k (t.drop n)).map (n + ·) := by
      intro n member
      have within := mem_ways_le p t n member
      have rest : (t.drop n).length = t.length - n := List.length_drop
      split
      · rfl
      · rw [ih (t := t.drop n) (k := k) (by omega) (by omega)]
    rw [repeats, repeats, List.flatMap_congr same]

/-- What a repetition can take: once and again, or nothing. -/
theorem repeats_once : repeats greedy p.ways (t.length + 1) t =
    let more := (p.ways t).flatMap fun n =>
      if n = 0 then [0]
      else (repeats greedy p.ways ((t.drop n).length + 1) (t.drop n)).map (n + ·)
    if greedy then more ++ [0] else 0 :: more := by
  have same : ∀ n ∈ p.ways t,
      (if n = 0 then [0] else (repeats greedy p.ways t.length (t.drop n)).map (n + ·)) =
        if n = 0 then [0]
        else (repeats greedy p.ways ((t.drop n).length + 1) (t.drop n)).map (n + ·) := by
    intro n member
    have within := mem_ways_le p t n member
    have rest : (t.drop n).length = t.length - n := List.length_drop
    split
    · rfl
    · rw [repeats_eq (t := t.drop n) (k := (t.drop n).length + 1) (by omega) (by omega)]
  rw [repeats, List.flatMap_congr same]

/-! ### Going on -/

/-- The first way of a pattern from which what comes next can go on. -/
def leads (p : Pattern) (t : Text) (next : Nat → Option Nat) : Option Nat := (p.ways t).findSome? next

theorem first_eq_leads (p : Pattern) (t : Text) : p.first t = p.leads t some := by
  rw [first, leads]
  cases p.ways t <;> rfl

theorem leads_map (p : Pattern) (t : Text) (next : Nat → Option Nat) (f : Nat → Nat) :
    (p.leads t fun n => (next n).map f) = (p.leads t next).map f := List.map_findSome?.symm

theorem findSome?_flatMap {l : List Nat} {f : Nat → List Nat} :
    (l.flatMap f).findSome? next = l.findSome? fun n => (f n).findSome? next := by
  induction l with
  | nil => rfl
  | cons n l ih =>
    rw [List.flatMap_cons, List.findSome?_append, List.findSome?_cons, ih]
    cases (f n).findSome? next <;> rfl

theorem leads_sign (p : CodePoint → Bool) (t : Text) (next : Nat → Option Nat) :
    (sign p).leads t next = if t.head?.any p then next 1 else none := by
  rw [leads, ways]
  split <;> simp

theorem leads_one_cons (c d : CodePoint) (t : Text) (next : Nat → Option Nat) :
    (one c).leads (d :: t) next = if d = c then next 1 else none := by
  rw [one, leads_sign, List.head?_cons, Option.any_some]
  simp

theorem leads_any_cons (c : CodePoint) (t : Text) (next : Nat → Option Nat) :
    any.leads (c :: t) next = next 1 := by
  rw [any, leads_sign, List.head?_cons, Option.any_some, if_pos rfl]

theorem leads_exactly (w t : Text) (next : Nat → Option Nat) :
    (exactly w).leads t next = if w.isPrefixOf t then next w.length else none := by
  rw [leads, ways]
  split <;> simp

theorem leads_seq (p q : Pattern) (t : Text) (next : Nat → Option Nat) :
    (seq p q).leads t next = p.leads t fun n => q.leads (t.drop n) fun m => next (n + m) := by
  simp only [leads, ways, findSome?_flatMap, List.findSome?_map, Function.comp_def]

theorem leads_either (p q : Pattern) (t : Text) (next : Nat → Option Nat) :
    (either p q).leads t next = (p.leads t next).or (q.leads t next) := by
  rw [leads, ways, List.findSome?_append, leads, leads]

theorem leads_more (next : Nat → Option Nat) :
    ((p.ways t).flatMap fun n => if n = 0 then [0]
      else (repeats greedy p.ways ((t.drop n).length + 1) (t.drop n)).map (n + ·)).findSome? next =
    p.leads t fun n => if n = 0 then next 0
      else (repeats greedy p.ways ((t.drop n).length + 1) (t.drop n)).findSome? fun m =>
        next (n + m) := by
  rw [findSome?_flatMap, leads]
  congr 1
  funext n
  split
  · simp
  · rw [List.findSome?_map]
    rfl

theorem leads_many (p : Pattern) (t : Text) (next : Nat → Option Nat) :
    (many p).leads t next = (p.leads t fun n => if n = 0 then next 0
      else (many p).leads (t.drop n) fun m => next (n + m)).or (next 0) := by
  rw [leads, ways, repeats_once]
  simp only [if_true, List.findSome?_append, leads_more]
  simp [leads, ways]

theorem leads_fewest (p : Pattern) (t : Text) (next : Nat → Option Nat) :
    (fewest p).leads t next = (next 0).or (p.leads t fun n => if n = 0 then next 0
      else (fewest p).leads (t.drop n) fun m => next (n + m)) := by
  rw [leads, ways, repeats_once]
  simp only [Bool.false_eq_true, if_false, List.findSome?_cons, leads_more]
  cases next 0 <;> rfl

/-! ### What comes first -/

theorem leads_of_first {n : Nat} (h : p.first t = some n) (goes : (next n).isSome) :
    p.leads t next = next n := by
  obtain ⟨rest, ways⟩ := List.head?_eq_some_iff.mp h
  obtain ⟨m, found⟩ := Option.isSome_iff_exists.mp goes
  rw [leads, ways, List.findSome?_cons, found]

theorem leads_of_none (h : p.first t = none) (next : Nat → Option Nat) : p.leads t next = none := by
  rw [leads, List.head?_eq_none_iff.mp h, List.findSome?_nil]

theorem first_either (p q : Pattern) (t : Text) :
    (either p q).first t = (p.first t).or (q.first t) := List.head?_append

theorem first_one_cons (c d : CodePoint) (t : Text) :
    (one c).first (d :: t) = if d = c then some 1 else none := by
  rw [first_eq_leads, leads_one_cons]

theorem first_exactly (w t : Text) :
    (exactly w).first t = if w.isPrefixOf t then some w.length else none := by
  rw [first_eq_leads, leads_exactly]

theorem first_maybe (p : Pattern) (t : Text) : (maybe p).first t = some ((p.first t).getD 0) := by
  rw [maybe, first_either, first_exactly, if_pos (by simp)]
  cases p.first t <;> rfl

theorem leads_behind (q : Pattern) (t : Text) (n : Nat) :
    (q.leads t fun m => some (n + m)) = (q.first t).map (n + ·) := by
  rw [first_eq_leads]
  exact leads_map q t some (n + ·)

/-- Where the first way of a pattern leads on, a sequence goes on from there. -/
theorem first_seq {n : Nat} (h : p.first t = some n) (goes : (q.first (t.drop n)).isSome) :
    (seq p q).first t = (q.first (t.drop n)).map (n + ·) := by
  rw [first_eq_leads, leads_seq, leads_of_first h, leads_behind]
  rw [leads_behind, Option.isSome_map]
  exact goes

theorem first_seq_none (h : p.first t = none) (q : Pattern) : (seq p q).first t = none := by
  rw [first_eq_leads, leads_seq, leads_of_none h]

theorem first_anyOf_exactly (ws : List Text) (t : Text) :
    (anyOf (ws.map exactly)).first t = (ws.find? (·.isPrefixOf t)).map (·.length) := by
  induction ws with
  | nil => simp [anyOf, first_eq_leads, leads_sign]
  | cons w ws ih =>
    rw [List.map_cons, anyOf, first_either, first_exactly, ih, List.find?_cons]
    cases w.isPrefixOf t <;> rfl

theorem first_exactly_seq (w : Text) (q : Pattern) (t : Text) : (seq (exactly w) q).first t =
    if w.isPrefixOf t then (q.first (t.drop w.length)).map (w.length + ·) else none := by
  rw [first_eq_leads, leads_seq, leads_exactly, leads_behind]

theorem first_sign_seq (r : CodePoint → Bool) (q : Pattern) (t : Text) : (seq (sign r) q).first t =
    if t.head?.any r then (q.first (t.drop 1)).map (1 + ·) else none := by
  rw [first_eq_leads, leads_seq, leads_sign, leads_behind]

theorem first_one_seq (c d : CodePoint) (q : Pattern) (t : Text) : (seq (one c) q).first (d :: t) =
    if d = c then (q.first t).map (1 + ·) else none := by
  rw [one, first_sign_seq]
  simp

theorem first_one_seq_none {c : CodePoint} (other : ∀ rest, t ≠ c :: rest) (q : Pattern) :
    (seq (one c) q).first t = none := by
  cases t with
  | nil => rw [one, first_sign_seq]; rfl
  | cons d t => rw [first_one_seq, if_neg fun same => other t (by rw [same])]

theorem first_maybe_seq (p q : Pattern) (t : Text) : (seq (maybe p) q).first t =
    (p.leads t fun n => (q.first (t.drop n)).map (n + ·)).or (q.first t) := by
  rw [first_eq_leads, leads_seq, maybe, leads_either, leads_exactly, if_pos (by simp)]
  simp only [leads_behind]
  simp

/-- A repetition in front of something else: once and again, or not at all. -/
theorem first_many_seq (p q : Pattern) (t : Text) : (seq (many p) q).first t =
    (p.leads t fun n => if n = 0 then q.first t
      else ((seq (many p) q).first (t.drop n)).map (n + ·)).or (q.first t) := by
  simp only [first_eq_leads, leads_seq, ← leads_map]
  rw [leads_many]
  simp [Nat.add_assoc]

theorem first_fewest_seq (p q : Pattern) (t : Text) : (seq (fewest p) q).first t =
    (q.first t).or (p.leads t fun n => if n = 0 then q.first t
      else ((seq (fewest p) q).first (t.drop n)).map (n + ·)) := by
  simp only [first_eq_leads, leads_seq, ← leads_map]
  rw [leads_fewest]
  simp [Nat.add_assoc]

/-! ### Runs -/

variable {r : CodePoint → Bool}

theorem leads_run_nil (next : Nat → Option Nat) : (many (sign r)).leads [] next = next 0 := by
  rw [leads_many, leads_sign]
  rfl

theorem leads_run_cons (c : CodePoint) (t : Text) (next : Nat → Option Nat) :
    (many (sign r)).leads (c :: t) next =
      if r c then ((many (sign r)).leads t fun n => next (1 + n)).or (next 0) else next 0 := by
  rw [leads_many, leads_sign, List.head?_cons, Option.any_some]
  split <;> simp

/-- A run goes on up to its end, if what comes next can go on there, or can go on nowhere before. -/
theorem leads_run (goes : (next (t.takeWhile r).length).isSome ∨
      ∀ n < (t.takeWhile r).length, next n = none) :
    (many (sign r)).leads t next = next (t.takeWhile r).length := by
  induction t generalizing next with
  | nil => exact leads_run_nil next
  | cons c t ih =>
    rw [leads_run_cons]
    by_cases keep : r c
    · rw [if_pos keep]
      rw [List.takeWhile_cons_of_pos keep, List.length_cons, Nat.add_comm] at goes ⊢
      rcases goes with goes | stuck
      · rw [ih (.inl goes)]
        obtain ⟨m, found⟩ := Option.isSome_iff_exists.mp goes
        rw [found, Option.some_or]
      · rw [ih (.inr fun n less => stuck (1 + n) (by omega)), stuck 0 (by omega), Option.or_none]
    · rw [if_neg keep, List.takeWhile_cons_of_neg keep, List.length_nil]

theorem drop_within_run {n : Nat} (less : n < (t.takeWhile r).length) :
    ∃ c rest, t.drop n = c :: rest ∧ r c := by
  induction t generalizing n with
  | nil => cases less
  | cons c t ih =>
    by_cases keep : r c
    · cases n with
      | zero => exact ⟨c, t, rfl, keep⟩
      | succ n =>
        rw [List.takeWhile_cons_of_pos keep, List.length_cons] at less
        exact ih (by omega)
    · rw [List.takeWhile_cons_of_neg keep] at less
      cases less

/-- A run in front of what cannot start inside it. -/
theorem first_run_seq (apart : ∀ c u, r c → q.first (c :: u) = none) (t : Text) :
    (seq (many (sign r)) q).first t =
      (q.first (t.drop (t.takeWhile r).length)).map ((t.takeWhile r).length + ·) := by
  rw [first_eq_leads, leads_seq]
  simp only [leads_behind]
  refine leads_run (.inr fun n less => ?_)
  obtain ⟨c, rest, split, inside⟩ := drop_within_run less
  rw [split, apart c rest inside, Option.map_none]

theorem first_many_sign (r : CodePoint → Bool) (t : Text) :
    (many (sign r)).first t = some (t.takeWhile r).length := by
  rw [first_eq_leads, leads_run (.inl rfl)]

theorem first_several (r : CodePoint → Bool) (t : Text) : (several (sign r)).first t =
    if (t.takeWhile r).length = 0 then none else some (t.takeWhile r).length := by
  rw [several, first_eq_leads, leads_seq, leads_sign]
  cases t with
  | nil => rfl
  | cons c t =>
    rw [List.head?_cons, Option.any_some]
    by_cases keep : r c
    · rw [if_pos keep, List.drop_one, List.tail_cons, leads_run (.inl rfl),
        List.takeWhile_cons_of_pos keep, List.length_cons, if_neg (Nat.succ_ne_zero _), Nat.add_comm]
    · rw [if_neg keep, List.takeWhile_cons_of_neg keep, List.length_nil, if_pos rfl]

end Pattern

end BodyDigest.Text
