import BodyDigest.Proofs.Files.Shown

/-!
What writing one file leaves as it was: every other file, the directories and what a scan shows of
them but the file itself, and the places that hold nothing, unless a step of the path leads there.
-/
namespace BodyDigest

/-- Some of the steps of a path, taken from the front, lead to a place. -/
def Path.Passes (p : Path) (names : List Text) : Prop :=
  ∃ k, Path.settle [] (p.parts.take k) = names

instance (p : Path) (names : List Text) : Decidable (p.Passes names) :=
  decidable_of_iff (∃ k, k < p.parts.length + 1 ∧ Path.settle [] (p.parts.take k) = names) <| by
    constructor
    · rintro ⟨k, _, leads⟩
      exact ⟨k, leads⟩
    · rintro ⟨k, leads⟩
      refine ⟨min k p.parts.length, by omega, ?_⟩
      rw [← List.take_eq_take_min]
      exact leads

namespace Tree

variable {t u v new : Tree} {here rest names target q : List Text} {name : Text}
variable {entries es : List (Text × Tree)} {octets : List UInt8} {touched : List Text → Prop}

/-- Files stay, but for the one at `target`; directories stay, and a scan shows the same of them but
for `target`; what holds nothing is filled only where it is touched. -/
structure Kept (touched : List Text → Prop) (target : List Text) (t u : Tree) : Prop where
  file : ∀ q octets, q ≠ target → t.get q = .ok (.file octets) → u.get q = .ok (.file octets)
  directory : ∀ q es, t.get q = .ok (.directory es) →
    ∃ fs, u.get q = .ok (.directory fs) ∧ ∀ rules,
      (Scan.shownIn rules [] fs).filter (fun parts => q ++ parts ≠ target) =
        (Scan.shownIn rules [] es).filter fun parts => q ++ parts ≠ target
  filled : ∀ q, ¬ touched q → (u.get q).isOk → (t.get q).isOk

theorem Kept.refl (touched : List Text → Prop) (target : List Text) (t : Tree) :
    Kept touched target t t where
  file := fun _ _ _ found => found
  directory := fun _ es found => ⟨es, found, fun _ => rfl⟩
  filled := fun _ _ found => found

theorem Kept.trans (first : Kept touched target t u) (second : Kept touched target u v) :
    Kept touched target t v where
  file := by
    intro q octets other found
    exact second.file q octets other (first.file q octets other found)
  directory := by
    intro q es found
    obtain ⟨fs, between, same⟩ := first.directory q es found
    obtain ⟨gs, last, same'⟩ := second.directory q fs between
    exact ⟨gs, last, fun rules => (same' rules).trans (same rules)⟩
  filled := by
    intro q apart found
    exact first.filled q apart (second.filled q apart found)

/-! ### One change -/

/-- A file at the target, or a directory without entries. -/
def IsPut (target names : List Text) : Tree → Prop
  | .file _ => names = target
  | .directory entries => entries = []

/-- What is put at a place, or gives way there, is not shown apart from the target. -/
theorem IsPut.hidden {q parts : List Text} (put : IsPut target (q ++ parts) new)
    (rules : List IgnoreRule) :
    (Scan.shown rules parts new).filter (fun parts => q ++ parts ≠ target) = [] := by
  cases new with
  | file octets =>
    have same : q ++ parts = target := put
    rw [Scan.shown]
    split
    · rfl
    · simp [same]
  | directory entries =>
    obtain rfl : entries = [] := put
    rw [Scan.shown]
    split
    · rfl
    · rw [Scan.shownIn]
      rfl

theorem IsPut.get_below (put : IsPut target names new) (below : rest ≠ []) :
    (new.get rest).isOk = false := by
  cases rest with
  | nil => exact absurd rfl below
  | cons n rest =>
    cases new with
    | file octets =>
      rw [get_file_cons]
      rfl
    | directory entries =>
      obtain rfl : entries = [] := put
      rw [get]
      rfl

/-- Something is put into a directory, under a name that it does not hold or that is the target's. -/
structure Puts (touched : List Text → Prop) (target here : List Text) (name : Text) (new t : Tree) :
    Prop where
  parent : ∃ entries, t.get here = .ok (.directory entries)
  touches : touched (here ++ [name])
  new : IsPut target (here ++ [name]) new
  old : ∀ v, t.get (here ++ [name]) = .ok v → ∃ octets, v = .file octets ∧ here ++ [name] = target

/-- What is found at the place or below it is the old target. -/
theorem Puts.not_reached (h : Puts touched target here name new t) (found : t.get q = .ok v)
    (other : ∀ octets, v = .file octets → q ≠ target) : ¬ here ++ [name] <+: q := by
  rintro ⟨rest, rfl⟩
  by_cases last : rest = []
  · rw [last, List.append_nil] at found other
    obtain ⟨octets, form, same⟩ := h.old v found
    exact other octets form same
  · obtain ⟨es, reached⟩ := directory_of_below found last
    obtain ⟨octets, form, _⟩ := h.old _ reached
    cases form

theorem Puts.file (h : Puts touched target here name new t) (other : q ≠ target)
    (found : t.get q = .ok (.file octets)) : (put new (here ++ [name]) t).get q =
      .ok (.file octets) := by
  obtain ⟨entries, parent⟩ := h.parent
  have below := h.not_reached found fun _ _ => other
  have above : ¬ q <+: here := by
    rintro ⟨rest, rfl⟩
    by_cases last : rest = []
    · rw [last, List.append_nil, found] at parent
      cases parent
    · obtain ⟨es, reached⟩ := directory_of_below parent last
      rw [found] at reached
      cases reached
  rw [get_put_apart parent new below above, found]

/-- Of a directory above the place, the scan shows what it did apart from the target. -/
theorem Puts.above {rest : List Text} (h : Puts touched target (q ++ rest) name new t)
    (found : t.get q = .ok (.directory es)) :
    ∃ fs, (put new (q ++ rest ++ [name]) t).get q = .ok (.directory fs) ∧ ∀ rules,
      (Scan.shownIn rules [] fs).filter (fun parts => q ++ parts ≠ target) =
        (Scan.shownIn rules [] es).filter fun parts => q ++ parts ≠ target := by
  obtain ⟨entries, parent⟩ := h.parent
  obtain ⟨u, reached, changed⟩ := get_put_above parent name new
  obtain ⟨v, reached', inside⟩ := get_of_append parent
  obtain rfl := Except.ok.inj (found.symm.trans reached)
  obtain rfl := Except.ok.inj (found.symm.trans reached')
  have place : q ++ rest ++ [name] = q ++ ([] ++ rest ++ [name]) := by simp
  have replaced (v : Tree) (held : entries.lookup name = some v) (rules : List IgnoreRule) :
      (Scan.shown rules ([] ++ rest ++ [name]) v).filter (fun parts => q ++ parts ≠ target) =
        [] := by
    have at_place : t.get (q ++ rest ++ [name]) = .ok v := by
      rw [get_append, parent]
      exact (get_cons held []).trans (get_nil v)
    obtain ⟨octets, rfl, same⟩ := h.old v at_place
    exact IsPut.hidden (place ▸ same) rules
  have each (rules : List IgnoreRule) := Scan.filter_shownIn_put inside
    (IsPut.hidden (place ▸ h.new) rules) fun v held => replaced v held rules
  obtain ⟨fs, form, _⟩ := each []
  refine ⟨fs, changed.trans (congrArg _ form), ?_⟩
  intro rules
  obtain ⟨gs, form', same⟩ := each rules
  rw [form] at form'
  cases form'
  exact same

theorem Puts.directory (h : Puts touched target here name new t)
    (found : t.get q = .ok (.directory es)) :
    ∃ fs, (put new (here ++ [name]) t).get q = .ok (.directory fs) ∧ ∀ rules,
      (Scan.shownIn rules [] fs).filter (fun parts => q ++ parts ≠ target) =
        (Scan.shownIn rules [] es).filter fun parts => q ++ parts ≠ target := by
  by_cases above : q <+: here
  · obtain ⟨rest, rfl⟩ := above
    exact h.above found
  · obtain ⟨entries, parent⟩ := h.parent
    have below := h.not_reached found (by simp)
    exact ⟨es, (get_put_apart parent new below above).trans found, fun _ => rfl⟩

theorem Puts.filled (h : Puts touched target here name new t) (apart : ¬ touched q)
    (filled : ((put new (here ++ [name]) t).get q).isOk) : (t.get q).isOk := by
  obtain ⟨entries, parent⟩ := h.parent
  by_cases above : q <+: here
  · obtain ⟨rest, rfl⟩ := above
    obtain ⟨u, reached, _⟩ := get_of_append parent
    rw [reached]
    rfl
  · by_cases below : here ++ [name] <+: q
    · obtain ⟨rest, rfl⟩ := below
      have inside : (put new (here ++ [name]) t).get (here ++ [name] ++ rest) = new.get rest := by
        rw [get_append, get_put_self parent]
        rfl
      by_cases last : rest = []
      · rw [last, List.append_nil] at apart
        exact absurd h.touches apart
      · rw [inside, h.new.get_below last] at filled
        cases filled
    · rwa [get_put_apart parent new below above] at filled

theorem Puts.kept (h : Puts touched target here name new t) :
    Kept touched target t (put new (here ++ [name]) t) where
  file := fun _ _ other found => h.file other found
  directory := fun _ _ found => h.directory found
  filled := fun _ apart filled => h.filled apart filled

/-! ### Directories on the way -/

theorem isDirectory_dropLast (parent : ∃ es, t.get here = .ok (.directory es)) :
    ∃ es, t.get here.dropLast = .ok (.directory es) := by
  obtain ⟨es, found⟩ := parent
  by_cases top : here = []
  · subst top
    exact ⟨es, found⟩
  · rw [← List.dropLast_concat_getLast top] at found
    exact directory_of_below found (by simp)

theorem makeDirectories_kept {asked : Path} {followed : List Text} {isMaking : Bool}
    (target : List Text) (parent : ∃ es, t.get here = .ok (.directory es))
    (touches : ∀ k, touched (Path.settle here.reverse (rest.take k)))
    (made : makeDirectories asked t here followed isMaking rest = .ok u) :
    Kept touched target t u ∧ (∃ es, u.get (Path.settle here.reverse rest) = .ok (.directory es)) ∧
      u.canonical here rest = .ok (Path.settle here.reverse rest) := by
  induction rest generalizing t here followed isMaking with
  | nil =>
    rw [makeDirectories] at made
    cases made
    rw [Path.settle, List.reverse_reverse, canonical]
    exact ⟨Kept.refl _ _ _, parent, rfl⟩
  | cons part rest ih =>
    have later (k : Nat) : touched (Path.settle here.reverse (part :: rest.take k)) :=
      touches (k + 1)
    rw [makeDirectories] at made
    rw [Path.settle, canonical]
    simp only [Path.settle] at later
    split at made
    · rename_i up
      rw [if_pos up, List.tail_reverse]
      simp only [if_pos up, List.tail_reverse] at later
      obtain ⟨kept, last, walk⟩ := ih (isDirectory_dropLast parent) later made
      obtain ⟨es, found⟩ := parent
      obtain ⟨fs, stays, _⟩ := kept.directory _ _ found
      refine ⟨kept, last, ?_⟩
      rw [if_pos up, stays]
      exact walk
    · rename_i other
      have place : part :: here.reverse = (here ++ [part]).reverse := by simp
      rw [if_neg other, if_neg other, place]
      simp only [if_neg other, place] at later
      cases found : t.get (here ++ [part]) with
      | ok v =>
        cases v with
        | directory es =>
          simp only [found] at made
          exact ih ⟨es, found⟩ later made
        | file octets =>
          simp only [found] at made
          split at made
          · cases made
          · split at made <;> cases made
      | error e =>
        simp only [found] at made
        have puts : Puts touched target here part (.directory []) t := by
          refine ⟨parent, by simpa [Path.settle] using later 0, rfl, ?_⟩
          intro v held
          rw [found] at held
          cases held
        obtain ⟨es, reached⟩ := parent
        obtain ⟨kept, last, walk⟩ := ih ⟨[], get_put_self reached part _⟩ later made
        exact ⟨puts.kept.trans kept, last, walk⟩

/-! ### Writing -/

theorem canonical_append (t : Tree) (here a b : List Text) :
    t.canonical here (a ++ b) = (t.canonical here a).bind fun there => t.canonical there b := by
  induction a generalizing here with
  | nil =>
    rw [List.nil_append, canonical.eq_1]
    rfl
  | cons part a ih =>
    rw [List.cons_append, canonical, canonical]
    split
    · split
      · exact ih _
      · rfl
      · rfl
    · exact ih _

theorem Kept.canonical (kept : Kept touched target t u) (walk : t.canonical here rest = .ok names) :
    u.canonical here rest = .ok names := by
  induction rest generalizing here with
  | nil =>
    rw [Tree.canonical] at walk ⊢
    exact walk
  | cons part rest ih =>
    rw [Tree.canonical] at walk ⊢
    split
    · rename_i up
      rw [if_pos up] at walk
      split at walk
      · rename_i es found
        obtain ⟨fs, stays, _⟩ := kept.directory _ es found
        rw [stays]
        exact ih walk
      · cases walk
      · cases walk
    · rename_i other
      rw [if_neg other] at walk
      exact ih walk

/-- Where the parts in front lead to a directory and all of them do not, the last part is a name. -/
theorem last_is_name {parts : List Text}
    (above : t.get (Path.settle [] parts.dropLast) = .ok (.directory entries))
    (no_directory : ∀ es, t.get (Path.settle [] parts) ≠ .ok (.directory es)) :
    ∃ last, last ≠ Path.upwards ∧ parts = parts.dropLast ++ [last] ∧
      Path.settle [] parts = Path.settle [] parts.dropLast ++ [last] := by
  by_cases bare : parts = []
  · subst bare
    exact absurd above (no_directory entries)
  · have form := (List.dropLast_concat_getLast bare).symm
    have leads : Path.settle [] parts =
        Path.settle (Path.settle [] parts.dropLast).reverse [parts.getLast bare] := by
      rw [← settle_append, ← form]
    by_cases up : parts.getLast bare = Path.upwards
    · obtain ⟨es, found⟩ := isDirectory_dropLast ⟨entries, above⟩
      rw [leads, Path.settle, if_pos up, Path.settle, List.tail_reverse, List.reverse_reverse]
        at no_directory
      exact absurd found (no_directory es)
    · refine ⟨_, up, form, ?_⟩
      rw [leads, Path.settle, if_neg up, Path.settle, List.reverse_cons, List.reverse_reverse]

/-- The file that is written holds what was to be written, and the rest is kept. -/
theorem write_kept {p : Path} (top : ∃ es, t = .directory es) (written : t.write p octets = .ok u) :
    u.look p = .ok (.file octets) ∧ Kept p.Passes (Path.settle [] p.parts) t u := by
  obtain ⟨es, rfl⟩ := top
  rw [write] at written
  cases made : makeDirectories p.parent (.directory es) [] [] false p.parent.parts with
  | error e => simp only [made, bind, Except.bind, reduceCtorEq] at written
  | ok t =>
    have touches (k : Nat) : p.Passes (Path.settle [] (p.parent.parts.take k)) := by
      refine ⟨min k (p.parts.length - 1), ?_⟩
      rw [Path.parent, List.dropLast_eq_take, List.take_take]
    obtain ⟨kept, ⟨fs, above⟩, walk⟩ :=
      makeDirectories_kept (Path.settle [] p.parts) ⟨es, get_nil _⟩ touches made
    change t.get (Path.settle [] p.parts.dropLast) = _ at above
    change t.canonical [] p.parts.dropLast = .ok (Path.settle [] p.parts.dropLast) at walk
    simp only [made, bind, Except.bind] at written
    split at written
    · cases written
    · rename_i no_directory
      cases written
      obtain ⟨last, named, form, leads⟩ := last_is_name above no_directory
      have puts : Puts p.Passes (Path.settle [] p.parts) (Path.settle [] p.parts.dropLast) last
          (.file octets) t := by
        refine ⟨⟨fs, above⟩, ⟨p.parts.length, ?_⟩, leads.symm, ?_⟩
        · rw [List.take_length, leads]
        · intro v found
          cases v with
          | file old => exact ⟨old, rfl, leads.symm⟩
          | directory gs => exact absurd (leads ▸ found) (no_directory gs)
      have changed := puts.kept
      rw [← leads] at changed
      refine ⟨?_, kept.trans changed⟩
      have arrives : (put (.file octets) (Path.settle [] p.parts) t).canonical [] p.parts =
          .ok (Path.settle [] p.parts) := by
        rw [form, canonical_append, ← form, changed.canonical walk]
        change Tree.canonical _ _ [last] = _
        rw [canonical, if_neg named, canonical, leads]
      rw [look, arrives]
      change Tree.get _ _ = _
      rw [leads]
      exact get_put_self above last _

/-! ### Reading the same -/

variable {p : Path}

/-- Two trees hold the same at a path, as far as its text goes. -/
structure ReadsSame (t u : Tree) (p : Path) : Prop where
  holds : u.holds p = t.holds p
  chars : t.holds p → u.charsAt p = t.charsAt p

theorem octetsAt_eq (t : Tree) (p : Path) : t.octetsAt p = (t.look p).bind fun found =>
    match found with
    | .file octets => .ok octets
    | .directory _ => .error .isDirectory := rfl

theorem charsAt_congr (same : u.octetsAt p = t.octetsAt p) : u.charsAt p = t.charsAt p := by
  rw [charsAt, charsAt, same]

theorem readsSame_of_look (same : u.look p = t.look p) : ReadsSame t u p where
  holds := by rw [holds, holds, same]
  chars := by
    intro _
    exact charsAt_congr (by rw [octetsAt_eq, octetsAt_eq, same])

theorem holds_of_chars {cs : List Char} (h : t.charsAt p = .ok cs) : t.holds p := by
  rw [charsAt, octetsAt_eq] at h
  rw [holds]
  cases found : t.look p with
  | ok v => rfl
  | error e =>
    rw [found] at h
    cases h

theorem Kept.charsAt_file (kept : Kept touched target t u) (plain : Path.upwards ∉ p.parts)
    (other : p.parts ≠ target) {octets : List UInt8}
    (found : t.get p.parts = .ok (.file octets)) : u.charsAt p = t.charsAt p := by
  apply charsAt_congr
  rw [octetsAt_eq, octetsAt_eq, look_plain plain, look_plain plain, found,
    kept.file _ _ other found]

theorem Kept.readsSame (kept : Kept touched target t u) (plain : Path.upwards ∉ p.parts)
    (other : p.parts ≠ target) (apart : ¬ touched p.parts) : ReadsSame t u p := by
  cases found : t.get p.parts with
  | ok v =>
    cases v with
    | file octets =>
      have stays := kept.file _ _ other found
      constructor
      · rw [holds, holds, look_plain plain, look_plain plain, found, stays]
      · intro _
        exact kept.charsAt_file plain other found
    | directory es =>
      obtain ⟨fs, stays, _⟩ := kept.directory _ _ found
      constructor
      · rw [holds, holds, look_plain plain, look_plain plain, found, stays]
        rfl
      · intro _
        apply charsAt_congr
        rw [octetsAt_eq, octetsAt_eq, look_plain plain, look_plain plain, found, stays]
        rfl
  | error e =>
    have nothing : t.holds p = false := by
      rw [holds, look_plain plain, found]
      rfl
    constructor
    · rw [nothing, holds, look_plain plain]
      cases filled : (u.get p.parts).isOk with
      | false => rfl
      | true =>
        have before := kept.filled _ apart filled
        rw [found] at before
        cases before
    · intro held
      rw [nothing] at held
      cases held

end Tree

end BodyDigest
