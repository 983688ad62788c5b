import BodyDigest.Indented.Members
import BodyDigest.Proofs.Listing

/-!
Which statements of a module are reported as members, told by the blocks that they stand in: functions, and
in a class lambdas that are assigned to one plain name, where every block around them is that of a class, of
a conditional or of a plain `try`.
-/
namespace BodyDigest.Indented

variable {P : Type}

/-! ### Places in a module -/

/-- A block among those of one statement. -/
inductive BlockName where
  | body
  | otherwise
  | final
  | handler (i : Nat)
  | case (i : Nat)
  deriving DecidableEq

def Handler.body : Handler P → List (Stmt P)
  | .mk _ _ body => body

def Case.body : Case P → List (Stmt P)
  | .mk _ _ body => body

/-- The statements of a block. -/
def Stmt.block? : Stmt P → BlockName → Option (List (Stmt P))
  | .function _ _ body, .body | .class _ _ body, .body | .if _ _ body _, .body
  | .while _ _ body _, .body | .for _ _ _ _ body _, .body | .with _ _ _ body, .body
  | .try _ _ body _ _ _, .body => some body
  | .if _ _ _ otherwise, .otherwise | .while _ _ _ otherwise, .otherwise
  | .for _ _ _ _ _ otherwise, .otherwise | .try _ _ _ _ otherwise _, .otherwise => some otherwise
  | .try _ _ _ _ _ final, .final => some final
  | .try _ _ _ handlers _ _, .handler i => (handlers[i]?).map Handler.body
  | .match _ _ cases, .case i => (cases[i]?).map Case.body
  | _, _ => none

/-- The number of a statement in its block, behind those of the statements around it, each with the
block of it that is meant. -/
inductive Address where
  | at (i : Nat)
  | inside (i : Nat) (block : BlockName) (rest : Address)
  deriving DecidableEq

/-- The statement at an address, with those around it, the outermost first. -/
inductive Stands : List (Stmt P) → Address → List (Stmt P) → Stmt P → Prop where
  | here {ss : List (Stmt P)} {i : Nat} {s : Stmt P} (found : ss[i]? = some s) :
    Stands ss (.at i) [] s
  | inside {ss inner above : List (Stmt P)} {i : Nat} {block : BlockName} {a : Address} {s t : Stmt P}
    (found : ss[i]? = some s) (opened : s.block? block = some inner) (deeper : Stands inner a above t) :
    Stands ss (.inside i block a) (s :: above) t

/-! ### Members -/

/-- Statements in whose blocks members are looked for. -/
def Stmt.isSearched : Stmt P → Bool
  | .class _ _ _ | .if _ _ _ _ | .try _ false _ _ _ _ => true
  | _ => false

def Stmt.className? : Stmt P → Option Text
  | .class _ head _ => some head.name
  | _ => none

/-- The name of the innermost class, inside of `outer`. -/
def innermost (outer : Option Text) (above : List (Stmt P)) : Option Text :=
  (above.filterMap Stmt.className?).getLast?.or outer

/-- The member that a statement declares where `type` is the innermost class. -/
inductive IsMember : Option Text → Stmt P → Declared P → Prop where
  | function (type : Option Text) (place : P) (head : FunctionHead) (body : List (Stmt P)) :
    IsMember type (.function place head body) (.function type place head body)
  | assigned (type : Text) (place : P) (name : Text) (params : Params) (value : Expr) :
    IsMember (some type) (.simple place (.assign [.name name] (.lambda params value)))
      (.lambda type place name params)
  | annotated (type : Text) (place : P) (name : Text) (hint : Expr) (params : Params) (value : Expr)
    (bare : Bool) :
    IsMember (some type)
      (.simple place (.annotated (.name name) hint (some (.lambda params value)) bare))
      (.lambda type place name params)

/-- A member and where it stands. -/
structure Finding (P : Type) where
  address : Address
  declared : Declared P

/-- A member that is to be reported: all statements around it are searched. -/
def IsFinding (outer : Option Text) (ss : List (Stmt P)) (f : Finding P) : Prop :=
  ∃ above s, Stands ss f.address above s ∧ (∀ t ∈ above, t.isSearched) ∧
    IsMember (innermost outer above) s f.declared

/-! ### What is declared -/

variable {outer : Option Text} {ss : List (Stmt P)} {s : Stmt P} {f : Finding P} {i : Nat}

def Finding.inside (i : Nat) (block : BlockName) (f : Finding P) : Finding P :=
  { f with address := .inside i block f.address }

/-- The innermost class in the blocks of a statement. -/
def Stmt.typeInside (outer : Option Text) (s : Stmt P) : Option Text := s.className?.or outer

theorem innermost_cons (above : List (Stmt P)) :
    innermost outer (s :: above) = innermost (s.typeInside outer) above := by
  rw [innermost, innermost, Stmt.typeInside, ← Option.or_assoc]
  cases own : s.className? with
  | none => simp [own]
  | some name =>
    rw [List.filterMap_cons, own, List.getLast?_cons]
    cases (above.filterMap Stmt.className?).getLast? <;> rfl

/-- A finding is the statement itself, or stands in one of its blocks. -/
theorem isFinding_iff : IsFinding outer ss f ↔ ∃ i s, ss[i]? = some s ∧
    (f.address = .at i ∧ IsMember outer s f.declared ∨
      s.isSearched ∧ ∃ block inner g, s.block? block = some inner ∧
        IsFinding (s.typeInside outer) inner g ∧ f = g.inside i block) := by
  constructor
  · rintro ⟨above, t, stands, searched, member⟩
    obtain ⟨address, declared⟩ := f
    cases stands with
    | here found => exact ⟨_, _, found, .inl ⟨rfl, member⟩⟩
    | inside found opened deeper =>
      obtain ⟨first, searched⟩ := List.forall_mem_cons.mp searched
      rw [innermost_cons] at member
      exact ⟨_, _, found, .inr ⟨first, _, _, ⟨_, declared⟩, opened, ⟨_, t, deeper, searched, member⟩, rfl⟩⟩
  · rintro ⟨i, s, found, ⟨here, member⟩ |
      ⟨first, block, inner, g, opened, ⟨above, t, deeper, searched, member⟩, rfl⟩⟩
    · exact ⟨[], s, here ▸ .here found, by simp, member⟩
    · refine ⟨s :: above, t, .inside found opened deeper, List.forall_mem_cons.mpr ⟨first, searched⟩, ?_⟩
      rw [innermost_cons]
      exact member

/-! ### The walk -/

/-- The blocks of a statement in which members are looked for, in the order of the walk. -/
def Stmt.searchedBlocks : Stmt P → List (BlockName × List (Stmt P))
  | .class _ _ body => [(.body, body)]
  | .if _ _ body otherwise => [(.body, body), (.otherwise, otherwise)]
  | .try _ false body handlers otherwise final =>
    [(.body, body), (.otherwise, otherwise), (.final, final)]
      ++ handlers.zipIdx.map fun h => (.handler h.2, h.1.body)
  | _ => []

theorem mem_searchedBlocks_iff {block : BlockName} {inner : List (Stmt P)} :
    (block, inner) ∈ s.searchedBlocks ↔ s.isSearched ∧ s.block? block = some inner := by
  unfold Stmt.searchedBlocks Stmt.isSearched
  split
  · cases block <;> simp [Stmt.block?, eq_comm]
  · cases block <;> simp [Stmt.block?, eq_comm]
  · rename_i handlers _ _
    cases block with
    | handler j =>
      have listed_iff : (.handler j, inner) ∈ handlers.zipIdx.map (fun h => (BlockName.handler h.2, h.1.body))
          ↔ ∃ h, handlers[j]? = some h ∧ h.body = inner := by
        constructor
        · intro listed
          obtain ⟨⟨h, k⟩, numbered, same⟩ := List.mem_map.mp listed
          cases same
          exact ⟨h, List.mem_zipIdx_iff_getElem?.mp numbered, rfl⟩
        · rintro ⟨h, found, rfl⟩
          exact List.mem_map.mpr ⟨(h, j), List.mem_zipIdx_iff_getElem?.mpr found, rfl⟩
      simpa [Stmt.block?] using listed_iff
    | _ => simp [Stmt.block?, eq_comm]
  · simp

theorem zipIdx_apart {α : Type} (xs : List α) (k : Nat) :
    (xs.zipIdx k).Pairwise fun a b => a.2 ≠ b.2 := by
  have numbers : ((xs.zipIdx k).map (·.2)).Pairwise (· < ·) := by
    rw [List.zipIdx_map_snd]
    exact List.pairwise_lt_range'
  exact (List.pairwise_map.mp numbers).imp fun smaller => Nat.ne_of_lt smaller

theorem searchedBlocks_apart (s : Stmt P) : s.searchedBlocks.Pairwise fun b c => b.1 ≠ c.1 := by
  unfold Stmt.searchedBlocks
  split
  · simp
  · simp
  · rename_i handlers _ _
    refine List.pairwise_append.mpr ⟨by simp, ?_, ?_⟩
    · exact List.pairwise_map.mpr
        ((zipIdx_apart handlers 0).imp fun apart same => apart (BlockName.handler.inj same))
    · intro b first c later
      obtain ⟨h, -, rfl⟩ := List.mem_map.mp later
      simp only [List.mem_cons, List.not_mem_nil, or_false] at first
      rcases first with rfl | rfl | rfl <;> simp
  · exact .nil

theorem declaredInHandlers_eq (outer : Option Text) (hs : List (Handler P)) (k : Nat) :
    declaredInHandlers outer hs = (hs.zipIdx k).flatMap fun h => declaredIn outer h.1.body := by
  induction hs generalizing k with
  | nil => rfl
  | cons h rest ih =>
    obtain ⟨type, name, body⟩ := h
    rw [declaredInHandlers, ih (k + 1)]
    rfl

theorem declaredIn_eq (outer : Option Text) (ss : List (Stmt P)) (k : Nat) :
    declaredIn outer ss = (ss.zipIdx k).flatMap fun s => declared outer s.1 := by
  induction ss generalizing k with
  | nil => rfl
  | cons s rest ih =>
    rw [declaredIn, ih (k + 1)]
    rfl

theorem declared_searched (outer : Option Text) (searched : s.isSearched) :
    declared outer s = s.searchedBlocks.flatMap fun b => declaredIn (s.typeInside outer) b.2 := by
  unfold Stmt.isSearched at searched
  split at searched
  · simp [declared, Stmt.searchedBlocks, Stmt.typeInside, Stmt.className?]
  · simp [declared, Stmt.searchedBlocks, Stmt.typeInside, Stmt.className?]
  · simp [declared, Stmt.searchedBlocks, Stmt.typeInside, Stmt.className?, declaredInHandlers_eq _ _ 0,
      List.flatMap_map]
  · cases searched

/-- The order in which findings follow one another is left open. -/
abbrev ListsFindings : (Finding P → Prop) → List (Declared P) → Prop :=
  Lists (·.declared) fun f g => f.address ≠ g.address

theorem isMember_simple_iff {type : Text} {place : P} {form : Simple} {d : Declared P} :
    IsMember (some type) (.simple place form) d ↔
      ∃ name params, assignedLambda? form = some (name, params) ∧ d = .lambda type place name params := by
  constructor
  · rintro (_ | _ | _) <;> exact ⟨_, _, rfl, rfl⟩
  · rintro ⟨name, params, assigns, rfl⟩
    unfold assignedLambda? at assigns
    split at assigns
    · cases assigns
      exact .assigned _ _ _ _ _
    · cases assigns
      exact .annotated _ _ _ _ _ _ _
    · cases assigns

/-- A statement that is not searched is reported itself or not at all. -/
theorem listed_itself (closed : s.isSearched = false) (outer : Option Text) (i : Nat) :
    ListsFindings (fun f => f.address = .at i ∧ IsMember outer s f.declared) (declared outer s) := by
  have alone (d : Declared P) (only : ∀ e, IsMember outer s e ↔ e = d) :
      ListsFindings (fun f => f.address = .at i ∧ IsMember outer s f.declared) [d] := by
    refine .single (a := (⟨.at i, d⟩ : Finding P)) fun f => ?_
    obtain ⟨address, declared⟩ := f
    rw [only, Finding.mk.injEq]
  have nothing (never : ∀ e, ¬ IsMember outer s e) :
      ListsFindings (fun f => f.address = .at i ∧ IsMember outer s f.declared) [] :=
    .nil fun f member => never _ member.2
  cases s with
  | function place head body =>
    rw [declared]
    refine alone (.function outer place head body) fun e => ?_
    exact ⟨by rintro ⟨⟩; rfl, by rintro rfl; exact .function _ _ _ _⟩
  | simple place form =>
    cases outer with
    | none =>
      simp only [declared]
      exact nothing (by rintro _ ⟨⟩)
    | some type =>
      cases assigns : assignedLambda? form with
      | none =>
        simp only [declared, assigns]
        refine nothing fun e member => ?_
        obtain ⟨_, _, some_lambda, -⟩ := isMember_simple_iff.mp member
        cases assigns.symm.trans some_lambda
      | some lambda =>
        simp only [declared, assigns]
        refine alone (.lambda type place lambda.1 lambda.2) fun e => ?_
        obtain ⟨name, params⟩ := lambda
        rw [isMember_simple_iff, assigns]
        exact ⟨by rintro ⟨_, _, ⟨⟩, rfl⟩; rfl, fun same => ⟨name, params, rfl, same⟩⟩
  | «class» place head body => cases closed
  | «if» place test body otherwise => cases closed
  | «try» place star body handlers otherwise final =>
    cases star with
    | false => cases closed
    | true =>
      rw [declared]
      · exact nothing (by rintro _ ⟨⟩)
      all_goals simp
  | _ =>
    rw [declared]
    · exact nothing (by rintro _ ⟨⟩)
    all_goals simp

theorem handler_smaller {h : Handler P} {hs : List (Handler P)} (member : h ∈ hs) :
    sizeOf h.body < sizeOf hs := by
  have inside := List.sizeOf_lt_of_mem member
  obtain ⟨type, name, body⟩ := h
  simp only [Handler.mk.sizeOf_spec, Handler.body] at inside ⊢
  omega

theorem case_smaller {c : Case P} {cs : List (Case P)} (member : c ∈ cs) :
    sizeOf c.body < sizeOf cs := by
  have inside := List.sizeOf_lt_of_mem member
  obtain ⟨pattern, guard, body⟩ := c
  simp only [Case.mk.sizeOf_spec, Case.body] at inside ⊢
  omega

theorem block?_smaller {block : BlockName} {inner : List (Stmt P)}
    (opened : s.block? block = some inner) : sizeOf inner < sizeOf s := by
  cases s with
  | «try» place star body handlers otherwise final =>
    simp only [Stmt.try.sizeOf_spec]
    cases block with
    | handler i =>
      obtain ⟨h, found, rfl⟩ := Option.map_eq_some_iff.mp opened
      have inside := handler_smaller (List.mem_of_getElem? found)
      omega
    | case i => cases opened
    | body | otherwise | final =>
      cases opened
      omega
  | «match» place subject branches =>
    simp only [Stmt.match.sizeOf_spec]
    cases block with
    | case i =>
      obtain ⟨c, found, rfl⟩ := Option.map_eq_some_iff.mp opened
      have inside := case_smaller (List.mem_of_getElem? found)
      omega
    | _ => cases opened
  | _ =>
    simp only [Stmt.simple.sizeOf_spec, Stmt.function.sizeOf_spec, Stmt.class.sizeOf_spec,
      Stmt.if.sizeOf_spec, Stmt.while.sizeOf_spec, Stmt.for.sizeOf_spec, Stmt.with.sizeOf_spec]
    cases block <;> cases opened <;> omega

/-- What is found at one statement of a block. -/
def IsFindingAt (outer : Option Text) (s : Stmt P) (i : Nat) (f : Finding P) : Prop :=
  f.address = .at i ∧ IsMember outer s f.declared ∨
    s.isSearched ∧ ∃ block inner g, s.block? block = some inner ∧
      IsFinding (s.typeInside outer) inner g ∧ f = g.inside i block

def Address.first : Address → Nat
  | .at i | .inside i _ _ => i

theorem first_of_findingAt (h : IsFindingAt outer s i f) : f.address.first = i := by
  rcases h with ⟨here, -⟩ | ⟨-, block, inner, g, -, -, rfl⟩
  · rw [here]
    rfl
  · rfl

theorem searched_not_member {d : Declared P} (searched : s.isSearched) : ¬ IsMember outer s d := by
  rintro (_ | _ | _) <;> cases searched

/-- What a statement declares, when all is known of its blocks. -/
theorem listed_at (outer : Option Text) (s : Stmt P) (i : Nat)
    (below : ∀ (outer' : Option Text) (inner : List (Stmt P)), sizeOf inner < sizeOf s →
      ListsFindings (IsFinding outer' inner) (declaredIn outer' inner)) :
    ListsFindings (IsFindingAt outer s i) (declared outer s) := by
  cases searched : s.isSearched with
  | false =>
    refine (listed_itself searched outer i).imp fun f => ?_
    simp [IsFindingAt, searched]
  | true =>
    rw [declared_searched outer searched]
    have each : ∀ b ∈ s.searchedBlocks, ListsFindings
        (fun f => ∃ g, IsFinding (s.typeInside outer) b.2 g ∧ f = g.inside i b.1)
        (declaredIn (s.typeInside outer) b.2) := by
      intro b member
      have smaller := block?_smaller (mem_searchedBlocks_iff.mp member).2
      refine (below _ b.2 smaller).map (f := (·.inside i b.1)) (fun _ => rfl) ?_
      exact fun f g apart same => apart (Address.inside.inj same).2.2
    refine (Lists.flatMap each ((searchedBlocks_apart s).imp ?_)).imp fun f => ?_
    · rintro b c apart _ _ ⟨g, -, rfl⟩ ⟨h, -, rfl⟩ same
      exact apart (Address.inside.inj same).2.1
    · simp only [IsFindingAt, searched_not_member searched, searched, Prod.exists,
        mem_searchedBlocks_iff]
      constructor
      · rintro ⟨block, inner, opened, g, found, rfl⟩
        exact .inr ⟨trivial, block, inner, g, opened.2, found, rfl⟩
      · rintro (⟨-, never⟩ | ⟨-, block, inner, g, opened, found, rfl⟩)
        · cases never
        · exact ⟨block, inner, ⟨trivial, opened⟩, g, found, rfl⟩

/-- The members that are declared are exactly the findings, each once. -/
theorem declared_are_findings (outer : Option Text) (ss : List (Stmt P)) :
    ListsFindings (IsFinding outer ss) (declaredIn outer ss) := by
  induction size : sizeOf ss using Nat.strongRecOn generalizing outer ss with
  | ind k ih =>
    rw [declaredIn_eq outer ss 0]
    have each : ∀ s ∈ ss.zipIdx, ListsFindings (IsFindingAt outer s.1 s.2) (declared outer s.1) := by
      intro s member
      have inside := List.sizeOf_lt_of_mem (List.mem_of_getElem? (List.mem_zipIdx_iff_getElem?.mp member))
      exact listed_at outer s.1 s.2 fun outer' inner smaller => ih _ (by omega) outer' inner rfl
    refine (Lists.flatMap each ((zipIdx_apart ss 0).imp ?_)).imp fun f => ?_
    · intro s t apart f g at_s at_t same
      exact apart (by rw [← first_of_findingAt at_s, ← first_of_findingAt at_t, same])
    · rw [isFinding_iff, exists_comm]
      simp only [Prod.exists, List.mem_zipIdx_iff_getElem?, IsFindingAt]

end BodyDigest.Indented
