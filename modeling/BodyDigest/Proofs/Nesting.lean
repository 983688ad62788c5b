import BodyDigest.Nested
import BodyDigest.Proofs.Emit.Recovery

/-!
The registry as a store in three levels. Entries that are grouped by namespace and then by type are
what the levels hold if the entries are put into them one after another, so that the enumeration,
the look-ups and the counts of a registry are those of its levels. The levels never hold an empty
one, and what is written out of them reads back as the same store.
-/
namespace BodyDigest

theorem Key.eq_of_parts {a b : Key} (scope : a.scope = b.scope) (type : a.type = b.type)
    (member : a.member = b.member) : a = b := by
  cases a
  cases b
  cases scope
  cases type
  cases member
  rfl

/-! ### Levels -/

namespace Named

variable {α : Type} {name : Text} {fresh : α} {change : α → α}

theorem alter_of_new {m : Named α} (new : name ∉ m.names) :
    alter name fresh change m = m ++ [(name, change fresh)] := by
  induction m with
  | nil => rfl
  | cons p rest ih =>
    simp only [names, List.map_cons, List.mem_cons, not_or] at new
    rw [alter, if_neg fun same => new.1 same.symm, ih new.2]
    rfl

theorem alter_of_known {keys : List Text} {value : Text → α} (nodup : keys.Nodup)
    (known : name ∈ keys) :
    alter name fresh change (keys.map fun k => (k, value k)) =
      keys.map fun k => (k, if k = name then change (value k) else value k) := by
  induction keys with
  | nil => cases known
  | cons k rest ih =>
    obtain ⟨only, tail⟩ := List.nodup_cons.mp nodup
    rw [List.map_cons, alter, List.map_cons]
    by_cases same : k = name
    · subst same
      rw [if_pos rfl, if_pos rfl, List.cons.injEq]
      refine ⟨rfl, List.map_congr_left fun k' member => ?_⟩
      have differs : k' ≠ k := fun same => only (same ▸ member)
      rw [if_neg differs]
    · have later : name ∈ rest := (List.mem_cons.mp known).resolve_left fun e => same e.symm
      rw [if_neg same, if_neg same, ih tail later]

/-- Entries grouped by a name, the names in order of first appearance. -/
def group (f : Entry → Text) (each : List Entry → α) (es : List Entry) : Named α :=
  (distinct (es.map f)).map fun t => (t, each (es.filter fun e => f e = t))

variable {f : Entry → Text} {each : List Entry → α} {es : List Entry}

theorem names_group : names (group f each es) = distinct (es.map f) := by
  simp [names, group, Function.comp_def]

/-- One more entry changes its own group alone. -/
theorem group_concat (e : Entry) (start : each [] = fresh)
    (grown : each (es.filter (fun x => f x = f e) ++ [e]) =
      change (each (es.filter fun x => f x = f e))) :
    group f each (es ++ [e]) = alter (f e) fresh change (group f each es) := by
  have others (t : Text) (differs : t ≠ f e) :
      ((es ++ [e]).filter fun x => f x = t) = es.filter fun x => f x = t := by
    simp [List.filter_append, Ne.symm differs]
  have own : ((es ++ [e]).filter fun x => f x = f e) = es.filter (fun x => f x = f e) ++ [e] := by
    simp [List.filter_append]
  rw [group, List.map_append, List.map_cons, List.map_nil, distinct_concat]
  by_cases member : f e ∈ es.map f
  · rw [if_pos member, group, alter_of_known (distinct_nodup _) (mem_distinct.mpr member)]
    refine List.map_congr_left fun t _ => ?_
    by_cases same : t = f e
    · rw [same, if_pos rfl, own, grown]
    · rw [if_neg same, others t same]
  · have alone : (es.filter fun x => f x = f e) = [] := by
      rw [List.filter_eq_nil_iff]
      intro x inside
      have differs : f x ≠ f e := fun same => member (same ▸ List.mem_map_of_mem inside)
      simpa using differs
    have new : f e ∉ names (group f each es) := by rwa [names_group, mem_distinct]
    rw [if_neg member, alter_of_new new, List.map_append, List.map_cons, List.map_nil, own, grown,
      alone, start, group]
    congr 1
    refine List.map_congr_left fun t inside => ?_
    rw [others t fun same => member (mem_distinct.mp (same ▸ inside))]

theorem lookup_map {keys : List Text} {value : Text → α} (t : Text) :
    List.lookup t (keys.map fun k => (k, value k)) = if t ∈ keys then some (value t) else none := by
  induction keys with
  | nil => rfl
  | cons k rest ih =>
    rw [List.map_cons, List.lookup_cons]
    by_cases same : t = k
    · simp [same]
    · have differs : (t == k) = false := beq_eq_false_iff_ne.mpr same
      simp [differs, same, ih]

theorem find_group (t : Text) :
    find (group f each es) t =
      if t ∈ es.map f then .ok (each (es.filter fun e => f e = t)) else .error t := by
  rw [find, group, lookup_map]
  simp only [mem_distinct]
  by_cases member : t ∈ es.map f
  · rw [if_pos member, if_pos member]
  · rw [if_neg member, if_neg member]

/-- Groups that are put one behind the other group the list once more in the same way. -/
theorem group_groupedBy {block : List Entry → List Entry} (perm : ∀ xs, (block xs).Perm xs)
    (kept : ∀ xs, each (block xs) = each xs) :
    group f each (Registry.groupedBy f (fun _ => block) es) = group f each es := by
  let blocks := fun t => block (es.filter fun e => f e = t)
  have inside (t : Text) {e : Entry} : e ∈ blocks t ↔ e ∈ es ∧ f e = t := by
    rw [(perm _).mem_iff, List.mem_filter, decide_eq_true_eq]
  have filled : ∀ t ∈ distinct (es.map f), blocks t ≠ [] := by
    intro t member
    obtain ⟨e, listed, same⟩ := List.mem_map.mp (mem_distinct.mp member)
    exact List.ne_nil_of_mem ((inside t).mpr ⟨listed, same⟩)
  have order : distinct ((Registry.groupedBy f (fun _ => block) es).map f) = distinct (es.map f) :=
    distinct_blocks (distinct_nodup _) filled fun t _ e member => ((inside t).mp member).2
  have own (t : Text) : ((Registry.groupedBy f (fun _ => block) es).filter fun e => f e = t) =
      blocks t := by
    have single : (blocks t).filter (fun e => f e = t) = blocks t :=
      List.filter_eq_self.mpr fun e member => decide_eq_true ((inside t).mp member).2
    rw [Registry.groupedBy, List.filter_flatMap, flatMap_of_single (k := t) (distinct_nodup _)]
    · exact single
    · intro t' _ differs
      rw [List.filter_eq_nil_iff]
      intro e member
      have other : f e ≠ t := fun same => differs (((inside t').mp member).2 ▸ same)
      simpa using other
    · intro absent
      rw [single, List.eq_nil_iff_forall_not_mem]
      intro e member
      obtain ⟨listed, same⟩ := (inside t).mp member
      exact absent (mem_distinct.mpr (same ▸ List.mem_map_of_mem listed))
  rw [group, order, group]
  exact List.map_congr_left fun t _ => by rw [own t, kept]

end Named

namespace Nested

open Named

/-! ### The levels of entries -/

def leaves (es : List Entry) : Named Stamp := es.map fun e => (e.key.member, e.stamp)

/-- The levels of entries under keys that differ. -/
def ofEntries (es : List Entry) : Nested := group (·.key.scope) (group (·.key.type) leaves) es

theorem ofEntries_concat {es : List Entry} {e : Entry} (new : e.key ∉ es.map (·.key)) :
    ofEntries (es ++ [e]) = (ofEntries es).put e := by
  refine group_concat e rfl (group_concat e rfl ?_)
  rw [alter_of_new, leaves, leaves, List.map_append]
  · rfl
  · intro known
    obtain ⟨p, member, same⟩ := List.mem_map.mp known
    obtain ⟨x, inside, rfl⟩ := List.mem_map.mp member
    simp only [List.mem_filter, decide_eq_true_eq] at inside
    obtain ⟨⟨listed, scope⟩, type⟩ := inside
    have key : x.key = e.key := Key.eq_of_parts scope type same
    exact new (key ▸ List.mem_map_of_mem listed)

/-- Entries under different keys that are put one after another. -/
theorem foldl_put {es later : List Entry} (nodup : ((es ++ later).map (·.key)).Nodup) :
    later.foldl put (ofEntries es) = ofEntries (es ++ later) := by
  induction later generalizing es with
  | nil => rw [List.append_nil, List.foldl_nil]
  | cons e later ih =>
    have new : e.key ∉ es.map (·.key) := by
      intro member
      rw [List.map_append, List.map_cons] at nodup
      exact (List.nodup_append.mp nodup).2.2 _ member _ (List.mem_cons_self ..) rfl
    rw [List.foldl_cons, ← ofEntries_concat new, ih, List.append_assoc]
    · rfl
    · rw [List.append_assoc]
      exact nodup

/-! ### Enumeration and look-ups -/

theorem members_ofEntries (es : List Entry) :
    (ofEntries es).members =
      Registry.groupedBy (·.key.scope) (fun _ es => Registry.groupedBy (·.key.type) (fun _ fs => fs) es)
        es := by
  rw [members, ofEntries, group, List.flatMap_map, Registry.groupedBy]
  refine List.flatMap_congr fun scope _ => ?_
  rw [group, List.flatMap_map, Registry.groupedBy]
  refine List.flatMap_congr fun type _ => ?_
  rw [leaves, List.map_map]
  refine (List.map_congr_left fun e member => ?_).trans (List.map_id _)
  simp only [List.mem_filter, decide_eq_true_eq] at member
  obtain ⟨⟨_, rfl⟩, rfl⟩ := member
  rfl

theorem find_leaves {es : List Entry} (name : Text) :
    find (leaves es) name =
      match es.find? fun e => e.key.member = name with
      | some e => .ok e.stamp
      | none => .error name := by
  induction es with
  | nil => rfl
  | cons e rest ih =>
    rw [find, leaves, List.map_cons, List.lookup_cons, List.find?_cons]
    by_cases same : e.key.member = name
    · simp [same]
    · have differs : (name == e.key.member) = false := beq_eq_false_iff_ne.mpr (Ne.symm same)
      rw [differs, decide_eq_false same]
      exact ih

/-- A chain of look-ups finds what the registry holds, and fails at the first unknown part. -/
theorem lookup_ofEntries (r : Registry) (k : Key) : (ofEntries r.entries).lookup k = r.lookup k := by
  let inScope := r.entries.filter fun e => e.key.scope = k.scope
  let inType := inScope.filter fun e => e.key.type = k.type
  have any_scope : (r.entries.any fun e => e.key.scope = k.scope) = true ↔
      k.scope ∈ r.entries.map (·.key.scope) := by simp
  have any_type : (r.entries.any fun e => e.key.scope = k.scope && e.key.type = k.type) = true ↔
      k.type ∈ inScope.map (·.key.type) := by
    simp [inScope, and_assoc]
  have found : (inType.find? fun e => e.key.member = k.member) =
      r.entries.find? fun e => e.key = k := by
    rw [List.find?_filter, List.find?_filter]
    apply congrArg fun p => r.entries.find? p
    funext e
    by_cases same : e.key = k
    · simp [same]
    · have parts : ¬ (e.key.scope = k.scope ∧ e.key.type = k.type ∧ e.key.member = k.member) :=
        fun ⟨scope, type, member⟩ => same (Key.eq_of_parts scope type member)
      simpa [same, and_assoc] using parts
  have held : r.lookup k =
      match inType.find? fun e => e.key.member = k.member with
      | some e => .ok e.stamp
      | none => .error (r.missing k) := by
    rw [Registry.lookup, Registry.find?, found]
    cases r.entries.find? fun e => e.key = k <;> rfl
  have absent (empty : inType = []) : r.lookup k = .error (r.missing k) := by rw [held, empty]; rfl
  rw [lookup, ofEntries, find_group]
  by_cases scope : k.scope ∈ r.entries.map (·.key.scope)
  · rw [if_pos scope]
    change (find (group (·.key.type) leaves inScope) k.type >>= fun members => find members k.member) = _
    rw [find_group]
    by_cases type : k.type ∈ inScope.map (·.key.type)
    · rw [if_pos type, held, Registry.missing, if_pos (any_scope.mpr scope), if_pos (any_type.mpr type)]
      exact find_leaves k.member
    · have empty : inType = [] := by
        rw [List.filter_eq_nil_iff]
        intro e member same
        exact type (List.mem_map.mpr ⟨e, member, of_decide_eq_true same⟩)
      rw [if_neg type, absent empty, Registry.missing, if_pos (any_scope.mpr scope),
        if_neg fun any => type (any_type.mp any)]
      rfl
  · have empty : inType = [] := by
      rw [List.filter_eq_nil_iff]
      intro e member
      obtain ⟨listed, same⟩ := List.mem_filter.mp member
      exact absurd (List.mem_map.mpr ⟨e, listed, of_decide_eq_true same⟩) scope
    rw [if_neg scope, absent empty, Registry.missing, if_neg fun any => scope (any_scope.mp any)]
    rfl

/-! ### The levels of the enumeration -/

theorem ofEntries_members (es : List Entry) : ofEntries (ofEntries es).members = ofEntries es := by
  rw [members_ofEntries]
  exact group_groupedBy (fun xs => grouped_by_distinct_perm (fun e : Entry => e.key.type) xs)
    fun xs => group_groupedBy (fun ys => List.Perm.refl ys) fun _ => rfl

theorem members_perm (es : List Entry) : (ofEntries es).members.Perm es := by
  rw [members_ofEntries]
  refine List.Perm.trans ?_ (grouped_by_distinct_perm (fun e : Entry => e.key.scope) es)
  exact List.Perm.flatMap_left _ fun scope _ =>
    grouped_by_distinct_perm (fun e : Entry => e.key.type) _

end Nested

/-! ### Shape -/

namespace Named

variable {α : Type} {fit : α → Prop}

/-- Names differ, and what is under them is fit. -/
structure IsTidy (fit : α → Prop) (m : Named α) : Prop where
  apart : m.names.Nodup
  each : ∀ p ∈ m, fit p.2

theorem IsTidy.group {f : Entry → Text} {each : List Entry → α} {es : List Entry}
    (fits : ∀ t ∈ es.map f, fit (each (es.filter fun e => f e = t))) :
    IsTidy fit (group f each es) := by
  refine ⟨names_group ▸ distinct_nodup _, fun p member => ?_⟩
  obtain ⟨t, listed, rfl⟩ := List.mem_map.mp member
  exact fits t (mem_distinct.mp listed)

theorem group_ne_nil {f : Entry → Text} {each : List Entry → α} {es : List Entry} {t : Text}
    (member : t ∈ es.map f) : group f each es ≠ [] := by
  intro empty
  have listed : t ∈ names (group f each es) := by rwa [names_group, mem_distinct]
  rw [empty] at listed
  cases listed

theorem lookup_eq_some_iff {m : Named α} (apart : m.names.Nodup) {t : Text} {a : α} :
    m.lookup t = some a ↔ (t, a) ∈ m := by
  induction m with
  | nil => simp
  | cons p rest ih =>
    obtain ⟨name, b⟩ := p
    obtain ⟨new, tail⟩ := List.nodup_cons.mp apart
    rw [List.lookup_cons]
    by_cases same : t = name
    · subst same
      have later : (t, a) ∉ rest := fun member => new (List.mem_map.mpr ⟨_, member, rfl⟩)
      simp [later, eq_comm]
    · have differs : (t == name) = false := beq_eq_false_iff_ne.mpr same
      rw [differs]
      simp [same, ih tail]

theorem lookup_isSome_iff {m : Named α} {t : Text} : (m.lookup t).isSome ↔ t ∈ m.names := by
  induction m with
  | nil => simp [names]
  | cons p rest ih =>
    rw [List.lookup_cons, names, List.map_cons, List.mem_cons]
    by_cases same : t = p.1
    · simp [same]
    · have differs : (t == p.1) = false := beq_eq_false_iff_ne.mpr same
      rw [differs]
      simpa only [same, false_or, names] using ih

/-! ### Equality -/

/-- What a comparison decides, told by what is found in a value. Nothing fit is without content. -/
structure Compares {κ : Type} (fit : α → Prop) (alike : α → α → Bool)
    (content : α → κ → Option Stamp) : Prop where
  alike_iff : ∀ {a b}, fit a → fit b → (alike a b = true ↔ content a = content b)
  filled : ∀ {a}, fit a → ∃ k, (content a k).isSome

/-- What is found behind a name. -/
def contentAt {κ : Type} (content : α → κ → Option Stamp) (m : Named α) (p : Text × κ) :
    Option Stamp := (m.lookup p.1).bind fun a => content a p.2

variable {κ : Type} {alike : α → α → Bool} {content : α → κ → Option Stamp} {m n : Named α}

theorem mem_names_iff_content (compares : Compares fit alike content) (tidy : m.IsTidy fit)
    (t : Text) : t ∈ m.names ↔ ∃ k, (contentAt content m (t, k)).isSome := by
  simp only [← lookup_isSome_iff, contentAt]
  cases found : m.lookup t with
  | none => simp
  | some a =>
    have member := (lookup_eq_some_iff tidy.apart).mp found
    simpa using compares.filled (tidy.each _ member)

theorem same_iff (compares : Compares fit alike content) (tidy_m : m.IsTidy fit)
    (tidy_n : n.IsTidy fit) :
    same alike m n = true ↔ contentAt content m = contentAt content n := by
  have both {t : Text} {a b : α} (left : m.lookup t = some a) (right : n.lookup t = some b) :
      alike a b = true ↔ content a = content b :=
    compares.alike_iff (tidy_m.each _ ((lookup_eq_some_iff tidy_m.apart).mp left))
      (tidy_n.each _ ((lookup_eq_some_iff tidy_n.apart).mp right))
  rw [same, Bool.and_eq_true, decide_eq_true_eq, List.all_eq_true]
  constructor
  · rintro ⟨length, all⟩
    have subset : m.names ⊆ n.names := by
      intro t member
      obtain ⟨p, inside, rfl⟩ := List.mem_map.mp member
      have found := all p inside
      rw [← lookup_isSome_iff]
      cases right : n.lookup p.1 with
      | none => simp [right] at found
      | some b => rfl
    have perm : m.names.Perm n.names := by
      refine (List.subperm_of_subset tidy_m.apart subset).perm_of_length_le ?_
      simp [names, length]
    funext ⟨t, k⟩
    rw [contentAt, contentAt]
    cases left : m.lookup t with
    | none =>
      cases right : n.lookup t with
      | none => rfl
      | some b =>
        have member : t ∈ m.names := perm.mem_iff.mpr (lookup_isSome_iff.mp (by simp [right]))
        simp [← lookup_isSome_iff, left] at member
    | some a =>
      have found := all _ ((lookup_eq_some_iff tidy_m.apart).mp left)
      cases right : n.lookup t with
      | none => simp [right] at found
      | some b =>
        rw [right, Option.any_some] at found
        exact congrFun ((both left right).mp found) k
  · intro equal
    have names_iff (t : Text) : t ∈ m.names ↔ t ∈ n.names := by
      rw [mem_names_iff_content compares tidy_m, mem_names_iff_content compares tidy_n, equal]
    have perm := (List.perm_ext_iff_of_nodup tidy_m.apart tidy_n.apart).mpr names_iff
    refine ⟨by simpa [names] using perm.length_eq, fun p member => ?_⟩
    have left : m.lookup p.1 = some p.2 := (lookup_eq_some_iff tidy_m.apart).mpr member
    have listed : p.1 ∈ n.names := (names_iff p.1).mp (List.mem_map_of_mem member)
    obtain ⟨b, right⟩ := Option.isSome_iff_exists.mp (lookup_isSome_iff.mpr listed)
    rw [right, Option.any_some, both left right]
    funext k
    simpa [contentAt, left, right] using congrFun equal (p.1, k)

/-- One level more is compared by what is found behind its names. -/
theorem Compares.level (compares : Compares fit alike content) :
    Compares (fun m => m ≠ [] ∧ IsTidy fit m) (same alike) (contentAt content) where
  alike_iff left right := same_iff compares left.2 right.2
  filled := by
    rintro m ⟨some_name, tidy⟩
    obtain ⟨p, member⟩ := List.exists_mem_of_ne_nil m some_name
    obtain ⟨k, found⟩ :=
      (mem_names_iff_content compares tidy p.1).mp (List.mem_map_of_mem (f := Prod.fst) member)
    exact ⟨_, found⟩

end Named

namespace Nested

open Named

/-- Names differ in every level, and only the outermost one may be empty. -/
def IsTidy (n : Nested) : Prop :=
  Named.IsTidy (fun types => types ≠ [] ∧
    Named.IsTidy (fun members => members ≠ [] ∧ Named.IsTidy (fun _ => True) members) types) n

theorem ofEntries_tidy {es : List Entry} (nodup : (es.map (·.key)).Nodup) :
    (ofEntries es).IsTidy := by
  have filled {f : Entry → Text} {xs : List Entry} {t : Text} (member : t ∈ xs.map f) :
      ∃ x, x ∈ xs.filter fun e => f e = t := by
    obtain ⟨x, listed, same⟩ := List.mem_map.mp member
    exact ⟨x, List.mem_filter.mpr ⟨listed, decide_eq_true same⟩⟩
  refine Named.IsTidy.group fun scope member => ⟨?_, Named.IsTidy.group fun type inside =>
    ⟨?_, ⟨?_, fun _ _ => trivial⟩⟩⟩
  · obtain ⟨x, listed⟩ := filled member
    exact group_ne_nil (List.mem_map_of_mem listed)
  · obtain ⟨x, listed⟩ := filled inside
    simpa [leaves] using List.ne_nil_of_mem listed
  · -- Members of one type differ, since their keys do.
    let typed := (es.filter fun e => e.key.scope = scope).filter fun e => e.key.type = type
    have keys : (typed.map (·.key)).Nodup :=
      nodup.sublist ((List.filter_sublist.trans List.filter_sublist).map _)
    have names_eq : names (leaves typed) = typed.map (·.key.member) := by
      simp [names, leaves, Function.comp_def]
    rw [names_eq]
    refine List.Nodup.map_on (fun x hx y hy same => ?_) (keys.of_map _)
    simp only [typed, List.mem_filter, decide_eq_true_eq] at hx hy
    have key : x.key = y.key :=
      Key.eq_of_parts (hx.1.2.trans hy.1.2.symm) (hx.2.trans hy.2.symm) same
    exact List.inj_on_of_nodup_map nodup hx.1.1 hy.1.1 key

theorem same_iff_lookup {m n : Nested} (tidy_m : m.IsTidy) (tidy_n : n.IsTidy) :
    m.same n = true ↔ ∀ k, (m.lookup k).toOption = (n.lookup k).toOption := by
  have stamps : Compares (fun _ => True) (fun a b : Stamp => decide (a = b))
      (fun s (_ : Unit) => some s) :=
    ⟨fun _ _ => by simp [funext_iff], fun _ => ⟨(), rfl⟩⟩
  have path (n : Nested) (k : Key) : contentAt (contentAt (contentAt fun s (_ : Unit) => some s)) n
      (k.scope, k.type, k.member, ()) = (n.lookup k).toOption := by
    rw [lookup, find]
    cases scope : List.lookup k.scope n with
    | none => simp [contentAt, scope, bind, Except.bind, Except.toOption]
    | some types =>
      change _ = (find types k.type >>= fun members => find members k.member).toOption
      rw [find]
      cases type : types.lookup k.type with
      | none => simp [contentAt, scope, type, bind, Except.bind, Except.toOption]
      | some members =>
        change _ = (find members k.member).toOption
        rw [find]
        cases member : members.lookup k.member <;>
          simp [contentAt, scope, type, member, Except.toOption]
  rw [same, Named.same_iff stamps.level.level tidy_m tidy_n]
  constructor
  · intro equal k
    rw [← path, ← path, equal]
  · intro equal
    funext ⟨scope, type, member, _⟩
    have found := equal ⟨scope, type, member⟩
    rwa [← path, ← path] at found

/-! ### Counts -/

theorem scopeCount_ofEntries (es : List Entry) :
    (ofEntries es).scopeCount = (distinct (es.map (·.key.scope))).length := by
  rw [scopeCount, ofEntries, group, List.length_map]

/-- The paths of all types. -/
def types (n : Nested) : List (Text × Text) :=
  n.flatMap fun scope => scope.2.map fun type => (scope.1, type.1)

theorem typeCount_eq_length_types (n : Nested) : n.typeCount = n.types.length := by
  induction n with
  | nil => rfl
  | cons scope rest ih =>
    have split : types (scope :: rest) =
        (scope.2.map fun type => (scope.1, type.1)) ++ types rest := List.flatMap_cons
    rw [split, List.length_append, List.length_map, ← ih]
    rfl

theorem typeCount_ofEntries (es : List Entry) :
    (ofEntries es).typeCount = (distinct (es.map fun e => (e.key.scope, e.key.type))).length := by
  have listed : (ofEntries es).types = (distinct (es.map (·.key.scope))).flatMap fun scope =>
      (distinct ((es.filter fun e => e.key.scope = scope).map (·.key.type))).map fun type =>
        (scope, type) := by
    simp [types, ofEntries, group, List.flatMap_map, Function.comp_def]
  have nodup : (ofEntries es).types.Nodup := by
    rw [listed, List.nodup_flatMap]
    constructor
    · intro scope _
      exact (distinct_nodup _).map fun _ _ same => (Prod.mk.inj same).2
    · refine (distinct_nodup _).imp fun differs => ?_
      rintro ⟨scope, type⟩ left right
      simp only [List.mem_map, Prod.mk.injEq] at left right
      obtain ⟨_, _, rfl, _⟩ := left
      obtain ⟨_, _, rfl, _⟩ := right
      exact differs rfl
  rw [typeCount_eq_length_types]
  refine List.Perm.length_eq ((List.perm_ext_iff_of_nodup nodup (distinct_nodup _)).mpr ?_)
  rintro ⟨scope, type⟩
  rw [listed, mem_distinct]
  simp only [List.mem_flatMap, mem_distinct, List.mem_map, List.mem_filter, decide_eq_true_eq,
    Prod.mk.injEq]
  constructor
  · rintro ⟨_, _, _, ⟨e, ⟨member, rfl⟩, rfl⟩, rfl, rfl⟩
    exact ⟨e, member, rfl, rfl⟩
  · rintro ⟨e, member, rfl, rfl⟩
    exact ⟨_, ⟨e, member, rfl⟩, _, ⟨e, ⟨member, rfl⟩, rfl⟩, rfl, rfl⟩

/-! ### Reading back -/

theorem textEntries_level {α : Type} {m : Named α} (apart : m.names.Nodup)
    (value : α → Indented.Value) :
    (level value m).textEntries = .ok (m.map fun p => (p.1, value p.2)) :=
  Emit.textEntries_dict apart

/-- What is read from the mapping of a store are the entries of the store in their order. -/
theorem registryOfValue_toValue {n : Nested} (tidy : n.IsTidy) :
    Indented.registryOfValue n.toValue = n.members.foldlM Emit.register Registry.empty := by
  have type_step (scope : Text) (t : Text × Named Stamp) (apart : t.2.names.Nodup) (r : Registry) :
      (do (← (level stampValue t.2).textEntries).foldlM (Indented.addLeaf scope t.1) r) =
        (t.2.map fun m => ⟨⟨scope, t.1, m.1⟩, m.2⟩).foldlM Emit.register r := by
    rw [textEntries_level apart, List.foldlM_map]
    exact List.foldlM_map
  have scope_step (s : Text × Named (Named Stamp)) (member : s ∈ n) (r : Registry) :
      (do (← (level (level stampValue) s.2).textEntries).foldlM (fun r types => do
        (← types.2.textEntries).foldlM (Indented.addLeaf s.1 types.1) r) r) =
          (s.2.flatMap fun t => t.2.map fun m => ⟨⟨s.1, t.1, m.1⟩, m.2⟩).foldlM Emit.register r := by
    obtain ⟨_, inner⟩ := tidy.each s member
    rw [textEntries_level inner.apart]
    exact Emit.foldlM_pieces (fun t inside r => type_step s.1 t (inner.each t inside).2.apart r) r
  rw [Indented.registryOfValue, toValue, textEntries_level tidy.apart]
  exact Emit.foldlM_pieces (fun s member r => scope_step s member r) Registry.empty

end Nested

end BodyDigest
