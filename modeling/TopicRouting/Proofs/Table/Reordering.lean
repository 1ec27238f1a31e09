import TopicRouting.Proofs.Table.Observation

/-!
Routes registered in different orders. Whatever was accepted withdraws the shorter routes that lead
elsewhere, and a topic that some route extends is not accepted any more; so wherever a whole list
is accepted no route of it comes after one that extends it, and the routes it leaves depend on its
members alone.
-/

set_option autoImplicit false

namespace TopicRouting.Table

universe u

variable {V : Type u}

def withRoutes (table : Table V) (routes : List (String × V)) : Table V :=
  (table.serveEach (routes.map Request.ofRoute)).state

def Grants (table : Table V) (routes : List (String × V)) : Prop :=
  ∀ answer ∈ (table.serveEach (routes.map Request.ofRoute)).result, answer = .done (.ok ())

def LiteralsOnce (table : Table V) (routes : List (String × V)) : Prop :=
  routes.Pairwise fun one other => one.1 = other.1 → table.keyKind one.1 ≠ .ok .literal

def Spared (table : Table V) (routes : List (String × V)) (key : String) (own : V) : Prop :=
  ∀ route ∈ routes, table.Extends route.1 key → key ≠ route.1 → own = route.2

theorem grants_cons (table : Table V) (route : String × V) (routes : List (String × V)) :
    table.Grants (route :: routes) ↔
      (table.setRoute route.1 route.2).result = .ok () ∧
        (table.setRoute route.1 route.2).state.Grants routes := by
  have first : ∀ result : Except RouteError Unit,
      (Answer.done result : Answer V) = .done (.ok ()) ↔ result = .ok () := by simp
  rw [Grants, List.map_cons, serveEach, List.forall_mem_cons, ← first]
  rfl

theorem extends_refl (table : Table V) (key : String) (path : Path)
    (named : table.keyPath key = .ok path) : table.Extends key key :=
  (extends_iff table key key).mpr ⟨path, [], named, by rwa [List.append_nil]⟩

theorem extends_trans (table : Table V) (long middle short : String)
    (first : table.Extends long middle) (second : table.Extends middle short) :
    table.Extends long short := by
  obtain ⟨path, rest, isShort, isMiddle⟩ := (extends_iff table middle short).mp second
  obtain ⟨front, later, isFront, isLong⟩ := (extends_iff table long middle).mp first
  cases isMiddle.symm.trans isFront
  exact (extends_iff table long short).mpr
    ⟨path, rest ++ later, isShort, by rw [isLong, List.append_assoc]⟩

theorem once_config (table other : Table V) (same : other.config = table.config)
    (routes : List (String × V)) (once : table.LiteralsOnce routes) : other.LiteralsOnce routes :=
  once.imp fun {_ _} apart named => key_kind_config table other same _ ▸ apart named

theorem spared_config (table other : Table V) (same : other.config = table.config)
    (routes : List (String × V)) (key : String) (own : V) :
    other.Spared routes key own ↔ table.Spared routes key own := by
  simp only [Spared, extends_config table other same]

section

variable [DecidableEq V] (table : Table V) (plain : table.Plain) (key : String) (value : V)
  (granted : (table.setRoute key value).result = .ok ())
include plain

theorem set_route_plain : (table.setRoute key value).state.Plain :=
  set_route_keeps _ _ kept_plain table key value plain

include granted

theorem granted_routes (other : String) (own : V) :
    (table.setRoute key value).state.Registered other own ↔
      other = key ∧ own = value ∨
        other ≠ key ∧ table.Registered other own ∧ (table.Extends key other → own = value) := by
  rw [granted_registered table plain.lawful key value granted, plain.equality]
  simp [Comparator.equality]

-- A topic that some route extends stays one: what withdraws that route extends the topic too.
theorem covered_stays (other : String) (covered : table.Covered other) :
    (table.setRoute key value).state.Covered other := by
  obtain ⟨longer, held, registered, longerOther⟩ := covered
  have routes := granted_routes table plain key value granted
  have extends_ := extends_config table _ (set_route_config table key value)
  have replaced : table.Extends key other → (table.setRoute key value).state.Covered other :=
    fun keyOther => ⟨key, value, (routes key value).mpr (Or.inl ⟨rfl, rfl⟩),
      (extends_ key other).mpr keyOther⟩
  by_cases same : longer = key
  · exact replaced (same ▸ longerOther)
  · by_cases withdrawn : table.Extends key longer
    · exact replaced (extends_trans table key longer other withdrawn longerOther)
    · exact ⟨longer, held, (routes longer held).mpr
        (Or.inr ⟨same, registered, fun extended => absurd extended withdrawn⟩),
        (extends_ longer other).mpr longerOther⟩

end

section

variable [DecidableEq V]

theorem covered_refused (routes : List (String × V)) (table : Table V) (plain : table.Plain)
    (grants : table.Grants routes) (key : String) (isTopic : table.keyKind key = .ok .topic)
    (covered : table.Covered key) : ∀ route ∈ routes, route.1 ≠ key := by
  induction routes generalizing table with
  | nil => exact fun route member => nomatch member
  | cons first routes ih =>
      obtain ⟨granted, later⟩ := (grants_cons table first routes).mp grants
      have sameKind : (table.setRoute first.1 first.2).state.keyKind key = .ok .topic := by
        rwa [keyKind, set_route_config]
      have rest := ih _ (set_route_plain table plain first.1 first.2) later sameKind
        (covered_stays table plain first.1 first.2 granted key covered)
      intro route member
      cases List.mem_cons.mp member with
      | inl here =>
          subst here
          intro same
          subst same
          exact ((topic_outcome table plain.lawful plain.fits _ _ isTopic).accepted.mp granted).1
            covered
      | inr there => exact rest route there

theorem granted_later (table : Table V) (plain : table.Plain) (first : String × V)
    (routes : List (String × V)) (grants : table.Grants (first :: routes))
    (once : table.LiteralsOnce (first :: routes)) :
    ∀ route ∈ routes, ¬ table.Extends first.1 route.1 := by
  obtain ⟨granted, later⟩ := (grants_cons table first routes).mp grants
  have registered : (table.setRoute first.1 first.2).state.Registered first.1 first.2 :=
    (granted_routes table plain first.1 first.2 granted first.1 first.2).mpr (Or.inl ⟨rfl, rfl⟩)
  intro route member extended
  cases extended with
  | inl topics =>
      obtain ⟨isFirst, isTopic, front⟩ := topics
      have extends_ := (extends_config table _ (set_route_config table first.1 first.2) first.1
        route.1).mpr (Or.inl ⟨isFirst, isTopic, front⟩)
      have sameKind : (table.setRoute first.1 first.2).state.keyKind route.1 = .ok .topic := by
        rwa [keyKind, set_route_config]
      exact covered_refused routes _ (set_route_plain table plain first.1 first.2) later route.1
        sameKind ⟨first.1, first.2, registered, extends_⟩ route member rfl
  | inr literal => exact (List.pairwise_cons.mp once).1 route member literal.2 literal.1

theorem granted_settled (routes : List (String × V)) (table : Table V) (plain : table.Plain)
    (grants : table.Grants routes) (once : table.LiteralsOnce routes) (key : String) (own : V) :
    (table.withRoutes routes).Registered key own ↔
      ((key, own) ∈ routes ∨ table.Registered key own ∧ ∀ route ∈ routes, key ≠ route.1) ∧
        table.Spared routes key own := by
  induction routes generalizing table with
  | nil => simp [withRoutes, serveEach, Spared]
  | cons first routes ih =>
      obtain ⟨granted, later⟩ := (grants_cons table first routes).mp grants
      have apart := granted_later table plain first routes grants once
      have config := set_route_config table first.1 first.2
      have rest := ih _ (set_route_plain table plain first.1 first.2) later
        (once_config table _ config routes (List.pairwise_cons.mp once).2)
      have spared : table.Spared (first :: routes) key own ↔
          (table.Extends first.1 key → key ≠ first.1 → own = first.2) ∧
            table.Spared routes key own := List.forall_mem_cons
      -- What the later routes do to the first one: its key does not come again, and none of them is
      -- extended by it.
      have again : ∀ route ∈ routes, first.1 ≠ route.1 := by
        intro route member same
        obtain ⟨path, named⟩ := set_route_named table first.1 first.2 granted
        exact apart route member (same ▸ extends_refl table first.1 path named)
      have unreached : (key, own) ∈ routes → ¬ table.Extends first.1 key :=
        fun member => apart (key, own) member
      rw [spared_config table _ config, granted_routes table plain first.1 first.2 granted] at rest
      rw [spared, List.mem_cons, List.forall_mem_cons, Prod.ext_iff]
      refine rest.trans ⟨fun left => ?_, fun settled => ?_⟩
      · obtain ⟨listed | ⟨here | ⟨differs, registered, agrees⟩, absent⟩, kept⟩ := left
        · exact ⟨Or.inl (Or.inr listed), fun extended => absurd extended (unreached listed), kept⟩
        · exact ⟨Or.inl (Or.inl here), fun _ differs => absurd here.1 differs, kept⟩
        · exact ⟨Or.inr ⟨registered, differs, absent⟩, fun extended _ => agrees extended, kept⟩
      · obtain ⟨(here | listed) | ⟨registered, differs, absent⟩, agrees, kept⟩ := settled
        · have absent : ∀ route ∈ routes, key ≠ route.1 := by
            intro route member same
            exact again route member (here.1.symm.trans same)
          exact ⟨Or.inr ⟨Or.inl here, absent⟩, kept⟩
        · exact ⟨Or.inl listed, kept⟩
        · exact ⟨Or.inr ⟨Or.inr ⟨differs, registered, fun extended => agrees extended differs⟩,
            absent⟩, kept⟩

theorem with_routes_plain (routes : List (String × V)) (table : Table V) (plain : table.Plain) :
    (table.withRoutes routes).Plain := by
  induction routes generalizing table with
  | nil => exact plain
  | cons first routes ih => exact ih _ (set_route_plain table plain first.1 first.2)

end

theorem once_rearranged (table : Table V) (routes others : List (String × V))
    (same : others.Perm routes) (once : table.LiteralsOnce routes) : table.LiteralsOnce others := by
  refine (List.Perm.pairwise_iff ?_ same).mpr once
  intro one other apart named isLiteral
  exact apart named.symm (named ▸ isLiteral)

theorem order_irrelevant [DecidableEq V] (table : Table V)
    (reachable : Reachable (fun _ => True) table) (equality : table.eqv = .equality)
    (routes first second : List (String × V)) (once : table.LiteralsOnce routes)
    (isFirst : first.Perm routes) (isSecond : second.Perm routes)
    (grantsFirst : table.Grants first) (grantsSecond : table.Grants second) :
    (∀ key value, (table.withRoutes first).Registered key value ↔
      (table.withRoutes second).Registered key value) ∧
      (table.withRoutes first).Alike (table.withRoutes second) := by
  have plain := plain_reachable table reachable equality
  have same := isFirst.trans isSecond.symm
  have left := granted_settled first table plain grantsFirst
    (once_rearranged table routes first isFirst once)
  have right := granted_settled second table plain grantsSecond
    (once_rearranged table routes second isSecond once)
  have level : (table.withRoutes first).Level (table.withRoutes second) := by
    constructor
    · exact (set_routes_config second table).trans (set_routes_config first table).symm
    · intro key value
      rw [left, right]
      simp only [Spared, same.mem_iff]
  exact ⟨level.routes, level_alike _ _ (with_routes_plain first table plain)
    (with_routes_plain second table plain) level⟩

theorem order_irrelevant_for_nested :
    let table := (withComparator {} fun _ _ => false : Table Nat).serveAll
      [.setRoute "a." 1, .setComparator .equality]
    let first := [("a.b.", 2), ("a.b.c", 2), ("_x", 3)]
    let second := [("_x", 3), ("a.b.", 2), ("a.b.c", 2)]
    table.Registered "a." 1 ∧ (table.withRoutes second).Registered "a.b." 2 ∧
      (table.withRoutes second).statistics.dynamicNodes = 2 ∧
      (table.withRoutes first).lookupEarlyExit "a.d" =
        (table.withRoutes second).lookupEarlyExit "a.d" := by
  intro table first second
  have reachable : Reachable (fun _ => True) table :=
    reachable_serve_all _ _ (.start {} _ trivial) _ (by simp [Request.Permitted])
  have once : table.LiteralsOnce first := by simp [LiteralsOnce, first]
  have grantsFirst : table.Grants first := by
    have answers : (table.serveEach (first.map Request.ofRoute)).result =
        List.replicate 3 (.done (.ok ())) := by rfl
    simp only [Grants, answers, List.mem_replicate, and_imp, imp_self, implies_true]
  have grantsSecond : table.Grants second := by
    have answers : (table.serveEach (second.map Request.ofRoute)).result =
        List.replicate 3 (.done (.ok ())) := by rfl
    simp only [Grants, answers, List.mem_replicate, and_imp, imp_self, implies_true]
  obtain ⟨routes, alike⟩ := order_irrelevant table reachable rfl first first second once
    (List.Perm.refl _) (by decide) grantsFirst grantsSecond
  have branch : (table.withRoutes first).Registered "a.b." 2 :=
    ⟨[.branch "a", .branch "b"], by decide, by decide⟩
  have counted : (table.withRoutes first).statistics.dynamicNodes = 2 := by decide
  exact ⟨⟨[.branch "a"], by decide, by decide⟩, (routes _ _).mp branch,
    alike.dynamicNodes.symm.trans counted, alike.earlyExit "a.d"⟩

end TopicRouting.Table
