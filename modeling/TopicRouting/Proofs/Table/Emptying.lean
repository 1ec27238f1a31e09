import TopicRouting.Proofs.Table.Prefixes
import TopicRouting.Proofs.Table.Registration
import TopicRouting.Proofs.Table.Removal

set_option autoImplicit false

namespace TopicRouting

universe u

variable {V : Type u}

def Request.ofRoute (route : String × V) : Request V := .setRoute route.1 route.2

def acceptedKeys (routes : List (String × V)) (answers : List (Answer V)) : List String :=
  (routes.zip answers).filterMap fun (route, answer) =>
    match answer with
    | .done (.ok ()) => some route.1
    | _ => none

namespace Table

theorem registered_at (table : Table V) (sound : table.Sound) (key : String) (value : V) :
    table.Registered key value ↔
      ∃ path, table.forest.routeAt? path = some value ∧ path.text = key := by
  simp only [Registered, Forest.route_at_iff _ sound.regular]
  rfl

theorem is_registered_iff (table : Table V) (sound : table.Sound) (key : String) (path : Path)
    (named : table.keyPath key = .ok path) : table.isRegistered path = true ↔ table.Key key := by
  rw [key_iff table sound, isRegistered, Option.any_eq_true]
  constructor
  · intro routed
    obtain ⟨here, found, isRoute⟩ := routed
    cases target : here.target with
    | undecided => simp [target, Target.isRoute] at isRoute
    | collapsed value => simp [target, Target.isRoute] at isRoute
    | route value =>
        exact ⟨path, value, named, (Forest.routes_iff _ sound.regular path value).mpr
          ⟨here, found, target⟩⟩
  · intro listed
    obtain ⟨whole, value, isWhole, member⟩ := listed
    cases named.symm.trans isWhole
    obtain ⟨here, found, target⟩ := (Forest.routes_iff _ sound.regular path value).mp member
    exact ⟨here, found, by rw [target]; rfl⟩

theorem sound_serve (table : Table V) (sound : table.Sound) (request : Request V) :
    (table.serve request).state.Sound :=
  serve_keeps (fun _ => True) Sound (kept_sound _) table request (by cases request <;> trivial) sound

theorem sound_serve_each (table : Table V) (sound : table.Sound) (requests : List (Request V)) :
    (table.serveEach requests).state.Sound := by
  induction requests generalizing table with
  | nil => exact sound
  | cons request later ih => exact ih _ (sound_serve table sound request)

theorem set_route_config (table : Table V) (key : String) (value : V) :
    (table.setRoute key value).state.config = table.config := by
  rw [setRoute]
  cases table.accept key value with
  | error error => rfl
  | ok kind => exact register_config table _ value

theorem remove_route_config (table : Table V) (key : String) :
    (table.removeRoute key).state.config = table.config := by
  rw [removeRoute]
  cases table.keyPath key with
  | error error => rfl
  | ok path =>
      by_cases registered : table.isRegistered path = true
      · simpa only [if_pos registered] using detach_config table path
      · simp only [if_neg registered]

theorem set_route_named (table : Table V) (key : String) (value : V)
    (accepted : (table.setRoute key value).result = .ok ()) :
    ∃ path, table.keyPath key = .ok path := by
  obtain ⟨kind, verdict⟩ := set_route_granted table key value accepted
  exact ⟨_, (key_path_iff table key _).mpr ⟨kind, accept_kind table key value kind verdict, rfl⟩⟩

theorem set_route_source (table : Table V) (sound : table.Sound) (key : String) (value : V)
    (other : String) (own : V)
    (registered : (table.setRoute key value).state.Registered other own) :
    other = key ∧ (table.setRoute key value).result = .ok () ∨ table.Registered other own := by
  have soundLater := sound_serve table sound (.setRoute key value)
  cases verdict : table.accept key value with
  | error error =>
      have same : (table.setRoute key value).state = table := by rw [setRoute, verdict]
      rw [same] at registered
      exact Or.inr registered
  | ok kind =>
      obtain ⟨granted, changed⟩ := set_route_ok table key value kind verdict
      obtain ⟨path, routed, rfl⟩ := (registered_at _ soundLater other own).mp registered
      have nonempty := KeyRules.spells_nonempty _ _ (KeyRules.spells_key_path _ key kind
        (accept_kind table key value kind verdict))
      obtain ⟨segment, rest, cut⟩ := List.exists_cons_of_ne_nil nonempty
      have changedAt : (table.register (segment :: rest) value).state.forest.routeAt? path =
          some own := by
        rw [← cut, ← changed]
        exact routed
      rw [register_forest_at table sound] at changedAt
      rcases Forest.register_source _ value _ segment rest false path own changedAt with same | before
      · refine Or.inl ⟨?_, granted⟩
        rw [same, ← cut, text_key_path]
      · exact Or.inr ((registered_at table sound _ own).mpr ⟨path, before, rfl⟩)

theorem remove_route_left (table : Table V) (sound : table.Sound) (key other : String) (own : V)
    (registered : (table.removeRoute key).state.Registered other own) :
    other ≠ key ∧ table.Registered other own := by
  obtain ⟨whole, remains, rfl⟩ := registered
  have left : (whole, own) ∈ table.routes ∧ table.keyPath key ≠ .ok whole := by
    rw [removeRoute] at remains
    cases named : table.keyPath key with
    | error error =>
        simp only [named] at remains
        refine ⟨remains, ?_⟩
        intro same
        cases same
    | ok path =>
        by_cases routed : table.isRegistered path = true
        · simp only [named, if_pos routed] at remains
          obtain ⟨here, found, _⟩ := (Option.any_eq_true ..).mp routed
          rw [(detach_left table sound path here found).mem_iff, Forest.outside,
            List.mem_filter] at remains
          refine ⟨remains.1, ?_⟩
          rintro ⟨⟩
          exact of_decide_eq_true remains.2 (List.prefix_refl whole)
        · simp only [named, if_neg routed] at remains
          refine ⟨remains, ?_⟩
          rintro ⟨⟩
          obtain ⟨here, found, isRoute⟩ := (Forest.routes_iff _ sound.regular whole own).mp remains
          exact routed (by rw [isRegistered, found, Option.any_some, isRoute]; rfl)
  refine ⟨?_, whole, left.1, rfl⟩
  rintro rfl
  exact left.2 (route_key_path table sound whole own left.1)

theorem remove_route_answer (table : Table V) (key : String) (path : Path)
    (named : table.keyPath key = .ok path) :
    (table.removeRoute key).result = .ok () ∨
      (table.removeRoute key).result = .error (.notFound key) := by
  by_cases registered : table.isRegistered path = true
  · simp [removeRoute, named, registered]
  · simp [removeRoute, named, registered]

theorem key_kind_config (table other : Table V) (same : other.config = table.config) (key : String) :
    other.keyKind key = table.keyKind key := by
  rw [keyKind, keyKind, same]

theorem key_path_config (table other : Table V) (same : other.config = table.config) (key : String) :
    other.keyPath key = table.keyPath key := by
  rw [keyPath, keyPath, key_kind_config table other same]

theorem accepted_cons (route : String × V) (routes : List (String × V))
    (result : Except RouteError Unit) (answers : List (Answer V)) (key : String) :
    key ∈ acceptedKeys (route :: routes) (.done result :: answers) ↔
      key = route.1 ∧ result = .ok () ∨ key ∈ acceptedKeys routes answers := by
  cases result <;> simp [acceptedKeys]

theorem set_routes_named (routes : List (String × V)) (table : Table V) (key : String)
    (accepted : key ∈ acceptedKeys routes (table.serveEach (routes.map Request.ofRoute)).result) :
    ∃ path, table.keyPath key = .ok path := by
  induction routes generalizing table with
  | nil => cases accepted
  | cons route routes ih =>
      rcases (accepted_cons route routes _ _ key).mp accepted with ⟨rfl, granted⟩ | later
      · exact set_route_named table route.1 route.2 granted
      · have named := ih (table.setRoute route.1 route.2).state later
        rwa [key_path_config table _ (set_route_config table route.1 route.2)] at named

theorem set_routes_config (routes : List (String × V)) (table : Table V) :
    (table.serveEach (routes.map Request.ofRoute)).state.config = table.config := by
  induction routes generalizing table with
  | nil => rfl
  | cons route routes ih => exact (ih _).trans (set_route_config table route.1 route.2)

theorem set_routes_source (routes : List (String × V)) (table : Table V) (sound : table.Sound)
    (key : String) (own : V)
    (registered : (table.serveEach (routes.map Request.ofRoute)).state.Registered key own) :
    key ∈ acceptedKeys routes (table.serveEach (routes.map Request.ofRoute)).result ∨
      table.Registered key own := by
  induction routes generalizing table with
  | nil => exact Or.inr registered
  | cons route routes ih =>
      have first := sound_serve table sound (Request.ofRoute route)
      rcases ih _ first registered with later | before
      · exact Or.inl ((accepted_cons route routes _ _ key).mpr (Or.inr later))
      · rcases set_route_source table sound route.1 route.2 key own before with here | earlier
        · exact Or.inl ((accepted_cons route routes _ _ key).mpr (Or.inl here))
        · exact Or.inr earlier

theorem remove_routes_left (order : List String) (table : Table V) (sound : table.Sound)
    (key : String) (own : V)
    (registered : (table.serveEach (order.map Request.removeRoute)).state.Registered key own) :
    key ∉ order ∧ table.Registered key own := by
  induction order generalizing table with
  | nil => exact ⟨by simp, registered⟩
  | cons first order ih =>
      obtain ⟨absent, remains⟩ := ih _ (sound_serve table sound (.removeRoute first)) registered
      obtain ⟨apart, before⟩ := remove_route_left table sound first key own remains
      exact ⟨by simp [apart, absent], before⟩

theorem remove_routes_answers (order : List String) (table : Table V)
    (named : ∀ key ∈ order, ∃ path, table.keyPath key = .ok path) (answer : Answer V)
    (answers : answer ∈ (table.serveEach (order.map Request.removeRoute)).result) :
    answer = .done (.ok ()) ∨ ∃ key ∈ order, answer = .done (.error (.notFound key)) := by
  induction order generalizing table with
  | nil => cases answers
  | cons key order ih =>
      obtain ⟨path, isPath⟩ := named key (by simp)
      rcases List.mem_cons.mp answers with rfl | later
      · rcases remove_route_answer table key path isPath with removed | missing
        · exact Or.inl (congrArg Answer.done removed)
        · exact Or.inr ⟨key, by simp, congrArg Answer.done missing⟩
      · have still : ∀ other ∈ order,
            ∃ path, (table.removeRoute key).state.keyPath other = .ok path := by
          intro other member
          rw [key_path_config table _ (remove_route_config table key)]
          exact named other (by simp [member])
        rcases ih _ still later with removed | ⟨other, member, missing⟩
        · exact Or.inl removed
        · exact Or.inr ⟨other, by simp [member], missing⟩

theorem remove_routes_empty (order : List String) (table : Table V) (sound : table.Sound)
    (whole : ∀ key, table.Key key → key ∈ order) :
    (table.serveEach (order.map Request.removeRoute)).state.nodeCount = 0 := by
  rw [keyless_iff _ (sound_serve_each table sound _)]
  rintro key ⟨own, registered⟩
  obtain ⟨absent, before⟩ := remove_routes_left order table sound key own registered
  exact absent (whole key ⟨own, before⟩)

end Table

end TopicRouting
