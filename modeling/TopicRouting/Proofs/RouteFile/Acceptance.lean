import TopicRouting.Proofs.Table.Acceptable
import TopicRouting.RouteFile.Basic

set_option autoImplicit false

namespace TopicRouting

namespace RouteFile

def topics (file : RouteFile) : List String :=
  file.routes.map RouteSpec.topic

def front (file : RouteFile) (index : Nat) : RouteFile :=
  ⟨file.routes.take index⟩

theorem front_topics (file : RouteFile) (index : Nat) :
    (file.front index).topics = file.topics.take index := by
  rw [topics, topics, front, List.map_take]

structure Halts (table : Table String) (before : List RouteSpec) (route : RouteSpec)
    (routes : List RouteSpec) (error : RouteError) : Prop where
  earlier : (register table before).result = .ok ()
  refused : ((register table before).state.setRoute route.topic route.destination).result =
    .error error
  result : (register table routes).result = .error error
  state : (register table routes).state = (register table before).state

theorem register_refused (table : Table String) (route : RouteSpec) (rest : List RouteSpec)
    (error : RouteError)
    (refused : (table.setRoute route.topic route.destination).result = .error error) :
    (register table (route :: rest)).result = .error error ∧
      (register table (route :: rest)).state =
        (table.setRoute route.topic route.destination).state := by
  simp only [register, refused]
  exact ⟨trivial, trivial⟩

theorem register_granted (table : Table String) (route : RouteSpec) (rest : List RouteSpec)
    (granted : (table.setRoute route.topic route.destination).result = .ok ()) :
    (register table (route :: rest)).result =
        (register (table.setRoute route.topic route.destination).state rest).result ∧
      (register table (route :: rest)).state =
        (register (table.setRoute route.topic route.destination).state rest).state := by
  simp only [register, granted]
  exact ⟨trivial, trivial⟩

theorem halts_later (table : Table String) (first : RouteSpec) (before : List RouteSpec)
    (route : RouteSpec) (rest : List RouteSpec) (error : RouteError)
    (granted : (table.setRoute first.topic first.destination).result = .ok ())
    (halts : Halts (table.setRoute first.topic first.destination).state before route rest error) :
    Halts table (first :: before) route (first :: rest) error := by
  obtain ⟨resultBefore, stateBefore⟩ := register_granted table first before granted
  obtain ⟨resultRest, stateRest⟩ := register_granted table first rest granted
  constructor
  · rw [resultBefore]
    exact halts.earlier
  · rw [stateBefore]
    exact halts.refused
  · rw [resultRest]
    exact halts.result
  · rw [stateRest, stateBefore]
    exact halts.state

theorem register_judged (routes : List RouteSpec) (table : Table String) (keys : List String)
    (spans : table.Spans keys) (acceptable : table.config.Acceptable keys) :
    ((register table routes).result = .ok () ∧
      (register table routes).state.Spans (keys ++ routes.map RouteSpec.topic) ∧
      table.config.Acceptable (keys ++ routes.map RouteSpec.topic)) ∨
    ∃ before route after error, routes = before ++ route :: after ∧
      Halts table before route routes error ∧
      table.config.Acceptable (keys ++ before.map RouteSpec.topic) ∧
      table.config.Offence (keys ++ before.map RouteSpec.topic) route.topic error := by
  induction routes generalizing table keys with
  | nil =>
      rw [List.map_nil, List.append_nil]
      exact Or.inl ⟨rfl, spans, acceptable⟩
  | cons route rest ih =>
      have verdict := Table.set_route_verdict table keys spans route.topic route.destination
      cases set : (table.setRoute route.topic route.destination).result with
      | error error =>
          rw [set] at verdict
          have same := Table.set_route_unchanged table _ _ error set
          obtain ⟨result, state⟩ := register_refused table route rest error set
          exact Or.inr ⟨[], route, rest, error, rfl, ⟨rfl, set, result, state.trans same⟩,
            by simpa using acceptable, by simpa [Table.Verdict] using verdict⟩
      | ok done =>
          rw [set] at verdict
          have spansMore := Table.set_route_spans table keys spans _ _ set
          have sameConfig := Table.set_route_config table route.topic route.destination
          -- The keys before grow by one, so an offence is judged against all routes in front of it.
          have step := ih _ _ spansMore (by
            rw [sameConfig, TableConfig.acceptable_more]
            exact ⟨acceptable, verdict⟩)
          rw [sameConfig, List.append_assoc] at step
          rcases step with
            ⟨done, spansAll, whole⟩ | ⟨before, stop, after, error, cut, halts, front, offence⟩
          · obtain ⟨result, state⟩ := register_granted table route rest set
            rw [result, state]
            exact Or.inl ⟨done, spansAll, whole⟩
          · rw [List.append_assoc] at front offence
            exact Or.inr ⟨route :: before, stop, after, error, by rw [cut, List.cons_append],
              halts_later table route before stop rest error set halts, front, offence⟩

theorem register_config (routes : List RouteSpec) (table : Table String) :
    (register table routes).state.config = table.config := by
  induction routes generalizing table with
  | nil => rfl
  | cons route rest ih =>
      have sameConfig := Table.set_route_config table route.topic route.destination
      cases set : (table.setRoute route.topic route.destination).result with
      | error error => rw [(register_refused table route rest error set).2, sameConfig]
      | ok done => rw [(register_granted table route rest set).2, ih, sameConfig]

theorem apply_ok_iff (file : RouteFile) (table : Table String) :
    (file.apply table).result = .ok file.routes.length ↔
      (register table file.routes).result = .ok () := by
  cases done : (register table file.routes).result <;> simp [apply, done]

theorem apply_error_iff (file : RouteFile) (table : Table String) (error : RouteError) :
    (file.apply table).result = .error (.route error) ↔
      (register table file.routes).result = .error error := by
  cases done : (register table file.routes).result <;> simp [apply, done]

structure StopsAt (file : RouteFile) (table : Table String) (index : Nat) (error : RouteError) :
    Prop where
  earlier : ((file.front index).apply table).result = .ok index
  refused : ∃ route, file.routes[index]? = some route ∧
    (((file.front index).apply table).state.setRoute route.topic route.destination).result =
      .error error
  result : (file.apply table).result = .error (.route error)
  state : (file.apply table).state = ((file.front index).apply table).state

theorem halts_stops (file : RouteFile) (table : Table String) (before : List RouteSpec)
    (route : RouteSpec) (after : List RouteSpec) (error : RouteError)
    (cut : file.routes = before ++ route :: after)
    (halts : Halts table before route file.routes error) :
    file.StopsAt table before.length error := by
  have isFront : file.front before.length = ⟨before⟩ := by
    rw [front, cut, List.take_left]
  have isRoute : file.routes[before.length]? = some route := by
    rw [cut, List.getElem?_append_right (Nat.le_refl _), Nat.sub_self, List.getElem?_cons_zero]
  constructor
  · rw [isFront]
    exact (apply_ok_iff ⟨before⟩ table).mpr halts.earlier
  · rw [isFront]
    exact ⟨route, isRoute, halts.refused⟩
  · exact (apply_error_iff file table error).mpr halts.result
  · rw [isFront]
    exact halts.state

section

variable (table : Table String) (spans : table.Spans [])
include spans

theorem apply_judged (file : RouteFile) :
    ((file.apply table).result = .ok file.routes.length ∧
      (file.apply table).state.Spans file.topics ∧ table.config.Acceptable file.topics) ∨
    ∃ index topic error, file.topics[index]? = some topic ∧ file.StopsAt table index error ∧
      table.config.Acceptable (file.topics.take index) ∧
      table.config.Offence (file.topics.take index) topic error := by
  have nothing : table.config.Acceptable [] := ⟨by simp, .nil, by simp [KeyRules.rootCount]⟩
  rcases register_judged file.routes table [] spans nothing with
    ⟨done, spansAll, whole⟩ | ⟨before, route, after, error, cut, halts, front, offence⟩
  · exact Or.inl ⟨(apply_ok_iff file table).mpr done, spansAll, whole⟩
  · have isTake : file.topics.take before.length = before.map RouteSpec.topic := by
      rw [topics, cut, ← List.map_take, List.take_left]
    refine Or.inr ⟨before.length, route.topic, error, ?_, halts_stops file table before route after
      error cut halts, ?_, ?_⟩
    · simp [topics, cut]
    · rw [isTake]
      exact front
    · rw [isTake]
      exact offence

theorem apply_accepted_iff (file : RouteFile) :
    (file.apply table).result = .ok file.routes.length ↔ table.config.Acceptable file.topics := by
  rcases apply_judged table spans file with
    ⟨done, _, whole⟩ | ⟨index, topic, error, isTopic, stops, front, offence⟩
  · exact iff_of_true done whole
  · apply iff_of_false
    · rw [stops.result]
      intro done
      cases done
    · exact TableConfig.spoiled_whole _ file.topics index
        (TableConfig.offence_spoiled _ file.topics index topic error isTopic front offence)

theorem stops_iff (file : RouteFile) (index : Nat) :
    (∃ error, file.StopsAt table index error) ↔ table.config.SpoiledAt file.topics index := by
  constructor
  · intro stopped
    obtain ⟨error, stops⟩ := stopped
    obtain ⟨route, isRoute, refused⟩ := stops.refused
    have isTopic : file.topics[index]? = some route.topic := by
      rw [topics, List.getElem?_map, isRoute, Option.map_some]
    have sameConfig : ((file.front index).apply table).state.config = table.config :=
      register_config _ table
    rcases apply_judged table spans (file.front index) with
      ⟨_, spansFront, front⟩ | ⟨_, _, early, _, stopsEarly, _⟩
    · rw [front_topics] at spansFront front
      have offence := Table.set_route_verdict _ _ spansFront route.topic route.destination
      rw [refused, Table.Verdict, sameConfig] at offence
      exact TableConfig.offence_spoiled _ file.topics index route.topic error isTopic front offence
    · cases stopsEarly.result.symm.trans stops.earlier
  · intro spoiled
    rcases apply_judged table spans file with
      ⟨_, _, whole⟩ | ⟨other, topic, error, isTopic, stops, front, offence⟩
    · exact absurd whole (TableConfig.spoiled_whole _ file.topics index spoiled)
    · have again := TableConfig.offence_spoiled _ file.topics other topic error isTopic front
        offence
      cases TableConfig.spoiled_once _ file.topics index other spoiled again
      exact ⟨error, stops⟩

end

structure Judged (file : RouteFile) (table : Table String) : Prop where
  accepted : (file.apply table).result = .ok file.routes.length ↔
    table.config.Acceptable file.topics
  rejected : ¬ table.config.Acceptable file.topics →
    ∃ index topic error, file.topics[index]? = some topic ∧
      table.config.Acceptable (file.topics.take index) ∧
      table.config.Offence (file.topics.take index) topic error ∧
      table.config.Blames (file.topics.take index) topic error ∧
      file.StopsAt table index error
  blind : ∀ other : RouteFile, other.topics = file.topics →
    ((other.apply table).result = .ok other.routes.length ↔
      (file.apply table).result = .ok file.routes.length) ∧
    ∀ index, (∃ error, other.StopsAt table index error) ↔ ∃ error, file.StopsAt table index error

-- A withdrawn route leaves nodes below its own and no root is freed, so only topics count.
theorem acceptance_decided (table : Table String)
    (reachable : Table.Reachable (fun _ => True) table) (lawful : table.eqv.IsEquivalence)
    (empty : table.isEmpty = true) (file : RouteFile) : file.Judged table := by
  have spans := Table.empty_spans table reachable lawful empty
  constructor
  · exact apply_accepted_iff table spans file
  · intro unacceptable
    rcases apply_judged table spans file with
      ⟨_, _, whole⟩ | ⟨index, topic, error, isTopic, stops, front, offence⟩
    · exact absurd whole unacceptable
    · exact ⟨index, topic, error, isTopic, front, offence,
        TableConfig.offence_blames _ _ topic error front.roots offence, stops⟩
  · intro other sameTopics
    constructor
    · rw [apply_accepted_iff table spans other, apply_accepted_iff table spans file, sameTopics]
    · intro index
      rw [stops_iff table spans other, stops_iff table spans file, sameTopics]

theorem acceptance_decided_prefix :
    let table := Table.withComparator {} Comparator.sameHost
    let file : RouteFile := ⟨[⟨"a.b", "one"⟩, ⟨"a.c", "two"⟩, ⟨"a.", "one"⟩]⟩
    let alike : RouteFile := ⟨[⟨"a.b", "one"⟩, ⟨"a.c", "one"⟩, ⟨"a.", "two"⟩]⟩
    table.isEmpty = true ∧ file.Judged table ∧ file.StopsAt table 2 (.conflictingRoute "a.") ∧
      (∃ error, alike.StopsAt table 2 error) ∧
      ¬ alike.StopsAt table 2 (.conflictingRoute "a.") := by
  intro table file alike
  have empty : table.isEmpty = true := rfl
  have judged := acceptance_decided table (.start {} _ trivial) Comparator.sameHost_isEquivalence
    empty file
  have stops : file.StopsAt table 2 (.conflictingRoute "a.") :=
    ⟨by decide, ⟨⟨"a.", "one"⟩, by decide, by decide⟩, by decide, rfl⟩
  refine ⟨empty, judged, stops, ((judged.blind alike (by decide)).2 2).mpr ⟨_, stops⟩, ?_⟩
  intro conflicting
  have duplicate : (alike.apply table).result = .error (.route (.duplicateRoute "a.")) := by decide
  cases duplicate.symm.trans conflicting.result

end RouteFile

end TopicRouting
