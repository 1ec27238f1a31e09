import TopicRouting.Proofs.Linked.Calls

/-!
Reads do not interfere. Two runs of linked tables make the same calls, but for some that only read
and that one of them makes and the other does not. All the while and at the end the tables of the
two runs differ in their caches and in nothing else, and what both are called for has the same reply
but for what that says about the cache.
-/

set_option autoImplicit false

namespace TopicRouting

open Layout

variable {V σ α : Type}

-- What comes next in two runs: a call of both, or one that only reads of either.
inductive Turn (V : Type) where
  | both (call : Call V)
  | first (call : Call V) (reads : call.reads = true)
  | second (call : Call V) (reads : call.reads = true)

namespace Turn

def first? : Turn V → Option (Call V)
  | both call => some call
  | first call _ => some call
  | second _ _ => none

def second? : Turn V → Option (Call V)
  | both call => some call
  | first _ _ => none
  | second call _ => some call

inductive Aligned : List (Turn V) → List (Reply V) → List (Reply V) → Prop where
  | nil : Aligned [] [] []
  | both (call : Call V) (turns : List (Turn V)) (reply answer : Reply V)
      (replies answers : List (Reply V)) (alike : reply.Alike answer)
      (later : Aligned turns replies answers) :
      Aligned (.both call :: turns) (reply :: replies) (answer :: answers)
  | first (call : Call V) (reads : call.reads = true) (turns : List (Turn V)) (reply : Reply V)
      (replies answers : List (Reply V)) (later : Aligned turns replies answers) :
      Aligned (.first call reads :: turns) (reply :: replies) answers
  | second (call : Call V) (reads : call.reads = true) (turns : List (Turn V)) (answer : Reply V)
      (replies answers : List (Reply V)) (later : Aligned turns replies answers) :
      Aligned (.second call reads :: turns) replies (answer :: answers)

end Turn

namespace LinkedTable

structure Paired (one other : LinkedTable V) : Prop where
  twins : one.Twins other
  first : ∃ (table : Table V) (layout : Layout V), one.Represents table layout
  second : ∃ (table : Table V) (layout : Layout V), other.Represents table layout

theorem paired_symm (one other : LinkedTable V) (paired : one.Paired other) : other.Paired one :=
  ⟨one.twins_symm other paired.twins, paired.second, paired.first⟩

-- The cache is collected from the nodes, so it is the same for all tables they may stand for.
theorem nodes_cache (linked : LinkedTable V) (cache : QuickCache V) (table past : Table V)
    (layout start : Layout V) (represents : linked.Represents table layout)
    (represented : Represents { linked with cache } past start) :
    QuickCache.ofForest past.forest = .ofForest table.forest := by
  have one := represents_cached linked table layout represents .empty fun fresh => nomatch fresh
  have other := represents_cached { linked with cache } past start represented .empty
    fun fresh => nomatch fresh
  obtain ⟨mine, ends, collected⟩ := refresh_consults _ _ _ one
  obtain ⟨yours, endsToo, collectedToo⟩ := refresh_consults _ _ _ other
  have same := (Linked.ends_unique ends endsToo).2
  have caches : yours = mine := congrArg LinkedTable.cache same
  exact collectedToo.cache.symm.trans (caches.trans collected.cache)

theorem paired_represents (one other : LinkedTable V) (paired : one.Paired other) :
    ∃ (table : Table V) (layout : Layout V) (cache : QuickCache V),
      one.Represents table layout ∧ other = { one with cache } ∧
        Represents { one with cache } { table with cache } layout := by
  obtain ⟨⟨cache, rfl⟩, ⟨table, layout, represents⟩, ⟨past, start, represented⟩⟩ := paired
  refine ⟨table, layout, cache, represents, rfl, ?_⟩
  refine represents_cached one table layout represents cache fun fresh => ?_
  have held : cache = past.cache := represented.cache
  rw [held] at fresh ⊢
  rw [represented.sound.current fresh]
  exact nodes_cache one cache table past layout start represents represented

section

variable (one other : LinkedTable V) (paired : one.Paired other)
  (control : Option (VerbositySwitch σ)) (call : Call V)
include paired

theorem paired_reads (reads : call.reads = true) :
    ∃ (reply : Reply V) (next : LinkedTable V) (events : List Event),
      Linked.Ends (Linked.call call control) one (.ok (reply, control)) next events ∧
        next.Paired other := by
  obtain ⟨table, layout, cache, represents, rfl, represented⟩ := paired_represents one other paired
  obtain ⟨fresh, ends, consulted⟩ := call_consults one table layout represents control call reads
  exact ⟨_, _, _, ends, ⟨cache, rfl⟩, ⟨_, layout, consulted⟩, ⟨_, layout, represented⟩⟩

theorem paired_call :
    ∃ (reply answer : Reply V) (left : Option (VerbositySwitch σ)) (next last : LinkedTable V)
      (front back : List Event),
      Linked.Ends (Linked.call call control) one (.ok (reply, left)) next front ∧
        Linked.Ends (Linked.call call control) other (.ok (answer, left)) last back ∧
        reply.Alike answer ∧ next.Paired last := by
  obtain ⟨table, layout, cache, represents, rfl, represented⟩ := paired_represents one other paired
  cases reads : call.reads with
  | true =>
      obtain ⟨mine, ends, consulted⟩ := call_consults one table layout represents control call reads
      obtain ⟨yours, endsToo, consultedToo⟩ :=
        call_consults _ _ layout represented control call reads
      have alike := table.call_alike cache represents.sound represented.sound control call reads
      exact ⟨_, _, control, _, _, _, _, ends, endsToo, alike, ⟨yours, rfl⟩, ⟨_, layout, consulted⟩,
        ⟨_, layout, consultedToo⟩⟩
  | false =>
      have blind := blind_call one table layout represents control call reads
      obtain ⟨next, after, ends, followed⟩ := call_refines one table layout represents control call
      obtain ⟨last, remains, endsToo, followedToo⟩ :=
        call_refines _ _ layout represented control call
      obtain ⟨same, twins⟩ := Linked.blind_agrees blind ends endsToo
      rw [same] at endsToo
      exact ⟨_, _, _, next, last, _, _, ends, endsToo, .same _, twins, ⟨_, after, followed⟩,
        ⟨_, remains, followedToo⟩⟩

end

theorem paired_turns (turns : List (Turn V)) (one other : LinkedTable V)
    (paired : one.Paired other) (control : Option (VerbositySwitch σ)) :
    ∃ (replies answers : List (Reply V)) (left : Option (VerbositySwitch σ))
      (next last : LinkedTable V) (front back : List Event),
      Linked.Ends (Linked.callAll (turns.filterMap Turn.first?) control) one (.ok (replies, left))
          next front ∧
        Linked.Ends (Linked.callAll (turns.filterMap Turn.second?) control) other
          (.ok (answers, left)) last back ∧
        Turn.Aligned turns replies answers ∧ next.Paired last := by
  -- Between two turns the tables are paired, whatever has been answered so far.
  induction turns generalizing one other control with
  | nil =>
      exact ⟨[], [], control, one, other, [], [], Linked.ends_of_reads (Linked.reads_pure one _),
        Linked.ends_of_reads (Linked.reads_pure other _), .nil, paired⟩
  | cons turn turns ih =>
      cases turn with
      | both call =>
          obtain ⟨reply, answer, mid, here, there, _, _, ends, endsToo, alike, pairedHere⟩ :=
            paired_call one other paired control call
          obtain ⟨replies, answers, left, next, last, _, _, later, laterToo, aligned, pairedLast⟩ :=
            ih here there pairedHere mid
          exact ⟨reply :: replies, answer :: answers, left, next, last, _, _,
            Linked.ends_call_all ends later, Linked.ends_call_all endsToo laterToo,
            .both call turns reply answer replies answers alike aligned, pairedLast⟩
      | first call reads =>
          obtain ⟨reply, here, _, ends, pairedHere⟩ :=
            paired_reads one other paired control call reads
          obtain ⟨replies, answers, left, next, last, _, _, later, laterToo, aligned, pairedLast⟩ :=
            ih here other pairedHere control
          exact ⟨reply :: replies, answers, left, next, last, _, _, Linked.ends_call_all ends later,
            laterToo, .first call reads turns reply replies answers aligned, pairedLast⟩
      | second call reads =>
          obtain ⟨answer, there, _, endsToo, pairedThere⟩ :=
            paired_reads other one (paired_symm one other paired) control call reads
          obtain ⟨replies, answers, left, next, last, _, _, later, laterToo, aligned, pairedLast⟩ :=
            ih one there (paired_symm there one pairedThere) control
          exact ⟨replies, answer :: answers, left, next, last, _, _, later,
            Linked.ends_call_all endsToo laterToo,
            .second call reads turns answer replies answers aligned, pairedLast⟩

theorem reads_do_not_interfere (config : TableConfig) (eqv : Comparator V)
    (control : Option (VerbositySwitch σ)) (turns : List (Turn V)) :
    ∃ (replies answers : List (Reply V)) (left : Option (VerbositySwitch σ))
      (one other : LinkedTable V) (events notes : List Event),
      Linked.run (Linked.callAll (turns.filterMap Turn.first?) control)
          (withComparator config eqv) =
          some (.ok (.ok (replies, left), ⟨one, events.map .event⟩)) ∧
        Linked.run (Linked.callAll (turns.filterMap Turn.second?) control)
          (withComparator config eqv) =
          some (.ok (.ok (answers, left), ⟨other, notes.map .event⟩)) ∧
        Turn.Aligned turns replies answers ∧ one.Twins other := by
  have start := start_represents (V := V) config eqv
  obtain ⟨replies, answers, left, one, other, events, notes, ends, endsToo, aligned, paired⟩ :=
    paired_turns turns _ _ ⟨twins_refl _, ⟨_, _, start⟩, ⟨_, _, start⟩⟩ control
  exact ⟨replies, answers, left, one, other, events, notes, Linked.run_ends _ _ _ _ _ ends,
    Linked.run_ends _ _ _ _ _ endsToo, aligned, paired.twins⟩

end LinkedTable

end TopicRouting
