import Teardown.Proofs.FetchAccount

/-!
# Which node a failed fetch is put down to

The record of a failed fetch has a field for the node. A system error, a call that was broken off and an
error that was made for the occasion are put down to the node at hand. An error that several nodes raise
is put down to the first of them that has a name: its name is set once and kept.
-/

namespace Teardown

set_option autoImplicit false

variable {State : Type}

namespace Watch

def advanceMoments (behaviour : Behaviour State) (watch : Watch State) (cancelRequests : Nat)
    (node : NodeId) (method : NodeCall) (reply : World State × Except Failure method.Answer)
    (next : Except Failure method.Answer → Program (Except Failure CallResult)) :
    List (Moment State) :=
  ⟨watch.host.world, .reply node method reply.2⟩ ::
    reply.1.moments behaviour { cancelRequested := 0 < cancelRequests } (next reply.2)

def resumeMoments (behaviour : Behaviour State) (watch : Watch State) (task : TaskId) :
    List (Moment State) :=
  match watch.host.tasks[task]? with
  | some ⟨cancelRequests, .waiting node method _ next⟩ =>
      watch.advanceMoments behaviour cancelRequests node method
        (watch.host.world.answer behaviour node method) next
  | _ => []

def cancelMoments (behaviour : Behaviour State) (watch : Watch State) (task : TaskId) :
    List (Moment State) :=
  match watch.host.tasks[task]? with
  | some ⟨cancelRequests, .waiting node method _ next⟩ =>
      watch.advanceMoments behaviour (cancelRequests + 1) node method
        (watch.host.world.breakOff behaviour node method) next
  | _ => []

/-- A host's run with all its moments. Visits of any strategies may be started, answered and
cancelled in any order; between their turns the nodes may change as they like. -/
inductive Ran (behaviour : Behaviour State) : Watch State → List (Moment State) → Prop where
  | opened (nodes : NodeId → State) : Ran behaviour { host := { world := { nodes := nodes } } } []
  | started {watch : Watch State} {annals : List (Moment State)} (strategy : Strategy)
      (operation : Operation) (node : Option NodeId) (threaded : Bool) (cancelRequests : Nat)
      (ran : Ran behaviour watch annals) :
      Ran behaviour (watch.start behaviour strategy operation node threaded cancelRequests)
        (annals ++ watch.host.world.moments behaviour
          { threaded := threaded, cancelRequested := 0 < cancelRequests }
          (operation.attempt strategy node).run)
  | resumed {watch : Watch State} {annals : List (Moment State)} (task : TaskId)
      (ran : Ran behaviour watch annals) :
      Ran behaviour (watch.resume behaviour task) (annals ++ watch.resumeMoments behaviour task)
  | cancelled {watch : Watch State} {annals : List (Moment State)} (task : TaskId)
      (ran : Ran behaviour watch annals) :
      Ran behaviour (watch.cancel behaviour task) (annals ++ watch.cancelMoments behaviour task)
  | askedToStop {watch : Watch State} {annals : List (Moment State)} (task : TaskId)
      (cancelRequests : Nat) (ran : Ran behaviour watch annals) :
      Ran behaviour (watch.setCancelRequests task cancelRequests) annals
  | moved {watch : Watch State} {annals : List (Moment State)} (world : World State)
      (held : world.held = watch.host.world.held) (noted : world.noted = watch.host.world.noted)
      (ran : Ran behaviour watch annals) : Ran behaviour (watch.setWorld world) annals

/-- All failed fetches of the run are accounted for, and every task tells of those to come. -/
structure Tells (behaviour : Behaviour State) (watch : Watch State)
    (annals : List (Moment State)) : Prop where
  accounted : Accounted behaviour watch.host.world.noted (failedFetches behaviour annals)
  tasks : ∀ known ∈ watch.host.tasks, known.progress.remaining.TellsFetches

theorem tells_advance {behaviour : Behaviour State} {watch : Watch State}
    {annals : List (Moment State)} (tells : watch.Tells behaviour annals) {task : TaskId}
    {former ticket : Nat} {node : NodeId} {method : NodeCall}
    {next : Except Failure method.Answer → Program (Except Failure CallResult)}
    (found : watch.host.tasks[task]? = some ⟨former, .waiting node method ticket next⟩)
    (cancelRequests : Nat) {reply : World State × Except Failure method.Answer}
    (same : reply.1.noted = watch.host.world.noted)
    (stands : ∀ failure, reply.2 = .error failure → method = .uptime →
      failure.Stands behaviour watch.host.world.noted (watch.host.world.nodes node)) :
    (watch.advance behaviour task cancelRequests node method reply next).Tells behaviour
      (annals ++ watch.advanceMoments behaviour cancelRequests node method reply next) := by
  have turned := World.accounts_replied behaviour { cancelRequested := 0 < cancelRequests }
    (tells.tasks _ (List.mem_of_getElem? found)) same stands tells.accounted
  constructor
  · rw [failedFetches, List.foldl_append]
    exact turned.accounted
  · intro known present
    rcases List.mem_or_eq_of_mem_set present with former | rfl
    · exact tells.tasks known former
    · exact turned.remaining

theorem tells_of_ran {behaviour : Behaviour State} {watch : Watch State}
    {annals : List (Moment State)} (ran : Ran behaviour watch annals) :
    watch.Tells behaviour annals := by
  induction ran with
  | opened nodes => exact ⟨.none, fun known present => absurd present List.not_mem_nil⟩
  | started strategy operation node threaded cancelRequests _ tells =>
      have turned := World.accounts_of_tells_fetches behaviour
        { threaded := threaded, cancelRequested := 0 < cancelRequests }
        (operation.attempt_tells_fetches strategy node) tells.accounted
      constructor
      · rw [failedFetches, List.foldl_append]
        exact turned.accounted
      · intro known present
        rcases List.mem_append.mp present with former | last
        · exact tells.tasks known former
        · obtain rfl := List.mem_singleton.mp last
          exact turned.remaining
  | @resumed watch annals task _ tells =>
      simp only [resume, resumeMoments]
      rcases found : watch.host.tasks[task]? with _ | ⟨cancelRequests, _ | ⟨node, method, _, next⟩⟩
      · simpa only [List.append_nil] using tells
      · simpa only [List.append_nil] using tells
      · refine tells_advance tells found cancelRequests rfl ?_
        rintro failure replied rfl
        exact stands_of_answered replied
  | @cancelled watch annals task _ tells =>
      simp only [cancel, cancelMoments]
      rcases found : watch.host.tasks[task]? with _ | ⟨cancelRequests, _ | ⟨node, method, _, next⟩⟩
      · simpa only [List.append_nil] using tells
      · simpa only [List.append_nil] using tells
      · refine tells_advance tells found (cancelRequests + 1) rfl ?_
        rintro failure replied rfl
        exact stands_of_brokenOff replied
  | askedToStop task cancelRequests _ tells =>
      refine ⟨tells.accounted, fun known present => ?_⟩
      obtain ⟨index, found⟩ := List.mem_iff_getElem?.mp present
      simp only [setCancelRequests, List.getElem?_modify, Option.map_eq_map,
        Option.map_eq_some_iff] at found
      obtain ⟨former, found, rfl⟩ := found
      have remaining := tells.tasks former (List.mem_of_getElem? found)
      split <;> exact remaining
  | moved world held noted _ tells =>
      refine ⟨?_, tells.tasks⟩
      change Accounted behaviour world.noted _
      rw [noted]
      exact tells.accounted

end Watch

/-- The error was made without the name of a node: no node raises it with one. -/
def MadeUnnamed (behaviour : Behaviour State) (id : ErrorId) (fetches : List (FailedFetch State)) :
    Prop :=
  ∀ fetch ∈ fetches, ∀ error, behaviour.Raises fetch.state (.retention error (some id)) →
    error.context.nodeName = none

def FailedFetch.isOf (id : ErrorId) (fetch : FailedFetch State) : Bool :=
  match fetch.failure with
  | .retention _ (some shared) => shared == id
  | _ => false

def namesTold (id : ErrorId) (fetches : List (FailedFetch State)) : List String :=
  ((fetches.filter (·.isOf id)).flatMap (·.told.map (·.1))).reverse

/-- The first of the names that is not empty. -/
def firstName? (names : List String) : Option String := names.find? fun name => !name.isEmpty

theorem not_empty_of_first_name {names : List String} {first : String}
    (found : firstName? names = some first) : first.isEmpty = false := by
  simpa using List.find?_some found

theorem first_name_concat (names : List String) (name : String) :
    (firstName? (names ++ [name])).getD "" =
      if ((firstName? names).getD "").isEmpty then name else (firstName? names).getD "" := by
  have split : firstName? (names ++ [name]) = (firstName? names).or (firstName? [name]) :=
    List.find?_append
  rw [split]
  cases found : firstName? names with
  | some first => simp [not_empty_of_first_name found]
  | none =>
      cases empty : name.isEmpty with
      | false => simp [firstName?, empty]
      | true =>
          obtain rfl := String.isEmpty_iff.mp empty
          rfl

theorem first_name_concat_eq_iff (names : List String) (name : String) :
    (firstName? (names ++ [name])).getD "" = name ↔
      ∀ first, firstName? names = some first → first = name := by
  rw [first_name_concat]
  cases found : firstName? names with
  | none => simp
  | some first => simp [not_empty_of_first_name found]

theorem Log.Record.names_inj {record : Log.Record} {one other : String} (names : record.Names one)
    (too : record.Names other) : one = other := by
  have same := names.field.symm.trans too.field
  simpa using same

theorem names_told_cons_of_other {id : ErrorId} {fetch : FailedFetch State}
    (other : fetch.isOf id = false ∨ fetch.told = []) (earlier : List (FailedFetch State)) :
    namesTold id (fetch :: earlier) = namesTold id earlier := by
  unfold namesTold
  rcases other with distinct | silent
  · rw [List.filter_cons_of_neg (by simp [distinct])]
  · rw [List.filter_cons]
    split <;> simp [silent]

theorem names_told_cons {id : ErrorId} {fetch : FailedFetch State} (same : fetch.isOf id = true)
    {name : String} {record : Log.Record} (told : fetch.told = [(name, record)])
    (earlier : List (FailedFetch State)) :
    namesTold id (fetch :: earlier) = namesTold id earlier ++ [name] := by
  simp [namesTold, same, told]

/-- A shared error that was made without a name carries the first name that it was given. -/
theorem noted_is_first_name {behaviour : Behaviour State} {noted : List (ErrorId × String)}
    {fetches : List (FailedFetch State)} (accounted : Accounted behaviour noted fetches)
    {id : ErrorId} (unnamed : MadeUnnamed behaviour id fetches) :
    (noted.lookup id).getD "" = (firstName? (namesTold id fetches)).getD "" := by
  induction accounted with
  | none => rfl
  | @next noted later fetch earlier before last ih =>
      have known := ih fun other present => unnamed other (List.mem_cons_of_mem _ present)
      cases last with
      | untold other silent => rw [known, names_told_cons_of_other (.inr silent)]
      | foreign about due told names =>
          rw [known, names_told_cons_of_other (.inl (by simp [FailedFetch.isOf, about]))]
      | own about due told names =>
          rw [known, names_told_cons_of_other (.inl (by simp [FailedFetch.isOf, about]))]
      | @shared error raised name record about due told names stands =>
          by_cases same : raised = id
          · subst same
            obtain ⟨original, raises, carried⟩ := stands error raised about
            -- No node raises the error with a name, so the name that it carries was noted on it.
            rw [unnamed fetch List.mem_cons_self original raises, Option.or_none] at carried
            rw [names_told_cons (by simp [FailedFetch.isOf, about]) told, first_name_concat, ← known,
              ← carried, List.lookup_cons_self]
            rfl
          · have unmatched : (id == raised) = false := beq_false_of_ne (Ne.symm same)
            rw [List.lookup_cons, unmatched, lookup_filter_of_ne (Ne.symm same), known,
              names_told_cons_of_other (.inl (by simp [FailedFetch.isOf, about, same]))]

theorem put_down_of_accounted {behaviour : Behaviour State} {noted : List (ErrorId × String)}
    {later earlier : List (FailedFetch State)} {fetch : FailedFetch State}
    (accounted : Accounted behaviour noted (later ++ fetch :: earlier)) :
    ∃ before after, Accounted behaviour before earlier ∧ fetch.PutDown behaviour before after := by
  induction later generalizing noted with
  | nil =>
      cases accounted with
      | next before last => exact ⟨_, _, before, last⟩
  | cons latest rest ih =>
      cases accounted with
      | next before last => exact ih before

namespace Watch

/-- Over every run of a host, a failed fetch that is not passed on is told of once, for debugging. A
system error, a call that was broken off and an error that was made for the occasion are put down to
the node at hand. An error that several nodes raise is put down to the first of them that has a name,
and so to the node at hand if and only if no node of another name came before it. -/
theorem failed_fetch_is_put_down_to_first_node {behaviour : Behaviour State} {watch : Watch State}
    {annals : List (Moment State)} (ran : Ran behaviour watch annals)
    {later earlier : List (FailedFetch State)} {fetch : FailedFetch State}
    (split : failedFetches behaviour annals = later ++ fetch :: earlier) :
    (¬ fetch.failure.IsTold fetch.asked → fetch.told = []) ∧
      (fetch.failure.IsTold fetch.asked → ∃ name record, fetch.told = [(name, record)] ∧
        (∀ error, fetch.failure = .foreign error → record.Names name) ∧
        (∀ error, fetch.failure = .retention error none → error.context.nodeName = none →
          record.Names name) ∧
        (∀ error id, fetch.failure = .retention error (some id) →
          MadeUnnamed behaviour id (fetch :: earlier) →
            record.Names ((firstName? (namesTold id earlier ++ [name])).getD "") ∧
            (record.Names name ↔
              ∀ first, firstName? (namesTold id earlier) = some first → first = name))) := by
  have accounted := (tells_of_ran ran).accounted
  rw [split] at accounted
  obtain ⟨noted, noting, before, putDown⟩ := put_down_of_accounted accounted
  obtain ⟨node, state, failure, asked, told⟩ := fetch
  cases putDown with
  | untold other silent => exact ⟨fun _ => silent, fun due => absurd due other⟩
  | foreign about due told names =>
      obtain rfl : failure = _ := about
      exact ⟨fun other => absurd due other, fun _ => ⟨_, _, told, fun _ _ => names, nofun, nofun⟩⟩
  | own about due told names =>
      obtain rfl : failure = _ := about
      refine ⟨fun other => absurd due other, fun _ => ⟨_, _, told, nofun, ?_, nofun⟩⟩
      rintro error ⟨⟩ unnamed
      rwa [RetentionError.name_at_unnamed unnamed] at names
  | @shared error id name record about due told names stands =>
      obtain rfl : failure = _ := about
      refine ⟨fun other => absurd due other, fun _ => ⟨_, _, told, nofun, nofun, ?_⟩⟩
      rintro error id ⟨⟩ unnamed
      obtain ⟨original, raises, carried⟩ := stands error id rfl
      rw [unnamed _ List.mem_cons_self original raises, Option.or_none] at carried
      have first := noted_is_first_name before fun other present =>
        unnamed other (List.mem_cons_of_mem _ present)
      have shown : error.nameAt name = (firstName? (namesTold id earlier ++ [name])).getD "" := by
        rw [first_name_concat, ← first, ← carried]
        rfl
      rw [shown] at names
      refine ⟨names, ?_⟩
      rw [← first_name_concat_eq_iff]
      constructor
      · intro right
        exact Log.Record.names_inj names right
      · intro same
        rwa [same] at names

def downError (name : Option String) : Failure :=
  .retention (.factFetch "down" RetentionError.defaultReason { nodeName := name })
    (some (.shared "down"))

/-- Nodes that are told apart by their names alone. All raise one error, made without a name, when they
are asked for their uptime. -/
def sharedOutage : Behaviour String where
  name := id
  waits _ _ := none
  answer
    | name, .uptime => (name, .error (downError none))
    | name, .isProvisioned | name, .isIdle | name, .isOffline => (name, .ok true)
    | name, .running | name, .idle => (name, .ok .zero)
    | name, .teardown | name, .connect _ => (name, .ok ())
  breakOff name _ := (name, .error .cancelled)

theorem made_unnamed_sharedOutage (fetches : List (FailedFetch String)) :
    MadeUnnamed sharedOutage (.shared "down") fetches := by
  intro fetch _ error raises
  rcases raises with answered | brokenOff
  · cases answered
    rfl
  · cases brokenOff

def bothChecked : Watch String :=
  let opened : Watch String := { host := { world := { nodes := id } } }
  (opened.start sharedOutage Strategy.cautious .check (some "a") false 0).start
    sharedOutage Strategy.cautious .check (some "b") false 0

def downFetch (node : NodeId) (carried : Option String) (shown : String) : FailedFetch String where
  node := node
  state := node
  failure := downError carried
  told := [(node, Strategy.fetchRecord node
    (.factFetch "down" RetentionError.defaultReason { nodeName := some shown }))]

theorem ran_both_checked :
    ∃ annals, Ran sharedOutage bothChecked annals ∧ failedFetches sharedOutage annals =
      [downFetch "b" (some "a") "a", downFetch "a" none "a"] :=
  ⟨_, .started Strategy.cautious .check (some "b") false 0
      (.started Strategy.cautious .check (some "a") false 0 (.opened _)), rfl⟩

theorem first_node_is_named :
    ∃ annals record, Ran sharedOutage bothChecked annals ∧
      failedFetches sharedOutage annals =
        [downFetch "b" (some "a") "a"] ++ downFetch "a" none "a" :: [] ∧
      (downFetch "a" none "a").failure.IsTold false ∧
      MadeUnnamed sharedOutage (.shared "down") [downFetch "a" none "a"] ∧
      (downFetch "a" none "a").told = [("a", record)] ∧ record.Names "a" := by
  obtain ⟨annals, ran, split⟩ := ran_both_checked
  have due : (downFetch "a" none "a").failure.IsTold false := ⟨⟨_, rfl⟩, nofun⟩
  have unnamed := made_unnamed_sharedOutage [downFetch "a" none "a"]
  obtain ⟨-, put⟩ := @failed_fetch_is_put_down_to_first_node _ _ _ _ ran
    [downFetch "b" (some "a") "a"] [] (downFetch "a" none "a") split
  obtain ⟨name, record, told, -, -, shared⟩ := put due
  cases told
  have named := (shared _ _ rfl unnamed).2.mpr nofun
  exact ⟨annals, _, ran, split, due, unnamed, rfl, named⟩

/-- On the second node the fetch is put down to the first, though the error was made without a
name. -/
theorem second_node_is_put_down_to_first :
    ∃ annals record, Ran sharedOutage bothChecked annals ∧
      failedFetches sharedOutage annals =
        [downFetch "b" (some "a") "a", downFetch "a" none "a"] ∧
      MadeUnnamed sharedOutage (.shared "down") (failedFetches sharedOutage annals) ∧
      (downFetch "b" (some "a") "a").told = [("b", record)] ∧
      record.Names "a" ∧ ¬ record.Names "b" := by
  obtain ⟨annals, ran, account⟩ := ran_both_checked
  have named := Strategy.fetch_record_names "b"
    (.factFetch "down" RetentionError.defaultReason { nodeName := some "a" })
  refine ⟨annals, _, ran, account, made_unnamed_sharedOutage _, rfl, named, ?_⟩
  intro other
  exact absurd (Log.Record.names_inj named other) (by decide)

end Watch

end Teardown
