import Teardown.Session
import Teardown.Proofs.Exclusion

/-!
# Fleets of strategies

A session that builds strategies, in whatever way, and runs their visits. Every strategy that is
built has a guard that no other one has and that nobody holds yet.
-/

namespace Teardown

set_option autoImplicit false

variable {State : Type}

namespace Session

/-- Nothing has changed between two sessions but what was logged, the deployment and the number of
guards. -/
structure OnlyBuilt (session next : Session State) : Prop where
  host : next.host = { session.host with world := next.host.world }
  nodes : next.host.world.nodes = session.host.world.nodes
  held : next.host.world.held = session.host.world.held
  strategies : next.strategies = session.strategies

theorem only_built_logWarnings (session : Session State)
    (warnings : List Policy.MalformedMinutes) :
    session.OnlyBuilt (session.logWarnings warnings) := by
  induction warnings generalizing session with
  | nil => exact ⟨rfl, rfl, rfl, rfl⟩
  | cons warning warnings ih =>
      have later := ih (session.logWarnings [warning])
      exact ⟨later.host, later.nodes, later.held, later.strategies⟩

def TookGuard (session next : Session State) : Except Failure Strategy → Prop
  | .ok strategy => strategy.guard = session.guards ∧ next.guards = session.guards + 1
  | .error _ => next.guards = session.guards

theorem strategyFrom_builds (session : Session State) (given : Option Settings)
    (parsed : Policy × List Policy.MalformedMinutes) :
    session.OnlyBuilt (session.strategyFrom given parsed).1 ∧
      session.TookGuard (session.strategyFrom given parsed).1
        (session.strategyFrom given parsed).2 := by
  have warned := only_built_logWarnings session parsed.2
  have built : ∀ deployment guards, session.OnlyBuilt
      { session.logWarnings parsed.2 with deployment := deployment, guards := guards } :=
    fun _ _ => ⟨warned.host, warned.nodes, warned.held, warned.strategies⟩
  cases given with
  | some settings => exact ⟨built _ _, rfl, rfl⟩
  | none =>
      simp only [strategyFrom]
      generalize (session.logWarnings parsed.2).deployment.settings = reading
      obtain ⟨deployment, settings⟩ := reading
      cases settings with
      | error failure => exact ⟨built _ _, rfl⟩
      | ok settings => exact ⟨built _ _, rfl, rfl⟩

/-- Whatever a strategy is built from: nothing that runs is touched, and it gets a guard of its
own. -/
theorem construct_builds (session : Session State) (source : Source) :
    session.OnlyBuilt (session.construct source).1 ∧
      session.TookGuard (session.construct source).1 (session.construct source).2 := by
  unfold construct
  cases session.read source with
  | error failure => exact ⟨⟨rfl, rfl, rfl, rfl⟩, rfl⟩
  | ok reading =>
      cases reading with
      | complete policy disabled => exact ⟨⟨rfl, rfl, rfl, rfl⟩, rfl, rfl⟩
      | parsed settings parsed => exact strategyFrom_builds session settings parsed

theorem construct_copy {session next : Session State} {id : String} {strategy : Strategy}
    (made : session.construct (.copy id) = (next, .ok strategy)) :
    ∃ original, session.strategy? id = .ok original ∧ strategy.policy = original.policy ∧
      strategy.evaluationDisabled = original.evaluationDisabled := by
  cases found : session.strategy? id with
  | error failure =>
      simp [construct, read, found, bind, Except.bind] at made
  | ok original =>
      simp [construct, read, found, bind, Except.bind, pure, Except.pure, strategyOf] at made
      obtain ⟨-, rfl⟩ := made
      exact ⟨original, rfl, rfl, rfl⟩

end Session

theorem Visit.extend_nil (visit : Visit) : visit.extend [] = visit := by
  rw [Visit.extend, List.append_nil]

namespace Watch

theorem visits_unchanged (visits : List Visit) (task : TaskId) :
    visits = visits.modify task (·.extend []) := by
  have same : (fun visit : Visit => visit.extend []) = id := funext Visit.extend_nil
  rw [same, List.modify_id]

theorem visits_resume (behaviour : Behaviour State) (watch : Watch State) (task : TaskId) :
    ∃ later, (watch.resume behaviour task).visits = watch.visits.modify task (·.extend later) := by
  unfold resume
  split
  · exact ⟨_, rfl⟩
  · exact ⟨[], visits_unchanged watch.visits task⟩

theorem visits_cancel (behaviour : Behaviour State) (watch : Watch State) (task : TaskId) :
    ∃ later, (watch.cancel behaviour task).visits = watch.visits.modify task (·.extend later) := by
  unfold cancel
  split
  · exact ⟨_, rfl⟩
  · exact ⟨[], visits_unchanged watch.visits task⟩

end Watch

/-- A session together with all strategies that it has built, in order, and with the visits of its
tasks. -/
structure Fleet (State : Type) where
  session : Session State
  built : List Strategy := []
  visits : List Visit := []

namespace Fleet

def watch (fleet : Fleet State) : Watch State where
  host := fleet.session.host
  visits := fleet.visits

def setWatch (fleet : Fleet State) (watch : Watch State) : Fleet State :=
  { fleet with
    session := { fleet.session with host := watch.host }
    visits := watch.visits }

def build (fleet : Fleet State) (id : String) (source : Source) : Fleet State :=
  match fleet.session.build id source with
  | (session, .ok strategy) => { fleet with session := session, built := fleet.built ++ [strategy] }
  | (session, .error _) => { fleet with session := session }

def redeploy (fleet : Fleet State) (deployment : Deployment) : Fleet State :=
  { fleet with session := { fleet.session with deployment := deployment } }

/-- The fleets that come from an empty session. Strategies are built at any moment, and each visits
the nodes that it may visit; the rest is as for any host. -/
inductive Reached (behaviour : Behaviour State) (mayVisit : Nat → NodeId → Prop) :
    Fleet State → Prop where
  | opened (deployment : Deployment) (nodes : NodeId → State) :
      Reached behaviour mayVisit
        { session := { deployment := deployment, host := { world := { nodes := nodes } } } }
  | built {fleet : Fleet State} (id : String) (source : Source)
      (reached : Reached behaviour mayVisit fleet) :
      Reached behaviour mayVisit (fleet.build id source)
  | redeployed {fleet : Fleet State} (deployment : Deployment)
      (reached : Reached behaviour mayVisit fleet) :
      Reached behaviour mayVisit (fleet.redeploy deployment)
  | started {fleet : Fleet State} {index : Nat} {strategy : Strategy}
      (known : fleet.built[index]? = some strategy) (operation : Operation)
      {node : Option NodeId} (allowed : ∀ present, node = some present → mayVisit index present)
      (threaded : Bool) (cancelRequests : Nat) (reached : Reached behaviour mayVisit fleet) :
      Reached behaviour mayVisit (fleet.setWatch
        (fleet.watch.start behaviour strategy operation node threaded cancelRequests))
  | resumed {fleet : Fleet State} (task : TaskId) (reached : Reached behaviour mayVisit fleet) :
      Reached behaviour mayVisit (fleet.setWatch (fleet.watch.resume behaviour task))
  | cancelled {fleet : Fleet State} (task : TaskId)
      (reached : Reached behaviour mayVisit fleet) :
      Reached behaviour mayVisit (fleet.setWatch (fleet.watch.cancel behaviour task))
  | askedToStop {fleet : Fleet State} (task : TaskId) (cancelRequests : Nat)
      (reached : Reached behaviour mayVisit fleet) :
      Reached behaviour mayVisit
        (fleet.setWatch (fleet.watch.setCancelRequests task cancelRequests))
  | moved {fleet : Fleet State} (world : World State)
      (same : world.held = fleet.watch.host.world.held)
      (reached : Reached behaviour mayVisit fleet) :
      Reached behaviour mayVisit (fleet.setWatch (fleet.watch.setWorld world))

/-- Every strategy has a guard of its own, older than the next one, every name stands for a strategy
that was built, and every visit is made by one that was, to a node that it may visit. -/
structure Sound (mayVisit : Nat → NodeId → Prop) (fleet : Fleet State) : Prop where
  older : ∀ strategy ∈ fleet.built, strategy.guard < fleet.session.guards
  distinct : (fleet.built.map (·.guard)).Nodup
  named : ∀ entry ∈ fleet.session.strategies, entry.2 ∈ fleet.built
  owned : ∀ visit ∈ fleet.visits, ∃ index, fleet.built[index]? = some visit.strategy ∧
    ∀ present, visit.node = some present → mayVisit index present

variable {behaviour : Behaviour State} {mayVisit : Nat → NodeId → Prop} {fleet : Fleet State}

/-- What building does to a fleet: it gets a strategy with the next guard, or none; its tasks, its
nodes and the guards that are held stay. -/
theorem build_cases (fleet : Fleet State) (id : String) (source : Source) :
    let next := fleet.build id source
    (∃ world, next.watch = fleet.watch.setWorld world ∧ world.held = fleet.watch.host.world.held ∧
        world.nodes = fleet.watch.host.world.nodes) ∧
      ((next.built = fleet.built ∧ next.session.guards = fleet.session.guards ∧
          next.session.strategies = fleet.session.strategies) ∨
        ∃ strategy, next.built = fleet.built ++ [strategy] ∧
          strategy.guard = fleet.session.guards ∧
          next.session.guards = fleet.session.guards + 1 ∧
          next.session.strategies =
            (id, strategy) :: fleet.session.strategies.filter fun entry => entry.1 != id) := by
  intro next
  obtain ⟨kept, took⟩ := Session.construct_builds fleet.session source
  have worlds : (Watch.mk (fleet.session.construct source).1.host fleet.visits) =
      fleet.watch.setWorld (fleet.session.construct source).1.host.world := by
    rw [Watch.setWorld, watch, ← kept.host]
  have same : next = fleet.build id source := rfl
  unfold build Session.build at same
  generalize fleet.session.construct source = made at kept took worlds same
  obtain ⟨session, result⟩ := made
  cases result with
  | error failure =>
      rw [same]
      exact ⟨⟨_, worlds, kept.held, kept.nodes⟩, .inl ⟨rfl, took, kept.strategies⟩⟩
  | ok strategy =>
      rw [same]
      refine ⟨⟨_, worlds, kept.held, kept.nodes⟩, .inr ⟨strategy, rfl, took.1, took.2, ?_⟩⟩
      exact congrArg (fun known => (id, strategy) :: known.filter fun entry => entry.1 != id)
        kept.strategies

theorem watch_reached (reached : Reached behaviour mayVisit fleet) :
    Watch.Reached behaviour fleet.watch := by
  induction reached with
  | opened deployment nodes => exact .opened nodes
  | @built fleet id source _ ih =>
      obtain ⟨⟨world, same, held, -⟩, -⟩ := build_cases fleet id source
      rw [same]
      exact .moved world held ih
  | redeployed deployment _ ih => exact ih
  | started _ operation _ threaded cancelRequests _ ih =>
      exact .started _ operation _ threaded cancelRequests ih
  | resumed task _ ih => exact .resumed task ih
  | cancelled task _ ih => exact .cancelled task ih
  | askedToStop task cancelRequests _ ih => exact .askedToStop task cancelRequests ih
  | moved world same _ ih => exact .moved world same ih

theorem sound_setWatch (sound : Sound mayVisit fleet) {watch : Watch State}
    (owned : ∀ visit ∈ watch.visits, ∃ index, fleet.built[index]? = some visit.strategy ∧
      ∀ present, visit.node = some present → mayVisit index present) :
    Sound mayVisit (fleet.setWatch watch) where
  older := sound.older
  distinct := sound.distinct
  named := sound.named
  owned := owned

theorem owned_modify (sound : Sound mayVisit fleet) {visits : List Visit} {task : TaskId}
    {later : List Exchange} (same : visits = fleet.visits.modify task (·.extend later)) :
    ∀ visit ∈ visits, ∃ index, fleet.built[index]? = some visit.strategy ∧
      ∀ present, visit.node = some present → mayVisit index present := by
  subst same
  intro visit present
  obtain ⟨place, atPlace⟩ := List.mem_iff_getElem?.mp present
  rw [List.getElem?_modify] at atPlace
  obtain ⟨former, inFleet, rfl⟩ := Option.map_eq_some_iff.mp atPlace
  have owned := sound.owned former (List.mem_of_getElem? inFleet)
  split
  · exact owned
  · exact owned

theorem sound_build (sound : Sound mayVisit fleet) (id : String) (source : Source) :
    Sound mayVisit (fleet.build id source) := by
  obtain ⟨⟨world, same, -, -⟩, outcome⟩ := build_cases fleet id source
  have visits : (fleet.build id source).visits = fleet.visits := congrArg (·.visits) same
  rcases outcome with ⟨built, guards, strategies⟩ | ⟨strategy, built, guard, guards, strategies⟩
  · constructor
    · rw [built, guards]
      exact sound.older
    · rw [built]
      exact sound.distinct
    · rw [built, strategies]
      exact sound.named
    · rw [built, visits]
      exact sound.owned
  · constructor
    · intro known present
      rw [guards]
      rw [built, List.mem_append, List.mem_singleton] at present
      rcases present with former | rfl
      · exact Nat.lt_succ_of_lt (sound.older known former)
      · rw [guard]
        exact Nat.lt_succ_self _
    · rw [built, List.map_append]
      apply List.nodup_append.mpr
      refine ⟨sound.distinct, by simp, ?_⟩
      intro taken present new last
      obtain ⟨known, former, rfl⟩ := List.mem_map.mp present
      rw [List.map_singleton, List.mem_singleton] at last
      rw [last, guard]
      exact Nat.ne_of_lt (sound.older known former)
    · intro entry present
      rw [strategies, List.mem_cons] at present
      rw [built]
      rcases present with rfl | kept
      · exact List.mem_append_right _ (List.mem_singleton_self _)
      · exact List.mem_append_left _ (sound.named entry (List.mem_filter.mp kept).1)
    · intro visit present
      rw [visits] at present
      obtain ⟨index, known, allowed⟩ := sound.owned visit present
      refine ⟨index, ?_, allowed⟩
      have inside := (List.getElem?_eq_some_iff.mp known).1
      rw [built, List.getElem?_append_left inside]
      exact known

theorem sound_of_reached (reached : Reached behaviour mayVisit fleet) :
    Sound mayVisit fleet := by
  induction reached with
  | opened deployment nodes =>
      constructor
      · simp
      · simp
      · simp
      · simp
  | built id source _ sound => exact sound_build sound id source
  | redeployed deployment _ sound => exact ⟨sound.older, sound.distinct, sound.named, sound.owned⟩
  | started known operation allowed threaded cancelRequests _ sound =>
      apply sound_setWatch sound
      intro visit present
      rcases List.mem_append.mp present with former | last
      · exact sound.owned visit former
      · obtain rfl := List.mem_singleton.mp last
        exact ⟨_, known, allowed⟩
  | @resumed fleet task _ sound =>
      obtain ⟨later, same⟩ := Watch.visits_resume behaviour fleet.watch task
      exact sound_setWatch sound (owned_modify sound same)
  | @cancelled fleet task _ sound =>
      obtain ⟨later, same⟩ := Watch.visits_cancel behaviour fleet.watch task
      exact sound_setWatch sound (owned_modify sound same)
  | askedToStop task cancelRequests _ sound => exact sound_setWatch sound sound.owned
  | moved world same _ sound => exact sound_setWatch sound sound.owned

theorem held_older (reached : Reached behaviour mayVisit fleet) {guard : GuardId}
    (held : guard ∈ fleet.session.host.world.held) : guard < fleet.session.guards := by
  have sound := sound_of_reached reached
  have ordered := Watch.ordered_of_reached (watch_reached reached)
  obtain ⟨task, visit, known, present, -, ⟨-, uses⟩, -⟩ :=
    (Watch.held_iff_in_flight ordered guard).mp held
  obtain ⟨index, built, -⟩ := sound.owned visit (List.mem_of_getElem? present)
  rw [← uses]
  exact sound.older visit.strategy (List.mem_of_getElem? built)

/-- Whatever a strategy is built from, and whichever guards are held meanwhile: its guard is free
and belongs to no other strategy, the guards of the others stay as they are, and so does all that
runs. A copy keeps the policy and whether evaluations are disabled. -/
theorem construct_isolates (reached : Reached behaviour mayVisit fleet) {source : Source}
    {next : Session State} {strategy : Strategy}
    (made : fleet.session.construct source = (next, .ok strategy)) :
    strategy.guard ∉ next.host.world.held ∧
      next.host.world.held = fleet.session.host.world.held ∧
      next.host.tasks = fleet.session.host.tasks ∧
      (∀ other ∈ fleet.built, other.guard ≠ strategy.guard) ∧
      (∀ entry ∈ fleet.session.strategies, entry.2.guard ≠ strategy.guard) ∧
      ∀ id, source = .copy id → ∃ original, fleet.session.strategy? id = .ok original ∧
        strategy.policy = original.policy ∧
        strategy.evaluationDisabled = original.evaluationDisabled := by
  have sound := sound_of_reached reached
  obtain ⟨kept, took⟩ := Session.construct_builds fleet.session source
  rw [made] at kept took
  have others : ∀ other ∈ fleet.built, other.guard ≠ strategy.guard := by
    intro other present
    rw [took.1]
    exact Nat.ne_of_lt (sound.older other present)
  refine ⟨?_, kept.held, congrArg (·.tasks) kept.host, others, ?_, ?_⟩
  · intro held
    rw [kept.held] at held
    have older := held_older reached held
    rw [took.1] at older
    exact Nat.lt_irrefl _ older
  · exact fun entry present => others entry.2 (sound.named entry present)
  · intro id same
    subst same
    exact Session.construct_copy made

end Fleet

end Teardown
