import Teardown.Proofs.Chronicle
import Teardown.Proofs.TeardownReport
import Teardown.Proofs.Usability

/-!
# Idleness at the time of a teardown

A node is asked once whether it is idle, before its uptime is fetched, and may be at work again when
the teardown is called. Only the idle condition notices that, and only if work restarts the idle
time of the node; with the billing condition alone a node is torn down at work.
-/

namespace Teardown

set_option autoImplicit false

variable {State : Type}

/-- What the node would reply at once if it was asked whether it is idle. -/
def World.idleness (behaviour : Behaviour State) (world : World State) (node : NodeId) :
    Except Failure Bool :=
  (world.answer behaviour node .isIdle).2

/-- A node at work reports no idle time of more than the minutes. -/
def Behaviour.RestartsIdleTime (behaviour : Behaviour State) (node : NodeId) (minutes : Nat) :
    Prop :=
  ∀ (world : World State) (duration : Duration), world.idleness behaviour node = .ok false →
    (world.answer behaviour node .idle).2 = .ok duration →
      duration.micros ≤ minutes * Duration.microsPerMinute

namespace Strategy

theorem before_teardown {strategy : Strategy} {node : Option NodeId} {course : List Exchange}
    {torn : NodeId} {next : (Request.call torn .teardown).Answer →
      Program (Except Failure Decision)}
    (followed : (strategy.evaluate node).run.Follows course (.ask (.call torn .teardown) next)) :
    node = some torn ∧ ∃ facts decision name, course = beforeTeardown torn facts decision name ∧
      decideRetention strategy.policy facts = .ok decision ∧ decision.kind = .terminate := by
  obtain ⟨rest, result, ended⟩ := (next (.ok ())).exists_follows_done
  have whole : (strategy.evaluate node).Ends (course ++ .reply torn .teardown (.ok ()) :: rest)
      result :=
    Program.follows_append followed (.further ended)
  cases node with
  | none =>
      have nothing := (evaluate_none_ends whole).1
      simp at nothing
  | some present =>
      rcases evaluation_course_quiet_or_carried_out (evaluate_present_course whole) with
        ⟨quiet, -⟩ | ⟨facts, decision, name, answer, decided, due, same, -⟩
      · cases (quiet (.reply torn .teardown (.ok ())) (by simp)).1
      · obtain ⟨rfl, -, rfl, -⟩ := course_split_at_teardown same
        exact ⟨rfl, facts, decision, name, rfl, decided, due⟩

def sinceFetch (node : NodeId) (facts : Facts) (decision : Decision) (name : String) :
    List Exchange :=
  [ .reply node .isOffline (.ok facts.isOffline), .reply node .running (.ok facts.running),
    .reply node .idle (.ok facts.idle), .reply node .isProvisioned (.ok true),
    ⟨.nodeName node, name⟩, ⟨.log (announcementRecord name decision), ()⟩ ]

theorem before_teardown_eq (node : NodeId) (facts : Facts) (decision : Decision)
    (name : String) :
    beforeTeardown node facts decision name =
      .reply node .isProvisioned (.ok true) :: .reply node .isIdle (.ok true) ::
        .reply node .uptime (.ok facts.uptime) :: sinceFetch node facts decision name := rfl

theorem idleness_unasked_since_fetch {node : NodeId} {facts : Facts} {decision : Decision}
    {name : String} {exchange : Exchange}
    (made : exchange ∈ sinceFetch node facts decision name) :
    exchange.call? ≠ some (node, .isIdle) := by
  simp only [sinceFetch, List.mem_cons, List.not_mem_nil, or_false] at made
  rcases made with rfl | rfl | rfl | rfl | rfl | rfl <;> simp [Exchange.call?, Exchange.reply]

/-- An evaluation that comes to a teardown has asked the node whether it was idle before it fetched
the uptime, was told so, and has not asked again. So a node can be at work then only if it was idle
at that moment. With the idle condition on, and if work restarts the idle time, it was even idle at
some moment after the fetch; a change during the fetch is then not missed. -/
theorem busy_node_was_idle_when_asked {behaviour : Behaviour State} {strategy : Strategy}
    {node : Option NodeId} {chronicle : List (Moment State)} {torn : NodeId}
    {next : (Request.call torn .teardown).Answer → Program (Except Failure Decision)}
    (chronicled : (strategy.evaluate node).run.Chronicles behaviour chronicle
      (.ask (.call torn .teardown) next)) :
    node = some torn ∧ ∃ present asked fetch later uptime,
      chronicle = present :: asked :: fetch :: later ∧
      asked.exchange = .reply torn .isIdle (.ok true) ∧
      fetch.exchange = .reply torn .uptime (.ok uptime) ∧
      (∀ moment ∈ fetch :: later, moment.exchange.call? ≠ some (torn, .isIdle)) ∧
      ∀ now : World State, now.idleness behaviour torn = .ok false →
        now.idleness behaviour torn ≠ asked.world.idleness behaviour torn ∧
        (0 < strategy.policy.idleMinutes →
          behaviour.RestartsIdleTime torn strategy.policy.idleMinutes →
            ∃ moment ∈ later,
              now.idleness behaviour torn ≠ moment.world.idleness behaviour torn) := by
  obtain ⟨rfl, facts, decision, name, course, decided, due⟩ := before_teardown chronicled.followed
  have faithful := chronicled.faithful
  rw [before_teardown_eq] at course
  obtain ⟨present, rest, rfl, -, course⟩ := List.map_eq_cons_iff.mp course
  obtain ⟨asked, rest, rfl, askedIdle, course⟩ := List.map_eq_cons_iff.mp course
  obtain ⟨fetch, later, rfl, fetched, course⟩ := List.map_eq_cons_iff.mp course
  have wasIdle : .ok true = asked.world.idleness behaviour torn :=
    faithful asked (by simp) torn .isIdle _ askedIdle rfl
  refine ⟨rfl, present, asked, fetch, later, facts.uptime, rfl, askedIdle, fetched, ?_, ?_⟩
  · intro moment since
    rcases List.mem_cons.mp since with rfl | since
    · rw [fetched]
      simp [Exchange.call?, Exchange.reply]
    · apply idleness_unasked_since_fetch
      rw [← course]
      exact List.mem_map_of_mem since
  · intro now busy
    rw [busy, ← wasIdle]
    constructor
    · simp
    · intro enabled restarts
      have reported : .reply torn .idle (.ok facts.idle) ∈ later.map (·.exchange) := by
        rw [course]
        simp [sinceFetch]
      obtain ⟨moment, since, replied⟩ := List.mem_map.mp reported
      refine ⟨moment, since, ?_⟩
      -- A node at work would have reported less than the facts that led to the teardown.
      intro same
      have idle := faithful moment (by simp [since]) torn .idle _ replied rfl
      have beyond := (idle_beyond_of_decided decided due enabled).1
      have restarted := restarts moment.world facts.idle same.symm idle.symm
      omega

end Strategy

namespace Watch

/-- Nodes shortly before a billing boundary, which keep the caller waiting for the time that they
have been up and for their teardown. -/
def billedNodes : Watch Script where
  host :=
    { world :=
        { nodes := fun id =>
            { Script.initial id with
              uptime := Strategy.lateIdleFacts.uptime
              gated := [.uptime, .teardown] } } }

def punctual : Strategy := ⟨⟨0, 5⟩, false, 0⟩

def fetching : Watch Script :=
  billedNodes.start Script.behaviour punctual .evaluate (some "a") false 0

def atWork : Watch Script :=
  fetching.setWorld (fetching.host.world.setNode "a"
    { fetching.host.world.nodes "a" with idle := false, idleFor := .zero })

def tearing : Watch Script := atWork.resume Script.behaviour 0

theorem tearing_reached : Reached Script.behaviour tearing :=
  .resumed 0 (.moved _ rfl (.started punctual .evaluate (some "a") false 0 (.opened _)))

theorem tearing_awaits : tearing.awaits 0 = [("a", .teardown)] := by
  decide +kernel

theorem idleness_of_tearing :
    tearing.host.world.idleness Script.behaviour "a" = .ok false :=
  ok_of_toOption (by decide +kernel)

theorem node_at_work_was_idle_when_asked :
    ∃ chronicle next, (punctual.evaluate (some "a")).run.Chronicles Script.behaviour chronicle
        (.ask (.call "a" .teardown) next) ∧
      ∃ asked ∈ chronicle, asked.exchange = .reply "a" .isIdle (.ok true) ∧
        tearing.host.world.idleness Script.behaviour "a" ≠
          asked.world.idleness Script.behaviour "a" := by
  have visited : tearing.visits[0]?.map (fun visit => (visit.strategy, visit.operation,
      visit.node)) = some (punctual, .evaluate, some "a") := by
    decide +kernel
  obtain ⟨visit, present, known⟩ := Option.map_eq_some_iff.mp visited
  obtain ⟨strategy, evaluates, node⟩ : visit.strategy = punctual ∧
      visit.operation = .evaluate ∧ visit.node = some "a" := by
    simpa using known
  obtain ⟨chronicle, next, -, chronicled⟩ :=
    chronicled_of_reached tearing_reached present evaluates tearing_awaits
  rw [strategy, node] at chronicled
  obtain ⟨-, present, asked, fetch, later, uptime, rfl, idle, -, -, since⟩ :=
    Strategy.busy_node_was_idle_when_asked chronicled
  exact ⟨_, next, chronicled, asked, by simp, idle, (since _ idleness_of_tearing).1⟩

/-- A node that is given work while its uptime is fetched is torn down at work. -/
theorem busy_node_is_torn_down :
    Reached Script.behaviour tearing ∧ fetching.awaits 0 = [("a", .uptime)] ∧
      fetching.host.world.idleness Script.behaviour "a" = .ok true ∧
      tearing.awaits 0 = [("a", .teardown)] ∧
      tearing.host.world.idleness Script.behaviour "a" = .ok false := by
  refine ⟨tearing_reached, by decide +kernel, ?_, tearing_awaits, idleness_of_tearing⟩
  exact ok_of_toOption (by decide +kernel)

end Watch

end Teardown
