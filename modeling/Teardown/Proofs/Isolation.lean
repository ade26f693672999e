import Teardown.Proofs.Alike
import Teardown.Proofs.Fleet
import Teardown.Proofs.Placement

/-!
# Strategies do not affect each other

A fleet and one of its strategies by itself, side by side. When no two strategies visit the same
node, the strategy's visits come to the same as they would if it were alone: the same calls, the
same ends, and the same state of its guard, whatever the others do and whichever errors the nodes
share.
-/

namespace Teardown

set_option autoImplicit false

variable {State : Type}

/-- Both tasks wait for the same call, or have ended in the same. -/
def Task.Matches (mine : NodeId → Prop) (guard : GuardId)
    (one other : Task (Except Failure CallResult)) : Prop :=
  one.cancelRequests = other.cancelRequests ∧
    one.progress.remaining.Alike mine guard SameOutcome other.progress.remaining

/-- Both have ended in the same, or both wait for the same call. -/
inductive Progress.Same {Result : Type} :
    Progress (Except Failure Result) → Progress (Except Failure Result) → Prop where
  | finished {result resultOther : Except Failure Result}
      (outcomes : SameOutcome result resultOther) :
      Same (.finished result) (.finished resultOther)
  | waiting (node : NodeId) (method : NodeCall) (ticket ticketOther : Nat)
      (next nextOther : Except Failure method.Answer → Program (Except Failure Result)) :
      Same (.waiting node method ticket next) (.waiting node method ticketOther nextOther)

theorem Task.matches_cases {mine : NodeId → Prop} {guard : GuardId}
    {one other : Task (Except Failure CallResult)} (same : one.Matches mine guard other) :
    (∃ requests result resultOther, one = ⟨requests, .finished result⟩ ∧
        other = ⟨requests, .finished resultOther⟩ ∧ SameOutcome result resultOther) ∨
      ∃ requests node method ticket ticketOther next nextOther,
        one = ⟨requests, .waiting node method ticket next⟩ ∧
        other = ⟨requests, .waiting node method ticketOther nextOther⟩ ∧ mine node ∧
        ∀ reply replyOther, SameOutcome reply replyOther →
          (next reply).Alike mine guard SameOutcome (nextOther replyOther) := by
  obtain ⟨requests, progress⟩ := one
  obtain ⟨requestsOther, progressOther⟩ := other
  obtain ⟨rfl, alike⟩ := same
  cases progress with
  | finished result =>
      cases progressOther with
      | finished resultOther =>
          cases alike with
          | done outcomes => exact .inl ⟨_, _, _, rfl, rfl, outcomes⟩
      | waiting _ _ _ _ => cases alike
  | waiting node method ticket next =>
      cases progressOther with
      | finished _ => cases alike
      | waiting _ _ ticketOther nextOther =>
          obtain ⟨inside, _, equal, later⟩ := Program.alike_waiting alike
          cases equal
          exact .inr ⟨_, node, method, ticket, ticketOther, next, _, rfl, rfl, inside, later⟩

theorem Task.same_of_matches {mine : NodeId → Prop} {guard : GuardId}
    {one other : Task (Except Failure CallResult)} (same : one.Matches mine guard other) :
    one.progress.Same other.progress := by
  rcases matches_cases same with
    ⟨_, _, _, rfl, rfl, outcomes⟩ | ⟨_, node, method, ticket, ticketOther, _, _, rfl, rfl, -, -⟩
  · exact .finished outcomes
  · exact .waiting node method ticket ticketOther _ _

structure Visit.Matches (one other : Visit) : Prop where
  operation : one.operation = other.operation
  node : one.node = other.node
  calls : answeredCalls one.course = answeredCalls other.course

theorem Visit.matches_extend {one other : Visit} (same : one.Matches other)
    {later laterOther : List Exchange} (calls : answeredCalls later = answeredCalls laterOther) :
    (one.extend later).Matches (other.extend laterOther) where
  operation := same.operation
  node := same.node
  calls := by
    rw [extend, extend, answered_calls_append, answered_calls_append, same.calls, calls]

namespace Watch

/-- The tasks of a strategy that is alone match those at their places in the other host, no other
visit there uses its guard, and both worlds agree on what concerns it. -/
structure Matched (mine : NodeId → Prop) (guard : GuardId) (alone whole : Watch State)
    (places : List TaskId) : Prop where
  world : World.Agrees mine guard alone.host.world whole.host.world
  counted : places.length = alone.host.tasks.length
  distinct : places.Nodup
  tasks : Placed (Task.Matches mine guard) places alone.host.tasks whole.host.tasks
  visits : Placed Visit.Matches places alone.visits whole.visits
  others : ∀ (place : TaskId) (visit : Visit), place ∉ places →
    whole.visits[place]? = some visit → visit.strategy.guard ≠ guard

section Steps

variable {behaviour : Behaviour State} {mine : NodeId → Prop} {guard : GuardId}
  {alone whole : Watch State} {places : List TaskId}

theorem matched_setWorld (matched : Matched mine guard alone whole places)
    {aloneWorld wholeWorld : World State} (agrees : World.Agrees mine guard aloneWorld wholeWorld) :
    Matched mine guard (alone.setWorld aloneWorld) (whole.setWorld wholeWorld) places where
  world := agrees
  counted := matched.counted
  distinct := matched.distinct
  tasks := matched.tasks
  visits := matched.visits
  others := matched.others

theorem matched_start (matched : Matched mine guard alone whole places)
    (aloneOrdered : alone.Ordered) (wholeOrdered : whole.Ordered) {own : Strategy}
    (same : own.guard = guard) (operation : Operation) {node : Option NodeId}
    (inside : ∀ present, node = some present → mine present) (threaded : Bool)
    (cancelRequests : Nat) :
    Matched mine guard (alone.start behaviour own operation node threaded cancelRequests)
      (whole.start behaviour own operation node threaded cancelRequests)
      (places ++ [whole.host.tasks.length]) := by
  subst same
  let turn : World.Turn := { threaded := threaded, cancelRequested := 0 < cancelRequests }
  obtain ⟨world, rest, calls⟩ := World.run_alike behaviour turn
    (Operation.attempt_alike operation own inside) matched.world
  constructor
  · exact world
  · change _ = (alone.host.tasks ++ [_]).length
    rw [List.length_append, List.length_append, matched.counted]
    rfl
  · exact places_nodup_concat matched.tasks matched.distinct
  · exact placed_concat matched.tasks matched.counted ⟨rfl, rest⟩
  · rw [← wholeOrdered.aligned]
    exact placed_concat matched.visits (matched.counted.trans aloneOrdered.aligned.symm)
      ⟨rfl, rfl, calls⟩
  · intro place visit new present
    rw [List.mem_append, List.mem_singleton, not_or, ← wholeOrdered.aligned] at new
    exact matched.others place visit new.1 (getElem?_of_concat new.2 present)

theorem matched_advance (matched : Matched mine guard alone whole places) {task place : TaskId}
    (chosen : places[task]? = some place) (cancelRequests : Nat) {node : NodeId}
    {method : NodeCall} {reply replyWhole : World State × Except Failure method.Answer}
    (agrees : World.Agrees mine guard reply.1 replyWhole.1)
    {next nextWhole : Except Failure method.Answer → Program (Except Failure CallResult)}
    (alike : (next reply.2).Alike mine guard SameOutcome (nextWhole replyWhole.2)) :
    Matched mine guard (alone.advance behaviour task cancelRequests node method reply next)
      (whole.advance behaviour place cancelRequests node method replyWhole nextWhole) places := by
  let turn : World.Turn := { cancelRequested := 0 < cancelRequests }
  obtain ⟨world, rest, calls⟩ := World.run_alike behaviour turn alike agrees
  constructor
  · exact world
  · exact matched.counted.trans List.length_set.symm
  · exact matched.distinct
  · exact placed_set matched.tasks matched.distinct chosen ⟨rfl, rest⟩
  · exact placed_modify matched.visits matched.distinct chosen fun _ _ same =>
      Visit.matches_extend same (congrArg ((node, method) :: ·) calls)
  · intro other visit new present
    exact matched.others other visit new
      ((List.getElem?_modify_ne _ whole.visits (ne_of_not_mem chosen new)).symm.trans present)

theorem matched_resume (matched : Matched mine guard alone whole places) {task place : TaskId}
    (chosen : places[task]? = some place) :
    Matched mine guard (alone.resume behaviour task) (whole.resume behaviour place) places := by
  obtain ⟨one, other, inAlone, inWhole, same⟩ := matched.tasks task place chosen
  unfold resume
  rw [inAlone, inWhole]
  rcases Task.matches_cases same with
    ⟨requests, _, _, rfl, rfl, -⟩ |
    ⟨requests, node, method, _, _, next, nextOther, rfl, rfl, inside, later⟩
  · exact matched
  · obtain ⟨agrees, replies⟩ := World.agrees_answer matched.world behaviour inside method
    exact matched_advance matched chosen requests agrees (later _ _ replies)

theorem matched_cancel (matched : Matched mine guard alone whole places) {task place : TaskId}
    (chosen : places[task]? = some place) :
    Matched mine guard (alone.cancel behaviour task) (whole.cancel behaviour place) places := by
  obtain ⟨one, other, inAlone, inWhole, same⟩ := matched.tasks task place chosen
  unfold cancel
  rw [inAlone, inWhole]
  rcases Task.matches_cases same with
    ⟨requests, _, _, rfl, rfl, -⟩ |
    ⟨requests, node, method, _, _, next, nextOther, rfl, rfl, inside, later⟩
  · exact matched
  · obtain ⟨agrees, replies⟩ := World.agrees_breakOff matched.world behaviour inside method
    exact matched_advance matched chosen (requests + 1) agrees (later _ _ replies)

theorem matched_setCancelRequests (matched : Matched mine guard alone whole places)
    {task place : TaskId} (chosen : places[task]? = some place) (cancelRequests : Nat) :
    Matched mine guard (alone.setCancelRequests task cancelRequests)
      (whole.setCancelRequests place cancelRequests) places where
  world := matched.world
  counted := matched.counted.trans (List.length_modify _ _ _).symm
  distinct := matched.distinct
  tasks := placed_modify matched.tasks matched.distinct chosen fun _ _ same => ⟨rfl, same.2⟩
  visits := matched.visits
  others := matched.others

theorem matched_otherStart (matched : Matched mine guard alone whole places)
    {strategy : Strategy} (other : strategy.guard ≠ guard)
    (operation : Operation) {node : Option NodeId}
    (apart : (operation.attempt strategy node).run.LeavesAlone mine guard) (threaded : Bool)
    (cancelRequests : Nat) :
    Matched mine guard alone
      (whole.start behaviour strategy operation node threaded cancelRequests) places where
  world := World.run_leaves_alone behaviour _ apart matched.world
  counted := matched.counted
  distinct := matched.distinct
  tasks := placed_append matched.tasks _
  visits := placed_append matched.visits _
  others := by
    intro place visit outside present
    rcases getElem?_concat_cases rfl present present with ⟨former, -⟩ | ⟨rfl, -⟩
    · exact matched.others place visit outside former
    · exact other

/-- Another task's turn in the other host changes nothing that the strategy depends on. -/
theorem matched_otherAdvance (matched : Matched mine guard alone whole places) {place : TaskId}
    (outside : place ∉ places) (cancelRequests : Nat) {node : NodeId} {method : NodeCall}
    {reply : World State × Except Failure method.Answer}
    (agrees : World.Agrees mine guard alone.host.world reply.1)
    {next : Except Failure method.Answer → Program (Except Failure CallResult)}
    (apart : (next reply.2).LeavesAlone mine guard) :
    Matched mine guard alone
      (whole.advance behaviour place cancelRequests node method reply next) places where
  world := World.run_leaves_alone behaviour _ apart agrees
  counted := matched.counted
  distinct := matched.distinct
  tasks := placed_elsewhere matched.tasks outside fun _ other => List.getElem?_set_ne other
  visits := placed_elsewhere matched.visits outside fun _ other => List.getElem?_modify_ne _ _ other
  others := by
    intro shown visit new present
    rw [show (whole.advance behaviour place cancelRequests node method reply next).visits =
      whole.visits.modify place _ from rfl, List.getElem?_modify] at present
    obtain ⟨former, inWhole, rfl⟩ := Option.map_eq_some_iff.mp present
    have kept := matched.others shown former new inWhole
    split
    · exact kept
    · exact kept

theorem matched_otherResume (matched : Matched mine guard alone whole places) {place : TaskId}
    (outside : place ∉ places) (apart : ∀ known, whole.host.tasks[place]? = some known →
      known.progress.remaining.LeavesAlone mine guard) :
    Matched mine guard alone (whole.resume behaviour place) places := by
  unfold resume
  split
  · next found =>
      obtain ⟨elsewhere, later⟩ := Program.leaves_alone_of_waiting (apart _ found)
      exact matched_otherAdvance matched outside _
        (World.settle_keeps_others matched.world elsewhere _) (later _)
  · exact matched

theorem matched_otherCancel (matched : Matched mine guard alone whole places) {place : TaskId}
    (outside : place ∉ places) (apart : ∀ known, whole.host.tasks[place]? = some known →
      known.progress.remaining.LeavesAlone mine guard) :
    Matched mine guard alone (whole.cancel behaviour place) places := by
  unfold cancel
  split
  · next found =>
      obtain ⟨elsewhere, later⟩ := Program.leaves_alone_of_waiting (apart _ found)
      exact matched_otherAdvance matched outside _
        (World.settle_keeps_others matched.world elsewhere _) (later _)
  · exact matched

theorem matched_otherSetCancelRequests (matched : Matched mine guard alone whole places)
    {place : TaskId} (outside : place ∉ places) (cancelRequests : Nat) :
    Matched mine guard alone (whole.setCancelRequests place cancelRequests) places where
  world := matched.world
  counted := matched.counted
  distinct := matched.distinct
  tasks := placed_elsewhere matched.tasks outside fun _ other => List.getElem?_modify_ne _ _ other
  visits := matched.visits
  others := matched.others

end Steps

end Watch

namespace Fleet

/-- One strategy alone, a fleet that it belongs to, and the places of its tasks among those of the
fleet. The strategy is alone from when it is built. All that happens to its tasks happens on both
sides; of what else happens in the fleet it has no part, but that its nodes move the same. -/
inductive Beside (behaviour : Behaviour State) (mayVisit : Nat → NodeId → Prop) (owner : Nat)
    (own : Strategy) : Watch State → Fleet State → List TaskId → Prop where
  | born {fleet : Fleet State} (id : String) (source : Source)
      (reached : Reached behaviour mayVisit fleet) (new : fleet.built.length = owner)
      (made : (fleet.build id source).built = fleet.built ++ [own]) {nodes : NodeId → State}
      (same : ∀ node, mayVisit owner node → nodes node = fleet.watch.host.world.nodes node) :
      Beside behaviour mayVisit owner own { host := { world := { nodes := nodes } } }
        (fleet.build id source) []
  | built {alone : Watch State} {fleet : Fleet State} {places : List TaskId} (id : String)
      (source : Source) (before : Beside behaviour mayVisit owner own alone fleet places) :
      Beside behaviour mayVisit owner own alone (fleet.build id source) places
  | redeployed {alone : Watch State} {fleet : Fleet State} {places : List TaskId}
      (deployment : Deployment) (before : Beside behaviour mayVisit owner own alone fleet places) :
      Beside behaviour mayVisit owner own alone (fleet.redeploy deployment) places
  | moved {alone : Watch State} {fleet : Fleet State} {places : List TaskId}
      (aloneWorld world : World State) (aloneHeld : aloneWorld.held = alone.host.world.held)
      (held : world.held = fleet.watch.host.world.held)
      (same : ∀ node, mayVisit owner node → aloneWorld.nodes node = world.nodes node)
      (before : Beside behaviour mayVisit owner own alone fleet places) :
      Beside behaviour mayVisit owner own (alone.setWorld aloneWorld)
        (fleet.setWatch (fleet.watch.setWorld world)) places
  | started {alone : Watch State} {fleet : Fleet State} {places : List TaskId}
      (operation : Operation) {node : Option NodeId}
      (allowed : ∀ present, node = some present → mayVisit owner present) (threaded : Bool)
      (cancelRequests : Nat) (before : Beside behaviour mayVisit owner own alone fleet places) :
      Beside behaviour mayVisit owner own
        (alone.start behaviour own operation node threaded cancelRequests)
        (fleet.setWatch (fleet.watch.start behaviour own operation node threaded cancelRequests))
        (places ++ [fleet.watch.host.tasks.length])
  | resumed {alone : Watch State} {fleet : Fleet State} {places : List TaskId}
      {task place : TaskId} (chosen : places[task]? = some place)
      (before : Beside behaviour mayVisit owner own alone fleet places) :
      Beside behaviour mayVisit owner own (alone.resume behaviour task)
        (fleet.setWatch (fleet.watch.resume behaviour place)) places
  | cancelled {alone : Watch State} {fleet : Fleet State} {places : List TaskId}
      {task place : TaskId} (chosen : places[task]? = some place)
      (before : Beside behaviour mayVisit owner own alone fleet places) :
      Beside behaviour mayVisit owner own (alone.cancel behaviour task)
        (fleet.setWatch (fleet.watch.cancel behaviour place)) places
  | askedToStop {alone : Watch State} {fleet : Fleet State} {places : List TaskId}
      {task place : TaskId} (chosen : places[task]? = some place) (cancelRequests : Nat)
      (before : Beside behaviour mayVisit owner own alone fleet places) :
      Beside behaviour mayVisit owner own (alone.setCancelRequests task cancelRequests)
        (fleet.setWatch (fleet.watch.setCancelRequests place cancelRequests)) places
  | otherStarted {alone : Watch State} {fleet : Fleet State} {places : List TaskId} {index : Nat}
      {strategy : Strategy} (known : fleet.built[index]? = some strategy) (other : index ≠ owner)
      (operation : Operation) {node : Option NodeId}
      (allowed : ∀ present, node = some present → mayVisit index present) (threaded : Bool)
      (cancelRequests : Nat) (before : Beside behaviour mayVisit owner own alone fleet places) :
      Beside behaviour mayVisit owner own alone (fleet.setWatch
        (fleet.watch.start behaviour strategy operation node threaded cancelRequests)) places
  | otherResumed {alone : Watch State} {fleet : Fleet State} {places : List TaskId}
      {place : TaskId} (other : place ∉ places)
      (before : Beside behaviour mayVisit owner own alone fleet places) :
      Beside behaviour mayVisit owner own alone
        (fleet.setWatch (fleet.watch.resume behaviour place)) places
  | otherCancelled {alone : Watch State} {fleet : Fleet State} {places : List TaskId}
      {place : TaskId} (other : place ∉ places)
      (before : Beside behaviour mayVisit owner own alone fleet places) :
      Beside behaviour mayVisit owner own alone
        (fleet.setWatch (fleet.watch.cancel behaviour place)) places
  | otherAskedToStop {alone : Watch State} {fleet : Fleet State} {places : List TaskId}
      {place : TaskId} (other : place ∉ places) (cancelRequests : Nat)
      (before : Beside behaviour mayVisit owner own alone fleet places) :
      Beside behaviour mayVisit owner own alone
        (fleet.setWatch (fleet.watch.setCancelRequests place cancelRequests)) places

variable {behaviour : Behaviour State} {mayVisit : Nat → NodeId → Prop} {owner : Nat}
  {own : Strategy} {alone : Watch State} {fleet : Fleet State} {places : List TaskId}

theorem built_kept (id : String) (source : Source) (known : fleet.built[owner]? = some own) :
    (fleet.build id source).built[owner]? = some own := by
  rcases (build_cases fleet id source).2 with ⟨same, -⟩ | ⟨strategy, same, -⟩
  · rw [same]
    exact known
  · rw [same, List.getElem?_append_left (List.getElem?_eq_some_iff.mp known).1]
    exact known

theorem built_cases {id : String} {source : Source}
    (known : (fleet.build id source).built[owner]? = some own) :
    fleet.built[owner]? = some own ∨
      fleet.built.length = owner ∧ (fleet.build id source).built = fleet.built ++ [own] := by
  rcases (build_cases fleet id source).2 with ⟨same, -⟩ | ⟨strategy, same, -⟩
  · exact .inl (same ▸ known)
  · rw [same] at known
    by_cases last : owner = fleet.built.length
    · subst last
      rw [List.getElem?_concat_length] at known
      cases known
      exact .inr ⟨rfl, same⟩
    · exact .inl (getElem?_of_concat last known)

theorem owner_of_beside (beside : Beside behaviour mayVisit owner own alone fleet places) :
    fleet.built[owner]? = some own := by
  induction beside with
  | born id source _ new made _ =>
      rw [made, ← new]
      exact List.getElem?_concat_length
  | built id source _ known => exact built_kept id source known
  | redeployed _ _ known => exact known
  | moved _ _ _ _ _ _ known => exact known
  | started _ _ _ _ _ known => exact known
  | resumed _ _ known => exact known
  | cancelled _ _ known => exact known
  | askedToStop _ _ _ known => exact known
  | otherStarted _ _ _ _ _ _ _ known => exact known
  | otherResumed _ _ known => exact known
  | otherCancelled _ _ known => exact known
  | otherAskedToStop _ _ _ known => exact known

theorem reached_of_beside (beside : Beside behaviour mayVisit owner own alone fleet places) :
    Watch.Reached behaviour alone ∧ Reached behaviour mayVisit fleet := by
  induction beside with
  | born id source reached _ _ _ => exact ⟨.opened _, .built id source reached⟩
  | built id source _ reached => exact ⟨reached.1, .built id source reached.2⟩
  | redeployed deployment _ reached => exact ⟨reached.1, .redeployed deployment reached.2⟩
  | moved aloneWorld world aloneHeld held _ _ reached =>
      exact ⟨.moved aloneWorld aloneHeld reached.1, .moved world held reached.2⟩
  | started operation allowed threaded cancelRequests before reached =>
      exact ⟨.started own operation _ threaded cancelRequests reached.1,
        .started (owner_of_beside before) operation allowed threaded cancelRequests reached.2⟩
  | resumed _ _ reached => exact ⟨.resumed _ reached.1, .resumed _ reached.2⟩
  | cancelled _ _ reached => exact ⟨.cancelled _ reached.1, .cancelled _ reached.2⟩
  | askedToStop _ cancelRequests _ reached =>
      exact ⟨.askedToStop _ cancelRequests reached.1, .askedToStop _ cancelRequests reached.2⟩
  | otherStarted known _ operation allowed threaded cancelRequests _ reached =>
      exact ⟨reached.1, .started known operation allowed threaded cancelRequests reached.2⟩
  | otherResumed _ _ reached => exact ⟨reached.1, .resumed _ reached.2⟩
  | otherCancelled _ _ reached => exact ⟨reached.1, .cancelled _ reached.2⟩
  | otherAskedToStop _ cancelRequests _ reached =>
      exact ⟨reached.1, .askedToStop _ cancelRequests reached.2⟩

/-- Each strategy of a fleet can be put beside the fleet. -/
theorem exists_beside (reached : Reached behaviour mayVisit fleet)
    (known : fleet.built[owner]? = some own) :
    ∃ alone places, Beside behaviour mayVisit owner own alone fleet places := by
  induction reached with
  | opened deployment nodes => cases known
  | @built fleet id source reached ih =>
      rcases built_cases known with former | ⟨new, made⟩
      · obtain ⟨alone, places, before⟩ := ih former
        exact ⟨alone, places, .built id source before⟩
      · exact ⟨_, _, .born id source reached new made fun _ _ => rfl⟩
  | redeployed deployment _ ih =>
      obtain ⟨alone, places, before⟩ := ih known
      exact ⟨alone, places, .redeployed deployment before⟩
  | @started fleet index strategy present operation node allowed threaded cancelRequests _ ih =>
      obtain ⟨alone, places, before⟩ := ih known
      by_cases this : index = owner
      · subst this
        cases present.symm.trans (owner_of_beside before)
        exact ⟨_, _, .started operation allowed threaded cancelRequests before⟩
      · exact ⟨alone, places, .otherStarted present this operation allowed threaded cancelRequests
          before⟩
  | resumed place _ ih =>
      obtain ⟨alone, places, before⟩ := ih known
      rcases place_cases places place with ⟨task, chosen⟩ | elsewhere
      · exact ⟨_, _, .resumed chosen before⟩
      · exact ⟨alone, places, .otherResumed elsewhere before⟩
  | cancelled place _ ih =>
      obtain ⟨alone, places, before⟩ := ih known
      rcases place_cases places place with ⟨task, chosen⟩ | elsewhere
      · exact ⟨_, _, .cancelled chosen before⟩
      · exact ⟨alone, places, .otherCancelled elsewhere before⟩
  | askedToStop place cancelRequests _ ih =>
      obtain ⟨alone, places, before⟩ := ih known
      rcases place_cases places place with ⟨task, chosen⟩ | elsewhere
      · exact ⟨_, _, .askedToStop chosen cancelRequests before⟩
      · exact ⟨alone, places, .otherAskedToStop elsewhere cancelRequests before⟩
  | moved world same _ ih =>
      obtain ⟨alone, places, before⟩ := ih known
      exact ⟨_, places, .moved { alone.host.world with nodes := world.nodes } world rfl same
        (fun _ _ => rfl) before⟩

theorem leaves_alone_of_other (reached : Reached behaviour mayVisit fleet)
    (apart : ∀ first second node, mayVisit first node → mayVisit second node → first = second)
    (known : fleet.built[owner]? = some own) {index : Nat} {strategy : Strategy}
    (present : fleet.built[index]? = some strategy) (other : index ≠ owner)
    (operation : Operation) {node : Option NodeId}
    (allowed : ∀ present, node = some present → mayVisit index present) :
    strategy.guard ≠ own.guard ∧
      (operation.attempt strategy node).run.LeavesAlone (mayVisit owner) own.guard := by
  have different : strategy.guard ≠ own.guard := by
    intro equal
    have guards : (fleet.built.map (·.guard))[index]? = (fleet.built.map (·.guard))[owner]? := by
      rw [List.getElem?_map, List.getElem?_map, present, known]
      exact congrArg some equal
    have inside : index < (fleet.built.map (·.guard)).length := by
      rw [List.length_map]
      exact (List.getElem?_eq_some_iff.mp present).1
    exact other ((List.getElem?_inj inside (sound_of_reached reached).distinct).mp guards)
  refine ⟨different, mayVisit index, strategy.guard, ?_, different, ?_⟩
  · intro shared visits
    exact fun mine => other (apart index owner shared visits mine)
  · exact Operation.attempt_alike operation strategy allowed

theorem remaining_leaves_alone (reached : Reached behaviour mayVisit fleet)
    (apart : ∀ first second node, mayVisit first node → mayVisit second node → first = second)
    (known : fleet.built[owner]? = some own)
    (matched : Watch.Matched (mayVisit owner) own.guard alone fleet.watch places) {place : TaskId}
    (outside : place ∉ places) (task : Task (Except Failure CallResult))
    (found : fleet.watch.host.tasks[place]? = some task) :
    task.progress.remaining.LeavesAlone (mayVisit owner) own.guard := by
  have ordered := Watch.ordered_of_reached (watch_reached reached)
  have inside : place < fleet.watch.visits.length := by
    rw [ordered.aligned]
    exact (List.getElem?_eq_some_iff.mp found).1
  have atPlace := List.getElem?_eq_getElem inside
  obtain ⟨index, present, allowed⟩ :=
    (sound_of_reached reached).owned _ (List.mem_of_getElem? atPlace)
  have other : index ≠ owner := by
    intro equal
    subst equal
    cases present.symm.trans known
    exact matched.others place _ outside atPlace rfl
  have started := (leaves_alone_of_other reached apart known present other
    fleet.watch.visits[place].operation allowed).2
  exact Program.leaves_alone_of_follows (ordered.followed place _ task atPlace found) started

/-- When the strategy is built, nobody uses its guard, so being alone makes no difference yet. -/
theorem matched_born (reached : Reached behaviour mayVisit fleet) {id : String} {source : Source}
    (made : (fleet.build id source).built = fleet.built ++ [own]) {nodes : NodeId → State}
    (same : ∀ node, mayVisit owner node → nodes node = fleet.watch.host.world.nodes node) :
    Watch.Matched (mayVisit owner) own.guard { host := { world := { nodes := nodes } } }
      (fleet.build id source).watch [] := by
  obtain ⟨⟨world, watched, held, kept⟩, outcome⟩ := build_cases fleet id source
  have young : own.guard = fleet.session.guards := by
    rcases outcome with ⟨unbuilt, -⟩ | ⟨strategy, built, guard, -⟩
    · have lengths := congrArg List.length (unbuilt.symm.trans made)
      rw [List.length_append, List.length_singleton] at lengths
      omega
    · have equal := (List.append_inj' (built.symm.trans made) rfl).2
      cases equal
      exact guard
  rw [watched]
  constructor
  · constructor
    · intro node allowed
      exact (same node allowed).trans (congrFun kept node).symm
    · change 0 = world.held.count own.guard
      rw [held, young]
      refine (List.count_eq_zero.mpr fun taken => ?_).symm
      exact Nat.lt_irrefl _ (held_older reached taken)
  · rfl
  · exact List.nodup_nil
  · exact placed_nil
  · exact placed_nil
  · intro place visit _ present
    obtain ⟨index, built, -⟩ :=
      (sound_of_reached reached).owned visit (List.mem_of_getElem? present)
    rw [young]
    exact Nat.ne_of_lt ((sound_of_reached reached).older _ (List.mem_of_getElem? built))

theorem matched_of_beside
    (apart : ∀ first second node, mayVisit first node → mayVisit second node → first = second)
    (beside : Beside behaviour mayVisit owner own alone fleet places) :
    Watch.Matched (mayVisit owner) own.guard alone fleet.watch places := by
  induction beside with
  | born id source reached _ made same => exact matched_born reached made same
  | @built alone fleet places id source _ matched =>
      obtain ⟨⟨world, watched, held, kept⟩, -⟩ := build_cases fleet id source
      have agrees : World.Agrees (mayVisit owner) own.guard alone.host.world world := by
        constructor
        · rw [kept]
          exact matched.world.nodes
        · rw [held]
          exact matched.world.held
      rw [watched]
      exact Watch.matched_setWorld matched agrees
  | redeployed _ _ matched => exact matched
  | moved aloneWorld world aloneHeld held same _ matched =>
      apply Watch.matched_setWorld matched
      constructor
      · exact same
      · rw [aloneHeld, held]
        exact matched.world.held
  | started operation allowed threaded cancelRequests before matched =>
      have reached := reached_of_beside before
      exact Watch.matched_start matched (Watch.ordered_of_reached reached.1)
        (Watch.ordered_of_reached (watch_reached reached.2)) rfl operation allowed threaded
        cancelRequests
  | resumed chosen _ matched => exact Watch.matched_resume matched chosen
  | cancelled chosen _ matched => exact Watch.matched_cancel matched chosen
  | askedToStop chosen cancelRequests _ matched =>
      exact Watch.matched_setCancelRequests matched chosen cancelRequests
  | otherStarted known other operation allowed threaded cancelRequests before matched =>
      obtain ⟨different, elsewhere⟩ := leaves_alone_of_other (reached_of_beside before).2 apart
        (owner_of_beside before) known other operation allowed
      exact Watch.matched_otherStart matched different operation elsewhere threaded cancelRequests
  | otherResumed other before matched =>
      exact Watch.matched_otherResume matched other (remaining_leaves_alone
        (reached_of_beside before).2 apart (owner_of_beside before) matched other)
  | otherCancelled other before matched =>
      exact Watch.matched_otherCancel matched other (remaining_leaves_alone
        (reached_of_beside before).2 apart (owner_of_beside before) matched other)
  | otherAskedToStop other cancelRequests _ matched =>
      exact Watch.matched_otherSetCancelRequests matched other cancelRequests

/-- Strategies are isolated. Whatever a strategy is built from, at whatever moment: its guard is
free and is nobody else's, all other guards and tasks stay as they are, and a copy keeps the policy
and whether evaluations are disabled. And when no two strategies visit the same node, each strategy
of the fleet can be put beside the fleet, alone; and however that is done, its guard is held on both
sides or on neither, and each of its visits has its counterpart, for which the same was asked, the
same calls were answered, and which waits for the same call or has ended in the same. -/
theorem strategies_are_isolated (reached : Reached behaviour mayVisit fleet) :
    (∀ (source : Source) (next : Session State) (strategy : Strategy),
        fleet.session.construct source = (next, .ok strategy) →
          strategy.guard ∉ next.host.world.held ∧
            next.host.world.held = fleet.session.host.world.held ∧
            next.host.tasks = fleet.session.host.tasks ∧
            (∀ other ∈ fleet.built, other.guard ≠ strategy.guard) ∧
            (∀ entry ∈ fleet.session.strategies, entry.2.guard ≠ strategy.guard) ∧
            ∀ id, source = .copy id → ∃ original, fleet.session.strategy? id = .ok original ∧
              strategy.policy = original.policy ∧
              strategy.evaluationDisabled = original.evaluationDisabled) ∧
      ((∀ first second node, mayVisit first node → mayVisit second node → first = second) →
        ∀ (owner : Nat) (own : Strategy), fleet.built[owner]? = some own →
          (∃ alone places, Beside behaviour mayVisit owner own alone fleet places) ∧
          ∀ (alone : Watch State) (places : List TaskId),
            Beside behaviour mayVisit owner own alone fleet places →
              (own.guard ∈ alone.host.world.held ↔
                own.guard ∈ fleet.session.host.world.held) ∧
              (∀ (place : TaskId) (visit : Visit), fleet.visits[place]? = some visit →
                visit.strategy.guard = own.guard → place ∈ places) ∧
              ∀ task place : TaskId, places[task]? = some place →
                ∃ one other known knownOther, alone.visits[task]? = some one ∧
                  fleet.visits[place]? = some other ∧ one.Matches other ∧
                  alone.host.tasks[task]? = some known ∧
                  fleet.session.host.tasks[place]? = some knownOther ∧
                  known.progress.Same knownOther.progress) := by
  constructor
  · exact fun source next strategy made => construct_isolates reached made
  · intro apart owner own known
    refine ⟨exists_beside reached known, ?_⟩
    intro alone places beside
    have matched := matched_of_beside apart beside
    refine ⟨World.held_iff_of_agrees matched.world, ?_, ?_⟩
    · intro place visit present uses
      apply Classical.byContradiction
      intro outside
      exact matched.others place visit outside present uses
    · intro task place chosen
      obtain ⟨one, other, inAlone, inFleet, visits⟩ := matched.visits task place chosen
      obtain ⟨first, second, aloneTask, fleetTask, tasks⟩ := matched.tasks task place chosen
      exact ⟨one, other, first, second, inAlone, inFleet, visits, aloneTask, fleetTask,
        Task.same_of_matches tasks⟩

def eachItsNode (index : Nat) (node : NodeId) : Prop :=
  (index = 0 ∧ node = "a") ∨ (index = 1 ∧ node = "b")

def firstInFlight : Fleet Script :=
  let opened : Fleet Script := { session := { host := Watch.slowNodes.host } }
  let built := opened.build "first" (.minutes 15 5 false)
  built.setWatch
    (built.watch.start Script.behaviour Strategy.cautious .tryEvaluate (some "a") false 0)

/-- A copy that was made meanwhile, and whose own visit waits too. -/
def bothInFlight : Fleet Script :=
  let built := firstInFlight.build "second" (.copy "first")
  built.setWatch (built.watch.start Script.behaviour ⟨⟨15, 5⟩, false, 1⟩ .check (some "b") false 0)

theorem reached_both_in_flight : Reached Script.behaviour eachItsNode bothInFlight := by
  have first : ∀ present, some "a" = some present → eachItsNode 0 present := by
    intro present same
    cases same
    exact .inl ⟨rfl, rfl⟩
  have second : ∀ present, some "b" = some present → eachItsNode 1 present := by
    intro present same
    cases same
    exact .inr ⟨rfl, rfl⟩
  exact .started rfl .check second false 0 (.built "second" (.copy "first")
    (.started rfl .tryEvaluate first false 0 (.built "first" (.minutes 15 5 false)
      (.opened {} _))))

theorem copies_of_busy_strategies_are_isolated :
    bothInFlight.session.host.world.held = [1, 0] ∧
      (∃ next copy, bothInFlight.session.construct (.copy "second") = (next, .ok copy) ∧
        copy.guard ∉ next.host.world.held ∧ copy.policy = ⟨15, 5⟩) ∧
      ∃ alone places, Beside Script.behaviour eachItsNode 1 ⟨⟨15, 5⟩, false, 1⟩ alone bothInFlight
          places ∧ 1 ∈ alone.host.world.held := by
  have apart : ∀ first second node, eachItsNode first node → eachItsNode second node →
      first = second := by
    intro first second node one other
    rcases one with ⟨rfl, rfl⟩ | ⟨rfl, rfl⟩ <;> rcases other with ⟨rfl, same⟩ | ⟨rfl, same⟩
    · rfl
    · exact absurd same (by decide)
    · exact absurd same (by decide)
    · rfl
  have held : bothInFlight.session.host.world.held = [1, 0] := by decide +kernel
  obtain ⟨constructs, besides⟩ := strategies_are_isolated reached_both_in_flight
  obtain ⟨free, -, -, -, -, keeps⟩ := constructs (.copy "second") _ _ rfl
  obtain ⟨⟨alone, places, beside⟩, same⟩ := besides apart 1 _ rfl
  refine ⟨held, ⟨_, _, rfl, free, rfl⟩, alone, places, beside, ?_⟩
  apply (same alone places beside).1.mpr
  rw [held]
  exact List.mem_cons_self

end Fleet

end Teardown
