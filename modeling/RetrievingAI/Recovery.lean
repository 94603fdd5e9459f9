import RetrievingAI.Playing

/-! What can still be done about a ball. In a level that can be played every ball can be brought back
into the player's hand from wherever it is, but for the balls of a player without a behaviour tree. -/
namespace RetrievingAI

variable {F : Type} [EngineFloat F]

namespace World

variable {world : World F} {phases : Nat → FetchPhase} {ref : Nat} {ball : ABall F}

/-- A ball that is not locked is picked up by looking at it and pressing. -/
theorem Ready.can_take (E : Engine F) (ready : world.Ready) (found : world.balls.read ref = some ball)
    (free : ball.bInteractionHintBlocked = false) : (machine E).Can (Held ref) world := by
  obtain ⟨aimed,last,look⟩ := ready.looks E found
  obtain ⟨taken,hand,pick⟩ := look.ready.picks E (look.there found) (by simpa using free) last
  refine .step look.step (.step pick.step (.now ⟨hand,_,pick.there (look.there found),?_⟩))
  simp [ABall.attachTo,UStaticMeshComponent.attachToComponent]

theorem Ready.can_land (E : Engine F) (ready : world.Ready) (found : world.balls.read ref = some ball)
    (thrown : ball.bBallThrown = true)
    (unanswered : ball.ballThrower = none ∨ ball.aiCharacterClass = none) :
    (machine E).Can (Held ref) world := by
  obtain ⟨landed,hit⟩ := ready.lands E found thrown unanswered
  exact .step hit.step (hit.ready.can_take E (hit.there found) rfl)

theorem Ready.can_give (E : Engine F) (ready : world.Ready) (treed : world.Treed)
    (rep : world.Represents phases) (distance radius : F)
    (near : EngineFloat.lessOrEqual distance radius = true) (index : Nat)
    (found : world.balls.read ref = some ball) (carried : phases ref = .carried index) :
    (machine E).Can (Held ref) world := by
  obtain ⟨given,give⟩ := ready.gives E treed rep distance radius near index found carried
  exact .step give.step (give.ready.can_land E (give.there found) rfl (.inl rfl))

theorem Ready.can_chase (E : Engine F) (ready : world.Ready) (treed : world.Treed)
    (rep : world.Represents phases) (distance radius : F)
    (near : EngineFloat.lessOrEqual distance radius = true) (index : Nat)
    (found : world.balls.read ref = some ball) (chased : phases ref = .chased index) :
    (machine E).Can (Held ref) world := by
  obtain ⟨target,reach⟩ := ready.reaches E treed rep distance radius near index found chased
  have there := reach.there found
  obtain ⟨moved,after⟩ := step_represents E world target _ [] reach.step ⟨phases,rep⟩
  have carried : moved ref = .carried index := by
    have attached := (after.inFetch ref _ there).attached
    generalize moved ref = phase at attached
    cases phase <;> simp_all [FetchPhase.attached,ABall.attachTo,
      UStaticMeshComponent.attachToComponent]
  have still := effect_treed E world target _ [] (step_effect E _ _ _ _ reach.step) treed
  exact .step reach.step (reach.ready.can_give E still after distance radius near index there carried)

/-- A thrown ball that a retriever can be sent for is fetched, given back and picked up. -/
theorem Ready.can_answer (E : Engine F) (ready : world.Ready) (treed : world.Treed)
    (rep : world.Represents phases) (distance radius : F)
    (near : EngineFloat.lessOrEqual distance radius = true)
    (found : world.balls.read ref = some ball) (thrown : ball.bBallThrown = true)
    (by_ : ball.ballThrower.isSome = true) (class_ : ball.aiCharacterClass.isSome = true)
    (runs : world.player.behaviorTree.isSome = true) : (machine E).Can (Held ref) world := by
  obtain ⟨target,hit,index,retriever,controler,listed,alive,named⟩ :=
    ready.answers E found thrown by_ class_ runs
  have there := hit.there found
  obtain ⟨moved,after⟩ := step_represents E world target _ _ hit.step ⟨phases,rep⟩
  have still := effect_treed E world target _ _ (step_effect E _ _ _ _ hit.step) treed
  have worked := (Represents.owned after ref index retriever controler listed alive named).1
  rcases FetchPhase.of_retriever _ index worked with chased | carried
  · exact .step hit.step (hit.ready.can_chase E still after distance radius near index there chased)
  · exact .step hit.step (hit.ready.can_give E still after distance radius near index there carried)

omit [EngineFloat F] in
/-- A player without a tree sends retrievers that know of no ball. -/
def Keyless (world : World F) : Prop :=
  world.player.behaviorTree = none → ∀ index retriever controler,
    world.retrievers.read index = some retriever → retriever.live = some controler →
    controler.ballKey = none

theorem effect_keyless (E : Engine F) (world target : World F) (event : Event F)
    (calls : List GameCall) (effect : Effect E world event target calls) (keyless : world.Keyless) :
    target.Keyless := by
  intro idle
  have tree := (effect_keepsDefaults E world target event calls effect).tree
  have unkeyed := keyless (tree.symm.trans idle)
  cases effect with
  | answer ref ball thrower tree retriever found thrown by_ class_ runs =>
    rw [idle] at runs
    contradiction
  | strand =>
    intro index object controler listed alive
    rw [Pool.read_spawn] at listed
    split at listed
    · cases listed
      exact ((E.spawned _).unled alive).1
    · exact unkeyed index object controler listed alive
  | reach ref task distance retriever controler key ball found alive state named =>
    have none := unkeyed ref retriever controler found alive
    rw [named] at none
    contradiction
  | deliver ref task distance retriever controler key ball found alive state named =>
    have none := unkeyed ref retriever controler found alive
    rw [named] at none
    contradiction
  | lookBall | lookChest | leaveBall | leaveChest | lookOn | pressNothing | pressBlocked | pickUp
  | pressChest | throwNothing | throw | stopIgnoring | hitNothing | land | chestTick | chestWait
  | chestDrop | chaseOn | carryOn => exact unkeyed

theorem run_keyless (E : Engine F) {history : List (Machine.Moment (World F) (Event F) GameCall)}
    (run : (machine E).Run history world) : world.Keyless := by
  apply run.invariant
  · intro start initial idle index retriever controler listed
    rw [initial.retrievers] at listed
    simp at listed
  · intro source event calls target keyless step
    exact effect_keyless E source target event calls (step_effect E _ _ _ _ step) keyless

omit [EngineFloat F] in
/-- A ball that no player has thrown: nobody is sent for it, and it is locked in the air only. -/
def Unthrown (ball : ABall F) : Prop :=
  ball.ballThrower = none ∧ (ball.bInteractionHintBlocked = true → ball.bBallThrown = true)

omit [EngineFloat F] in
/-- A ball that is locked, and will be again by whoever is sent for it. -/
def Forsaken (ball : ABall F) : Prop :=
  ball.bInteractionHintBlocked = true ∧ (ball.bBallThrown = true → ball.ballThrower.isSome = true)

theorem BallChange.unthrown {ref : Nat} {ball after : ABall F} {event : Event F}
    {calls : List GameCall} (change : BallChange world ref ball event calls after)
    (rep : world.Represents phases) (found : world.balls.read ref = some ball) (silent : .throw ref ∉ calls)
    (unthrown : Unthrown ball) : Unthrown after := by
  have nobody : ∀ index retriever controler, world.retrievers.read index = some retriever →
      retriever.live = some controler → controler.ballKey ≠ some ref := by
    intro index retriever controler listed alive named
    obtain ⟨_,same,there,owned⟩ := Represents.owned rep ref index retriever controler listed alive named
    rw [found] at there
    cases there
    have thrower := owned.thrower
    simp [unthrown.1] at thrower
  cases change with
  | same => exact unthrown
  | hint => simpa [Unthrown] using unthrown
  | take free => simpa [Unthrown,ABall.attachTo,free] using unthrown.1
  | throw direction hand made => exact absurd made silent
  | land => exact ⟨unthrown.1,by simp [ABall.landed]⟩
  | answer hits thrown by_ => simp [unthrown.1] at by_
  | reach index retriever controler listed alive named =>
    exact absurd named (nobody index retriever controler listed alive)
  | deliver index retriever controler listed alive named =>
    exact absurd named (nobody index retriever controler listed alive)

theorem BallChange.forsaken {ref : Nat} {ball after : ABall F} {event : Event F}
    {calls : List GameCall} (change : BallChange world ref ball event calls after)
    (keyless : world.Keyless) (idle : world.player.behaviorTree = none)
    (class_ : ball.aiCharacterClass.isSome = true) (forsaken : Forsaken ball) : Forsaken after := by
  obtain ⟨blocked,answered⟩ := forsaken
  cases change with
  | same => exact ⟨blocked,answered⟩
  | hint => exact ⟨by simpa using blocked,by simpa using answered⟩
  | take free => simp [free] at blocked
  | throw => exact ⟨rfl,fun _ => rfl⟩
  | land hits thrown unanswered =>
    rcases unanswered with dropped | classless
    · simp [dropped,thrown] at answered
    · simp [classless] at class_
  | answer => exact ⟨rfl,by simp [ABall.landed]⟩
  | reach index retriever controler listed alive named =>
    rw [keyless idle index retriever controler listed alive] at named
    contradiction
  | deliver index retriever controler listed alive named =>
    rw [keyless idle index retriever controler listed alive] at named
    contradiction

theorem effect_thrown (E : Engine F) (world target : World F) (event : Event F)
    (calls : List GameCall) (effect : Effect E world event target calls) (ref : Nat)
    (made : .throw ref ∈ calls) :
    ∃ ball, target.balls.read ref = some ball ∧ Forsaken ball := by
  cases effect with
  | throw location other ball hud hand found =>
    cases List.mem_singleton.mp made
    exact ⟨_,Pool.read_write_self _ _ _ _ found,rfl,fun _ => rfl⟩
  | lookBall | lookChest | leaveBall | leaveChest | lookOn | pressNothing | pressBlocked | pickUp
  | pressChest | throwNothing | stopIgnoring | hitNothing | land | answer | strand | chestTick
  | chestWait | chestDrop | chaseOn | reach | carryOn | deliver => simp at made

/-- What a run has made of a ball, by whether the player has thrown it. -/
structure Fate (history : List (Machine.Moment (World F) (Event F) GameCall)) (world : World F)
    (ref : Nat) : Prop where
  kept : .throw ref ∉ Machine.calls history → ∀ ball, world.balls.read ref = some ball → Unthrown ball
  lost : .throw ref ∈ Machine.calls history → world.player.behaviorTree = none →
    ∃ ball, world.balls.read ref = some ball ∧
      (ball.aiCharacterClass.isSome = true → Forsaken ball)

theorem run_fate (E : Engine F) {history : List (Machine.Moment (World F) (Event F) GameCall)}
    {world : World F} (run : (machine E).Run history world) (ref : Nat) : Fate history world ref := by
  induction run with
  | start world initial =>
    refine ⟨?_,by simp⟩
    intro _ ball found
    obtain ⟨ballClass,rfl⟩ := initial.balls ref ball found
    exact ⟨rfl,by simp [ABall.new]⟩
  | next history source event calls target run step ih =>
    have effect := step_effect E source target event calls step
    obtain ⟨phases,rep⟩ := run_represents E run
    have tree := (effect_keepsDefaults E source target event calls effect).tree
    constructor
    · intro silent after there
      rw [Machine.calls_cons,List.mem_append,not_or] at silent
      rcases effect_ballOrigin E source target event calls effect ref after there with
        ⟨ball,found,change⟩ | ⟨ballClass,strength,direction,rfl⟩
      · exact change.unthrown rep found silent.1 (ih.kept silent.2 ball found)
      · exact ⟨by simp [ABall.launched,ABall.new],fun _ => rfl⟩
    · intro made idle
      have before := tree.symm.trans idle
      rw [Machine.calls_cons,List.mem_append] at made
      rcases made with now | earlier
      · obtain ⟨ball,there,forsaken⟩ := effect_thrown E source target event calls effect ref now
        exact ⟨ball,there,fun _ => forsaken⟩
      · obtain ⟨ball,found,forsaken⟩ := ih.lost earlier before
        obtain ⟨after,there,change⟩ := effect_ballChange E source target event calls effect ref ball found
        refine ⟨after,there,?_⟩
        intro class_
        rw [change.aiCharacterClass] at class_
        exact change.forsaken (run_keyless E run) before class_ (forsaken class_)

theorem path_class (E : Engine F) {start world : World F}
    {history : List (Machine.Moment (World F) (Event F) GameCall)}
    (path : (machine E).Path start history world) (ref : Nat) (ball : ABall F)
    (found : start.balls.read ref = some ball) :
    world.player.behaviorTree = start.player.behaviorTree ∧
      ∃ after, world.balls.read ref = some after ∧ after.aiCharacterClass = ball.aiCharacterClass := by
  apply path.invariant (P := fun world => world.player.behaviorTree = start.player.behaviorTree ∧
    ∃ after, world.balls.read ref = some after ∧ after.aiCharacterClass = ball.aiCharacterClass)
  · exact ⟨rfl,ball,found,rfl⟩
  · intro source event calls target given step
    obtain ⟨tree,before,there,same⟩ := given
    have effect := step_effect E source target event calls step
    obtain ⟨after,read,change⟩ := effect_ballChange E source target event calls effect ref before there
    exact ⟨(effect_keepsDefaults E source target event calls effect).tree.trans tree,after,read,
      change.aiCharacterClass.trans same⟩

/-- Without a tree, a thrown ball that calls a retriever stays locked. -/
theorem path_locked (E : Engine F) {history later : List (Machine.Moment (World F) (Event F) GameCall)}
    {target : World F} (run : (machine E).Run history world) (path : (machine E).Path world later target)
    (found : world.balls.read ref = some ball) (idle : world.player.behaviorTree = none)
    (class_ : ball.aiCharacterClass.isSome = true) (thrown : .throw ref ∈ Machine.calls history) :
    ∃ after, target.balls.read ref = some after ∧ after.bInteractionHintBlocked = true := by
  obtain ⟨tree,after,there,same⟩ := path_class E path ref ball found
  have made : .throw ref ∈ Machine.calls (later ++ history) := by
    rw [Machine.calls_append]
    exact List.mem_append_right _ thrown
  obtain ⟨lost,again,forsaken⟩ := (run_fate E (run.extend path) ref).lost made (tree.trans idle)
  rw [there] at again
  cases again
  exact ⟨after,there,(forsaken (by rw [same]; exact class_)).1⟩

omit [EngineFloat F] in
/-- A retriever was called for every stranded ball, but the player had no tree for it. -/
def Strands (world : World F) (ref : Nat) : Prop :=
  world.player.behaviorTree = none ∧
    ∃ ball, world.balls.read ref = some ball ∧ ball.aiCharacterClass.isSome = true

theorem Strands.kept {E : Engine F} {world target : World F} {event : Event F} {calls : List GameCall}
    (effect : Effect E world event target calls) {ref : Nat} (strands : world.Strands ref) :
    target.Strands ref := by
  obtain ⟨idle,ball,found,class_⟩ := strands
  obtain ⟨after,there,change⟩ := effect_ballChange E world target event calls effect ref ball found
  exact ⟨(effect_keepsDefaults E world target event calls effect).tree.trans idle,after,there,
    by rw [change.aiCharacterClass]; exact class_⟩

theorem run_strands (E : Engine F) {history : List (Machine.Moment (World F) (Event F) GameCall)}
    {world : World F} (run : (machine E).Run history world) :
    ∃ phases, world.Represents phases ∧ ∀ ref, phases ref = .stranded → world.Strands ref := by
  apply run.invariant (P := fun world => ∃ phases, world.Represents phases ∧
    ∀ ref, phases ref = .stranded → world.Strands ref)
  · intro start initial
    refine ⟨_,init_represents start initial,?_⟩
    intro ref stranded
    unfold startPhases at stranded
    split at stranded <;> contradiction
  · intro source event calls target given step
    obtain ⟨phases,rep,strands⟩ := given
    have effect := step_effect E source target event calls step
    rcases effect_moves E source target event calls phases rep effect with
      ⟨kept,_⟩ | ⟨move,phase,moved,after,_,explained⟩
    · exact ⟨phases,kept,fun ref stranded => (strands ref stranded).kept effect⟩
    · refine ⟨_,after,?_⟩
      intro ref stranded
      by_cases same : ref = move.ball
      · subst same
        rw [Function.update_self] at stranded
        subst stranded
        obtain ⟨other,rfl⟩ := move_stranded move _ moved
        obtain ⟨_,idle,ball,found,_,_,class_⟩ := explained
        exact Strands.kept effect ⟨idle,ball,found,class_⟩
      · rw [Function.update_of_ne same] at stranded
        exact (strands ref stranded).kept effect

/-- In every reachable world a ball can be brought into the player's hand exactly if the player has a
tree for retrievers, the ball calls none, or nobody has thrown it yet. Otherwise it stays locked
whatever happens. -/
theorem recoverable_iff (E : Engine F) (distance radius : F)
    (near : EngineFloat.lessOrEqual distance radius = true)
    (history : List (Machine.Moment (World F) (Event F) GameCall)) (world : World F)
    (run : ((machine E).starting Playable).Run history world) (ref : Nat) (ball : ABall F)
    (found : world.balls.read ref = some ball) :
    ((machine E).Can (Held ref) world ↔ world.player.behaviorTree.isSome = true ∨
      ball.aiCharacterClass = none ∨ .throw ref ∉ Machine.calls history) ∧
    (¬ (world.player.behaviorTree.isSome = true ∨ ball.aiCharacterClass = none ∨
      .throw ref ∉ Machine.calls history) → ∀ later target, (machine E).Path world later target →
        ∃ after, target.balls.read ref = some after ∧ after.bInteractionHintBlocked = true) := by
  have ready := run_ready E run
  have plain := run.of_starting
  have locked : ¬ (world.player.behaviorTree.isSome = true ∨ ball.aiCharacterClass = none ∨
      .throw ref ∉ Machine.calls history) → ∀ later target, (machine E).Path world later target →
        ∃ after, target.balls.read ref = some after ∧ after.bInteractionHintBlocked = true := by
    intro hopeless later target path
    simp only [not_or,not_not,Bool.not_eq_true,Option.isSome_eq_false_iff,Option.isNone_iff_eq_none]
      at hopeless
    obtain ⟨idle,class_,thrown⟩ := hopeless
    exact path_locked E plain path found idle (Option.isSome_iff_ne_none.mpr class_) thrown
  refine ⟨⟨?_,?_⟩,locked⟩
  · intro can
    obtain ⟨later,target,path,_,attached⟩ := can
    by_contra hopeless
    obtain ⟨after,there,blocked⟩ := locked hopeless later target path
    obtain ⟨phases,rep⟩ := run_represents E (plain.extend path)
    have here := rep.inFetch ref after there
    rw [(Represents.attached_iff rep ref).mp attached] at here
    rw [here.blocked] at blocked
    contradiction
  · intro hopeful
    have treed := run_treed E plain
    have fate := run_fate E plain ref
    obtain ⟨phases,rep,strands⟩ := run_strands E plain
    have here := rep.inFetch ref ball found
    cases phase : phases ref with
    | absent => exact absurd phase here.present
    | resting | inHand =>
      rw [phase] at here
      exact ready.can_take E found here.blocked
    | chased index => exact ready.can_chase E treed rep distance radius near index found phase
    | carried index => exact ready.can_give E treed rep distance radius near index found phase
    | flying flown =>
      rw [phase] at here
      by_cases unanswered : ball.ballThrower = none ∨ ball.aiCharacterClass = none
      · exact ready.can_land E found here.thrown unanswered
      · obtain ⟨by_,class_⟩ := not_or.mp unanswered
        rcases hopeful with runs | classless | silent
        · exact ready.can_answer E treed rep distance radius near found here.thrown
            (Option.isSome_iff_ne_none.mpr by_) (Option.isSome_iff_ne_none.mpr class_) runs
        · exact absurd classless class_
        · exact absurd (fate.kept silent ball found).1 by_
    | stranded =>
      obtain ⟨idle,_,there,class_⟩ := strands ref phase
      rw [found] at there
      cases there
      rw [phase] at here
      rcases hopeful with runs | classless | silent
      · simp [idle] at runs
      · simp [classless] at class_
      · have thrown := (fate.kept silent ball found).2 here.blocked
        rw [here.thrown] at thrown
        contradiction

theorem recoverable_iff_thrown :
    (∃ history world, ((machine Engine.exact).starting Playable).Run history world ∧
      history.map (·.event) = [.onComponentHit 0 true,.throwButtonPressed .zeroVector,
        .interactButtonPressed,.tick (.tracing (.hitInteractable (.ball 0)))] ∧
      (machine Engine.exact).Can (Held 0) world) ∧
    ∃ history world, ((machine Engine.exact).starting Playable).Run history world ∧
      history.map (·.event) = [.onComponentHit 0 true,.throwButtonPressed .zeroVector,
        .interactButtonPressed,.tick (.tracing (.hitInteractable (.ball 0)))] ∧
      ¬ (machine Engine.exact).Can (Held 0) world ∧
      ∀ later target, (machine Engine.exact).Path world later target →
        ∃ after, target.balls.read 0 = some after ∧ after.bInteractionHintBlocked = true := by
  constructor
  · have start := Machine.Run.start (M := (machine Engine.exact).starting Playable) (ballLevel 1)
      ⟨(ballLevel_init 1).1,level_wired _ _ _ (by simp [UWidgetComponent.Shown]),rfl⟩
    have aimed := Machine.Run.next _ _ (.tick (.tracing (.hitInteractable (.ball 0)))) _ _ start ⟨rfl,rfl⟩
    have picked := Machine.Run.next _ _ .interactButtonPressed _ _ aimed ⟨rfl,rfl⟩
    have thrown := Machine.Run.next _ _ (.throwButtonPressed .zeroVector) _ _ picked ⟨rfl,rfl⟩
    have landed := Machine.Run.next _ _ (.onComponentHit 0 true) _ _ thrown ⟨rfl,rfl⟩
    have law := recoverable_iff Engine.exact 0 100 (by decide) _ _ landed 0 _ rfl
    exact ⟨_,_,landed,rfl,law.1.mpr (.inl rfl)⟩
  · have start := Machine.Run.start (M := (machine Engine.exact).starting Playable) treelessLevel
      ⟨treelessLevel_init,level_wired _ _ _ (by simp [UWidgetComponent.Shown]),rfl⟩
    have aimed := Machine.Run.next _ _ (.tick (.tracing (.hitInteractable (.ball 0)))) _ _ start ⟨rfl,rfl⟩
    have picked := Machine.Run.next _ _ .interactButtonPressed _ _ aimed ⟨rfl,rfl⟩
    have thrown := Machine.Run.next _ _ (.throwButtonPressed .zeroVector) _ _ picked ⟨rfl,rfl⟩
    have landed := Machine.Run.next _ _ (.onComponentHit 0 true) _ _ thrown ⟨rfl,rfl⟩
    have law := recoverable_iff Engine.exact 0 100 (by decide) _ _ landed 0 _ rfl
    have hopeless : ¬ ((none : Option UBehaviorTree).isSome = true ∨
        (some ⟨"BP_AI"⟩ : Option UClass) = none ∨
        GameCall.throw 0 ∉ [.spawnAI 0,.throw 0,.interaction (.ball 0)]) := by simp
    exact ⟨_,_,landed,rfl,fun can => hopeless (law.1.mp can),law.2 hopeless⟩

end World

end RetrievingAI
