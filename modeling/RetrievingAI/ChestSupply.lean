import RetrievingAI.Aim
import RetrievingAI.ChestTime
import RetrievingAI.ChestsInGame
import RetrievingAI.Recovery

/-! Chests never run dry and never jam: whatever a chest is doing, play can go on to a new ball from it
in the player's hand. -/
namespace RetrievingAI
open Fallible

variable {F : Type}

namespace World

/-- Two worlds that differ in nothing that a fetch is about. -/
structure SameFetch (origin world : World F) : Prop where
  balls : world.balls = origin.balls
  retrievers : world.retrievers = origin.retrievers
  hand : world.player.ballInHand = origin.player.ballInHand

theorem SameFetch.trans {origin middle world : World F} (first : SameFetch origin middle)
    (second : SameFetch middle world) : SameFetch origin world :=
  ⟨second.balls.trans first.balls,second.retrievers.trans first.retrievers,second.hand.trans first.hand⟩

variable [EngineFloat F]

/-- While a chest is told something and drops nothing, nothing that a fetch is about changes. -/
theorem effect_sameFetch (E : Engine F) (world target : World F) (event : Event F)
    (calls : List GameCall) (effect : Effect E world event target calls) (ref : Nat) (chest : AChest F)
    (own : ChestEvent F × List ChestCall)
    (told : world.chestEvent ref chest calls event = some own) (keeps : .dropBall ∉ own.2) :
    SameFetch world target ∧ calls.filterMap GameCall.observed = [] := by
  cases effect with
  | lookBall view other ball traced => simp [chestEvent,traced] at told
  | leaveBall view other ball traced last => simp [chestEvent,traced,last] at told
  | pressBlocked other ball last | pickUp other ball hud last => simp [chestEvent,last] at told
  | pressNothing last => simp [chestEvent,last] at told
  | chestDrop other =>
    by_cases same : other = ref
    · have made : ([.dropBall] : List ChestCall) = own.2 := by
        simp only [chestEvent,if_pos same,Option.some.injEq] at told
        rw [← told]
        rfl
      simp [← made] at keeps
    · simp [chestEvent,same] at told
  | lookChest | leaveChest | lookOn => exact ⟨⟨rfl,rfl,by simp⟩,rfl⟩
  | pressChest | chestTick | chestWait => exact ⟨⟨rfl,rfl,rfl⟩,rfl⟩
  | throwNothing | throw | stopIgnoring | hitNothing | land | answer | strand | chaseOn | reach
  | carryOn | deliver => contradiction

variable {E : Engine ℚ} {origin world : World ℚ} {ref : Nat} {phase : ChestPhase}

/-- A chest in a phase, in a world where a fetch stands as it did in an earlier one. -/
structure Stage (origin world : World ℚ) (ref : Nat) (phase : ChestPhase) : Prop
    extends Ready world where
  same : SameFetch origin world
  chest : ∃ chest, world.chests.read ref = some chest ∧ chest.InPhase phase ∧
    0 < chest.openRotationSpeed

/-- What a chest at a stage is told to do it does, and arrives at another stage unless it drops a ball. -/
theorem Stage.told (stage : Stage origin world ref phase) (chest : AChest ℚ)
    (found : world.chests.read ref = some chest) (here : chest.InPhase phase)
    (speed : 0 < chest.openRotationSpeed) (event : Event ℚ)
    (enabled : world.enabled event = true) (succeeds : Event.SpawnSucceeds event) :
    ∃ target calls, (machine E).Step world event calls target ∧
      Effect E world event target calls ∧ target.Ready ∧ ∀ own made,
      world.chestEvent ref chest calls event = some (own,made) → ∃ moved later,
        AChest.Passes E chest phase own moved made later ∧ target.chests.read ref = some moved ∧
        (.dropBall ∉ made → calls.filterMap GameCall.observed = [] ∧ Stage origin target ref later) := by
  obtain ⟨target,calls,step,effect,ready⟩ := stage.toReady.step E event enabled succeeds
  refine ⟨target,calls,step,effect,ready,?_⟩
  intro own made told
  have follows := effect_follows E world target event calls effect ref chest found
  rw [told] at follows
  obtain ⟨moved,now,taken⟩ := follows
  obtain ⟨later,passes⟩ := AChest.step_passes E chest moved own made phase here taken
  refine ⟨moved,later,passes,now,?_⟩
  intro keeps
  obtain ⟨still,silent⟩ := effect_sameFetch E world target event calls effect ref chest _ told keeps
  refine ⟨silent,ready,stage.same.trans still,⟨moved,now,passes.inPhase here,?_⟩⟩
  rw [passes.sameSettings.speed]
  exact speed

theorem Stage.ticks (E : Engine ℚ) (stage : Stage origin world ref phase) (chest : AChest ℚ)
    (found : world.chests.read ref = some chest) (here : chest.InPhase phase)
    (speed : 0 < chest.openRotationSpeed) (deltaTime : ℚ) :
    ∃ moved later, AChest.Passes E chest phase (.tick deltaTime) moved [] later ∧
      (machine E).Makes GameCall.observed [] (fun target => Stage origin target ref later) world := by
  obtain ⟨target,calls,step,_,_,tell⟩ := stage.told (E := E) chest found here speed
    (.chestTick ref deltaTime) (by simp [enabled,found]) trivial
  obtain ⟨moved,later,passes,_,goes⟩ := tell (.tick deltaTime) [] (by simp [chestEvent])
  obtain ⟨silent,arrived⟩ := goes (by simp)
  exact ⟨moved,later,passes,.silent step silent (.now arrived)⟩

/-- A chest at rest is opened by looking at it and pressing. -/
theorem Stage.to_requested (E : Engine ℚ) (stage : Stage origin world ref .idle) :
    (machine E).Makes GameCall.observed [] (fun target => Stage origin target ref .requested) world := by
  obtain ⟨chest,found,here,speed⟩ := stage.chest
  obtain ⟨aimed,calls,look,seen,_,tell⟩ := stage.told (E := E) chest found here speed
    (.tick (.tracing (.hitInteractable (.chest ref)))) (by simp [enabled,contains,found]) trivial
  have last : aimed.player.lastHitInteractableActor = some (.chest ref) := by
    simpa [Event.trace,remember] using effect_remembers E _ _ _ _ seen
  obtain ⟨hinted,later,passes,shown,goes⟩ := tell (.setInteractHintVisibility true) []
    (by simp [chestEvent])
  obtain ⟨silent,there⟩ := goes (by simp)
  cases passes
  obtain ⟨ready,present,free,fast⟩ := there.chest
  obtain ⟨pressed,made,press,_,_,tell⟩ := there.told (E := E) ready present free fast
    .interactButtonPressed rfl trivial
  obtain ⟨moved,later,passes,_,goes⟩ := tell .interaction [.accepted]
    (by simp [chestEvent,last,free.blocked])
  obtain ⟨unseen,arrived⟩ := goes (by simp)
  cases passes with
  | accept => exact .silent look silent (.silent press unseen (.now arrived))

theorem Stage.to_opening (E : Engine ℚ) (stage : Stage origin world ref .requested) :
    (machine E).Makes GameCall.observed [] (fun target => Stage origin target ref .opening) world := by
  obtain ⟨chest,found,here,speed⟩ := stage.chest
  obtain ⟨moved,later,passes,makes⟩ := stage.ticks E chest found here speed 0
  cases passes with
  | armOpening => exact makes
  | rest _ _ resting => contradiction
  | turn _ _ turning => contradiction

theorem Stage.to_closing (E : Engine ℚ) (stage : Stage origin world ref .closeRequested) :
    (machine E).Makes GameCall.observed [] (fun target => Stage origin target ref .closing) world := by
  obtain ⟨chest,found,here,speed⟩ := stage.chest
  obtain ⟨moved,later,passes,makes⟩ := stage.ticks E chest found here speed 0
  cases passes with
  | armClosing => exact makes
  | rest _ _ resting => contradiction
  | turn _ _ turning => contradiction

/-- The time that the rest of a rotation takes is long enough for it. -/
theorem turned_arrives (constant : E.ConstantStep) (chest : AChest ℚ)
    (speed : 0 < chest.openRotationSpeed) :
    (chest.rotate E (|chest.targetRotation - chest.lidPivotPitch|/chest.openRotationSpeed)).arrived E =
      true := by
  have advances := AChest.rotate_advances E constant chest
    (|chest.targetRotation - chest.lidPivotPitch|/chest.openRotationSpeed)
    (div_nonneg (abs_nonneg _) speed.le) speed.le
  rw [mul_div_cancel₀ _ speed.ne',sub_self,max_self] at advances
  exact (AChest.arrived_iff E constant chest _).mpr (advances.trans (by norm_num))

theorem Stage.to_dropDelay (constant : E.ConstantStep) (stage : Stage origin world ref .opening) :
    (machine E).Makes GameCall.observed [] (fun target => Stage origin target ref .dropDelay) world := by
  obtain ⟨chest,found,here,speed⟩ := stage.chest
  have arrives := turned_arrives constant chest speed
  obtain ⟨moved,later,passes,makes⟩ := stage.ticks E chest found here speed
    (|chest.targetRotation - chest.lidPivotPitch|/chest.openRotationSpeed)
  cases passes with
  | finishOpening => exact makes
  | rest _ _ resting => contradiction
  | turn _ _ _ far =>
    rw [arrives] at far
    contradiction

theorem Stage.to_idle (constant : E.ConstantStep) (stage : Stage origin world ref .closing) :
    (machine E).Makes GameCall.observed [] (fun target => Stage origin target ref .idle) world := by
  obtain ⟨chest,found,here,speed⟩ := stage.chest
  have arrives := turned_arrives constant chest speed
  obtain ⟨moved,later,passes,makes⟩ := stage.ticks E chest found here speed
    (|chest.targetRotation - chest.lidPivotPitch|/chest.openRotationSpeed)
  cases passes with
  | finishClosing => exact makes
  | rest _ _ resting => contradiction
  | turn _ _ _ far =>
    rw [arrives] at far
    contradiction

/-- A delay of a chest runs out, however often its timer must fire. -/
theorem Stage.waits (E : Engine ℚ) {made : List GameCall} {P : World ℚ → Prop}
    (waits : phase.timer.isSome = true)
    (expires : ∀ world chest, Stage origin world ref phase → world.chests.read ref = some chest →
      chest.InPhase phase → 0 < chest.openRotationSpeed → chest.callTracker - 1 ≤ 0 →
      (machine E).Makes GameCall.observed made P world)
    (stage : Stage origin world ref phase) : (machine E).Makes GameCall.observed made P world := by
  have counts : ∀ counter world chest, Stage origin world ref phase →
      world.chests.read ref = some chest → chest.InPhase phase → 0 < chest.openRotationSpeed →
      chest.callTracker = counter → (machine E).Makes GameCall.observed made P world := by
    intro counter
    induction counter using Countdown.rundown with
    | out counter stops =>
      intro world chest stage found here speed counted
      subst counted
      exact expires world chest stage found here speed stops
    | on counter goes ih =>
      intro world chest stage found here speed counted
      subst counted
      obtain ⟨target,calls,step,_,_,tell⟩ := stage.told (E := E) chest found here speed
        (.chestTimer ref) (by simp [enabled,found,here.timer,waits]) trivial
      obtain ⟨moved,later,passes,now,keeps⟩ := tell .timer _ (by simp [chestEvent]; rfl)
      generalize (if calls = [] then [] else [ChestCall.dropBall]) = dropped at passes keeps
      have there := passes.inPhase here
      cases passes with
      | count =>
        obtain ⟨silent,arrived⟩ := keeps (by simp)
        exact .silent step silent (ih target _ arrived now there speed rfl)
      | drop out => exact absurd out goes
      | requestClosing out => exact absurd out goes
  obtain ⟨chest,found,here,speed⟩ := stage.chest
  exact counts _ world chest stage found here speed rfl

theorem Stage.to_closeRequested (E : Engine ℚ) (stage : Stage origin world ref .closeDelay) :
    (machine E).Makes GameCall.observed [] (fun target => Stage origin target ref .closeRequested)
      world := by
  apply stage.waits E rfl
  intro world chest stage found here speed expired
  obtain ⟨target,calls,step,_,_,tell⟩ := stage.told (E := E) chest found here speed (.chestTimer ref)
    (by simp [enabled,found,here.timer,ChestPhase.timer]) trivial
  obtain ⟨moved,later,passes,_,keeps⟩ := tell .timer _ (by simp [chestEvent]; rfl)
  generalize (if calls = [] then [] else [ChestCall.dropBall]) = dropped at passes keeps
  cases passes with
  | count _ _ goes => exact absurd expired goes
  | requestClosing =>
    obtain ⟨silent,arrived⟩ := keeps (by simp)
    exact .silent step silent (.now arrived)

/-- A new ball of the world before is in flight, and no fetch has changed. -/
structure Dropped (origin target : World ℚ) : Prop where
  ready : target.Ready
  balls : ∃ ball, ball.InFetch (.flying false) ∧ target.balls = origin.balls.spawn ball
  retrievers : target.retrievers = origin.retrievers
  hand : target.player.ballInHand = origin.player.ballInHand

theorem Stage.drops_now (E : Engine ℚ) (stage : Stage origin world ref .dropDelay) :
    (machine E).Makes GameCall.observed [.dropBall origin.balls.fresh] (Dropped origin) world := by
  apply stage.waits E rfl
  intro world chest stage found here speed expired
  obtain ⟨target,calls,step,effect,ready,tell⟩ := stage.told (E := E) chest found here speed
    (.chestTimer ref) (by simp [enabled,found,here.timer,ChestPhase.timer]) trivial
  cases effect with
  | chestWait _ other there running quiet =>
    rw [found] at there
    cases there
    obtain ⟨moved,later,passes,_⟩ := tell .timer [] (by simp [chestEvent])
    cases passes with
    | count _ _ goes => exact absurd expired goes
  | chestDrop _ other dropped ballClass there running drops class_ =>
    have flying := (ABall.new ballClass).launched_inFetch
      ((ABall.new ballClass).launched dropped.dropStrength dropped.direction) dropped.dropStrength
      dropped.direction rfl rfl rfl
    have arrived : Dropped origin _ := ⟨ready,⟨_,flying,by rw [← stage.same.balls]⟩,
      stage.same.retrievers,stage.same.hand⟩
    have made : (machine E).Makes GameCall.observed [.dropBall world.balls.fresh] (Dropped origin) world :=
      Machine.Makes.step step (.now arrived)
    rwa [stage.same.balls] at made

/-- Whatever phase a chest is in, it drops a ball next, and until then no fetch changes. -/
theorem Stage.drops (constant : E.ConstantStep) (stage : Stage origin world ref phase) :
    (machine E).Makes GameCall.observed [.dropBall origin.balls.fresh] (Dropped origin) world := by
  have opening : ∀ world, Stage origin world ref .opening →
      (machine E).Makes GameCall.observed [.dropBall origin.balls.fresh] (Dropped origin) world :=
    fun _ stage => (stage.to_dropDelay constant).after fun _ delayed => delayed.drops_now E
  have idle : ∀ world, Stage origin world ref .idle →
      (machine E).Makes GameCall.observed [.dropBall origin.balls.fresh] (Dropped origin) world :=
    fun _ stage => ((stage.to_requested E).after fun _ opened => opened.to_opening E).after opening
  have closing : ∀ world, Stage origin world ref .closing →
      (machine E).Makes GameCall.observed [.dropBall origin.balls.fresh] (Dropped origin) world :=
    fun _ stage => (stage.to_idle constant).after idle
  have closeRequested : ∀ world, Stage origin world ref .closeRequested →
      (machine E).Makes GameCall.observed [.dropBall origin.balls.fresh] (Dropped origin) world :=
    fun _ stage => (stage.to_closing E).after closing
  cases phase with
  | idle => exact idle world stage
  | requested => exact (stage.to_opening E).after opening
  | opening => exact opening world stage
  | dropDelay => exact stage.drops_now E
  | closeDelay => exact (stage.to_closeRequested E).after closeRequested
  | closeRequested => exact closeRequested world stage
  | closing => exact closing world stage

/-- A ball that is new in the later world is in the player's hand. -/
def Supplied (origin target : World ℚ) : Prop :=
  ∃ ball, origin.balls.read ball = none ∧ Held ball target

theorem Dropped.can_supply (E : Engine ℚ) (dropped : Dropped origin world) :
    (machine E).Can (Supplied origin) world := by
  obtain ⟨ball,flying,balls⟩ := dropped.balls
  have there : world.balls.read origin.balls.fresh = some ball := by
    rw [balls]
    exact Pool.read_spawn_fresh _ _
  have unthrown : ball.ballThrower = none := by simpa using flying.thrower false rfl
  refine (dropped.ready.can_land E there flying.thrown (.inl unthrown)).trans ?_
  intro last held
  exact .now ⟨origin.balls.fresh,Pool.read_fresh _,held⟩

theorem run_stage (E : Engine ℚ) {history : List (Machine.Moment (World ℚ) (Event ℚ) GameCall)}
    {world : World ℚ} (run : (machine E).Run history world) (ready : world.Ready) (ref : Nat)
    (chest : AChest ℚ) (found : world.chests.read ref = some chest)
    (speed : 0 < chest.openRotationSpeed) : ∃ phase, Stage world world ref phase := by
  obtain ⟨phase,here⟩ := run_cycling E run ref chest found
  exact ⟨phase,ready,⟨rfl,rfl,rfl⟩,chest,found,here,speed⟩

/-- From every reachable world and for every chest that turns at all, play can go on to a ball in the
player's hand that was not in that world: one that the chest will drop. -/
theorem chest_supplies (E : Engine ℚ) (constant : E.ConstantStep)
    (history : List (Machine.Moment (World ℚ) (Event ℚ) GameCall)) (world : World ℚ)
    (run : ((machine E).starting Playable).Run history world) (ref : Nat) (chest : AChest ℚ)
    (found : world.chests.read ref = some chest) (speed : 0 < chest.openRotationSpeed) :
    (machine E).Can (Supplied world) world := by
  obtain ⟨phase,stage⟩ := run_stage E run.of_starting (run_ready E run) ref chest found speed
  exact (stage.drops constant).can.trans fun _ dropped => dropped.can_supply E

theorem chestLevel_playable : chestLevel.Playable := by
  refine ⟨⟨?_,?_,?_⟩,rfl⟩
  · intro ref ball found
    contradiction
  · intro ref chest found
    obtain ⟨bound,rfl⟩ := List.getElem?_eq_some_iff.mp found
    simp [chestLevel,level,AChest.new,UWidgetComponent.nativeConstruct,UWidgetComponent.Shown]
  · intro ref chest found
    obtain ⟨bound,rfl⟩ := List.getElem?_eq_some_iff.mp found
    simp [chestLevel,level,AChest.new,UWidgetComponent.Shown]

theorem chest_supplies_opening : ∃ history world,
    ((machine Engine.exact).starting Playable).Run history world ∧
      history.map (·.event) =
        [.interactButtonPressed,.tick (.tracing (.hitInteractable (.chest 0)))] ∧
      (machine Engine.exact).Can (Supplied world) world := by
  have start := Machine.Run.start (M := (machine Engine.exact).starting Playable) chestLevel
    ⟨chestLevel_init,chestLevel_playable⟩
  have aimed := Machine.Run.next _ _ (.tick (.tracing (.hitInteractable (.chest 0)))) _ _ start ⟨rfl,rfl⟩
  have pressed := Machine.Run.next _ _ .interactButtonPressed _ _ aimed ⟨rfl,rfl⟩
  have law := chest_supplies Engine.exact Engine.exact_constantStep _ _ pressed 0 _ rfl
    (by norm_num [AChest.new])
  exact ⟨_,_,pressed,rfl,law⟩

end World

end RetrievingAI
