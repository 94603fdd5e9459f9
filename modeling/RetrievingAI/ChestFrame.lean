import RetrievingAI.ChestsInGame
import RetrievingAI.FrameRate
import RetrievingAI.Lib.Mover

/-! The rest of the game does not see a chest: any chest may stand in its place as long as nothing is
asked of it. -/
namespace RetrievingAI
open Fallible

variable {F : Type}

namespace World

/-- The world with another chest in a chest's place. -/
def withChest (world : World F) (ref : Nat) (chest : AChest F) : World F :=
  {world with chests := world.chests.write ref chest}

variable (world : World F) (ref : Nat) (chest : AChest F)

theorem hint_withChest (bIsVisible : Bool) (actor : InteractableRef) (other : actor ≠ .chest ref) :
    (world.withChest ref chest).setInteractHintVisibility bIsVisible actor =
      (·.withChest ref chest) <$> world.setInteractHintVisibility bIsVisible actor := by
  cases actor with
  | ball ball =>
    simp only [setInteractHintVisibility,map_bind]
    rfl
  | chest there =>
    have different : ref ≠ there := fun same => other (by rw [same])
    simp only [setInteractHintVisibility,map_bind,withChest,Pool.read_write_of_ne _ _ _ _ different,
      Pool.write_comm _ _ _ _ _ different]
    rfl

theorem interaction_withChest (actor : InteractableRef) (other : actor ≠ .chest ref) :
    (world.withChest ref chest).interaction actor =
      (·.withChest ref chest) <$> world.interaction actor := by
  cases actor with
  | ball ball =>
    simp only [interaction,map_bind]
    rfl
  | chest there =>
    have different : ref ≠ there := fun same => other (by rw [same])
    simp only [interaction,map_bind,withChest,Pool.read_write_of_ne _ _ _ _ different,
      Pool.write_comm _ _ _ _ _ different]
    rfl

theorem press_withChest (other : world.player.lastHitInteractableActor ≠ some (.chest ref)) :
    (world.withChest ref chest).interactButtonPressed =
      (fun result => (result.1.withChest ref chest,result.2)) <$> world.interactButtonPressed := by
  have player : (world.withChest ref chest).player = world.player := rfl
  cases aimed : world.player.lastHitInteractableActor with
  | none => simp only [interactButtonPressed,player,aimed,map_pure]
  | some actor =>
    have elsewhere : actor ≠ .chest ref := fun same => other (by rw [aimed,same])
    simp only [interactButtonPressed,player,aimed,interaction_withChest world ref chest actor elsewhere,
      map_bind,bind_map_left,map_pure]

theorem hit_withChest (E : Engine F) (ball : Nat) (spawned : Bool) :
    (world.withChest ref chest).onComponentHit E ball spawned =
      (fun result => (result.1.withChest ref chest,result.2)) <$> world.onComponentHit E ball spawned := by
  unfold onComponentHit
  rw [map_bind]
  apply bind_congr
  intro object
  split
  · rfl
  · dsimp only
    split
    · unfold spawnAI
      rw [map_bind]
      apply bind_congr
      intro there
      split
      · rfl
      · simp only [map_bind]
        rfl
    · rfl

theorem withChest_self (found : world.chests.read ref = some chest) : world.withChest ref chest = world := by
  rw [withChest,Pool.write_read _ _ _ found]

theorem read_withChest (there : Nat) (old : AChest F) (found : world.chests.read there = some old) :
    (world.withChest there chest).chests.read there = some chest :=
  Pool.read_write_self _ _ _ _ found

theorem withChest_withChest (first second : AChest F) :
    (world.withChest ref first).withChest ref second = world.withChest ref second := by
  simp only [withChest,Pool.write_write]

/-- The length of the frame for which an event is the Tick of a chest. -/
def frameOf (ref : Nat) : Event F → Option F
  | .chestTick there deltaTime => if there = ref then some deltaTime else none
  | _ => none

/-- The lengths of the frames of a chest, the most recent first. -/
def framesOf (ref : Nat) (history : List (Machine.Moment (World F) (Event F) GameCall)) : List F :=
  history.filterMap (frameOf ref ·.event)

/-- Everything but the Ticks of a chest. -/
def othersOf (ref : Nat) (history : List (Machine.Moment (World F) (Event F) GameCall)) :
    List (Machine.Moment (World F) (Event F) GameCall) :=
  history.filter fun moment => (frameOf ref moment.event).isNone

theorem framesOf_cons (history : List (Machine.Moment (World F) (Event F) GameCall))
    (moment : Machine.Moment (World F) (Event F) GameCall) (deltaTime : F)
    (frame : frameOf ref moment.event = some deltaTime) :
    framesOf ref (moment :: history) = deltaTime :: framesOf ref history :=
  List.filterMap_cons_some frame

theorem frameOf_eq_some (event : Event F) (deltaTime : F) (frame : frameOf ref event = some deltaTime) :
    event = .chestTick ref deltaTime := by
  cases event with
  | chestTick there other =>
    obtain ⟨same,length⟩ := Option.ite_none_right_eq_some.mp frame
    rw [same,Option.some.inj length]
  | tick | interactButtonPressed | throwButtonPressed | stopIgnoringBallTimer | onComponentHit
  | chestTimer | chaseBall | giveBallToPlayer => contradiction

theorem framesOf_filter {early history : List (Machine.Moment (World F) (Event F) GameCall)}
    (same : early.map (·.label) =
      (history.map (·.label)).filter fun label => (frameOf ref label.1).isSome) :
    framesOf ref early = framesOf ref history := by
  have labels : ∀ history : List (Machine.Moment (World F) (Event F) GameCall),
      framesOf ref history = (history.map (·.label)).filterMap fun label => frameOf ref label.1 := by
    intro history
    rw [List.filterMap_map]
    rfl
  rw [labels,labels,same,List.filterMap_filter]
  apply List.filterMap_congr
  intro label member
  cases frameOf ref label.1 <;> rfl

variable [EngineFloat F]

theorem manageLineTrace_withChest (view : PlayerView F)
    (unseen : world.player.lineTrace view ≠ .hitInteractable (.chest ref))
    (unleft : world.player.lineTrace view = .hitOther →
      world.player.lastHitInteractableActor ≠ some (.chest ref)) :
    (world.withChest ref chest).manageLineTrace view =
      (·.withChest ref chest) <$> world.manageLineTrace view := by
  have player : (world.withChest ref chest).player = world.player := rfl
  cases traced : world.player.lineTrace view with
  | noHit => simp only [manageLineTrace,player,traced,map_pure]
  | hitInteractable actor =>
    have elsewhere : actor ≠ .chest ref := fun same => unseen (by rw [traced,same])
    simp only [manageLineTrace,player,traced]
    exact hint_withChest
      {world with player := {world.player with lastHitInteractableActor := some actor}} ref chest true actor
      elsewhere
  | hitOther =>
    cases aimed : world.player.lastHitInteractableActor with
    | none => simp only [manageLineTrace,player,traced,aimed,map_pure]
    | some actor =>
      have elsewhere : actor ≠ .chest ref := fun same => unleft traced (by rw [aimed,same])
      simp only [manageLineTrace,player,traced,aimed,hint_withChest world ref chest false actor elsewhere,
        map_bind,bind_map_left,map_pure]
      rfl

theorem tick_withChest (E : Engine F) (view : PlayerView F)
    (unseen : world.player.lineTrace view ≠ .hitInteractable (.chest ref))
    (unleft : world.player.lineTrace view = .hitOther →
      world.player.lastHitInteractableActor ≠ some (.chest ref)) :
    (world.withChest ref chest).tick E view = (·.withChest ref chest) <$> world.tick E view := by
  have managed := manageLineTrace_withChest {world with player := world.player.aim view} ref chest view
    unseen unleft
  have split : (world.withChest ref chest).tick E view =
      (({world with player := world.player.aim view} : World F).withChest ref chest).manageLineTrace view
        >>= fun world => pure {world with player := world.player.manageThrowTrajectory E view} := rfl
  rw [split,managed,bind_map_left,tick,map_bind]
  rfl

theorem throw_withChest (E : Engine F) (location : FVector F) :
    (world.withChest ref chest).throwButtonPressed E location =
      (fun result => (result.1.withChest ref chest,result.2)) <$>
        world.throwButtonPressed E location := by
  have player : (world.withChest ref chest).player = world.player := rfl
  cases hand : world.player.ballInHand with
  | none => simp only [throwButtonPressed,player,hand,map_pure]
  | some ball =>
    simp only [throwButtonPressed,player,hand,map_bind,map_pure]
    rfl

theorem chestTick_withChest (E : Engine F) (there : Nat) (deltaTime : F) (different : ref ≠ there) :
    (world.withChest ref chest).chestTick E there deltaTime =
      (·.withChest ref chest) <$> world.chestTick E there deltaTime := by
  simp only [chestTick,map_bind,map_pure,withChest,Pool.read_write_of_ne _ _ _ _ different,
    Pool.write_comm _ _ _ _ _ different]

theorem chestTimer_withChest (there : Nat) (different : ref ≠ there) :
    (world.withChest ref chest).chestTimer there =
      (fun result => (result.1.withChest ref chest,result.2)) <$> world.chestTimer there := by
  simp only [chestTimer,withChest,Pool.read_write_of_ne _ _ _ _ different,map_bind]
  apply bind_congr
  intro other
  cases other.fireTimer.2 with
  | none => simp only [map_pure,Pool.write_comm _ _ _ _ _ different]
  | some dropped => simp only [map_bind,map_pure,Pool.write_comm _ _ _ _ _ different]

theorem chase_withChest (task : UBTTaskChaseBall F) (index : Nat) (distance : F) :
    (world.withChest ref chest).chaseBall task index distance =
      (fun result => (result.1.withChest ref chest,result.2)) <$>
        world.chaseBall task index distance := by
  unfold chaseBall
  rw [map_bind]
  apply bind_congr
  intro retriever
  split
  · rfl
  · simp only [map_bind]
    apply bind_congr
    intro board
    apply bind_congr
    intro key
    apply bind_congr
    intro ball
    split
    · simp only [map_bind]
      rfl
    · rfl

theorem give_withChest (task : UBTTaskGIveBallToPlayer F) (index : Nat) (distance : F) :
    (world.withChest ref chest).giveBallToPlayer task index distance =
      (fun result => (result.1.withChest ref chest,result.2)) <$>
        world.giveBallToPlayer task index distance := by
  unfold giveBallToPlayer
  rw [map_bind]
  apply bind_congr
  intro retriever
  split
  · rfl
  · simp only [map_bind]
    apply bind_congr
    intro board
    apply bind_congr
    intro thrower
    split
    · simp only [map_bind]
      rfl
    · rfl

/-- A step that tells a chest nothing neither depends on the chest nor changes it. -/
theorem step_withChest (E : Engine F) (event : Event F) (told : AChest F) (calls : List GameCall)
    (nothing : world.chestEvent ref told calls event = none) :
    (world.withChest ref chest).step E event =
      (fun result => (result.1.withChest ref chest,result.2)) <$> world.step E event := by
  cases event with
  | tick view =>
    have unseen : world.player.lineTrace view ≠ .hitInteractable (.chest ref) := by
      intro traced
      simp [chestEvent,traced] at nothing
    have unleft : world.player.lineTrace view = .hitOther →
        world.player.lastHitInteractableActor ≠ some (.chest ref) := by
      intro traced last
      simp [chestEvent,traced,last] at nothing
    simp only [step,tick_withChest world ref chest E view unseen unleft,bind_map_left,map_bind,map_pure]
  | interactButtonPressed =>
    apply press_withChest
    intro last
    simp [chestEvent,last] at nothing
  | throwButtonPressed handSocketLocation => exact throw_withChest world ref chest E handSocketLocation
  | stopIgnoringBallTimer => rfl
  | onComponentHit ball spawned => exact hit_withChest world ref chest E ball spawned
  | chestTick there deltaTime =>
    have different : ref ≠ there := by
      intro same
      simp [chestEvent,same] at nothing
    simp only [step,chestTick_withChest world ref chest E there deltaTime different,bind_map_left,map_bind,
      map_pure]
  | chestTimer there =>
    apply chestTimer_withChest
    intro same
    simp [chestEvent,same] at nothing
  | chaseBall retriever task distance =>
    simp only [step,chase_withChest,bind_map_left,map_bind,map_pure]
  | giveBallToPlayer retriever task distance =>
    simp only [step,give_withChest,bind_map_left,map_bind,map_pure]

theorem enabled_withChest (event : Event F) (told : AChest F) (calls : List GameCall)
    (nothing : world.chestEvent ref told calls event = none) :
    (world.withChest ref chest).enabled event = world.enabled event := by
  cases event with
  | tick view =>
    have player : (world.withChest ref chest).player = world.player := rfl
    simp only [enabled,player]
    split
    next actor traced =>
      cases actor with
      | ball ball => rfl
      | chest there => simp only [contains,withChest,Pool.isSome_read_write]
    next => rfl
  | chestTick there deltaTime => simp only [enabled,withChest,Pool.isSome_read_write]
  | chestTimer there =>
    have different : ref ≠ there := by
      intro same
      simp [chestEvent,same] at nothing
    simp only [enabled,withChest,Pool.read_write_of_ne _ _ _ _ different]
  | interactButtonPressed | throwButtonPressed | stopIgnoringBallTimer | onComponentHit | chaseBall
  | giveBallToPlayer => rfl

theorem chestEvent_withChest (event : Event F) (told other : AChest F) (calls : List GameCall)
    (nothing : world.chestEvent ref told calls event = none) :
    (world.withChest ref chest).chestEvent ref other calls event = none := by
  cases event with
  | interactButtonPressed =>
    have last : world.player.lastHitInteractableActor ≠ some (.chest ref) := by
      intro last
      simp [chestEvent,last] at nothing
    exact if_neg last
  | tick | throwButtonPressed | stopIgnoringBallTimer | onComponentHit | chestTick | chestTimer | chaseBall
  | giveBallToPlayer => exact nothing

/-- What a Tick does to the world of a chest. -/
theorem chestTick_eq (E : Engine F) (deltaTime : F) (found : world.chests.read ref = some chest) :
    world.step E (.chestTick ref deltaTime) = .ok (world.withChest ref (chest.tick E deltaTime),[]) := by
  simp [step,chestTick,found,deref,withChest,pure,Except.pure,bind,Except.bind]

/-- The Ticks of a chest are early: a moment that tells the chest nothing comes as well after them. -/
def ticksEarly (E : Engine F) (ref : Nat) : (machine E).Mover where
  early event := (frameOf ref event).isSome
  fits moment := chestMoment ref moment = none
  swap source event calls middle event' calls' target fits step early step' := by
    obtain ⟨deltaTime,frame⟩ := Option.isSome_iff_exists.mp early
    cases frameOf_eq_some ref event' deltaTime frame
    obtain ⟨present,ticked⟩ := step'
    obtain ⟨chest,here⟩ := Option.isSome_iff_exists.mp present
    have still := effect_chestPresent E _ _ _ _ (step_effect E _ _ _ _ step) ref
    rw [here] at still
    obtain ⟨old,found⟩ := Option.isSome_iff_exists.mp still.symm
    have nothing : source.chestEvent ref old calls event = none := by
      cases told : source.chestEvent ref old calls event with
      | none => rfl
      | some own => simp [chestMoment,found,here,told] at fits
    have follows := effect_follows E _ _ _ _ (step_effect E _ _ _ _ step) ref old found
    rw [nothing,Follows,here] at follows
    cases follows
    rw [chestTick_eq middle ref chest E deltaTime here] at ticked
    cases ticked
    refine ⟨source.withChest ref (chest.tick E deltaTime),⟨?_,?_⟩,⟨?_,?_⟩,?_⟩
    · simp [enabled,found]
    · exact chestTick_eq source ref chest E deltaTime found
    · exact (enabled_withChest source ref _ event chest calls nothing).trans step.1
    · rw [step_withChest source ref _ E event chest calls nothing,step.2]
      rfl
    · have untold : (source.withChest ref (chest.tick E deltaTime)).chestEvent ref
          (chest.tick E deltaTime) calls event = none :=
        chestEvent_withChest source ref _ event chest _ calls nothing
      simp only [chestMoment,read_withChest source _ ref chest found,Option.bind_eq_bind,Option.bind_some,
        read_withChest middle _ ref chest here,untold,Option.bind_none]

/-- Ticks of one chest alone are frames of it. -/
theorem frames_path (E : Engine F) {start middle : World F}
    {history : List (Machine.Moment (World F) (Event F) GameCall)}
    (path : (machine E).Path start history middle)
    (only : ∀ moment ∈ history, (frameOf ref moment.event).isSome = true)
    (found : start.chests.read ref = some chest) :
    middle = start.withChest ref
      (chest.frames E (framesOf ref history).reverse) := by
  induction path with
  | refl => exact (withChest_self start ref chest found).symm
  | next history source event calls target before step ih =>
    obtain ⟨here,earlier⟩ := List.forall_mem_cons.mp only
    obtain ⟨deltaTime,frame⟩ := Option.isSome_iff_exists.mp here
    have reached := ih earlier
    cases frameOf_eq_some ref event deltaTime frame
    have there := congrArg (·.chests.read ref) reached
    rw [read_withChest start _ ref chest found] at there
    have ticked := step.2
    rw [chestTick_eq source ref _ E deltaTime there] at ticked
    cases ticked
    rw [framesOf_cons ref history _ deltaTime frame,List.reverse_cons,reached,withChest_withChest]
    simp only [AChest.frames,List.foldl_append,List.foldl_cons,List.foldl_nil]

/-- The Ticks of a chest may come first, and everything else after them in its own order. -/
theorem ticks_ahead (E : Engine F) {start target : World F}
    {history : List (Machine.Moment (World F) (Event F) GameCall)}
    (path : (machine E).Path start history target) (found : start.chests.read ref = some chest)
    (untold : ∀ moment ∈ othersOf ref history, chestMoment ref moment = none) :
    ∃ rest, (machine E).Path (start.withChest ref (chest.frames E (framesOf ref history).reverse))
        rest target ∧ rest.map (·.label) = (othersOf ref history).map (·.label) := by
  have fit : ∀ moment ∈ history, (ticksEarly E ref).early moment.event = false →
      (ticksEarly E ref).fits moment := by
    intro moment member late
    exact untold moment (List.mem_filter.mpr ⟨member,Option.isSome_eq_false_iff.mp late⟩)
  obtain ⟨middle,early,rest,ahead,behind,_,ticks,others⟩ := (ticksEarly E ref).sort path fit
  have only : ∀ moment ∈ early, (frameOf ref moment.event).isSome = true := by
    intro moment member
    have kept := List.mem_map_of_mem (f := (·.label)) member
    rw [ticks] at kept
    exact (List.mem_filter.mp kept).2
  have reached := frames_path ref chest E ahead only found
  rw [framesOf_filter ref ticks] at reached
  subst reached
  refine ⟨rest,behind,?_⟩
  rw [others,List.filter_map,othersOf]
  congr 2
  funext moment
  exact Option.not_isSome (frameOf ref moment.event)

/-- When the engine runs the Ticks of a chest is of no consequence, as long as nothing else reaches the
chest: they may all come first, and two games in which they are spread otherwise over the same other
events end in the same world. -/
theorem tick_order (E : Engine F) (start target : World F)
    (history : List (Machine.Moment (World F) (Event F) GameCall))
    (path : (machine E).Path start history target) (ref : Nat) (chest : AChest F)
    (found : start.chests.read ref = some chest)
    (untold : ∀ moment ∈ othersOf ref history, chestMoment ref moment = none) :
    (∃ rest, (machine E).Path (start.withChest ref (chest.frames E (framesOf ref history).reverse))
        rest target ∧ rest.map (·.label) = (othersOf ref history).map (·.label)) ∧
    ∀ history' target', (machine E).Path start history' target' →
      (∀ moment ∈ othersOf ref history', chestMoment ref moment = none) →
      framesOf ref history' = framesOf ref history →
      (othersOf ref history').map (·.event) = (othersOf ref history).map (·.event) →
      (othersOf ref history').map (·.calls) = (othersOf ref history).map (·.calls) ∧ target' = target := by
  obtain ⟨rest,onward,same⟩ := ticks_ahead ref chest E path found untold
  refine ⟨⟨rest,onward,same⟩,?_⟩
  intro history' target' path' untold' frames events
  obtain ⟨rest',onward',same'⟩ := ticks_ahead ref chest E path' found untold'
  have told : rest'.map (·.event) = rest.map (·.event) := by
    have one := congrArg (List.map Prod.fst) same
    have other := congrArg (List.map Prod.fst) same'
    rw [List.map_map,List.map_map] at one other
    exact other.trans (events.trans one.symm)
  rw [frames] at onward'
  obtain ⟨rfl,rfl⟩ := onward.deterministic (Machine.ofFallible_deterministic _ _ _) _ _ onward' told
  refine ⟨?_,rfl⟩
  have labels := congrArg (List.map Prod.snd) (same'.symm.trans same)
  rwa [List.map_map,List.map_map] at labels

/-- A level of two chests that have both been asked to open. -/
def twoChests : World ℚ :=
  level (.new none none "CharacterMesh" "Pawn") [] []
    (List.replicate 2 {AChest.new none none with bTestBoolRotation := true})

theorem tick_order_two : ∃ history target history', (machine Engine.exact).Path twoChests history target ∧
    history.map (·.event) = [.chestTick 0 (1/20),.chestTick 1 (1/10),.chestTick 0 (1/10)] ∧
    (machine Engine.exact).Path twoChests history' target ∧
    history'.map (·.event) = [.chestTick 1 (1/10),.chestTick 0 (1/20),.chestTick 0 (1/10)] := by
  have start : (machine Engine.exact).Path twoChests [] twoChests := .refl
  have first := Machine.Path.next _ _ (.chestTick 0 (1/10)) _ _ start ⟨rfl,rfl⟩
  have between := Machine.Path.next _ _ (.chestTick 1 (1/10)) _ _ first ⟨rfl,rfl⟩
  have spread := Machine.Path.next _ _ (.chestTick 0 (1/20)) _ _ between ⟨rfl,rfl⟩
  have second := Machine.Path.next _ _ (.chestTick 0 (1/20)) _ _ first ⟨rfl,rfl⟩
  have ahead := Machine.Path.next _ _ (.chestTick 1 (1/10)) _ _ second ⟨rfl,rfl⟩
  have law := tick_order Engine.exact _ _ _ spread 0 _ rfl (List.forall_mem_singleton.mpr rfl)
  obtain ⟨_,same⟩ := law.2 _ _ ahead (List.forall_mem_singleton.mpr rfl) rfl rfl
  exact ⟨_,_,_,spread,rfl,same ▸ ahead,rfl⟩

end World

end RetrievingAI
