import RetrievingAI.Effect
import RetrievingAI.Lib.Countdown

/-! The player's collision around a throw. The timer runs exactly as long as it should, but what its
callback puts back is `CharacterMesh` on both components, whatever they had before. -/
namespace RetrievingAI

variable {F : Type}

/-- The profiles, the timer and its counter are untouched. -/
structure APlayerCharacter.SameCollision (player after : APlayerCharacter F) : Prop where
  mesh : after.meshProfile = player.meshProfile
  capsule : after.capsuleProfile = player.capsuleProfile
  timer : after.timerHandle = player.timerHandle
  tracker : after.callTracker = player.callTracker
  calls : after.stopIgnoringBallRemainingCalls = player.stopIgnoringBallRemainingCalls

theorem APlayerCharacter.looked_sameCollision [EngineFloat F] (E : Engine F)
    (player : APlayerCharacter F) (view : PlayerView F) (last : Option InteractableRef) :
    player.SameCollision (player.looked E view last) := by
  unfold looked manageThrowTrajectory
  split <;> exact ⟨rfl,rfl,rfl,rfl,rfl⟩

theorem APlayerCharacter.stopIgnoringBallTimer_out (player : APlayerCharacter F)
    (out : player.callTracker - 1 ≤ 0) : player.stopIgnoringBallTimer = {player with
      callTracker := player.callTracker - 1
      meshProfile := "CharacterMesh"
      capsuleProfile := "CharacterMesh"
      timerHandle := none} := by
  unfold stopIgnoringBallTimer
  exact if_pos out

theorem APlayerCharacter.stopIgnoringBallTimer_on (player : APlayerCharacter F)
    (on : ¬ player.callTracker - 1 ≤ 0) :
    player.stopIgnoringBallTimer = {player with callTracker := player.callTracker - 1} := by
  unfold stopIgnoringBallTimer
  exact if_neg on

def GameCall.isThrow : GameCall → Bool
  | .throw _ => true
  | _ => false

def Event.firesTimer : Event F → Bool
  | .stopIgnoringBallTimer => true
  | _ => false

namespace World

/-- The firings of the timer since the most recent throw, the most recent moment first. -/
def firings : List (Machine.Moment (World F) (Event F) GameCall) → Nat
  | [] => 0
  | moment :: earlier =>
    if moment.calls.any GameCall.isThrow then 0
    else if moment.event.firesTimer then firings earlier + 1
    else firings earlier

/-- The profiles and the preset of the timer at the start of play. -/
structure Equipped (mesh capsule : FName) (calls : Int32) (world : World F) : Prop where
  mesh : world.player.meshProfile = mesh
  capsule : world.player.capsuleProfile = capsule
  calls : world.player.stopIgnoringBallRemainingCalls = calls

def Ignoring (world : World F) : Prop :=
  world.player.timerHandle.isSome = true →
    world.player.meshProfile = "IgnoreBall" ∧ world.player.capsuleProfile = "IgnoreBall"

def Restored (mesh capsule : FName) (world : World F) : Prop :=
  world.player.timerHandle = none →
    world.player.meshProfile = mesh ∧ world.player.capsuleProfile = capsule

/-- A running timer stops at the firing its preset asks for, and at no other step. -/
def StopsOnTime (calls : Int32)
    (history : List (Machine.Moment (World F) (Event F) GameCall)) : Prop :=
  ∀ moment earlier, (moment :: earlier) <:+ history →
    moment.source.player.timerHandle.isSome = true →
    (moment.target.player.timerHandle = none ↔ moment.event.firesTimer = true ∧
      (firings (moment :: earlier) : Int) = max 1 calls.toInt)

/-- The collision of the player changes only for the time of the timer. -/
structure ChangesBriefly (mesh capsule : FName) (calls : Int32)
    (history : List (Machine.Moment (World F) (Event F) GameCall)) (world : World F) : Prop where
  ignoring : Machine.Throughout Ignoring history world
  stops : StopsOnTime calls history
  restored : Machine.Throughout (Restored mesh capsule) history world

/-- The timer fires for the last time. -/
def RunsOut (world : World F) : Event F → Prop
  | .stopIgnoringBallTimer => world.player.callTracker - 1 ≤ 0
  | _ => False

/-- What holds after a history of a game whose timer is preset to `calls`. -/
structure Timed (calls : Int32) (history : List (Machine.Moment (World F) (Event F) GameCall))
    (world : World F) : Prop where
  preset : world.player.stopIgnoringBallRemainingCalls = calls
  ignoring : world.Ignoring
  counting : world.player.timerHandle.isSome = true →
    Countdown calls world.player.callTracker (firings history)

theorem firings_of_quiet (source target : World F) (event : Event F) (calls : List GameCall)
    (history : List (Machine.Moment (World F) (Event F) GameCall))
    (silent : calls.any GameCall.isThrow = false) (idle : event.firesTimer = false) :
    firings (⟨source,event,calls,target⟩ :: history) = firings history := by
  simp [firings,silent,idle]

variable [EngineFloat F]

/-- Only a throw and the timer itself touch the player's collision. -/
theorem effect_collision (E : Engine F) (world target : World F) (event : Event F)
    (calls : List GameCall) (effect : Effect E world event target calls) :
    (world.player.SameCollision target.player ∧ calls.any GameCall.isThrow = false ∧
      event.firesTimer = false) ∨
    (event.firesTimer = false ∧ ∃ ref hud, calls = [.throw ref] ∧
      target.player = world.player.threw hud) ∨
    (event = .stopIgnoringBallTimer ∧ calls = [] ∧ world.player.timerHandle.isSome = true ∧
      target.player = world.player.stopIgnoringBallTimer) := by
  cases effect with
  | lookBall view | lookChest view | leaveBall view | leaveChest view | lookOn view =>
    exact Or.inl ⟨world.player.looked_sameCollision E view _,rfl,rfl⟩
  | throw location ref ball hud => exact Or.inr (Or.inl ⟨rfl,ref,hud,rfl,rfl⟩)
  | stopIgnoring running => exact Or.inr (Or.inr ⟨rfl,rfl,running,rfl⟩)
  | pressNothing | pressBlocked | pickUp | pressChest | throwNothing | hitNothing | land | answer
  | strand | chestTick | chestWait | chestDrop | chaseOn | reach | carryOn | deliver =>
    exact Or.inl ⟨⟨rfl,rfl,rfl,rfl,rfl⟩,rfl,rfl⟩

theorem step_timed (E : Engine F) (calls : Int32) (large : calls ≠ Int32.minValue)
    (history : List (Machine.Moment (World F) (Event F) GameCall)) (source target : World F)
    (event : Event F) (made : List GameCall) (effect : Effect E source event target made)
    (timed : source.Timed calls history) :
    target.Timed calls (⟨source,event,made,target⟩ :: history) := by
  rcases effect_collision E source target event made effect with
    ⟨same,silent,idle⟩ | ⟨idle,ref,hud,rfl,thrown⟩ | ⟨rfl,rfl,running,fired⟩
  · refine ⟨same.calls.trans timed.preset,?_,?_⟩
    · intro runs
      rw [same.timer] at runs
      rw [same.mesh,same.capsule]
      exact timed.ignoring runs
    · intro runs
      rw [same.timer] at runs
      rw [same.tracker,firings_of_quiet _ _ _ _ _ silent idle]
      exact timed.counting runs
  · refine ⟨?_,?_,?_⟩
    · rw [thrown]
      exact timed.preset
    · intro _
      rw [thrown]
      exact ⟨rfl,rfl⟩
    · intro _
      have reset : firings (⟨source,event,[.throw ref],target⟩ :: history) = 0 := rfl
      rw [thrown,reset]
      change Countdown calls source.player.stopIgnoringBallRemainingCalls 0
      rw [timed.preset]
      exact .start calls
  · have counting := timed.counting running
    have next : firings (⟨source,.stopIgnoringBallTimer,[],target⟩ :: history) = firings history + 1 := rfl
    by_cases out : source.player.callTracker - 1 ≤ 0
    · rw [source.player.stopIgnoringBallTimer_out out] at fired
      refine ⟨?_,?_,?_⟩
      · rw [fired]
        exact timed.preset
      · intro runs
        rw [fired] at runs
        contradiction
      · intro runs
        rw [fired] at runs
        contradiction
    · rw [source.player.stopIgnoringBallTimer_on out] at fired
      refine ⟨?_,?_,?_⟩
      · rw [fired]
        exact timed.preset
      · intro _
        rw [fired]
        exact timed.ignoring running
      · intro _
        rw [fired,next]
        exact counting.next large out

theorem step_stops (E : Engine F) (calls : Int32) (large : calls ≠ Int32.minValue)
    (history : List (Machine.Moment (World F) (Event F) GameCall)) (source target : World F)
    (event : Event F) (made : List GameCall) (effect : Effect E source event target made)
    (timed : source.Timed calls history) (running : source.player.timerHandle.isSome = true) :
    target.player.timerHandle = none ↔ event.firesTimer = true ∧
      (firings (⟨source,event,made,target⟩ :: history) : Int) = max 1 calls.toInt := by
  rcases effect_collision E source target event made effect with
    ⟨same,_,idle⟩ | ⟨idle,ref,hud,rfl,thrown⟩ | ⟨rfl,rfl,_,fired⟩
  · rw [same.timer,idle]
    apply iff_of_false
    · exact Option.isSome_iff_ne_none.mp running
    · simp
  · rw [thrown,idle]
    apply iff_of_false
    · simp [APlayerCharacter.threw]
    · simp
  · have next : firings (⟨source,.stopIgnoringBallTimer,[],target⟩ :: history) = firings history + 1 := rfl
    have last := (timed.counting running).stops_iff large
    have rings : (Event.stopIgnoringBallTimer : Event F).firesTimer = true := rfl
    rw [next,← last,fired,and_iff_right rings]
    by_cases out : source.player.callTracker - 1 ≤ 0
    · rw [source.player.stopIgnoringBallTimer_out out]
      exact iff_of_true rfl out
    · rw [source.player.stopIgnoringBallTimer_on out]
      exact iff_of_false (Option.isSome_iff_ne_none.mp running) out

/-- Only the last firing can put back other profiles than those of the start. -/
theorem effect_restored (E : Engine F) (mesh capsule : FName) (world target : World F)
    (event : Event F) (calls : List GameCall) (effect : Effect E world event target calls)
    (restored : world.Restored mesh capsule) : target.Restored mesh capsule ↔
      (world.RunsOut event → mesh = "CharacterMesh" ∧ capsule = "CharacterMesh") := by
  rcases effect_collision E world target event calls effect with
    ⟨same,_,idle⟩ | ⟨idle,ref,hud,_,thrown⟩ | ⟨rfl,_,running,fired⟩
  · apply iff_of_true
    · intro none
      rw [same.timer] at none
      rw [same.mesh,same.capsule]
      exact restored none
    · intro out
      cases event <;> simp_all [RunsOut,Event.firesTimer]
  · apply iff_of_true
    · intro none
      rw [thrown] at none
      contradiction
    · intro out
      cases event <;> simp_all [RunsOut,Event.firesTimer]
  · by_cases out : world.player.callTracker - 1 ≤ 0
    · rw [world.player.stopIgnoringBallTimer_out out] at fired
      constructor
      · intro kept _
        have now := kept (by rw [fired])
        rw [fired] at now
        exact ⟨now.1.symm,now.2.symm⟩
      · intro plain _
        obtain ⟨first,second⟩ := plain out
        rw [fired,first,second]
        exact ⟨rfl,rfl⟩
    · rw [world.player.stopIgnoringBallTimer_on out] at fired
      apply iff_of_true
      · intro none
        rw [fired] at none
        rw [show world.player.timerHandle = _ from none] at running
        contradiction
      · intro ends
        exact absurd ends out

theorem init_timed (mesh capsule : FName) (calls : Int32) (world : World F) (initial : world.Init)
    (equipped : world.Equipped mesh capsule calls) : world.Timed calls [] := by
  have idle := (start_player world initial.player).timer
  refine ⟨equipped.calls,?_,?_⟩
  · intro runs
    rw [idle] at runs
    contradiction
  · intro runs
    rw [idle] at runs
    contradiction

theorem run_timed (E : Engine F) {mesh capsule : FName} {calls : Int32}
    (large : calls ≠ Int32.minValue)
    {history : List (Machine.Moment (World F) (Event F) GameCall)} {world : World F}
    (run : ((machine E).starting (Equipped mesh capsule calls)).Run history world) :
    world.Timed calls history := by
  induction run with
  | start world begins => exact init_timed mesh capsule calls world begins.1 begins.2
  | next history source event made target run step ih =>
    exact step_timed E calls large history source target event made (step_effect E _ _ _ _ step) ih

/-- The player's collision changes only for the time of the timer exactly when both components
started on `CharacterMesh` or the timer never runs out. -/
theorem collision_run (E : Engine F) (mesh capsule : FName) (calls : Int32)
    (large : calls ≠ Int32.minValue)
    (history : List (Machine.Moment (World F) (Event F) GameCall)) (world : World F)
    (run : ((machine E).starting (Equipped mesh capsule calls)).Run history world) :
    ChangesBriefly mesh capsule calls history world ↔
      ∀ moment ∈ history, moment.source.RunsOut moment.event →
        mesh = "CharacterMesh" ∧ capsule = "CharacterMesh" := by
  have initial : ∀ start, ((machine E).starting (Equipped mesh capsule calls)).Init start →
      start.Restored mesh capsule := by
    intro start begins _
    exact ⟨begins.2.mesh,begins.2.capsule⟩
  have decided : ∀ source event made target, True → source.Restored mesh capsule →
      ((machine E).starting (Equipped mesh capsule calls)).Step source event made target →
      (target.Restored mesh capsule ↔
        (source.RunsOut event → mesh = "CharacterMesh" ∧ capsule = "CharacterMesh")) := by
    intro source event made target _ kept step
    exact effect_restored E mesh capsule source target event made (step_effect E _ _ _ _ step) kept
  have restored := Machine.Run.exact (fun _ _ => trivial) initial decided run
  rw [← restored]
  constructor
  · intro brief
    exact brief.restored
  · intro kept
    refine ⟨⟨(run_timed E large run).ignoring,?_⟩,?_,kept⟩
    · intro moment member
      obtain ⟨⟨earlier,reached⟩,_⟩ := run.step_of_mem moment member
      exact (run_timed E large reached).ignoring
    · intro moment earlier taken running
      obtain ⟨before,step⟩ := run.moment moment earlier taken
      exact step_stops E calls large earlier _ _ _ _ (step_effect E _ _ _ _ step)
        (run_timed E large before) running

theorem collision_run_plain : ∃ history world,
    ((machine Engine.exact).starting (Equipped "CharacterMesh" "CharacterMesh" 1)).Run history world ∧
      history.map (·.event) = [.stopIgnoringBallTimer,.throwButtonPressed .zeroVector,
        .interactButtonPressed,.tick (.tracing (.hitInteractable (.ball 0)))] ∧
      ChangesBriefly "CharacterMesh" "CharacterMesh" 1 history world := by
  have start := Machine.Run.start
    (M := (machine Engine.exact).starting (Equipped "CharacterMesh" "CharacterMesh" 1))
    (level (.new (some ⟨none⟩) none "CharacterMesh" "CharacterMesh") [] [⟨none,none⟩] [])
    ⟨level_init _ _ _ _ (APlayerCharacter.new_constructed _ _ _ _) (by simp),⟨rfl,rfl,rfl⟩⟩
  have aimed := Machine.Run.next _ _ (.tick (.tracing (.hitInteractable (.ball 0)))) _ _ start ⟨rfl,rfl⟩
  have picked := Machine.Run.next _ _ .interactButtonPressed _ _ aimed ⟨rfl,rfl⟩
  have thrown := Machine.Run.next _ _ (.throwButtonPressed .zeroVector) _ _ picked ⟨rfl,rfl⟩
  have fired := Machine.Run.next _ _ .stopIgnoringBallTimer _ _ thrown ⟨rfl,rfl⟩
  refine ⟨_,_,fired,rfl,(collision_run Engine.exact _ _ 1 (by decide) _ _ fired).mpr ?_⟩
  intro moment member out
  exact ⟨rfl,rfl⟩

/-- A character whose capsule starts on `Pawn` gets it back as `CharacterMesh`. -/
theorem pawnCapsule_lost : ∃ history world,
    ((machine Engine.exact).starting (Equipped "CharacterMesh" "Pawn" 1)).Run history world ∧
      history.map (·.event) = [.stopIgnoringBallTimer,.throwButtonPressed .zeroVector,
        .interactButtonPressed,.tick (.tracing (.hitInteractable (.ball 0)))] ∧
      ¬ ChangesBriefly "CharacterMesh" "Pawn" 1 history world := by
  have start := Machine.Run.start
    (M := (machine Engine.exact).starting (Equipped "CharacterMesh" "Pawn" 1))
    (ballLevel 1) ⟨(ballLevel_init 1).1,⟨rfl,rfl,rfl⟩⟩
  have aimed := Machine.Run.next _ _ (.tick (.tracing (.hitInteractable (.ball 0)))) _ _ start ⟨rfl,rfl⟩
  have picked := Machine.Run.next _ _ .interactButtonPressed _ _ aimed ⟨rfl,rfl⟩
  have thrown := Machine.Run.next _ _ (.throwButtonPressed .zeroVector) _ _ picked ⟨rfl,rfl⟩
  have fired := Machine.Run.next _ _ .stopIgnoringBallTimer _ _ thrown ⟨rfl,rfl⟩
  refine ⟨_,_,fired,rfl,?_⟩
  intro brief
  have capsule : "CharacterMesh" = "Pawn" := (brief.restored.1 rfl).2
  simp at capsule

end World

end RetrievingAI
