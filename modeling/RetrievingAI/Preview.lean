import RetrievingAI.Launch
import RetrievingAI.Changes

/-! The arc in front of the player. It is drawn exactly while a ball is in hand that a Tick has found
there, it is the arc of the last Tick, and the throw follows it whatever happened since that Tick. -/
namespace RetrievingAI

variable {F : Type} [EngineFloat F]

namespace World

/-- The view of the last Tick, unless the hand has been empty since. -/
def previewed : List (Machine.Moment (World F) (Event F) GameCall) → Option (PlayerView F)
  | [] => none
  | moment :: earlier =>
    if moment.target.player.ballInHand.isNone then none
    else moment.event.view.or (previewed earlier)

/-- The arc is the one of a view, and of no view when none is drawn. -/
structure Drawn (E : Engine F) (world : World F) (seen : Option (PlayerView F)) : Prop where
  active : world.player.niagaraComponent.active = seen.isSome
  held : seen.isSome = true → world.player.ballInHand.isSome = true
  aimed : ∀ view, seen = some view → world.player.throwEnd = view.viewCameraForward.scale ((9999 : ℕ) : F)
  arc : ∀ view, seen = some view → world.player.niagaraComponent.positions =
    view.predictProjectilePath view.handSocketLocation (world.launchVelocity E view)

theorem Drawn.empty {E : Engine F} {world : World F}
    (inactive : world.player.niagaraComponent.active = false) : world.Drawn E none := by
  refine ⟨inactive,?_,?_,?_⟩
  · intro seen
    contradiction
  · intro view seen
    contradiction
  · intro view seen
    contradiction

theorem init_drawn (E : Engine F) (world : World F) (initial : world.Init) : world.Drawn E none := by
  obtain ⟨player,platforms,_,same⟩ := initial.player
  have inactive : world.player.niagaraComponent.active = false := by
    rw [same]
    unfold APlayerCharacter.beginPlay
    cases player.playerHudClass <;> rfl
  exact .empty inactive

theorem Drawn.idle {E : Engine F} {world : World F} {seen : Option (PlayerView F)}
    (drawn : world.Drawn E seen) (empty : world.player.ballInHand = none) :
    world.player.niagaraComponent.active = false := by
  rw [drawn.active]
  cases seen with
  | none => rfl
  | some view =>
    have held := drawn.held rfl
    rw [empty] at held
    contradiction

/-- Whatever is no Tick leaves the arc as long as it leaves a ball in the hand. -/
theorem Drawn.keep {E : Engine F} {source : World F} {seen : Option (PlayerView F)}
    (drawn : source.Drawn E seen) (target : World F)
    (arc : target.player.niagaraComponent = source.player.niagaraComponent)
    (aim : target.player.throwEnd = source.player.throwEnd)
    (strength : target.player.throwStrength = source.player.throwStrength)
    (hand : target.player.ballInHand = none → source.player.ballInHand = none) :
    target.Drawn E (if target.player.ballInHand.isNone then none else seen) := by
  have launch : ∀ view, target.launchVelocity E view = source.launchVelocity E view := by
    intro view
    rw [launchVelocity,launchVelocity,strength]
    rfl
  cases holds : target.player.ballInHand with
  | none =>
    refine .empty ?_
    rw [arc]
    exact drawn.idle (hand holds)
  | some ref =>
    refine ⟨?_,?_,?_,?_⟩
    · rw [arc]
      exact drawn.active
    · intro _
      rw [holds]
      rfl
    · intro view here
      rw [aim]
      exact drawn.aimed view here
    · intro view here
      rw [arc,launch]
      exact drawn.arc view here

theorem step_drawn (E : Engine F) (source target : World F) (event : Event F) (calls : List GameCall)
    (history : List (Machine.Moment (World F) (Event F) GameCall))
    (change : source.player.Change E event target.player)
    (drawn : source.Drawn E (previewed history)) :
    target.Drawn E (previewed (⟨source,event,calls,target⟩ :: history)) := by
  rw [previewed]
  generalize after : target.player = player at change
  cases change with
  | look view last =>
    obtain ⟨_,hand,_⟩ := source.player.looked_keeps E view last
    rw [hand]
    cases holds : source.player.ballInHand with
    | none =>
      refine .empty ?_
      rw [after,source.player.looked_empty E view last holds]
      exact drawn.idle holds
    | some ref =>
      have held : source.player.ballInHand.isSome = true := by rw [holds]; rfl
      obtain ⟨active,aimed,strength⟩ := source.player.looked_held E view last held
      refine ⟨by rw [after]; exact active,?_,?_,?_⟩
      · intro _
        rw [after,hand]
        exact held
      · intro seen here
        cases here
        rw [after]
        exact aimed
      · intro seen here
        cases here
        have launch : target.launchVelocity E view = source.launchVelocity E view := by
          rw [launchVelocity,launchVelocity,after,strength]
          rfl
        rw [after,launch]
        exact source.player.looked_previews E view last held
  | take ref hud display =>
    have kept := drawn.keep target (by rw [after]) (by rw [after]) (by rw [after])
      (by simp [after])
    rwa [after] at kept
  | throw location hud held display =>
    refine .empty ?_
    rw [after]
    rfl
  | stopIgnoring =>
    obtain ⟨arc,aim,strength,_⟩ := source.player.stopIgnoringBallTimer_aims
    obtain ⟨hand,_⟩ := source.player.stopIgnoringBallTimer_keeps
    have kept := drawn.keep target (by rw [after,arc]) (by rw [after,aim])
      (by rw [after,strength]) (by rw [after,hand]; exact id)
    rwa [after] at kept
  | same event unseen =>
    have kept := drawn.keep target (by rw [after]) (by rw [after]) (by rw [after])
      (by rw [after]; exact id)
    rw [after] at kept
    rw [unseen]
    exact kept

theorem run_drawn (E : Engine F) {history : List (Machine.Moment (World F) (Event F) GameCall)}
    {world : World F} (run : (machine E).Run history world) : world.Drawn E (previewed history) := by
  induction run with
  | start world begins => exact init_drawn E world begins
  | next history source event calls target run step ih =>
    exact step_drawn E source target event calls history
      (effect_playerChange E _ _ _ _ (step_effect E _ _ _ _ step)) ih

/-- The preview is true. The arc is drawn exactly when the hand has held a ball since a Tick, it is the
arc predicted in the last Tick, and a throw from where that Tick found the hand gives the ball exactly
the velocity the arc was predicted for, whatever was done since. -/
theorem preview_throw (E : Engine F) (history : List (Machine.Moment (World F) (Event F) GameCall))
    (world : World F) (run : (machine E).Run history world) :
    (world.player.niagaraComponent.active = true ↔ ∃ view, previewed history = some view) ∧
    ∀ view, previewed history = some view →
      world.player.niagaraComponent.positions =
        view.predictProjectilePath view.handSocketLocation (world.launchVelocity E view) ∧
      ∃ ref, world.player.ballInHand = some ref ∧
        ∀ calls after, (machine E).Step world (.throwButtonPressed view.handSocketLocation) calls after →
          calls = [.throw ref] ∧ after.player.niagaraComponent.active = false ∧
          ∃ ball, after.balls.read ref = some ball ∧
            ball.ballMesh.physicsLinearVelocity = world.launchVelocity E view := by
  have drawn := run_drawn E run
  refine ⟨?_,?_⟩
  · rw [drawn.active,Option.isSome_iff_exists]
  · intro view seen
    obtain ⟨ref,hand⟩ := Option.isSome_iff_exists.mp (drawn.held (by rw [seen]; rfl))
    refine ⟨drawn.arc view seen,ref,hand,?_⟩
    intro calls after step
    cases step_effect E _ _ _ _ step with
    | throwNothing location empty =>
      rw [hand] at empty
      contradiction
    | throw location other ball hud held found display =>
      rw [hand] at held
      cases held
      refine ⟨rfl,rfl,_,Pool.read_write_self _ _ _ _ found,?_⟩
      simp [ABall.launched,launchVelocity,APlayerCharacter.throwDirection,drawn.aimed view seen,
        APlayerCharacter.aim]

theorem preview_throw_again : ∃ history world after ball, (machine Engine.exact).Run history world ∧
    history.map (·.event) = [.interactButtonPressed,.tick (.standing .zeroVector),.interactButtonPressed,
      .tick (.tracing (.hitInteractable (.ball 0)))] ∧
    world.player.niagaraComponent.active = true ∧
    (machine Engine.exact).Step world (.throwButtonPressed .zeroVector) [.throw 0] after ∧
    after.balls.read 0 = some ball ∧
    ball.ballMesh.physicsLinearVelocity = world.launchVelocity Engine.exact (.standing .zeroVector) := by
  have start := Machine.Run.start (M := machine Engine.exact) _ (ballLevel_init 1).1
  have aimed := Machine.Run.next _ _ (.tick (.tracing (.hitInteractable (.ball 0)))) _ _ start ⟨rfl,rfl⟩
  have taken := Machine.Run.next _ _ .interactButtonPressed _ _ aimed ⟨rfl,rfl⟩
  have drawn := Machine.Run.next _ _ (.tick (.standing .zeroVector)) _ _ taken ⟨rfl,rfl⟩
  have again := Machine.Run.next _ _ .interactButtonPressed _ _ drawn ⟨rfl,rfl⟩
  obtain ⟨active,exactly⟩ := preview_throw Engine.exact _ _ again
  obtain ⟨_,ref,held,follows⟩ := exactly (.standing .zeroVector) rfl
  cases held
  obtain ⟨_,_,ball,found,launch⟩ := follows [.throw 0] _ ⟨rfl,rfl⟩
  exact ⟨_,_,_,ball,again,rfl,active.mpr ⟨_,rfl⟩,⟨rfl,rfl⟩,found,launch⟩

end World

end RetrievingAI
