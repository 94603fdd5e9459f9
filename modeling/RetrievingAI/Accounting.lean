import RetrievingAI.Defaults
import RetrievingAI.Ownership

/-! Fetch accounting of a staffed game, by refinement into the fetch game whose thrown balls are
always answered. -/
namespace RetrievingAI

variable {F : Type}

theorem GameCall.count_observed (calls : List GameCall) (call : GameCall)
    (kept : call.observed = some call) : (calls.filterMap GameCall.observed).count call = calls.count call := by
  induction calls with
  | nil => rfl
  | cons head calls ih =>
    cases head with
    | interaction actor =>
      have other : GameCall.interaction actor ≠ call := by
        intro same
        subst same
        contradiction
      have dropped : (GameCall.interaction actor).observed = none := rfl
      rw [List.filterMap_cons_none dropped,List.count_cons_of_ne other,ih]
    | throw ball | spawnAI ball | deliver ball | dropBall ball =>
      simp [GameCall.observed,List.count_cons,ih]

namespace World

/-- The ball flies from a throw, so that a retriever is owed when it lands. -/
def thrownFlight (ball : ABall F) : Bool := ball.bBallThrown && ball.ballThrower.isSome

theorem Represents.pending_eq {world : World F} {phases : Nat → FetchPhase}
    (rep : world.Represents phases) (ref : Nat) (ball : ABall F)
    (found : world.balls.read ref = some ball) :
    (phases ref).pending = if thrownFlight ball then 1 else 0 := by
  have here := rep.inFetch ref ball found
  unfold thrownFlight
  rw [here.thrown]
  cases phase : phases ref with
  | flying flown =>
    rw [here.thrower flown phase]
    cases flown <;> rfl
  | absent | resting | inHand | chased | carried | stranded => rfl

theorem Staffed.answered {world : World F} (staffed : world.Staffed) (event : Event F)
    (phases : Nat → FetchPhase) (move : FetchEvent) (phase : FetchPhase)
    (moved : move.move (phases move.ball) = some phase) (explained : world.Explains event phases move) :
    move.Answered phases := by
  cases move with
  | land ref =>
    simp only [FetchEvent.ball] at moved
    cases flying : phases ref with
    | flying flown =>
      cases flown with
      | false => exact flying
      | true =>
        obtain ⟨ball,found,classless⟩ := explained flying
        have calls := staffed.balls ref ball found
        simp [classless] at calls
    | absent | resting | inHand | chased | carried | stranded =>
      rw [flying] at moved
      contradiction
  | strand ref =>
    have runs := staffed.tree
    simp [explained.2.1] at runs
  | pickUp | throw | answer | reach | deliver | drop => trivial

variable [EngineFloat F]

theorem effect_staffed (E : Engine F) (world target : World F) (event : Event F)
    (calls : List GameCall) (effect : Effect E world event target calls)
    (staffed : world.Staffed) : target.Staffed := by
  have kept := effect_keepsDefaults E world target event calls effect
  refine ⟨?_,?_,?_⟩
  · rw [kept.tree]
    exact staffed.tree
  · apply kept.balls_all (P := fun aiCharacterClass _ => aiCharacterClass.isSome = true)
    · intro aiCharacterClass earlier later alike holds
      exact holds
    · exact staffed.balls
    · intro ref chest found ballClass named
      have called := staffed.chests ref chest found
      simpa [named] using called
  · apply kept.chests_all (P := fun ballBPClass _ => ballBPClass.all (·.aiCharacterClass.isSome) = true)
    · intro ballBPClass earlier later alike holds
      exact holds
    · exact staffed.chests

/-- The staffed game refines the fetch game in which every landing throw is answered. -/
def fetches (E : Engine F) : Machine.Simulation ((machine E).starting Staffed)
    (fetchGame.guard fun phases event => event.Answered phases) GameCall.observed where
  R world phases := world.Represents phases ∧ world.Staffed
  init world begins := by
    refine ⟨world.startPhases,?_,init_represents world begins.1,begins.2⟩
    intro ref
    unfold startPhases
    split
    · exact Or.inr rfl
    · exact Or.inl rfl
  step source event calls target phases related step := by
    obtain ⟨rep,staffed⟩ := related
    have effect := step_effect E source target event calls step
    have kept := effect_staffed E source target event calls effect staffed
    rcases effect_moves E source target event calls phases rep effect with
      ⟨same,silent⟩ | ⟨move,phase,moved,after,made,explained⟩
    · exact ⟨[],phases,.refl,⟨same,kept⟩,silent.symm⟩
    · have answered := staffed.answered event phases move phase moved explained
      exact ⟨_,_,.single ⟨answered,phase,moved,rfl,rfl⟩,⟨after,kept⟩,by simp [made]⟩

/-- Every throw of a ball is a delivery made, a retriever at work or a ball still in the air, and
only the landing of a throw calls a retriever. -/
theorem fetch_accounting (E : Engine F)
    (history : List (Machine.Moment (World F) (Event F) GameCall)) (world : World F)
    (run : ((machine E).starting Staffed).Run history world) (ref : Nat) (ball : ABall F)
    (found : world.balls.read ref = some ball) :
    (Machine.calls history).count (.throw ref) = (Machine.calls history).count (.deliver ref) +
      world.retrievers.count (AAICharacter.retrieves ref) + (if thrownFlight ball then 1 else 0) ∧
    (Machine.calls history).count (.throw ref) = (Machine.calls history).count (.spawnAI ref) +
      (if thrownFlight ball then 1 else 0) ∧
    ∀ spawned calls target, (machine E).Step world (.onComponentHit ref spawned) calls target →
      if thrownFlight ball then
        calls = [.spawnAI ref] ∧ target.retrievers.count (AAICharacter.retrieves ref) = 1
      else calls = [] ∧ target.retrievers = world.retrievers := by
  obtain ⟨mirrored,phases,mirror,⟨rep,staffed⟩,same⟩ := (fetches E).run run
  obtain ⟨spawns,throws⟩ := fetchGame_accounts mirrored phases mirror ref
  rw [same] at spawns throws
  rw [GameCall.count_observed _ _ rfl,GameCall.count_observed _ _ rfl] at spawns throws
  rw [Represents.pending_eq rep ref ball found] at throws
  rw [← Represents.count_retrievers rep ref] at spawns
  refine ⟨by omega,throws,?_⟩
  intro spawned calls target step
  have called := staffed.balls ref ball found
  cases step_effect E world target _ calls step with
  | hitNothing _ _ object there still =>
    rw [found] at there
    cases there
    simp [thrownFlight,still]
  | land _ _ object there thrown unanswered =>
    rw [found] at there
    cases there
    rcases unanswered with dropped | classless
    · simp [thrownFlight,dropped]
    · simp [classless] at called
  | answer _ object thrower tree retriever there thrown by_ class_ runs ready =>
    rw [found] at there
    cases there
    obtain ⟨started,alive,initialized⟩ := (E.spawned _).initialized ref _ ready
    have works := (retriever.retrieves_iff ref).mpr ⟨started,alive,initialized.ballKey⟩
    have here := rep.inFetch ref ball found
    obtain ⟨flown,flying⟩ := FetchPhase.flying_of_thrown _ (here.thrown.symm.trans thrown)
    have alone := Represents.count_retrievers rep ref
    rw [flying] at alone
    have one : (world.retrievers.spawn retriever).count (AAICharacter.retrieves ref) = 1 := by
      rw [Pool.count_spawn,if_pos works,alone]
      rfl
    simp [thrownFlight,thrown,by_,one]
  | strand _ object thrower there thrown by_ class_ idle =>
    have runs := staffed.tree
    simp [idle] at runs

theorem fetch_accounting_delivered : ∃ history world,
    ((machine Engine.exact).starting Staffed).Run history world ∧
      Machine.calls history = [.deliver 0,.spawnAI 0,.throw 0,.interaction (.ball 0)] ∧
      1 = 1 + world.retrievers.count (AAICharacter.retrieves 0) + 0 := by
  have start := Machine.Run.start (M := (machine Engine.exact).starting Staffed) _
    ⟨(ballLevel_init 1).1,(ballLevel_init 1).2.toStaffed⟩
  have aimed := Machine.Run.next _ _ (.tick (.tracing (.hitInteractable (.ball 0)))) _ _ start ⟨rfl,rfl⟩
  have picked := Machine.Run.next _ _ .interactButtonPressed _ _ aimed ⟨rfl,rfl⟩
  have thrown := Machine.Run.next _ _ (.throwButtonPressed .zeroVector) _ _ picked ⟨rfl,rfl⟩
  have landed := Machine.Run.next _ _ (.onComponentHit 0 true) _ _ thrown ⟨rfl,rfl⟩
  have reached := Machine.Run.next _ _ (.chaseBall 0 .new 0) _ _ landed ⟨rfl,rfl⟩
  have delivered := Machine.Run.next _ _ (.giveBallToPlayer 0 .new 0) _ _ reached ⟨rfl,rfl⟩
  have law := (fetch_accounting Engine.exact _ _ delivered 0 _ rfl).1
  exact ⟨_,_,delivered,rfl,law⟩

end World

end RetrievingAI
