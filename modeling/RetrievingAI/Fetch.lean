import RetrievingAI.World
import Mathlib.Logic.Function.Basic

/-! The fetch game as it is meant to be played: every ball is in one phase at a time, and a throw is
answered by one retriever that brings the ball back. -/
namespace RetrievingAI

inductive FetchPhase
  | absent
  | resting
  | inHand
  | flying (thrown : Bool)
  | chased (retriever : Nat)
  | carried (retriever : Nat)
  | stranded
  deriving DecidableEq,Repr

namespace FetchPhase

def retriever : FetchPhase → Option Nat
  | chased retriever | carried retriever => some retriever
  | _ => none

def aiState : FetchPhase → EAIState
  | chased _ => .easChaseBall
  | carried _ => .easGiveBallToPlayer
  | _ => .easDefault

def blocked : FetchPhase → Bool
  | absent | resting | inHand => false
  | _ => true

def thrown : FetchPhase → Bool
  | flying _ => true
  | _ => false

def simulating : FetchPhase → Bool
  | inHand | carried _ => false
  | _ => true

def attached : FetchPhase → Option HandSocket
  | inHand => some .player
  | carried retriever => some (.retriever retriever)
  | _ => none

/-- A throw of the ball that no retriever has answered yet. -/
def pending : FetchPhase → Nat
  | flying true => 1
  | _ => 0

def fetching (phase : FetchPhase) : Nat := if phase.retriever.isSome then 1 else 0

end FetchPhase

/-- The calls of the running game that the fetch game makes as well. -/
def GameCall.observed : GameCall → Option GameCall
  | interaction _ => none
  | call => some call

inductive FetchEvent
  | pickUp (ball : Nat)
  | throw (ball : Nat)
  | land (ball : Nat)
  | answer (ball retriever : Nat)
  | strand (ball : Nat)
  | reach (ball : Nat)
  | deliver (ball : Nat)
  | drop (ball : Nat)
  deriving DecidableEq,Repr

namespace FetchEvent

def ball : FetchEvent → Nat
  | pickUp ball | throw ball | land ball | answer ball _ | strand ball | reach ball | deliver ball
  | drop ball => ball

def move : FetchEvent → FetchPhase → Option FetchPhase
  | pickUp _,.resting | pickUp _,.inHand => some .inHand
  | throw _,.inHand => some (.flying true)
  | land _,.flying _ => some .resting
  | answer _ retriever,.flying true => some (.chased retriever)
  | strand _,.flying true => some .stranded
  | reach _,.chased retriever => some (.carried retriever)
  | deliver _,.carried _ => some (.flying false)
  | drop _,.absent => some (.flying false)
  | _,_ => none

def calls : FetchEvent → List GameCall
  | throw ball => [.throw ball]
  | answer ball _ | strand ball => [.spawnAI ball]
  | deliver ball => [.deliver ball]
  | drop ball => [.dropBall ball]
  | pickUp _ | land _ | reach _ => []

/-- A thrown ball that lands is answered by a retriever that can bring it back. -/
def Answered (phases : Nat → FetchPhase) : FetchEvent → Prop
  | land ball => phases ball = .flying false
  | strand _ => False
  | _ => True

end FetchEvent

def fetchGame : Machine (Nat → FetchPhase) FetchEvent GameCall where
  Init phases := ∀ ball, phases ball = .absent ∨ phases ball = .resting
  Step source event calls target := ∃ phase, event.move (source event.ball) = some phase ∧
    target = Function.update source event.ball phase ∧ calls = event.calls

theorem move_accounts (event : FetchEvent) (phases : Nat → FetchPhase) (phase : FetchPhase)
    (moved : event.move (phases event.ball) = some phase) (answered : event.Answered phases) :
    event.calls.count (.spawnAI event.ball) + (phases event.ball).fetching =
      event.calls.count (.deliver event.ball) + phase.fetching ∧
    event.calls.count (.throw event.ball) + (phases event.ball).pending =
      event.calls.count (.spawnAI event.ball) + phase.pending := by
  cases event with
  | strand ball => exact answered.elim
  | land ball =>
    simp only [FetchEvent.Answered,FetchEvent.ball] at answered moved ⊢
    rw [answered] at moved ⊢
    cases Option.some.inj moved
    exact ⟨rfl,rfl⟩
  | pickUp ball | throw ball | answer ball retriever | reach ball | deliver ball | drop ball =>
    simp only [FetchEvent.ball] at moved ⊢
    generalize phases ball = source at moved ⊢
    simp only [FetchEvent.move] at moved
    split at moved <;> simp_all <;> subst phase <;>
      simp [FetchEvent.calls,FetchPhase.fetching,FetchPhase.pending,FetchPhase.retriever]

theorem calls_of_other (event : FetchEvent) (ball : Nat) (other : ball ≠ event.ball) :
    event.calls.count (.spawnAI ball) = 0 ∧ event.calls.count (.deliver ball) = 0 ∧
      event.calls.count (.throw ball) = 0 := by
  have different := Ne.symm other
  cases event <;> simp_all [FetchEvent.calls,FetchEvent.ball]

/-- Conservation of fetches: every throw of a ball has been delivered, is being fetched, or is still
in the air. -/
theorem fetchGame_accounts (history : List (Machine.Moment (Nat → FetchPhase) FetchEvent GameCall))
    (phases : Nat → FetchPhase)
    (run : (fetchGame.guard fun phases event => event.Answered phases).Run history phases)
    (ball : Nat) :
    (Machine.calls history).count (.spawnAI ball) =
      (Machine.calls history).count (.deliver ball) + (phases ball).fetching ∧
    (Machine.calls history).count (.throw ball) =
      (Machine.calls history).count (.spawnAI ball) + (phases ball).pending := by
  induction run with
  | start phases begins =>
    rcases begins ball with absent | resting
    · simp [absent,FetchPhase.fetching,FetchPhase.pending,FetchPhase.retriever]
    · simp [resting,FetchPhase.fetching,FetchPhase.pending,FetchPhase.retriever]
  | next history source event calls target run step ih =>
    obtain ⟨answered,phase,moved,rfl,rfl⟩ := step
    rw [Machine.calls_cons]
    simp only [List.count_append]
    by_cases same : ball = event.ball
    · subst same
      have balance := move_accounts event source phase moved answered
      rw [Function.update_self]
      omega
    · have silent := calls_of_other event ball same
      rw [Function.update_of_ne same]
      omega

end RetrievingAI
